import SwiftStubs.Text.Lines
import Mathlib.Tactic.Common

/-!
# Cutting texts into lines

A text can be cut at line feeds alone or at every kind of line break. Either way, a text made of
rows with line feeds between them is cut row by row (`CutsRows`), and a row without any line break
is one line. What the second cut finds beyond the first are the breaks inside of a row. More
generally, pieces that are joined with a separator are found again by cutting at it
(`splitOn_intercalate`).
-/

namespace SwiftStubs.Text

/-- Characters without a line break among them. -/
def Unbroken (cs : List Char) : Prop :=
  ∀ c ∈ cs, isLineBreak c = false

/-- Decided along the list, since an instance that is searched for may go through all characters. -/
instance (cs : List Char) : Decidable (Unbroken cs) :=
  List.decidableBAll (fun c => isLineBreak c = false) cs

theorem unbroken_append_iff (cs ds : List Char) :
  Unbroken (cs ++ ds) ↔ Unbroken cs ∧ Unbroken ds
  := List.forall_mem_append

/-- The pieces of a list are made of its elements, without those at which it is cut. -/
theorem mem_of_mem_splitOnP {α : Type} {p : α → Bool} {xs : List α} :
  ∀ piece ∈ xs.splitOnP p, ∀ x ∈ piece, x ∈ xs ∧ p x = false
  := by
  induction xs with
  | nil => simp
  | cons y ys ih =>
      have hgrow : ∀ x, x ∈ ys ∧ p x = false → x ∈ y :: ys ∧ p x = false :=
        fun x h => ⟨List.mem_cons_of_mem y h.1, h.2⟩
      obtain ⟨first, more, hpieces⟩ := List.exists_cons_of_ne_nil (List.splitOnP_ne_nil p ys)
      rw [hpieces, List.forall_mem_cons] at ih
      obtain ⟨hfirst, hmore⟩ := ih
      have hmore' : ∀ piece ∈ more, ∀ x ∈ piece, x ∈ y :: ys ∧ p x = false :=
        fun piece hpiece x hx => hgrow x (hmore piece hpiece x hx)
      have hfirst' : ∀ x ∈ first, x ∈ y :: ys ∧ p x = false :=
        fun x hx => hgrow x (hfirst x hx)
      rw [List.splitOnP_cons_eq_if_modifyHead, hpieces]
      cases hy : p y with
      | true =>
          rw [if_pos rfl, List.forall_mem_cons, List.forall_mem_cons]
          exact ⟨List.forall_mem_nil _, hfirst', hmore'⟩
      | false =>
          rw [if_neg Bool.false_ne_true, List.modifyHead_cons, List.forall_mem_cons,
            List.forall_mem_cons]
          exact ⟨⟨⟨List.mem_cons_self, hy⟩, hfirst'⟩, hmore'⟩

/-- Pieces are made of what is cut, without what stands between them. -/
theorem mem_of_mem_splitOn {separator : Char} {cs : List Char} :
  ∀ piece ∈ cs.splitOn separator, ∀ c ∈ piece, c ∈ cs ∧ c ≠ separator
  := by
  intro piece hpiece c hc
  obtain ⟨hmem, hne⟩ := mem_of_mem_splitOnP piece hpiece c hc
  exact ⟨hmem, by simpa using hne⟩

/-- Pieces that are put together with a separator between them, and do not hold it, are found
again by cutting. -/
theorem splitOn_intercalate {joint : String} {separator : Char}
    (hjoint : joint.toList = [separator]) {ts : List String} (hts : ts ≠ [])
    (h : ∀ t ∈ ts, separator ∉ t.toList) :
  (String.intercalate joint ts).toList.splitOn separator = ts.map String.toList
  := by
  rw [String.toList_intercalate, hjoint]
  apply List.splitOn_intercalate
  · rwa [List.forall_mem_map]
  · rwa [ne_eq, List.map_eq_nil_iff]

/-! ### Line breaks -/

attribute [local simp] lineChars

theorem isLineBreak_newline :
  isLineBreak '\n' = true
  := rfl

theorem newline_notMem_of_unbroken {cs : List Char} (h : Unbroken cs) :
  '\n' ∉ cs
  := by
  intro hmem
  have hbreak := h '\n' hmem
  rw [isLineBreak_newline] at hbreak
  cases hbreak

theorem lineChars_cons_of_unbroken {c : Char} (h : isLineBreak c = false) (cs : List Char) :
  lineChars (c :: cs) = consFirst c (lineChars cs)
  := by
  rw [lineChars, h]
  · rfl
  · rintro rest rfl
    cases h

/-- A break ends a line, unless it is a carriage return that belongs to a line feed. -/
theorem lineChars_cons_of_break {c : Char} (h : isLineBreak c = true) {cs : List Char}
    (hcs : c = '\r' → cs.head? ≠ some '\n') :
  lineChars (c :: cs) = [] :: lineChars cs
  := by
  rw [lineChars, h]
  · rfl
  · rintro rest rfl rfl
    apply hcs rfl rfl

theorem consFirst_append {ls : List (List Char)} (h : ls ≠ []) (c : Char)
    (ls' : List (List Char)) :
  consFirst c (ls ++ ls') = consFirst c ls ++ ls'
  := by
  cases ls with
  | nil => contradiction
  | cons l ls => rfl

/-- Only the empty list of characters has no lines. -/
theorem lineChars_ne_nil {cs : List Char} (h : cs ≠ []) :
  lineChars cs ≠ []
  := by
  fun_cases lineChars cs with
  | case1 => contradiction
  | case2 rest => simp
  | case3 c rest _ hc => simp
  | case4 c rest _ hc =>
      cases lineChars rest with
      | nil => simp [consFirst]
      | cons l ls => simp [consFirst]

/-- No line holds a line break. -/
theorem unbroken_lineChars (cs : List Char) :
  ∀ l ∈ lineChars cs, Unbroken l
  := by
  have hnil : Unbroken [] := by
    intro c hc
    cases hc
  fun_induction lineChars cs with
  | case1 =>
      intro l hl
      cases hl
  | case2 rest ih =>
      rw [List.forall_mem_cons]
      exact ⟨hnil, ih⟩
  | case3 c rest _ hc ih =>
      rw [List.forall_mem_cons]
      exact ⟨hnil, ih⟩
  | case4 c rest _ hc ih =>
      have hcons : ∀ l : List Char, Unbroken l → Unbroken (c :: l) := by
        intro l hl
        rw [Unbroken, List.forall_mem_cons]
        exact ⟨by simpa using hc, hl⟩
      cases hrest : lineChars rest with
      | nil =>
          rw [consFirst, List.forall_mem_singleton]
          apply hcons [] hnil
      | cons first more =>
          rw [hrest] at ih
          rw [List.forall_mem_cons] at ih
          obtain ⟨hfirst, hmore⟩ := ih
          rw [consFirst, List.forall_mem_cons]
          exact ⟨hcons first hfirst, hmore⟩

/-! ### Rows -/

/-- Behind a carriage return that does not stand in front of a line feed there can be one only if
nothing else is between them. -/
theorem head?_append_newline {c : Char} {cs : List Char}
    (hcs : ∀ rest, c = '\r' → cs = '\n' :: rest → False) (h : ¬ (c = '\r' ∧ cs = []))
    (tail : List Char) :
  c = '\r' → (cs ++ '\n' :: tail).head? ≠ some '\n'
  := by
  rintro rfl hhead
  cases cs with
  | nil => apply h ⟨rfl, rfl⟩
  | cons d cs =>
      obtain rfl : d = '\n' := Option.some.inj hhead
      apply hcs cs rfl rfl

/-- A line feed ends the lines in front of it, whatever comes behind it. -/
theorem lineChars_append_newline (cs rest : List Char) :
  lineChars (cs ++ '\n' :: rest) = lineChars (cs ++ ['\n']) ++ lineChars rest
  := by
  fun_induction lineChars cs with
  | case1 => rfl
  | case2 cs ih =>
      show [] :: lineChars (cs ++ '\n' :: rest) = [] :: (lineChars (cs ++ ['\n']) ++ lineChars rest)
      rw [ih]
  | case3 c cs hcs hc ih =>
      by_cases hreturn : c = '\r' ∧ cs = []
      · obtain ⟨rfl, rfl⟩ := hreturn
        rfl
      · have hhead := head?_append_newline hcs hreturn
        rw [List.cons_append, List.cons_append, lineChars_cons_of_break hc (hhead rest),
          lineChars_cons_of_break hc (hhead []), ih, List.cons_append]
  | case4 c cs _ hc ih =>
      have hc : isLineBreak c = false := by simpa using hc
      rw [List.cons_append, List.cons_append, lineChars_cons_of_unbroken hc,
        lineChars_cons_of_unbroken hc, ih, consFirst_append]
      apply lineChars_ne_nil
      simp

/-- A line feed at the end opens an empty line at most. -/
theorem lineChars_newline_eq (cs : List Char) :
  lineChars (cs ++ ['\n']) = lineChars cs ∨ lineChars (cs ++ ['\n']) = lineChars cs ++ [[]]
  := by
  fun_induction lineChars cs with
  | case1 => exact .inr rfl
  | case2 cs ih =>
      show [] :: lineChars (cs ++ ['\n']) = [] :: lineChars cs
        ∨ [] :: lineChars (cs ++ ['\n']) = [] :: (lineChars cs ++ [[]])
      simpa using ih
  | case3 c cs hcs hc ih =>
      by_cases hreturn : c = '\r' ∧ cs = []
      · obtain ⟨rfl, rfl⟩ := hreturn
        exact .inl rfl
      · rw [List.cons_append, lineChars_cons_of_break hc (head?_append_newline hcs hreturn [])]
        simpa using ih
  | case4 c cs _ hc ih =>
      have hc : isLineBreak c = false := by simpa using hc
      rw [List.cons_append, lineChars_cons_of_unbroken hc]
      cases cs with
      | nil => exact .inl rfl
      | cons d cs =>
          obtain ih | ih := ih
          · exact .inl (congrArg (consFirst c) ih)
          · right
            rw [ih, consFirst_append]
            apply lineChars_ne_nil
            simp

theorem lineChars_of_unbroken {cs : List Char} (h : Unbroken cs) :
  lineChars (cs ++ ['\n']) = [cs]
  := by
  induction cs with
  | nil => rfl
  | cons c cs ih =>
      obtain ⟨hc, hcs⟩ := List.forall_mem_cons.mp h
      rw [List.cons_append, lineChars_cons_of_unbroken hc, ih hcs]
      rfl

/-- A cut of texts into lines that goes row by row, and leaves a row without line breaks as it
is. -/
structure CutsRows (cut row : List Char → List (List Char)) : Prop where
  append : ∀ cs rest, cut (cs ++ '\n' :: rest) = row cs ++ cut rest
  unbroken : ∀ cs, Unbroken cs → row cs = [cs]

theorem cutsRows_lineChars :
  CutsRows lineChars (fun cs => lineChars (cs ++ ['\n']))
  := ⟨lineChars_append_newline, fun _ => lineChars_of_unbroken⟩

theorem cutsRows_splitOn :
  CutsRows (List.splitOn '\n') (List.splitOn '\n')
  := by
  constructor
  · apply List.splitOn_append_cons_self
  · intro cs h
    apply List.splitOn_eq_singleton
    apply newline_notMem_of_unbroken h

/-- The first of several rows is cut off. -/
theorem CutsRows.cons {cut row : List Char → List (List Char)} (h : CutsRows cut row)
    (cs : List Char) {rows : List (List Char)} (hrows : rows ≠ []) :
  cut (['\n'].intercalate (cs :: rows)) = row cs ++ cut (['\n'].intercalate rows)
  := by
  cases rows with
  | nil => contradiction
  | cons r rows =>
      rw [List.intercalate_cons_cons, List.append_assoc, List.singleton_append, h.append]

/-- All rows but the last are cut one by one. -/
theorem CutsRows.concat {cut row : List Char → List (List Char)} (h : CutsRows cut row)
    (rows : List (List Char)) (last : List Char) :
  cut (['\n'].intercalate (rows ++ [last])) = rows.flatMap row ++ cut last
  := by
  induction rows with
  | nil => simp
  | cons cs rows ih =>
      rw [List.cons_append, h.cons, ih, List.flatMap_cons, List.append_assoc]
      simp

end SwiftStubs.Text
