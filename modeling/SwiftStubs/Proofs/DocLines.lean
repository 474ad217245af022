import SwiftStubs.Proofs.Lines
import SwiftStubs.Proofs.SourceText

/-!
# Lines of documentation

Documentation is written above what it documents, in lines of its own that start with three slashes.
Lines to which documentation is added (`Documented`) fit on a page exactly when they did before, and
what is left of their text without the lines of documentation is the same, no matter at which line
breaks the text is cut.
-/

namespace SwiftStubs

open Swift Text

/-! ### Documented lines -/

namespace Swift

/-- A text that is one line of documentation. -/
def IsDoc (t : String) : Prop :=
  Unbroken t.toList ∧ "///".toList <+: t.toList

/-- The second lines are the first with documentation added, every line of it as deep as the line
below it. -/
inductive Documented : List DeepLine → List DeepLine → Prop
  | nil : Documented [] []
  | keep (l : DeepLine) {ls ls' : List DeepLine} (h : Documented ls ls') :
    Documented (l :: ls) (l :: ls')
  | insert {t : String} (ht : IsDoc t) {depth : Nat} {u : String} {ls ls' : List DeepLine}
    (h : Documented ls ((depth, u) :: ls')) : Documented ls ((depth, t) :: (depth, u) :: ls')

namespace Documented

theorem refl (ls : List DeepLine) :
  Documented ls ls
  := by
  induction ls with
  | nil => exact nil
  | cons l ls ih => exact keep l ih

theorem append {ls ls' ms ms' : List DeepLine} (h : Documented ls ls') (hms : Documented ms ms') :
  Documented (ls ++ ms) (ls' ++ ms')
  := by
  induction h with
  | nil => exact hms
  | keep l _ ih => exact keep l ih
  | insert ht _ ih => exact insert ht ih

theorem deeper {ls ls' : List DeepLine} (h : Documented ls ls') :
  Documented (deeper ls) (Swift.deeper ls')
  := by
  induction h with
  | nil => exact nil
  | keep l _ ih => exact keep _ ih
  | insert ht _ ih => exact insert ht ih

/-- Documentation can be put above a line. -/
theorem under {ts : List String} (hts : ∀ t ∈ ts, IsDoc t) {u : String} {ls ls' : List DeepLine}
    (h : Documented ls ((0, u) :: ls')) :
  Documented ls (level ts ++ (0, u) :: ls')
  := by
  induction ts with
  | nil => exact h
  | cons t ts ih =>
      rw [List.forall_mem_cons] at hts
      have hbelow := ih hts.2
      cases ts with
      | nil => exact insert hts.1 hbelow
      | cons t' ts => exact insert hts.1 hbelow

theorem eq_nil_iff {ls ls' : List DeepLine} (h : Documented ls ls') :
  ls' = [] ↔ ls = []
  := by
  induction h with
  | nil => rfl
  | keep l _ _ => simp
  | insert ht _ ih => simpa using ih

/-- What is looked for by depth is found as before. -/
theorem findSome?_eq {α : Type} (f : Nat → Option α) {ls ls' : List DeepLine}
    (h : Documented ls ls') :
  ls'.findSome? (fun l => f l.1) = ls.findSome? (fun l => f l.1)
  := by
  induction h with
  | nil => rfl
  | keep l _ ih => rw [List.findSome?_cons, List.findSome?_cons, ih]
  | @insert _ _ depth _ _ _ _ ih =>
      rw [← ih, List.findSome?_cons, List.findSome?_cons]
      cases f depth with
      | none => rfl
      | some a => rfl

end Documented

/-! ### Code -/

/-- Whether a line is one of documentation: behind spaces there are three slashes. -/
def isDocLine (cs : List Char) : Bool :=
  "///".toList.isPrefixOf (cs.dropWhile (· == ' '))

theorem DeepLine.toList_text (width : Int) (l : DeepLine) :
  (DeepLine.text width l).toList
    = List.replicate (width * l.1).toNat ' ' ++ l.2.toList
  := by
  simp [DeepLine.text, Line.written]

theorem IsDoc.isDocLine {t : String} (h : IsDoc t) (width : Int) (depth : Nat) :
  isDocLine (DeepLine.text width (depth, t)).toList = true
  := by
  obtain ⟨-, cs, hcs⟩ := h
  rw [DeepLine.toList_text, Swift.isDocLine, List.dropWhile_append_of_pos, ← hcs]
  · rfl
  · simp

theorem IsDoc.unbroken {t : String} (h : IsDoc t) (width : Int) (depth : Nat) :
  Unbroken (DeepLine.text width (depth, t)).toList
  := by
  rw [DeepLine.toList_text, unbroken_append_iff]
  refine ⟨?_, h.1⟩
  intro c hc
  rw [List.eq_of_mem_replicate hc]
  rfl

/-- The lines of a text that are not documentation, for a way to cut texts. -/
def codeLines (cut : String → List String) (s : String) : List String :=
  (cut s).filter (fun l => !isDocLine l.toList)

/-- Two texts that are the same without their documentation, whether lines end at every kind of line
break or at line feeds only. -/
def SameCode (s t : String) : Prop :=
  codeLines Text.lines s = codeLines Text.lines t
    ∧ codeLines (Text.pieces '\n') s = codeLines (Text.pieces '\n') t

/-- Row by row, the same code is cut from lines with and without documentation. -/
theorem Documented.filter_cut {cut row : List Char → List (List Char)} (hcut : CutsRows cut row)
    (width : Int) {ls ls' : List DeepLine} (h : Documented ls ls') :
  (cut (['\n'].intercalate (ls'.map (fun l => (DeepLine.text width l).toList)))).filter
      (fun cs => !isDocLine cs)
    = (cut (['\n'].intercalate (ls.map (fun l => (DeepLine.text width l).toList)))).filter
      (fun cs => !isDocLine cs)
  := by
  induction h with
  | nil => rfl
  | @keep l ls ls' hls ih =>
      by_cases hempty : ls = []
      · rw [hls.eq_nil_iff.mpr hempty, hempty]
      · have hne : ls' ≠ [] := fun heq => hempty (hls.eq_nil_iff.mp heq)
        rw [List.map_cons, List.map_cons, hcut.cons _ (by simpa using hne),
          hcut.cons _ (by simpa using hempty), List.filter_append, List.filter_append, ih]
  | @insert t ht depth u ls ls' _ ih =>
      rw [List.map_cons, hcut.cons _ (by simp), hcut.unbroken _ (ht.unbroken width depth),
        List.filter_append, ih, List.filter_cons_of_neg, List.filter_nil, List.nil_append]
      simp [ht.isDocLine width depth]

theorem Documented.sameCode (width : Int) {ls ls' : List DeepLine} (h : Documented ls ls') :
  SameCode (String.intercalate "\n" (ls.map (DeepLine.text width)))
    (String.intercalate "\n" (ls'.map (DeepLine.text width)))
  := by
  have hchars : ∀ ms : List DeepLine,
      (String.intercalate "\n" (ms.map (DeepLine.text width))).toList
        = ['\n'].intercalate (ms.map (fun l => (DeepLine.text width l).toList)) := by
    intro ms
    rw [String.toList_intercalate, List.map_map]
    rfl
  have hcode : ∀ (cut : List Char → List (List Char)) (ms : List DeepLine),
      codeLines (fun s => (cut s.toList).map String.ofList)
          (String.intercalate "\n" (ms.map (DeepLine.text width)))
        = ((cut (['\n'].intercalate (ms.map (fun l => (DeepLine.text width l).toList)))).filter
          (fun cs => !isDocLine cs)).map String.ofList := by
    intro cut ms
    rw [codeLines, hchars, List.filter_map]
    simp only [Function.comp_def, String.toList_ofList]
  constructor
  · apply (hcode lineChars ls).trans
    rw [← h.filter_cut cutsRows_lineChars width]
    exact (hcode lineChars ls').symm
  · apply (hcode (List.splitOn '\n') ls).trans
    rw [← h.filter_cut cutsRows_splitOn width]
    exact (hcode (List.splitOn '\n') ls').symm

/-! ### Documented layouts -/

theorem Layout.lines_under (l : Layout) (ts : List String) :
  (l.under ts).lines = level ts ++ l.lines
  := by
  cases ts with
  | nil => rfl
  | cons t ts => rfl

/-- Every text of a comment for documentation is one line of it. -/
theorem isDoc_texts (text : String) :
  ∀ t ∈ (Comment.mk .doc text).texts, IsDoc t
  := by
  intro t ht
  obtain ⟨l, hl, rfl⟩ := List.mem_map.mp ht
  obtain ⟨cs, hcs, rfl⟩ := List.mem_map.mp hl
  have hline : Unbroken (String.ofList cs).toList := by
    rw [String.toList_ofList]
    exact unbroken_lineChars text.toList cs hcs
  split
  · exact ⟨by decide, by decide⟩
  · constructor
    · rw [String.toList_append, unbroken_append_iff]
      exact ⟨by decide, hline⟩
    · rw [String.toList_append]
      apply List.IsPrefix.trans _ (List.prefix_append _ _)
      decide

/-- The second declaration is the first with documentation added. -/
def Declaration.Adorned (d d' : Declaration) : Prop :=
  Documented d.layout.lines d'.layout.lines

namespace Declaration.Adorned

theorem refl (d : Declaration) :
  d.Adorned d
  := Documented.refl _

theorem documented {d d' : Declaration} (h : d.Adorned d') (text : String) :
  d.Adorned (d'.documented text)
  := by
  rw [Declaration.documented]
  split
  · exact h
  · rw [Adorned, Declaration.layout, Layout.lines_under]
    apply Documented.under (isDoc_texts text)
    exact h

theorem available {d d' : Declaration} (h : d.Adorned d') (a : Option Availability) :
  (d.available a).Adorned (d'.available a)
  := by
  cases a with
  | none => exact h
  | some a => exact .keep _ h

end Declaration.Adorned

theorem isEmpty_eq_of_forall₂ {α : Type} {R : α → α → Prop} {xs ys : List α}
    (h : List.Forall₂ R xs ys) :
  xs.isEmpty = ys.isEmpty
  := by
  cases h with
  | nil => rfl
  | cons _ _ => rfl

theorem documented_memberLines (apart : Bool) {ds ds' : List Declaration}
    (h : List.Forall₂ Declaration.Adorned ds ds') :
  Documented (memberLines apart ds) (memberLines apart ds')
  := by
  induction h with
  | nil => exact .nil
  | cons hd hds ih =>
      rw [memberLines, memberLines, isEmpty_eq_of_forall₂ hds]
      exact (hd.append (.refl _)).append ih

theorem documented_bracedLayout (heading : String) {ls ls' : List DeepLine}
    (h : Documented ls ls') :
  Documented (bracedLayout heading ls).lines (bracedLayout heading ls').lines
  := .keep _ (h.deeper.append (.refl _))

theorem adorned_protocol (access : Option AccessModifier) (name : String)
    (conformances : List String) {ds ds' : List Declaration}
    (h : List.Forall₂ Declaration.Adorned ds ds') :
  (Declaration.protocol access name conformances ds).Adorned
    (.protocol access name conformances ds')
  := by
  rw [Declaration.Adorned, Declaration.layout, Declaration.layout, isEmpty_eq_of_forall₂ h]
  cases ds'.isEmpty with
  | true => exact .refl _
  | false => exact documented_bracedLayout _ (documented_memberLines false h)

theorem adorned_struct (access : Option AccessModifier) (name : String)
    (conformances : List String) {ds ds' : List Declaration}
    (h : List.Forall₂ Declaration.Adorned ds ds') :
  (Declaration.struct access name conformances ds).Adorned (.struct access name conformances ds')
  := by
  rw [Declaration.Adorned, Declaration.layout, Declaration.layout, isEmpty_eq_of_forall₂ h]
  cases ds'.isEmpty with
  | true => exact .refl _
  | false => exact documented_bracedLayout _ (documented_memberLines true h)

/-- Blocks to which documentation is added have documented lines. -/
theorem documented_spacedLines {bs bs' : List Block}
    (h : List.Forall₂ (fun b b' => Documented b.layout.lines b'.layout.lines) bs bs') :
  Documented (spacedLines bs) (spacedLines bs')
  := by
  induction h with
  | nil => exact .nil
  | cons hb hbs ih =>
      rw [spacedLines, spacedLines, isEmpty_eq_of_forall₂ hbs]
      exact (hb.append (.refl _)).append ih

end Swift

end SwiftStubs
