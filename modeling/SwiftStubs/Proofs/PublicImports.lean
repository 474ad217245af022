import SwiftStubs.Proofs.Acceptance
import SwiftStubs.Schema.Modules

/-!
# Public imports

The walk over public imports takes each known file out of the known ones when it comes to it, so
that it ends. What it sees has nothing to do with this: `Seen` follows public imports from file to
file among all known files. The walk succeeds if no file that is seen has a public import that
points outside of its list of imports (`exists_reach_eq_ok_iff`).
-/

namespace SwiftStubs.Schema

/-! ### Seen files -/

/-- Every public import of a file points into its list of imports. -/
def File.ImportsInRange (f : File) : Prop :=
  ∀ i ∈ f.publicImports, ∃ name, entryAt f.imports i = some name

/-- The names that are seen from some names on: these names, and with the name of a known file the
names that the file imports publicly. -/
inductive Seen (known : RawText → Option File) (start : List RawText) : RawText → Prop where
  | start {name : RawText} :
      name ∈ start → Seen known start name
  | next {name other : RawText} {f : File} {i : Int} :
      Seen known start name → known name = some f → i ∈ f.publicImports →
      entryAt f.imports i = some other → Seen known start other

theorem Seen.mono {known : RawText → Option File} {start start' : List RawText} {name : RawText}
    (h : Seen known start name) (hstart : start ⊆ start') :
  Seen known start' name
  := by
  induction h with
  | start hname => exact .start (hstart hname)
  | next _ hf hi hother ih => exact .next ih hf hi hother

/-! ### One step of the walk -/

theorem File.exists_publicNames_eq_ok_iff (f : File) :
  (∃ names, f.publicNames = .ok names) ↔ f.ImportsInRange
  := by
  rw [File.publicNames, exists_mapM_eq_ok_iff]
  apply forall₂_congr
  intro i _
  cases entryAt f.imports i with
  | none => simp
  | some name => simp

/-- The names that a file imports publicly are those that its public imports point to. -/
theorem File.mem_publicNames {f : File} {names : List RawText} (h : f.publicNames = .ok names)
    (name : RawText) :
  name ∈ names ↔ ∃ i ∈ f.publicImports, entryAt f.imports i = some name
  := by
  rw [mem_of_mapM_eq_ok h]
  apply exists_congr
  intro i
  cases entryAt f.imports i with
  | none => simp
  | some other => simp

/-- Taking out a name leaves the files with other names. -/
theorem lookup_without {k l : RawText} {β : Type} (h : l ≠ k) (es : List (RawText × β)) :
  (without k es).lookup l = es.lookup l
  := by
  induction es with
  | nil => rfl
  | cons e es ih =>
      obtain ⟨m, v⟩ := e
      by_cases hm : m = k
      · have hl : (l == m) = false := by
          rw [hm]
          simpa using h
        rw [without, List.filter_cons_of_neg (by simpa using hm), List.lookup_cons, hl]
        exact ih
      · rw [without, List.filter_cons_of_pos (by simpa using hm), List.lookup_cons,
          List.lookup_cons]
        cases l == m with
        | true => rfl
        | false => exact ih

theorem lookup_without_self {k : RawText} {β : Type} (es : List (RawText × β)) :
  (without k es).lookup k = none
  := by
  rw [List.lookup_eq_none_iff]
  intro e he
  obtain ⟨-, hk⟩ := List.mem_filter.mp he
  rw [bne_comm]
  exact hk

section Step

variable {known : List (RawText × File)} {pending : List RawText} {name : RawText}

/-- From the name of a file that is not known, nothing else is seen. -/
theorem seen_cons_of_unknown (h : known.lookup name = none) (other : RawText) :
  Seen (known.lookup ·) (name :: pending) other
    ↔ other = name ∨ Seen (known.lookup ·) pending other
  := by
  constructor
  · intro hseen
    induction hseen with
    | start hother =>
        obtain rfl | hother := List.mem_cons.mp hother
        · exact .inl rfl
        · exact .inr (.start hother)
    | next _ hf hi hother ih =>
        obtain rfl | ih := ih
        · rw [h] at hf
          cases hf
        · exact .inr (.next ih hf hi hother)
  · rintro (rfl | hseen)
    · exact .start List.mem_cons_self
    · apply hseen.mono
      apply List.subset_cons_self

/-- Following a known file at once and taking it out changes nothing about what is seen. -/
theorem seen_cons_of_known {f : File} {names : List RawText} (h : known.lookup name = some f)
    (hnames : f.publicNames = .ok names) (other : RawText) :
  Seen (known.lookup ·) (name :: pending) other
    ↔ other = name ∨ Seen ((without name known).lookup ·) (names ++ pending) other
  := by
  constructor
  · intro hseen
    induction hseen with
    | start hother =>
        obtain rfl | hother := List.mem_cons.mp hother
        · exact .inl rfl
        · exact .inr (.start (List.mem_append_right names hother))
    | @next parent other g i _ hg hi hother ih =>
        right
        by_cases hparent : parent = name
        · rw [hparent, h] at hg
          cases hg
          apply Seen.start
          apply List.mem_append_left
          exact (File.mem_publicNames hnames other).mpr ⟨i, hi, hother⟩
        · obtain rfl | ih := ih
          · cases hparent rfl
          · apply ih.next _ hi hother
            rw [lookup_without hparent, hg]
  · rintro (rfl | hseen)
    · exact .start List.mem_cons_self
    · induction hseen with
      | start hother =>
          obtain hother | hother := List.mem_append.mp hother
          · obtain ⟨i, hi, hother⟩ := (File.mem_publicNames hnames _).mp hother
            exact .next (.start List.mem_cons_self) h hi hother
          · exact .start (List.mem_cons_of_mem name hother)
      | @next parent other g i _ hg hi hother ih =>
          apply ih.next _ hi hother
          have hparent : parent ≠ name := by
            rintro rfl
            rw [lookup_without_self] at hg
            cases hg
          rw [← hg, lookup_without hparent]

end Step

/-! ### The walk -/

/-- The walk succeeds if no file that is seen has a public import that is out of range. -/
theorem exists_reach_eq_ok_iff (known : List (RawText × File)) (pending : List RawText) :
  (∃ names, reach known pending = .ok names)
    ↔ ∀ name f, Seen (known.lookup ·) pending name → known.lookup name = some f → f.ImportsInRange
  := by
  fun_induction reach known pending with
  | case1 known =>
      simp only [Except.ok.injEq, exists_eq', true_iff]
      intro name f hseen hf
      exfalso
      clear hf
      induction hseen with
      | start hname => cases hname
      | next _ _ _ _ ih => exact ih
  | case2 known name pending h ih =>
      have hwalk : (∃ names, (do let names ← reach known pending; Except.ok (name :: names))
          = Except.ok (ε := Breakdown) names) ↔ ∃ names, reach known pending = .ok names := by
        simp [bind_eq_ok_iff]
      rw [hwalk, ih]
      constructor
      · intro hrange other f hseen hf
        obtain rfl | hseen := (seen_cons_of_unknown h other).mp hseen
        · rw [h] at hf
          cases hf
        · exact hrange other f hseen hf
      · intro hrange other f hseen hf
        exact hrange other f ((seen_cons_of_unknown h other).mpr (.inr hseen)) hf
  | case3 known name pending f h ih =>
      simp only [bind_eq_ok_iff, Except.ok.injEq]
      constructor
      · rintro ⟨_, next, hnext, names, hnames, -⟩ other g hseen hg
        by_cases hother : other = name
        · rw [hother, h] at hg
          cases hg
          exact f.exists_publicNames_eq_ok_iff.mp ⟨next, hnext⟩
        · obtain rfl | hseen := (seen_cons_of_known h hnext other).mp hseen
          · cases hother rfl
          · rw [← lookup_without hother] at hg
            exact (ih next).mp ⟨names, hnames⟩ other g hseen hg
      · intro hrange
        obtain ⟨next, hnext⟩ :=
          f.exists_publicNames_eq_ok_iff.mpr (hrange name f (.start List.mem_cons_self) h)
        have hrest : ∃ names, reach (without name known) (next ++ pending) = .ok names := by
          rw [ih next]
          intro other g hseen hg
          apply hrange other g ((seen_cons_of_known h hnext other).mpr (.inr hseen))
          rw [← hg, lookup_without]
          rintro rfl
          rw [lookup_without_self] at hg
          cases hg
        obtain ⟨names, hnames⟩ := hrest
        exact ⟨_, next, hnext, names, hnames, rfl⟩

end SwiftStubs.Schema
