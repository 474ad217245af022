import SwiftStubs.Proofs.PluginRequirements
import Mathlib.Data.List.Sort
import Mathlib.Data.String.Basic

/-!
# Needed modules

The walk over public imports finds the names that are seen, whatever circles the imports make
(`mem_reach_iff`). The modules that a file needs are those of the seen names, in order. They depend
on which files are imported, and not on how the imports are listed: `File.PublishesAlike` relates
two versions of a file that make the same names public, in any order and any number of times.
-/

namespace SwiftStubs.Schema

/-! ### What is seen -/

/-- A file imports the file with a name publicly. -/
def File.Publishes (f : File) (name : RawText) : Prop :=
  ∃ i ∈ f.publicImports, entryAt f.imports i = some name

/-- From nothing on nothing is seen. -/
theorem not_seen_nil (known : RawText → Option File) (name : RawText) :
  ¬ Seen known [] name
  := by
  intro h
  induction h with
  | start hname => cases hname
  | next _ _ _ _ ih => exact ih

/-- What is seen among some files is seen among others that make at least the same names public. -/
theorem Seen.transfer {known known' : RawText → Option File} {start start' : List RawText}
    (hstart : start ⊆ start')
    (hknown : ∀ name f, known name = some f →
      ∃ f', known' name = some f' ∧ ∀ other, f.Publishes other → f'.Publishes other)
    {name : RawText} (h : Seen known start name) :
  Seen known' start' name
  := by
  induction h with
  | start hname => exact .start (hstart hname)
  | @next parent other f i _ hf hi hother ih =>
      obtain ⟨f', hf', hpublishes⟩ := hknown parent f hf
      obtain ⟨j, hj, hj'⟩ := hpublishes other ⟨i, hi, hother⟩
      exact .next ih hf' hj hj'

/-! ### The walk -/

/-- The walk finds the names that are seen. -/
theorem mem_reach_iff {known : List (RawText × File)} {pending names : List RawText}
    (h : reach known pending = .ok names) (name : RawText) :
  name ∈ names ↔ Seen (known.lookup ·) pending name
  := by
  fun_induction reach known pending generalizing names with
  | case1 known =>
      cases h
      simp only [List.not_mem_nil, false_iff]
      apply not_seen_nil
  | case2 known first pending hfirst ih =>
      obtain ⟨rest, hrest, ⟨⟩⟩ := bind_eq_ok_iff.mp h
      rw [List.mem_cons, ih hrest, seen_cons_of_unknown hfirst]
  | case3 known first pending f hfirst ih =>
      obtain ⟨next, hnext, h⟩ := bind_eq_ok_iff.mp h
      obtain ⟨rest, hrest, ⟨⟩⟩ := bind_eq_ok_iff.mp h
      rw [List.mem_cons, ih next hrest, seen_cons_of_known hfirst hnext]

/-! ### Sorted lists -/

/-- In a sorted list without its repetitions every element is less than those behind it. -/
theorem pairwise_lt_eraseDups :
    ∀ {ms : List String}, ms.Pairwise (· ≤ ·) → ms.eraseDups.Pairwise (· < ·)
  | [], _ => List.Pairwise.nil
  | m :: ms, h => by
      obtain ⟨hm, hms⟩ := List.pairwise_cons.mp h
      rw [List.eraseDups_cons, List.pairwise_cons]
      constructor
      · intro other hother
        obtain ⟨hother, hne⟩ := List.mem_filter.mp (List.mem_eraseDups.mp hother)
        apply lt_of_le_of_ne (hm other hother)
        rintro rfl
        simp at hne
      · apply pairwise_lt_eraseDups (hms.filter _)
termination_by ms => ms.length
decreasing_by exact Nat.lt_succ_of_le (List.length_filter_le _ _)

/-! ### The modules of a file -/

/-- A module that a file needs: the module of a name that is seen from the imports of the file on,
unless it is the module of the file itself. -/
def Needs (modules : ModuleMap) (known : RawText → Option File) (f : File) (m : String) : Prop :=
  moduleOf modules f.name ≠ some m
    ∧ ∃ name, Seen known f.imports name ∧ moduleOf modules name = some m

/-- The modules that are found are the needed ones, in order. -/
theorem neededModules_spec {modules : ModuleMap} {known : Dictionary RawText File} {f : File}
    {ms : List String} (h : neededModules modules known f = .ok ms) :
  ms.Pairwise (· < ·) ∧ ∀ m, m ∈ ms ↔ Needs modules known.get? f m
  := by
  obtain ⟨names, hnames, ⟨⟩⟩ := bind_eq_ok_iff.mp h
  constructor
  · exact pairwise_lt_eraseDups (List.pairwise_mergeSort' (· ≤ ·) _)
  · intro m
    have hseen : ∀ name, name ∈ names ↔ Seen known.get? f.imports name := mem_reach_iff hnames
    rw [List.mem_eraseDups, List.mem_mergeSort, List.mem_filter, List.mem_filterMap, bne_iff_ne,
      Needs, and_comm, ne_comm]
    simp only [hseen]

/-- No module is found if a public import that is seen points outside of its list of imports. -/
theorem neededModules_eq_error_iff (modules : ModuleMap) (known : Dictionary RawText File)
    (f : File) (b : Breakdown) :
  neededModules modules known f = .error b
    ↔ b = .importIndex ∧ ∃ name g, Seen known.get? f.imports name ∧ known.get? name = some g
      ∧ ¬ g.ImportsInRange
  := by
  have hreach : (∃ names, reach known.entries f.imports = .ok names)
      ↔ ∀ name g, Seen known.get? f.imports name → known.get? name = some g → g.ImportsInRange :=
    exists_reach_eq_ok_iff known.entries f.imports
  have hfails : (∃ name g, Seen known.get? f.imports name ∧ known.get? name = some g
        ∧ ¬ g.ImportsInRange)
      ↔ ¬ ∃ names, reach known.entries f.imports = .ok names := by
    rw [hreach]
    push Not
    rfl
  rw [hfails, neededModules, bind_eq_error_iff]
  cases hwalk : reach known.entries f.imports with
  | ok names => simp
  | error e =>
      have he := eq_importIndex_of_reach hwalk
      simp [he, eq_comm]

/-! ### Listed otherwise -/

/-- Two versions of a file that make the same names public, or both have a public import that points
outside of the list of imports. -/
structure File.PublishesAlike (f g : File) : Prop where
  publishes : ∀ name, f.Publishes name ↔ g.Publishes name
  range : f.ImportsInRange ↔ g.ImportsInRange

theorem File.PublishesAlike.refl (f : File) :
  f.PublishesAlike f
  := ⟨fun _ => Iff.rfl, Iff.rfl⟩

theorem File.PublishesAlike.symm {f g : File} (h : f.PublishesAlike g) :
  g.PublishesAlike f
  := ⟨fun name => (h.publishes name).symm, h.range.symm⟩

/-- Known files, and other versions of them under the same names. -/
def KnownAlike (known known' : RawText → Option File) : Prop :=
  ∀ name, Option.Rel File.PublishesAlike (known name) (known' name)

namespace KnownAlike

variable {known known' : RawText → Option File}

theorem refl (known : RawText → Option File) :
  KnownAlike known known
  := by
  intro name
  cases known name with
  | none => exact .none
  | some f => exact .some (.refl f)

theorem symm (h : KnownAlike known known') :
  KnownAlike known' known
  := by
  intro name
  have hname := h name
  generalize known name = version, known' name = version' at hname
  cases hname with
  | none => exact .none
  | some halike => exact .some halike.symm

/-- A known file has another version. -/
theorem exists_version (h : KnownAlike known known') {name : RawText} {f : File}
    (hf : known name = some f) :
  ∃ f', known' name = some f' ∧ f.PublishesAlike f'
  := by
  have hname := h name
  rw [hf] at hname
  generalize known' name = version at hname
  cases hname with
  | some halike => exact ⟨_, rfl, halike⟩

/-- From the other versions on the same names are seen. -/
theorem seen (h : KnownAlike known known') {start start' : List RawText} (hstart : start ⊆ start')
    {name : RawText} (hseen : Seen known start name) :
  Seen known' start' name
  := by
  apply hseen.transfer hstart
  intro other f hf
  obtain ⟨f', hf', halike⟩ := h.exists_version hf
  exact ⟨f', hf', fun name => (halike.publishes name).mp⟩

/-- Among the other versions no public import that is seen becomes right. -/
theorem outOfRange (h : KnownAlike known known') {start start' : List RawText}
    (hstart : start ⊆ start')
    (hout : ∃ name f, Seen known start name ∧ known name = some f ∧ ¬ f.ImportsInRange) :
  ∃ name f, Seen known' start' name ∧ known' name = some f ∧ ¬ f.ImportsInRange
  := by
  obtain ⟨name, f, hseen, hf, hrange⟩ := hout
  obtain ⟨f', hf', halike⟩ := h.exists_version hf
  exact ⟨name, f', h.seen hstart hseen, hf', fun h' => hrange (halike.range.mpr h')⟩

end KnownAlike

/-- The modules that a file needs do not depend on how imports are listed. -/
theorem neededModules_congr {modules : ModuleMap} {known known' : Dictionary RawText File}
    {f f' : File} (hknown : KnownAlike known.get? known'.get?) (hname : f.name = f'.name)
    (himports : ∀ name, name ∈ f.imports ↔ name ∈ f'.imports) :
  neededModules modules known f = neededModules modules known' f'
  := by
  have hforth : f.imports ⊆ f'.imports := fun name h => (himports name).mp h
  have hback : f'.imports ⊆ f.imports := fun name h => (himports name).mpr h
  cases hneeded : neededModules modules known f with
  | error b =>
      obtain ⟨rfl, hout⟩ := (neededModules_eq_error_iff modules known f b).mp hneeded
      symm
      apply (neededModules_eq_error_iff modules known' f' _).mpr
      exact ⟨rfl, hknown.outOfRange hforth hout⟩
  | ok ms =>
      cases hneeded' : neededModules modules known' f' with
      | error b =>
          obtain ⟨rfl, hout⟩ := (neededModules_eq_error_iff modules known' f' b).mp hneeded'
          have hout' := (neededModules_eq_error_iff modules known f _).mpr
            ⟨rfl, hknown.symm.outOfRange hback hout⟩
          rw [hneeded] at hout'
          cases hout'
      | ok ms' =>
          obtain ⟨hsorted, hmem⟩ := neededModules_spec hneeded
          obtain ⟨hsorted', hmem'⟩ := neededModules_spec hneeded'
          congr 1
          apply hsorted.eq_of_mem_iff hsorted'
          intro m
          rw [hmem, hmem', Needs, Needs, hname]
          apply and_congr_right
          intro _
          apply exists_congr
          intro name
          apply and_congr_left
          intro _
          exact ⟨hknown.seen hforth, hknown.symm.seen hback⟩

/-! ### Exactly the needed modules -/

/-- The walk fails if and only if a known file that is seen has a public import that points outside
of its list of imports. Otherwise there are the needed modules, each once and in order. They stay
the same if the imports of the file and the public imports of known files are listed otherwise. -/
theorem needed_modules_exact (modules : ModuleMap) (known : Dictionary RawText File) (f : File) :
  (neededModules modules known f = .error .importIndex
      ↔ ∃ name g, Seen known.get? f.imports name ∧ known.get? name = some g
        ∧ ∃ i ∈ g.publicImports, entryAt g.imports i = none)
    ∧ (neededModules modules known f ≠ .error .importIndex →
      ∃ ms, neededModules modules known f = .ok ms
        ∧ ms.Pairwise (· < ·) ∧ ∀ m, m ∈ ms ↔ Needs modules known.get? f m)
    ∧ ∀ (known' : Dictionary RawText File) (f' : File), KnownAlike known.get? known'.get? →
      f.name = f'.name → (∀ name, name ∈ f.imports ↔ name ∈ f'.imports) →
      neededModules modules known f = neededModules modules known' f'
  := by
  refine ⟨?_, ?_, ?_⟩
  · rw [neededModules_eq_error_iff]
    simp only [File.ImportsInRange, true_and]
    push Not
    simp only [← Option.eq_none_iff_forall_ne_some]
  · intro hrange
    cases hneeded : neededModules modules known f with
    | error b =>
        obtain ⟨rfl, -⟩ := (neededModules_eq_error_iff modules known f b).mp hneeded
        cases hrange hneeded
    | ok ms => exact ⟨ms, rfl, neededModules_spec hneeded⟩
  · intro known' f' hknown hname himports
    exact neededModules_congr hknown hname himports

/-! ### Imports in a circle -/

/-- A file that imports itself and another one. -/
def ringFile : File where
  name := "main.proto"
  imports := ["main.proto", "left.proto"]

/-- Two files that make each other public. One of them also makes a file public that is missing. -/
def ringFiles : List File :=
  [{ name := "left.proto", imports := ["right.proto", "lost.proto"], publicImports := [0, -1] },
    { name := "right.proto", imports := ["left.proto"], publicImports := [0] }]

/-- The same file with its imports listed otherwise. -/
def turnedFile : File where
  name := "main.proto"
  imports := ["left.proto", "main.proto"]

/-- The same two files with their imports listed otherwise. -/
def turnedFiles : List File :=
  [{ name := "left.proto", imports := ["lost.proto", "right.proto"], publicImports := [1, 0, -2] },
    { name := "right.proto", imports := ["left.proto", "main.proto"], publicImports := [-2] }]

/-- Where the types of these files are defined. -/
def ringModules : ModuleMap :=
  .ofList [("main.proto", "Main"), ("left.proto", "Left"), ("right.proto", "Main"),
    ("lost.proto", "Lost")]

theorem importsInRange_ringFiles :
  ∀ f ∈ ringFiles, f.ImportsInRange
  := by
  simp [ringFiles, File.ImportsInRange, entryAt]

theorem knownAlike_turnedFiles :
  KnownAlike (byName ringFiles).get? (byName turnedFiles).get?
  := by
  intro name
  rw [get?_byName, get?_byName]
  by_cases hleft : name = "left.proto"
  · subst hleft
    apply Option.Rel.some
    constructor
    · simp [File.Publishes, entryAt]
    · simp [File.ImportsInRange, entryAt]
  by_cases hright : name = "right.proto"
  · subst hright
    apply Option.Rel.some
    constructor
    · simp [File.Publishes, entryAt]
    · simp [File.ImportsInRange, entryAt]
  · have hnone : latest ringFiles name = none := by
      simp [latest, ringFiles, Ne.symm hleft, Ne.symm hright]
    have hnone' : latest turnedFiles name = none := by
      simp [latest, turnedFiles, Ne.symm hleft, Ne.symm hright]
    rw [hnone, hnone']
    exact .none

/-- The walk comes around, finds the module of the file that is not there, and leaves out the module
of the file it starts from. With the imports listed otherwise nothing changes. -/
theorem ring_needed_modules :
  (neededModules ringModules (byName ringFiles) ringFile ≠ .error .importIndex
      ∧ ∃ ms, neededModules ringModules (byName ringFiles) ringFile = .ok ms
        ∧ ms.Pairwise (· < ·) ∧ "Left" ∈ ms ∧ "Lost" ∈ ms ∧ "Main" ∉ ms)
    ∧ KnownAlike (byName ringFiles).get? (byName turnedFiles).get?
    ∧ neededModules ringModules (byName ringFiles) ringFile
      = neededModules ringModules (byName turnedFiles) turnedFile
  := by
  obtain ⟨hfails, hneeded, hlisted⟩ :=
    needed_modules_exact ringModules (byName ringFiles) ringFile
  have hrange : neededModules ringModules (byName ringFiles) ringFile ≠ .error .importIndex := by
    rw [ne_eq, hfails]
    rintro ⟨name, g, -, hg, i, hi, hnone⟩
    rw [get?_byName] at hg
    obtain ⟨other, hother⟩ := importsInRange_ringFiles g (mem_of_latest hg) i hi
    rw [hnone] at hother
    cases hother
  obtain ⟨ms, hms, hsorted, hmem⟩ := hneeded hrange
  have hleft : Seen (byName ringFiles).get? ringFile.imports "left.proto" := by
    apply Seen.start
    simp [ringFile]
  have hlost : Seen (byName ringFiles).get? ringFile.imports "lost.proto" := by
    apply hleft.next (i := -1) (get?_byName _ _)
    · simp
    · rfl
  refine ⟨⟨hrange, ms, hms, hsorted, ?_, ?_, ?_⟩, knownAlike_turnedFiles, ?_⟩
  · exact (hmem _).mpr ⟨by decide, _, hleft, rfl⟩
  · exact (hmem _).mpr ⟨by decide, _, hlost, rfl⟩
  · rw [hmem]
    rintro ⟨hother, -⟩
    exact hother rfl
  · apply hlisted _ turnedFile knownAlike_turnedFiles rfl
    simp [ringFile, turnedFile, or_comm]

end SwiftStubs.Schema
