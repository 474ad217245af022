import SwiftStubs.Command.Arguments
import SwiftStubs.Proofs.OptionSpelling

/-!
# Two ways to say the same

The settings of a configuration can be given on the command line or in a parameter. `Choices` are
settings that can be given in both ways. On the command line they are arguments. In a parameter they
are options, and since changes with different keys can be exchanged (`Draft.foldl_apply_eq`), these
may come in any order in which the extra modules follow each other as before. Either way there is
the same draft of a configuration in the end.
-/

namespace SwiftStubs

open ParameterOption (PlainText)

/-! ### Changes in any order -/

namespace Draft

/-- Changes with different keys can be exchanged: those of two kinds write to different places, and
those of one kind have the same key. -/
theorem apply_comm {c c' : Change} (h : c.key ≠ c'.key) (d : Draft) :
  (d.apply c).apply c' = (d.apply c').apply c
  := by
  cases c <;> cases c' <;> first | rfl | exact absurd rfl h

/-- A change can be made before others with other keys. -/
theorem apply_foldl {c : Change} {cs : List Change} (h : ∀ c' ∈ cs, c'.key ≠ c.key) (d : Draft) :
  (cs.foldl apply d).apply c = cs.foldl apply (d.apply c)
  := by
  induction cs generalizing d with
  | nil => rfl
  | cons c' cs ih =>
      rw [List.forall_mem_cons] at h
      rw [List.foldl_cons, List.foldl_cons, ih h.2, apply_comm h.1]

/-- Only the order among changes with one key matters. -/
theorem foldl_apply_eq {cs cs' : List Change}
    (h : ∀ k, cs.filter (fun c => c.key = k) = cs'.filter (fun c => c.key = k)) (d : Draft) :
  cs.foldl apply d = cs'.foldl apply d
  := by
  induction cs generalizing cs' d with
  | nil =>
      cases cs' with
      | nil => rfl
      | cons c cs' =>
          have hc := h c.key
          simp at hc
  | cons c cs ih =>
      have hc := h c.key
      rw [List.filter_cons_of_pos (by simp), eq_comm, List.filter_eq_cons_iff] at hc
      obtain ⟨before, behind, rfl, hbefore, -, hbehind⟩ := hc
      have hothers : ∀ k, cs.filter (fun c => c.key = k)
          = (before ++ behind).filter (fun c => c.key = k) := by
        intro k
        rw [List.filter_append]
        by_cases hk : c.key = k
        · subst hk
          rw [List.filter_eq_nil_iff.mpr hbefore, List.nil_append, hbehind]
        · have hrest := h k
          rw [List.filter_append, List.filter_cons_of_neg (by simpa using hk),
            List.filter_cons_of_neg (by simpa using hk)] at hrest
          exact hrest
      rw [List.foldl_cons, ih hothers, List.foldl_append, List.foldl_append, List.foldl_cons,
        apply_foldl]
      simpa using hbefore

end Draft

/-- The module that a change adds. -/
def Change.extraImport? : Change → Option String
  | .extraImport m => some m
  | _ => none

/-! ### Choices -/

/-- Settings that can be given on the command line and in a parameter. The module map is the one at
a path, if the path is not empty. -/
structure Choices where
  accessLevel : Swift.AccessLevel
  fileNaming : FileNaming
  sides : Stub.Sides
  indentation : Int
  indentation_pos : 1 ≤ indentation
  indentation_lt : indentation < 10 ^ 4300
  modules : List String
  plainText_modules : ∀ m ∈ modules, PlainText m
  mapPath : String
  plainText_mapPath : PlainText mapPath

namespace Choices

variable (v : Choices)

/-- The changes that are asked for once. -/
def singleChanges : List Change :=
  [.accessLevel v.accessLevel, .fileNaming v.fileNaming, .client v.sides.client,
    .server v.sides.server, .indentation v.indentation]
    ++ (if v.mapPath = "" then [] else [.mapPath v.mapPath])

/-- The changes that a parameter asks for. -/
def changes : List Change :=
  v.singleChanges ++ v.modules.map .extraImport

/-- Options for these choices, in any order that keeps the one of the modules. -/
def WrittenAs (os : List ParameterOption) : Prop :=
  ∃ cs : List Change, cs.Perm v.changes ∧ cs.filterMap Change.extraImport? = v.modules
    ∧ List.Forall₂ Spells os cs

/-- The arguments of a command line that gives these choices, beside whatever else it says. -/
def arguments (a : Command.Arguments) : Command.Arguments :=
  { a with
    visibility := some v.accessLevel
    fileNaming := some v.fileNaming
    sides := v.sides
    indentation := some v.indentation
    extraImports := v.modules
    moduleMappings := v.mapPath
    availability := true }

/-- The module map of these choices. -/
def moduleMap (read : FileReader) : Except Failure ModuleMap :=
  if v.mapPath.isEmpty then .ok Dictionary.empty else ModuleMap.load read v.mapPath

/-- The configuration of these choices with their module map. -/
def configuration (m : ModuleMap) : Configuration where
  accessLevel := v.accessLevel
  indentation := v.indentation
  indentation_pos := v.indentation_pos
  sides := v.sides
  extraImports := v.modules
  moduleMap := m
  availability := defaultAvailability
  fileNaming := v.fileNaming

/-- The draft of the configuration of these choices. -/
def draft : Draft where
  base :=
    { Configuration.standard with
      accessLevel := v.accessLevel
      sides := v.sides
      extraImports := v.modules
      fileNaming := v.fileNaming }
  indentation := v.indentation
  mapPath := v.mapPath

variable {v}

/-! ### The draft of choices -/

theorem finish_draft {read : FileReader} {m : ModuleMap} (h : v.moduleMap read = .ok m) :
  v.draft.finish read = .ok (v.configuration m)
  := by
  have hmap : v.draft.readMap read = .ok m := h
  have hindentation : ({ v.draft.base with moduleMap := m } : Configuration).withIndentation
      v.draft.indentation = .ok (v.configuration m) := dif_pos v.indentation_pos
  rw [Draft.finish_eq, hmap]
  exact congrArg (mapError OptionError.failure) hindentation

theorem settings_arguments (a : Command.Arguments) (read : FileReader) :
  (v.arguments a).settings read = v.draft.finish read >>= fun c => .ok (c : Settings)
  := rfl

theorem foldl_extraImport (ms : List String) (d : Draft) :
  (ms.map Change.extraImport).foldl Draft.apply d
    = { d with base := { d.base with extraImports := d.base.extraImports ++ ms } }
  := by
  induction ms generalizing d with
  | nil => simp
  | cons m ms ih =>
      rw [List.map_cons, List.foldl_cons, ih]
      simp [Draft.apply]

theorem foldl_changes :
  v.changes.foldl Draft.apply (Draft.ofConfiguration .standard) = v.draft
  := by
  rw [changes, List.foldl_append, foldl_extraImport, singleChanges]
  split
  · next hpath =>
      rw [draft, hpath]
      rfl
  · rfl

/-! ### Options in any order -/

theorem writable_of_mem_changes {c : Change} (h : c ∈ v.changes) :
  c.Writable
  := by
  have hindentation : 0 ≤ v.indentation ∧ v.indentation < 10 ^ Text.maxDigits :=
    ⟨(Int.le_trans (by decide) v.indentation_pos), v.indentation_lt⟩
  rw [changes, singleChanges, List.mem_append, List.mem_append] at h
  obtain (h | h) | h := h
  · simp only [List.mem_cons, List.not_mem_nil, or_false] at h
    obtain rfl | rfl | rfl | rfl | rfl := h
    · trivial
    · trivial
    · trivial
    · trivial
    · exact hindentation
  · split at h
    · cases h
    · rw [List.mem_singleton.mp h]
      exact v.plainText_mapPath
  · obtain ⟨m, hm, rfl⟩ := List.mem_map.mp h
    exact v.plainText_modules m hm

theorem filter_extraImport (cs : List Change) (m : String) :
  cs.filter (fun c => c.key = (Change.extraImport m).key)
    = (cs.filterMap Change.extraImport?).map .extraImport
  := by
  induction cs with
  | nil => rfl
  | cons c cs ih =>
      cases c with
      | extraImport m' =>
          rw [List.filter_cons_of_pos (by rfl), ih]
          rfl
      | _ =>
          rw [List.filter_cons_of_neg (by simp [Change.key]), ih]
          rfl

theorem filterMap_changes :
  v.changes.filterMap Change.extraImport? = v.modules
  := by
  have hsingle : v.singleChanges.filterMap Change.extraImport? = [] := by
    rw [singleChanges]
    split
    · rfl
    · rfl
  have hmodules : (Change.extraImport? ∘ Change.extraImport) = some := rfl
  rw [changes, List.filterMap_append, hsingle, List.nil_append, List.filterMap_map, hmodules,
    List.filterMap_some]

/-- Changes that are asked for once have keys of their own. -/
theorem nodup_key_singleChanges :
  (v.singleChanges.map Change.key).Nodup
  := by
  rw [singleChanges]
  split
  · rw [List.append_nil]
    simp only [List.map_cons, List.map_nil, Change.key]
    decide
  · simp only [List.map_append, List.map_cons, List.map_nil, Change.key]
    decide

theorem length_filter_le_one {α β : Type} [DecidableEq β] {f : α → β} {xs : List α}
    (h : (xs.map f).Nodup) (k : β) :
  (xs.filter (fun x => f x = k)).length ≤ 1
  := by
  have hall : (xs.filter (fun x => f x = k)).map f
      = List.replicate (xs.filter (fun x => f x = k)).length k := by
    rw [List.eq_replicate_iff, List.length_map, List.forall_mem_map]
    use rfl
    intro x hx
    simpa using (List.mem_filter.mp hx).2
  have hnodup : (List.replicate (xs.filter (fun x => f x = k)).length k).Nodup := by
    rw [← hall]
    exact List.Nodup.sublist (List.filter_sublist.map f) h
  exact List.nodup_replicate.mp hnodup

theorem eq_of_perm_of_length_le {α : Type} {xs ys : List α} (h : xs.Perm ys)
    (hlength : ys.length ≤ 1) :
  xs = ys
  := by
  obtain hzero | hone := Nat.le_one_iff_eq_zero_or_eq_one.mp hlength
  · rw [List.length_eq_zero_iff] at hzero
    subst hzero
    exact h.eq_nil
  · obtain ⟨y, rfl⟩ := List.length_eq_one_iff.mp hone
    exact List.perm_singleton.mp h

/-- In an order that keeps the one of the modules, changes with one key stand in the same order. -/
theorem filter_key_eq {cs : List Change} (h : cs.Perm v.changes)
    (hmodules : cs.filterMap Change.extraImport? = v.modules) (k : String) :
  cs.filter (fun c => c.key = k) = v.changes.filter (fun c => c.key = k)
  := by
  by_cases hk : k = (Change.extraImport "").key
  · subst hk
    rw [filter_extraImport, filter_extraImport, hmodules, filterMap_changes]
  · apply eq_of_perm_of_length_le (h.filter _)
    have hothers : (v.modules.map Change.extraImport).filter (fun c => c.key = k) = [] := by
      rw [List.filter_eq_nil_iff, List.forall_mem_map]
      intro m _
      simpa [Change.key, eq_comm] using hk
    rw [changes, List.filter_append, hothers, List.append_nil]
    exact length_filter_le_one nodup_key_singleChanges k

/-- A parameter comes to the draft of the choices that it was written for. -/
theorem withParameter_written {os : List ParameterOption} (h : v.WrittenAs os)
    (read : FileReader) :
  Configuration.standard.withParameter read (ParameterOption.written os) = v.draft.finish read
  := by
  obtain ⟨cs, hperm, hmodules, hspells⟩ := h
  have hwritable : ∀ c ∈ cs, c.Writable :=
    fun c hc => writable_of_mem_changes (hperm.mem_iff.mp hc)
  rw [Configuration.withParameter, Draft.ofParameter_written hspells hwritable,
    Draft.foldl_apply_eq (filter_key_eq hperm hmodules), foldl_changes]
  rfl

/-- Choices give the same configuration as arguments of the command line and as a parameter, however
the options of the parameter are ordered. -/
theorem parameter_means_arguments {read : FileReader} {m : ModuleMap}
    (hmap : v.moduleMap read = .ok m) {os : List ParameterOption} (hos : v.WrittenAs os)
    (a : Command.Arguments) :
  Configuration.standard.withParameter read (ParameterOption.written os) = .ok (v.configuration m)
    ∧ (v.arguments a).settings read = .ok (v.configuration m)
  := by
  constructor
  · rw [withParameter_written hos, finish_draft hmap]
  · rw [settings_arguments, finish_draft hmap]
    rfl

theorem lt_ten_pow {n k : Nat} (hn : n < 10) (hk : k ≠ 0) :
  (n : Int) < 10 ^ k
  := by
  rw [Text.natCast_lt_ten_pow_iff]
  exact Nat.lt_of_lt_of_le hn (Nat.le_self_pow hk 10)

/-- Choices with a module whose name has an equality sign, and with a path. -/
def sampleChoices : Choices where
  accessLevel := .exported
  fileNaming := .dropPath
  sides := ⟨true, false⟩
  indentation := 2
  indentation_pos := by decide
  indentation_lt := lt_ten_pow (by decide) (by decide)
  modules := ["A=B", "C"]
  plainText_modules := by
    rw [List.forall_mem_cons, List.forall_mem_singleton]
    exact ⟨⟨by decide, by decide⟩, ⟨by decide, by decide⟩⟩
  mapPath := "b.map"
  plainText_mapPath := ⟨by decide, by decide⟩

/-- An order of the options in which the two modules do not stand together. -/
def sampleOrder : List Change :=
  [.extraImport "A=B", .fileNaming .dropPath, .mapPath "b.map", .server false, .extraImport "C",
    .indentation 2, .client true, .accessLevel .exported]

theorem moduleMap_sampleChoices :
  sampleChoices.moduleMap Configuration.blankMaps = .ok Dictionary.empty
  := by
  have hline : ModuleMap.lineTokens [] = some [] := by
    unfold ModuleMap.lineTokens
    rfl
  have htokens : ModuleMap.tokens "" = some [] := by
    simp [ModuleMap.tokens, hline]
  have hentries : ModuleMap.entries? "" = some [] := by
    rw [ModuleMap.entries?, htokens]
    unfold ModuleMap.readMappings
    rfl
  have htext : ModuleMap.ofText "" = .ok Dictionary.empty := by
    rw [ModuleMap.ofText, hentries]
    rfl
  exact congrArg (mapError OptionError.failure) htext

theorem sampleChoices_mean_arguments :
  sampleChoices.WrittenAs (sampleOrder.map Change.option)
    ∧ Configuration.standard.withParameter Configuration.blankMaps
        (ParameterOption.written (sampleOrder.map Change.option))
      = .ok (sampleChoices.configuration Dictionary.empty)
    ∧ (sampleChoices.arguments {}).settings Configuration.blankMaps
      = .ok (sampleChoices.configuration Dictionary.empty)
  := by
  have hos : sampleChoices.WrittenAs (sampleOrder.map Change.option) :=
    ⟨sampleOrder, by decide, by decide, by
      rw [List.forall₂_map_left_iff, List.forall₂_same]
      intro c _
      exact c.spells_option⟩
  exact ⟨hos, parameter_means_arguments moduleMap_sampleChoices hos {}⟩

end Choices

end SwiftStubs
