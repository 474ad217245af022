import SwiftStubs.ModuleMap.Reader
import SwiftStubs.Proofs.Acceptance
import Mathlib.Data.List.Perm.Basic

/-!
# Module maps as functions

The entries of a module map are taken one after the other, and the first one without a module, or
with a path that an earlier entry gave to another module, ends everything. What this comes to does
not depend on an order: there is a module map if all entries name a module and no path is paired
with two modules (`exists_ofEntries_eq_ok_iff`), and it holds exactly the pairs of the entries
(`tells_of_ofEntries`). The order shows in the reason for a failure alone (`Fault`).
-/

namespace SwiftStubs.ModuleMap

/-! ### Pairs -/

/-- Some entry pairs a path with a module. -/
def Pairs (es : List MapEntry) (path moduleName : String) : Prop :=
  ∃ e ∈ es, e.moduleName = moduleName ∧ path ∈ e.paths

/-- Every entry names a module. -/
def Named (es : List MapEntry) : Prop :=
  ∀ e ∈ es, e.moduleName ≠ ""

/-- No path is paired with two modules. -/
def Unambiguous (es : List MapEntry) : Prop :=
  ∀ path first second, Pairs es path first → Pairs es path second → first = second

theorem not_pairs_nil (path moduleName : String) :
  ¬ Pairs [] path moduleName
  := by
  rintro ⟨e, he, -⟩
  cases he

theorem pairs_append_iff (es es' : List MapEntry) (path moduleName : String) :
  Pairs (es ++ es') path moduleName ↔ Pairs es path moduleName ∨ Pairs es' path moduleName
  := by
  simp only [Pairs, List.mem_append, or_and_right, exists_or]

theorem pairs_cons_iff (e : MapEntry) (es : List MapEntry) (path moduleName : String) :
  Pairs (e :: es) path moduleName
    ↔ (e.moduleName = moduleName ∧ path ∈ e.paths) ∨ Pairs es path moduleName
  := by
  simp only [Pairs, List.exists_mem_cons_iff]

/-! ### Faults -/

/-- An entry pairs a path with one module, and an earlier entry with another. -/
def Conflict (es : List MapEntry) (path first second : String) : Prop :=
  ∃ earlier e later, es = earlier ++ e :: later
    ∧ Pairs earlier path first ∧ e.moduleName = second ∧ path ∈ e.paths ∧ first ≠ second

/-- Why there is no module map: at some entry, which comes behind earlier ones, no module is named
or a path has a module already. -/
inductive Fault (es : List MapEntry) : OptionError → Prop where
  | nameless {earlier later : List MapEntry} {e : MapEntry} (h : es = earlier ++ e :: later)
      (hname : e.moduleName = "") :
      Fault es (.namelessEntry earlier.length)
  | conflict {path first second : String} (h : Conflict es path first second) :
      Fault es (.conflictingModules path first second)

theorem Conflict.not_unambiguous {es : List MapEntry} {path first second : String}
    (h : Conflict es path first second) :
  ¬ Unambiguous es
  := by
  obtain ⟨earlier, e, later, rfl, hfirst, hsecond, hpath, hne⟩ := h
  intro hes
  apply hne
  apply hes path
  · rw [pairs_append_iff]
    exact .inl hfirst
  · exact ⟨e, by simp, hsecond, hpath⟩

theorem Fault.not_consistent {es : List MapEntry} {e : OptionError} (h : Fault es e) :
  ¬ (Named es ∧ Unambiguous es)
  := by
  rintro ⟨hnamed, hes⟩
  cases h with
  | nameless h hname =>
      subst h
      apply hnamed _ _ hname
      simp
  | conflict h => exact h.not_unambiguous hes

/-! ### Adding entries -/

/-- A module map that holds exactly some pairs. -/
def Tells (m : ModuleMap) (P : String → String → Prop) : Prop :=
  ∀ path moduleName, m.get? path = some moduleName ↔ P path moduleName

theorem Tells.unique {m : ModuleMap} {P : String → String → Prop} (h : Tells m P)
    {path first second : String} (hfirst : P path first) (hsecond : P path second) :
  first = second
  := by
  rw [← h] at hfirst hsecond
  rw [hfirst] at hsecond
  exact Option.some.inj hsecond

theorem Tells.congr {m : ModuleMap} {P Q : String → String → Prop} (h : Tells m P)
    (hPQ : ∀ path moduleName, P path moduleName ↔ Q path moduleName) :
  Tells m Q
  := fun path moduleName => (h path moduleName).trans (hPQ path moduleName)

theorem Tells.insert {m : ModuleMap} {P : String → String → Prop} (h : Tells m P) {path : String}
    (hpath : m.get? path = none) (moduleName : String) :
  Tells (m.insert path moduleName) (fun p n => P p n ∨ (n = moduleName ∧ p = path))
  := by
  intro p n
  rw [Dictionary.get?_insert]
  by_cases hp : p = path
  · subst hp
    have hnone : ¬ P p n := by
      rw [← h, hpath]
      rintro ⟨⟩
    simp [hnone, eq_comm]
  · simp [hp, h p n]

theorem addPaths_cons_of_none {m : ModuleMap} {path : String} (h : m.get? path = none)
    (moduleName : String) (paths : List String) :
  addPaths moduleName m (path :: paths) = addPaths moduleName (m.insert path moduleName) paths
  := by
  rw [addPaths, h]

theorem addPaths_cons_of_some {m : ModuleMap} {path other : String} (h : m.get? path = some other)
    (moduleName : String) (paths : List String) :
  addPaths moduleName m (path :: paths)
    = if other = moduleName then addPaths moduleName m paths
      else .error (.conflictingModules path other moduleName)
  := by
  rw [addPaths, h]

/-- Adding the paths of a module gives their pairs, unless a path has another module already. -/
theorem addPaths_cases {m : ModuleMap} {P : String → String → Prop} (h : Tells m P)
    (moduleName : String) (paths : List String) :
  (∃ m', addPaths moduleName m paths = .ok m'
      ∧ Tells m' (fun p n => P p n ∨ (n = moduleName ∧ p ∈ paths)))
    ∨ ∃ path other, addPaths moduleName m paths
        = .error (.conflictingModules path other moduleName)
      ∧ path ∈ paths ∧ P path other ∧ other ≠ moduleName
  := by
  induction paths generalizing m P with
  | nil => exact .inl ⟨m, rfl, h.congr (by simp)⟩
  | cons path paths ih =>
      cases hget : m.get? path with
      | none =>
          rw [addPaths_cons_of_none hget]
          obtain ⟨m', hm', htells⟩ | ⟨p, other, herror, hp, hother, hne⟩ :=
            ih (h.insert hget moduleName)
          · left
            use m', hm'
            apply htells.congr
            intro p n
            rw [List.mem_cons, and_or_left, or_assoc]
          · right
            use p, other, herror, List.mem_cons_of_mem path hp
            exact ⟨hother.resolve_right (fun h => hne h.1), hne⟩
      | some other =>
          rw [addPaths_cons_of_some hget]
          have hother : P path other := (h path other).mp hget
          by_cases hname : other = moduleName
          · subst hname
            rw [if_pos rfl]
            obtain ⟨m', hm', htells⟩ | ⟨p, other, herror, hp, hconflict⟩ := ih h
            · left
              use m', hm'
              apply htells.congr
              intro p n
              rw [List.mem_cons, and_or_left, ← or_assoc]
              apply or_congr_left
              rw [iff_self_or]
              rintro ⟨rfl, rfl⟩
              exact hother
            · right
              exact ⟨p, other, herror, List.mem_cons_of_mem path hp, hconflict⟩
          · rw [if_neg hname]
            exact .inr ⟨path, other, rfl, List.mem_cons_self, hother, hname⟩

/-- Adding entries behind others gives the pairs of all, or fails for a fault among them. -/
theorem addEntries_cases {m : ModuleMap} {earlier : List MapEntry} (h : Tells m (Pairs earlier))
    (es : List MapEntry) :
  (∃ m', addEntries earlier.length m es = .ok m' ∧ Tells m' (Pairs (earlier ++ es)) ∧ Named es)
    ∨ ∃ e, addEntries earlier.length m es = .error e ∧ Fault (earlier ++ es) e
  := by
  induction es generalizing m earlier with
  | nil =>
      left
      use m, rfl
      rw [List.append_nil]
      exact ⟨h, fun e he => nomatch he⟩
  | cons e es ih =>
      rw [addEntries]
      by_cases hname : e.moduleName = ""
      · right
        use .namelessEntry earlier.length
        rw [hname]
        exact ⟨rfl, .nameless rfl hname⟩
      · have hempty : ¬ e.moduleName.isEmpty := by simpa using hname
        rw [if_neg hempty]
        obtain ⟨m', hm', htells⟩ | ⟨path, other, herror, hpath, hother, hne⟩ :=
          addPaths_cases h e.moduleName e.paths
        · rw [hm']
          have htells' : Tells m' (Pairs (earlier ++ [e])) := by
            apply htells.congr
            intro path moduleName
            simp only [pairs_append_iff, pairs_cons_iff, not_pairs_nil, or_false, eq_comm]
          have hlength : earlier.length + 1 = (earlier ++ [e]).length := by simp
          have hlater := ih htells'
          rw [List.append_assoc, List.singleton_append, ← hlength] at hlater
          obtain ⟨m'', hm'', htells'', hnamed⟩ | hfault := hlater
          · left
            use m'', hm'', htells''
            rw [Named, List.forall_mem_cons]
            exact ⟨hname, hnamed⟩
          · exact .inr hfault
        · right
          rw [herror]
          exact ⟨_, rfl, .conflict ⟨earlier, e, es, rfl, hother, rfl, hpath, hne⟩⟩

/-! ### Maps of entries -/

theorem ofEntries_cases (es : List MapEntry) :
  (∃ m, ofEntries es = .ok m ∧ Tells m (Pairs es) ∧ Named es)
    ∨ ∃ e, ofEntries es = .error e ∧ Fault es e
  := by
  have hempty : Tells Dictionary.empty (Pairs []) := by
    intro path moduleName
    simp [not_pairs_nil]
  exact addEntries_cases hempty es

theorem fault_of_ofEntries {es : List MapEntry} {e : OptionError} (h : ofEntries es = .error e) :
  Fault es e
  := by
  obtain ⟨m, hm, -⟩ | ⟨e', he', hfault⟩ := ofEntries_cases es
  · rw [hm] at h
    cases h
  · rw [he'] at h
    cases h
    exact hfault

/-- The module map of entries holds exactly their pairs. -/
theorem tells_of_ofEntries {es : List MapEntry} {m : ModuleMap} (h : ofEntries es = .ok m) :
  Tells m (Pairs es)
  := by
  obtain ⟨m', hm', htells, -⟩ | ⟨e, he, -⟩ := ofEntries_cases es
  · rw [hm'] at h
    cases h
    exact htells
  · rw [he] at h
    cases h

/-- There is a module map if all entries name a module and no path is paired with two. -/
theorem exists_ofEntries_eq_ok_iff (es : List MapEntry) :
  (∃ m, ofEntries es = .ok m) ↔ Named es ∧ Unambiguous es
  := by
  obtain ⟨m, hm, htells, hnamed⟩ | ⟨e, he, hfault⟩ := ofEntries_cases es
  · constructor
    · intro _
      exact ⟨hnamed, fun path first second => htells.unique⟩
    · intro _
      exact ⟨m, hm⟩
  · constructor
    · rintro ⟨m, hm⟩
      rw [he] at hm
      cases hm
    · intro hes
      exact absurd hes hfault.not_consistent

/-! ### Rearranged entries -/

/-- Entries written in another way: in another order, with an entry split in two that share its
paths, or with an entry repeated. -/
inductive Rearranged : List MapEntry → List MapEntry → Prop where
  | perm {es es' : List MapEntry} (h : es.Perm es') : Rearranged es es'
  | split (earlier later : List MapEntry) (moduleName : String) {paths first second : List String}
      (h : ∀ path, path ∈ paths ↔ path ∈ first ∨ path ∈ second) :
      Rearranged (earlier ++ ⟨moduleName, paths⟩ :: later)
        (earlier ++ ⟨moduleName, first⟩ :: ⟨moduleName, second⟩ :: later)
  | again {es : List MapEntry} {e : MapEntry} (h : e ∈ es) : Rearranged es (e :: es)
  | symm {es es' : List MapEntry} (h : Rearranged es es') : Rearranged es' es
  | trans {es es' es'' : List MapEntry} (h : Rearranged es es') (h' : Rearranged es' es'') :
      Rearranged es es''

theorem Rearranged.named_iff {es es' : List MapEntry} (h : Rearranged es es') :
  Named es ↔ Named es'
  := by
  induction h with
  | perm h => simp only [Named, h.mem_iff]
  | split earlier later moduleName h =>
      simp only [Named, List.forall_mem_append, List.forall_mem_cons, and_self_left]
  | again h =>
      rw [Named, Named, List.forall_mem_cons, iff_and_self]
      intro hes
      apply hes _ h
  | symm _ ih => exact ih.symm
  | trans _ _ ih ih' => exact ih.trans ih'

theorem Rearranged.pairs_iff {es es' : List MapEntry} (h : Rearranged es es')
    (path moduleName : String) :
  Pairs es path moduleName ↔ Pairs es' path moduleName
  := by
  induction h with
  | perm h => simp only [Pairs, h.mem_iff]
  | split earlier later name h =>
      rw [pairs_append_iff, pairs_append_iff, pairs_cons_iff, pairs_cons_iff, pairs_cons_iff,
        h path, and_or_left, or_assoc]
  | again h =>
      rw [pairs_cons_iff, iff_or_self]
      intro he
      exact ⟨_, h, he⟩
  | symm _ ih => exact ih.symm
  | trans _ _ ih ih' => exact ih.trans ih'

/-- Rearranging entries neither makes nor breaks a module map. -/
theorem Rearranged.exists_ofEntries_iff {es es' : List MapEntry} (h : Rearranged es es') :
  (∃ m, ofEntries es = .ok m) ↔ ∃ m, ofEntries es' = .ok m
  := by
  simp only [exists_ofEntries_eq_ok_iff, h.named_iff, Unambiguous, h.pairs_iff]

theorem Rearranged.get?_eq {es es' : List MapEntry} (h : Rearranged es es') {m m' : ModuleMap}
    (hm : ofEntries es = .ok m) (hm' : ofEntries es' = .ok m') (path : String) :
  m.get? path = m'.get? path
  := by
  apply Option.ext
  intro moduleName
  rw [tells_of_ofEntries hm, tells_of_ofEntries hm', h.pairs_iff]

/-- The entries that a text writes form a module map if all name a module and no path is paired with
two. The map then holds exactly the pairs of the entries, however these are arranged. A conflict
that is reported is one between an entry and an earlier one. -/
theorem entries_form_function (es : List MapEntry) :
  (∀ s, entries? s = some es → ofText s = ofEntries es)
    ∧ ((∃ m, ofEntries es = .ok m) ↔ Named es ∧ Unambiguous es)
    ∧ (∀ m, ofEntries es = .ok m →
        ∀ path moduleName, m.get? path = some moduleName ↔ Pairs es path moduleName)
    ∧ (∀ es', Rearranged es es' →
        ((∃ m, ofEntries es = .ok m) ↔ ∃ m, ofEntries es' = .ok m)
          ∧ ∀ m m', ofEntries es = .ok m → ofEntries es' = .ok m' →
            ∀ path, m.get? path = m'.get? path)
    ∧ (∀ path first second, ofEntries es = .error (.conflictingModules path first second) →
        Conflict es path first second
          ∧ (OptionError.conflictingModules path first second).message
            = "'" ++ path ++ "' is mapped to more than one module: '" ++ first ++ "' and '"
              ++ second ++ "'.")
  := by
  refine ⟨?_, exists_ofEntries_eq_ok_iff es, fun m => tells_of_ofEntries, ?_, ?_⟩
  · intro s hs
    rw [ofText, hs]
  · intro es' h
    exact ⟨h.exists_ofEntries_iff, fun m m' => h.get?_eq⟩
  · intro path first second h
    cases fault_of_ofEntries h with
    | conflict h => exact ⟨h, rfl⟩

/-- Two modules, one of them listed at two places. -/
def scatteredEntries : List MapEntry :=
  [⟨"Core", ["a.proto"]⟩, ⟨"Net", ["c.proto"]⟩, ⟨"Core", ["b.proto", "a.proto"]⟩]

theorem scatteredEntries_form_function :
  (∃ m, ofEntries scatteredEntries = .ok m ∧ m.get? "b.proto" = some "Core"
      ∧ m.get? "d.proto" ≠ some "Core")
    ∧ (∃ m, ofEntries scatteredEntries.reverse = .ok m)
    ∧ Conflict (scatteredEntries ++ [⟨"Net", ["b.proto"]⟩]) "b.proto" "Core" "Net"
  := by
  obtain ⟨-, -, hpairs, hrearranged, -⟩ := entries_form_function scatteredEntries
  obtain ⟨-, -, -, -, hconflict⟩ :=
    entries_form_function (scatteredEntries ++ [⟨"Net", ["b.proto"]⟩])
  have hok : ∃ m, ofEntries scatteredEntries = .ok m := ⟨_, rfl⟩
  refine ⟨?_, ?_, ?_⟩
  · obtain ⟨m, hm⟩ := hok
    use m, hm
    rw [Ne, hpairs m hm, hpairs m hm]
    simp [Pairs, scatteredEntries]
  · rwa [← (hrearranged _ (.perm (List.reverse_perm _).symm)).1]
  · exact (hconflict _ _ _ rfl).1

end SwiftStubs.ModuleMap
