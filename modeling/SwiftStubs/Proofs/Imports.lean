import SwiftStubs.Proofs.NeededModules

/-!
# The imports of a file

A file imports what the request depends on and the extra modules of the configuration, each thing
once and as it is asked for first. Taking each thing once is to take the elements of a list that
have a key which none before them has (`firstOccurrences`). Behind other elements, what is taken of
a sorted list depends on its members only, so that neither the order of the extra modules nor their
repetitions matter.
-/

namespace SwiftStubs

open Swift

/-! ### First occurrences -/

/-- The elements of a list with a key that no element before them has. -/
def firstOccurrences {α κ : Type} [DecidableEq κ] (key : α → κ) (xs : List α) : List α :=
  (xs.zipIdx.filter (fun x => key x.1 ∉ (xs.take x.2).map key)).map Prod.fst

section FirstOccurrences

variable {α κ : Type} [DecidableEq κ] (key : α → κ)

@[simp]
theorem firstOccurrences_nil :
  firstOccurrences key [] = []
  := rfl

/-- The first element counts, and of the others those that have another key. -/
@[simp]
theorem firstOccurrences_cons (x : α) (xs : List α) :
  firstOccurrences key (x :: xs) = x :: (firstOccurrences key xs).filter (fun y => key y ≠ key x)
  := by
  simp only [firstOccurrences, List.zipIdx_cons', List.filter_cons, List.filter_map]
  simp [Function.comp_def, List.filter_filter]

variable {key}

theorem mem_of_mem_firstOccurrences {x : α} {xs : List α} (h : x ∈ firstOccurrences key xs) :
  x ∈ xs
  := by
  induction xs with
  | nil => exact h
  | cons y ys ih =>
      rw [firstOccurrences_cons, List.mem_cons, List.mem_filter] at h
      obtain rfl | ⟨h, -⟩ := h
      · exact List.mem_cons_self
      · exact List.mem_cons_of_mem _ (ih h)

/-- No key gets lost. -/
theorem mem_map_firstOccurrences_iff (k : κ) (xs : List α) :
  k ∈ (firstOccurrences key xs).map key ↔ k ∈ xs.map key
  := by
  induction xs with
  | nil => rfl
  | cons x xs ih =>
      rw [firstOccurrences_cons, List.map_cons, List.map_cons, List.mem_cons, List.mem_cons, ← ih]
      by_cases hk : k = key x
      · simp [hk]
      · simp only [hk, false_or, List.mem_map, List.mem_filter, decide_eq_true_eq]
        constructor
        · rintro ⟨y, ⟨hy, -⟩, rfl⟩
          exact ⟨y, hy, rfl⟩
        · rintro ⟨y, hy, rfl⟩
          exact ⟨y, ⟨hy, hk⟩, rfl⟩

/-- No key comes twice. -/
theorem nodup_map_firstOccurrences (xs : List α) :
  ((firstOccurrences key xs).map key).Nodup
  := by
  induction xs with
  | nil => exact List.nodup_nil
  | cons x xs ih =>
      rw [firstOccurrences_cons, List.map_cons, List.nodup_cons]
      constructor
      · simp
      · exact ih.sublist (List.filter_sublist.map key)

/-- What comes out is what is found first by its key. -/
theorem find?_of_mem_firstOccurrences {x : α} {xs : List α} (h : x ∈ firstOccurrences key xs) :
  xs.find? (fun y => key y = key x) = some x
  := by
  induction xs with
  | nil => cases h
  | cons y ys ih =>
      rw [firstOccurrences_cons, List.mem_cons, List.mem_filter, decide_eq_true_eq] at h
      obtain rfl | ⟨h, hne⟩ := h
      · rw [List.find?_cons_of_pos (by simp)]
      · rw [List.find?_cons_of_neg (by simpa using hne.symm), ih h]

/-- Behind other elements only those with new keys count. -/
theorem firstOccurrences_append (xs ys : List α) :
  firstOccurrences key (xs ++ ys)
    = firstOccurrences key xs ++ (firstOccurrences key ys).filter (fun y => key y ∉ xs.map key)
  := by
  induction xs with
  | nil => simp
  | cons x xs ih => simp [ih, List.filter_filter]

/-- Elements with keys of their own are told apart by the keys. -/
theorem firstOccurrences_map {β : Type} [DecidableEq β] {f : β → α}
    (hf : ∀ b b', key (f b) = key (f b') ↔ b = b') (bs : List β) :
  firstOccurrences key (bs.map f) = (firstOccurrences id bs).map f
  := by
  induction bs with
  | nil => rfl
  | cons b bs ih => simp [ih, List.filter_map, Function.comp_def, hf]

end FirstOccurrences

theorem pairwise_lt_firstOccurrences {ms : List String} (h : ms.Pairwise (· ≤ ·)) :
  (firstOccurrences id ms).Pairwise (· < ·)
  := by
  induction ms with
  | nil => exact .nil
  | cons m ms ih =>
      obtain ⟨hm, hms⟩ := List.pairwise_cons.mp h
      rw [firstOccurrences_cons, List.pairwise_cons]
      constructor
      · intro other hother
        obtain ⟨hother, hne⟩ := List.mem_filter.mp hother
        apply lt_of_le_of_ne (hm other (mem_of_mem_firstOccurrences hother))
        simpa using (of_decide_eq_true hne).symm
      · exact (ih hms).filter _

/-- What comes out of a sorted list depends on its members only. -/
theorem firstOccurrences_eq_of_sorted {ms ms' : List String} (hms : ms.Pairwise (· ≤ ·))
    (hms' : ms'.Pairwise (· ≤ ·)) (h : ∀ m, m ∈ ms ↔ m ∈ ms') :
  firstOccurrences id ms = firstOccurrences id ms'
  := by
  have hmem : ∀ ns : List String, ∀ m, m ∈ firstOccurrences id ns ↔ m ∈ ns := by
    intro ns m
    have hkeys : m ∈ (firstOccurrences id ns).map id ↔ m ∈ ns.map id :=
      mem_map_firstOccurrences_iff m ns
    rwa [List.map_id, List.map_id] at hkeys
  apply (pairwise_lt_firstOccurrences hms).eq_of_mem_iff (pairwise_lt_firstOccurrences hms')
  intro m
  rw [hmem, hmem, h]

/-! ### Imports -/

theorem firstImports_eq (seen : List (String × Option ImportItem)) (is : List Import) :
  firstImports seen is = (firstOccurrences Import.key is).filter (fun i => i.key ∉ seen)
  := by
  induction is generalizing seen with
  | nil => rfl
  | cons i is ih =>
      rw [firstImports, firstOccurrences_cons, List.filter_cons, List.filter_filter]
      split
      · next hseen =>
          rw [if_neg (by simpa using hseen), ih]
          apply List.filter_congr
          intro j _
          have hne : j.key ∉ seen → j.key ≠ i.key := by
            intro hj heq
            exact hj (heq ▸ hseen)
          simpa using hne
      · next hseen =>
          rw [if_pos (by simpa using hseen), ih]
          simp [Bool.and_comm]

theorem ImportKind.keyword_of_ofKeyword? {s : String} {kind : ImportKind}
    (h : ImportKind.ofKeyword? s = some kind) :
  kind.keyword = s
  := by
  simpa using List.find?_some h

/-- An import is that of a dependency. -/
structure Dependency.Becomes (d : Dependency) (i : Import) : Prop where
  moduleName : i.moduleName = d.moduleName
  item : i.item.map (fun item => DependencyItem.mk item.kind.keyword item.name) = d.item
  spi : i.spi = d.spi
  preconcurrency : i.preconcurrency = d.preconcurrency

theorem Dependency.becomes_of_toImport {d : Dependency} {i : Import} (h : d.toImport = .ok i) :
  d.Becomes i
  := by
  obtain ⟨moduleName, item, spi, preconcurrency⟩ := d
  cases item with
  | none =>
      cases h
      exact ⟨rfl, rfl, rfl, rfl⟩
  | some item =>
      rw [toImport] at h
      dsimp only at h
      split at h
      · cases h
      · next kind hkind =>
          cases h
          obtain ⟨keyword, name⟩ := item
          obtain rfl : kind.keyword = keyword := ImportKind.keyword_of_ofKeyword? hkind
          exact ⟨rfl, rfl, rfl, rfl⟩

theorem exists_mapM_toImport {ds : List Dependency} (h : ∀ d ∈ ds, d.HasKind) :
  ∃ own, ds.mapM Dependency.toImport = .ok own
  := by
  rw [exists_mapM_eq_ok_iff]
  intro d hd
  apply (Dependency.toImport_eq_ok_iff d).mpr (h d hd)

/-- The import of a whole module, with nothing else said. -/
def plainImport (moduleName : String) : Import where
  moduleName := moduleName

/-- What an import is about: a whole module, or an item of one. -/
def Swift.Import.thing (i : Import) : String × Option ImportItem :=
  (i.moduleName, i.item)

/-- The core module, and each other thing once. -/
def listedImports (all : List Import) : List Import :=
  { moduleName := "GRPCCore" }
    :: (firstOccurrences Import.thing all).filter (fun i => i.thing ≠ ("GRPCCore", none))

theorem importsOf_eq {ds : List Dependency} {all : List Import}
    (h : ds.mapM Dependency.toImport = .ok all) :
  importsOf ds = .ok (listedImports all)
  := by
  rw [importsOf, h]
  show Except.ok (coreImport :: firstImports [coreImport.key] all) = _
  rw [firstImports_eq]
  simp only [List.mem_singleton]
  rfl

theorem nodup_map_listedImports (all : List Import) :
  ((listedImports all).map Import.thing).Nodup
  := by
  rw [listedImports, List.map_cons, List.nodup_cons]
  constructor
  · intro h
    obtain ⟨j, hj, hcore⟩ := List.mem_map.mp h
    exact of_decide_eq_true (List.mem_filter.mp hj).2 hcore
  · exact (nodup_map_firstOccurrences all).sublist (List.filter_sublist.map _)

/-- Every thing is imported. -/
theorem exists_mem_listedImports {i : Import} {all : List Import} (h : i ∈ all) :
  ∃ j ∈ listedImports all, j.thing = i.thing
  := by
  by_cases hcore : i.thing = ("GRPCCore", none)
  · exact ⟨{ moduleName := "GRPCCore" }, List.mem_cons_self, hcore.symm⟩
  · have hthing := (mem_map_firstOccurrences_iff i.thing all).mpr (List.mem_map_of_mem h)
    obtain ⟨j, hj, hij⟩ := List.mem_map.mp hthing
    refine ⟨j, List.mem_cons_of_mem _ (List.mem_filter.mpr ⟨hj, ?_⟩), hij⟩
    rw [hij]
    exact decide_eq_true hcore

/-- Of the extra modules in order only the members matter. -/
theorem listedImports_eq_of_sorted (own : List Import) {ms ms' : List String}
    (hms : ms.Pairwise (· ≤ ·)) (hms' : ms'.Pairwise (· ≤ ·)) (h : ∀ m, m ∈ ms ↔ m ∈ ms') :
  listedImports (own ++ ms.map plainImport) = listedImports (own ++ ms'.map plainImport)
  := by
  have hthing : ∀ m m', (plainImport m).thing = (plainImport m').thing ↔ m = m' := by
    simp [plainImport, Import.thing]
  rw [listedImports, listedImports, firstOccurrences_append, firstOccurrences_append,
    firstOccurrences_map hthing, firstOccurrences_map hthing,
    firstOccurrences_eq_of_sorted hms hms' h]

/-! ### Extra modules -/

/-- The extra modules of a configuration, in order. -/
def Configuration.sortedExtra (c : Configuration) : List String :=
  c.extraImports.mergeSort (fun a b => decide (a ≤ b))

theorem Configuration.pairwise_sortedExtra (c : Configuration) :
  c.sortedExtra.Pairwise (· ≤ ·)
  := List.pairwise_mergeSort' (· ≤ ·) _

namespace Request

theorem mapM_withExtraImports (c : Configuration) {r : Request} {own : List Import}
    (h : r.dependencies.mapM Dependency.toImport = .ok own) :
  (r.withExtraImports c).dependencies.mapM Dependency.toImport
    = .ok (own ++ c.sortedExtra.map plainImport)
  := by
  have hextra : List.Forall₂ (fun d i => Dependency.toImport d = .ok i)
      (c.sortedExtra.map (fun m => { moduleName := m })) (c.sortedExtra.map plainImport) := by
    rw [List.forall₂_map_left_iff, List.forall₂_map_right_iff, List.forall₂_same]
    intro m _
    rfl
  rw [mapM_eq_ok_iff] at h ⊢
  exact List.rel_append h hextra

/-- Configurations with the same extra modules make the same file. -/
theorem file_withExtraImports_eq (c : Configuration) (r : Request) {ms : List String}
    (h : ∀ m, m ∈ ms ↔ m ∈ c.extraImports) :
  (r.withExtraImports { c with extraImports := ms }).file { c with extraImports := ms }
    = (r.withExtraImports c).file c
  := by
  have hsame : ∀ m, m ∈ Configuration.sortedExtra { c with extraImports := ms }
      ↔ m ∈ c.sortedExtra := by
    intro m
    rw [Configuration.sortedExtra, Configuration.sortedExtra, List.mem_mergeSort,
      List.mem_mergeSort, h]
  rw [file, file, check_withExtraImports, check_withExtraImports]
  cases hcheck : r.check with
  | error e => rfl
  | ok _ =>
      obtain ⟨own, hown⟩ := exists_mapM_toImport (r.check_eq_ok_iff.mp hcheck).kinds
      rw [importsOf_eq (mapM_withExtraImports c hown),
        importsOf_eq (mapM_withExtraImports { c with extraImports := ms } hown),
        listedImports_eq_of_sorted own (Configuration.pairwise_sortedExtra _)
          c.pairwise_sortedExtra hsame]
      rfl

/-- The imports of the file for a request. -/
structure Imports (c : Configuration) (r : Request) (imports : List Import) : Prop where
  /-- Behind the core module, the first occurrences of other things are imported, among those of the
  dependencies and the extra modules in order. Each is found first among all of these. -/
  listed : ∃ (own : List Import) (extra : List String),
    List.Forall₂ Dependency.Becomes r.dependencies own
    ∧ extra.Perm c.extraImports ∧ extra.Pairwise (· ≤ ·)
    ∧ imports = { moduleName := "GRPCCore" }
      :: (firstOccurrences Import.thing (own ++ extra.map plainImport)).filter
        (fun i => i.thing ≠ ("GRPCCore", none))
    ∧ ∀ i ∈ imports.tail, (own ++ extra.map plainImport).find? (fun j => j.thing = i.thing) = some i
  distinct : (imports.map Import.thing).Nodup
  dependencies : ∀ d ∈ r.dependencies, ∃ i ∈ imports, i.moduleName = d.moduleName
    ∧ i.item.map (fun item => DependencyItem.mk item.kind.keyword item.name) = d.item
  extra : ∀ m ∈ c.extraImports, ∃ i ∈ imports, i.thing = (m, none)

theorem imports_listedImports (c : Configuration) {r : Request} {own : List Import}
    (h : r.dependencies.mapM Dependency.toImport = .ok own) :
  r.Imports c (listedImports (own ++ c.sortedExtra.map plainImport))
  := by
  have hown : List.Forall₂ Dependency.Becomes r.dependencies own := by
    apply (mapM_eq_ok_iff.mp h).imp
    intro d i
    exact Dependency.becomes_of_toImport
  refine ⟨⟨own, c.sortedExtra, hown, List.mergeSort_perm _ _, c.pairwise_sortedExtra, rfl, ?_⟩,
    nodup_map_listedImports _, ?_, ?_⟩
  · intro i hi
    exact find?_of_mem_firstOccurrences (List.mem_of_mem_filter hi)
  · intro d hd
    obtain ⟨i, hi⟩ := exists_mapM_eq_ok_iff.mp ⟨own, h⟩ d hd
    have hbecomes := Dependency.becomes_of_toImport hi
    obtain ⟨j, hj, hkey⟩ :=
      exists_mem_listedImports (List.mem_append_left _ ((mem_of_mapM_eq_ok h i).mpr ⟨d, hd, hi⟩))
    obtain ⟨hmodule, hitem⟩ := Prod.mk.inj hkey
    exact ⟨j, hj, hmodule.trans hbecomes.moduleName, hitem ▸ hbecomes.item⟩
  · intro m hm
    have hsorted : m ∈ c.sortedExtra := List.mem_mergeSort.mpr hm
    exact exists_mem_listedImports
      (List.mem_append_right own (List.mem_map_of_mem (f := plainImport) hsorted))

/-- If the dependencies of a request name kinds of imports that there are, then its file imports the
core module and each other thing once, as it is asked for first, and the order and repetitions of
the extra modules change nothing about what is generated. -/
theorem imports_first_occurrences (m : Memory) (c : Configuration) (r : Request)
    (hkinds : ∀ d ∈ r.dependencies, d.HasKind) :
  (∃ imports, importsOf (r.withExtraImports c).dependencies = .ok imports ∧ r.Imports c imports
      ∧ (r.Acceptable → ∃ f, (r.withExtraImports c).file c = .ok f ∧ f.contents.imports = imports))
    ∧ (∀ ms, (∀ name, name ∈ ms ↔ name ∈ c.extraImports) →
      r.generate m { c with extraImports := ms } = r.generate m c)
    ∧ (r.Acceptable → ((∃ s, r.generate m c = .ok s) ↔ r.Writable m c))
  := by
  obtain ⟨own, hown⟩ := exists_mapM_toImport hkinds
  have himports := importsOf_eq (mapM_withExtraImports c hown)
  refine ⟨⟨_, himports, imports_listedImports c hown, ?_⟩, ?_, ?_⟩
  · intro hacceptable
    have hcheck := (r.withExtraImports c).check_eq_ok_iff.mpr
      ((acceptable_withExtraImports_iff c r).mpr hacceptable)
    exact ⟨_, (file_eq_ok_iff c _ _).mpr ⟨hcheck, _, himports, rfl⟩, rfl⟩
  · intro ms hms
    rw [generate, generate, file_withExtraImports_eq c r hms]
  · intro hacceptable
    rw [exists_generate_eq_ok_iff, and_iff_right hacceptable]

/-- A request that depends on a module in two ways, on one thing of another module and on the core
module. -/
def timers : Request where
  fileName := "timers.proto"
  dependencies := [
    { moduleName := "Dispatch", spi := some "Timers", preconcurrency := .required },
    { moduleName := "Foundation", item := some ⟨"struct", "Date"⟩ },
    { moduleName := "Dispatch" },
    { moduleName := "GRPCCore", spi := some "Clocks" }]

/-- A configuration with extra modules, one of them twice and one that requests may depend on. -/
def timersConfiguration : Configuration :=
  { Configuration.standard with extraImports := ["Zones", "Foundation", "Dispatch", "Zones"] }

theorem timers_imports_first_occurrences :
  (∀ d ∈ timers.dependencies, d.HasKind) ∧ timers.Acceptable
    ∧ (∃ imports f,
      importsOf (timers.withExtraImports timersConfiguration).dependencies = .ok imports
      ∧ timers.Imports timersConfiguration imports
      ∧ (timers.withExtraImports timersConfiguration).file timersConfiguration = .ok f
      ∧ f.contents.imports = imports
      ∧ imports = [
        { moduleName := "GRPCCore" },
        { moduleName := "Dispatch", spi := some "Timers", preconcurrency := .required },
        { moduleName := "Foundation", item := some ⟨.struct, "Date"⟩ },
        { moduleName := "Foundation" },
        { moduleName := "Zones" }])
    ∧ timers.generate .ample
        { timersConfiguration with extraImports := ["Dispatch", "Zones", "Foundation"] }
      = timers.generate .ample timersConfiguration
    ∧ ∃ s, timers.generate .ample timersConfiguration = .ok s
  := by
  have hacceptable : timers.Acceptable := timers.check_eq_ok_iff.mp rfl
  obtain ⟨⟨imports, himports, hlisted, hfile⟩, horder, hwritable⟩ :=
    imports_first_occurrences .ample timersConfiguration timers hacceptable.kinds
  obtain ⟨f, hf, hfimports⟩ := hfile hacceptable
  refine ⟨hacceptable.kinds, hacceptable,
    ⟨imports, f, himports, hlisted, hf, hfimports, ?_⟩, ?_, ?_⟩
  · have hown : timers.dependencies.mapM Dependency.toImport = .ok [
        { moduleName := "Dispatch", spi := some "Timers", preconcurrency := .required },
        { moduleName := "Foundation", item := some ⟨.struct, "Date"⟩ },
        { moduleName := "Dispatch" },
        { moduleName := "GRPCCore", spi := some "Clocks" }] := rfl
    have hsorted : timersConfiguration.sortedExtra
        = ["Dispatch", "Foundation", "Zones", "Zones"] := by
      simp [Configuration.sortedExtra, timersConfiguration, List.mergeSort]
    have hlisted := importsOf_eq (mapM_withExtraImports timersConfiguration hown)
    rw [himports, hsorted] at hlisted
    injection hlisted with hlisted
  · apply horder
    intro m
    simp [timersConfiguration, or_comm, or_left_comm]
  · exact (hwritable hacceptable).mpr (writable_of_moderate (by decide) timers)

end Request

end SwiftStubs
