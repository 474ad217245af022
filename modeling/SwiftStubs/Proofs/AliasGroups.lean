import SwiftStubs.Proofs.Wiring
import Mathlib.Data.Prod.Lex

/-!
# The groups of the alias section

The alias section cuts the sorted services where the namespace changes. What comes out is a
partition of the services: `Groups` keeps the services without a namespace and a group for each
namespace, and `Groups.Partitions` says that every service stands in the group of its own namespace
and nowhere else. All groups together are a stable sort of the services (`StablySorted`). No service
has to be distinct from another for this.
-/

namespace SwiftStubs.Stub

open Swift

/-! ### Stable sorting -/

/-- What services are sorted by: the namespace first, and then the name. -/
def sortKey (s : Service) : String ×ₗ String :=
  toLex (s.ns.upper, s.name.upper)

/-- The services with a key. -/
def withKey (key : String ×ₗ String) (services : List Service) : List Service :=
  services.filter (fun s => sortKey s == key)

/-- A stable sort of services: the same services, with keys that do not go back, and in the given
order where the keys agree. -/
structure StablySorted (services sorted : List Service) : Prop where
  perm : sorted.Perm services
  ascending : sorted.Pairwise (fun s t => sortKey s ≤ sortKey t)
  stable : ∀ key, withKey key sorted = withKey key services

theorem precedes_iff_sortKey_le (s t : Service) :
  precedes s t = true ↔ sortKey s ≤ sortKey t
  := by
  rw [precedes_iff, sortKey, sortKey, Prod.Lex.toLex_le_toLex]

/-- Services with the same key stay in order. -/
theorem withKey_ordered (key : String ×ₗ String) (services : List Service) :
  withKey key (ordered services) = withKey key services
  := by
  have hsorted : (withKey key services).Pairwise (fun s t => precedes s t = true) := by
    apply List.pairwise_of_forall_mem_list
    intro s hs t ht
    obtain ⟨-, hs⟩ := List.mem_filter.mp hs
    obtain ⟨-, ht⟩ := List.mem_filter.mp ht
    rw [precedes_iff_sortKey_le, beq_iff_eq.mp hs, beq_iff_eq.mp ht]
  have hsublist : (withKey key services).Sublist (ordered services) :=
    List.sublist_mergeSort precedes_trans precedes_total hsorted List.filter_sublist
  have hpart : (withKey key services).Sublist (withKey key (ordered services)) := by
    have hfiltered := hsublist.filter (fun s => sortKey s == key)
    simpa only [withKey, List.filter_filter, Bool.and_self] using hfiltered
  symm
  apply hpart.eq_of_length
  symm
  apply ((ordered_perm services).filter _).length_eq

theorem stablySorted_ordered (services : List Service) :
  StablySorted services (ordered services)
  := by
  constructor
  · exact ordered_perm services
  · apply (List.pairwise_mergeSort precedes_trans precedes_total services).imp
    intro s t h
    exact (precedes_iff_sortKey_le s t).mp h
  · intro key
    exact withKey_ordered key services

/-! ### Groups -/

/-- Services by namespace. -/
structure Groups where
  /-- The services without a namespace. -/
  lone : List Service
  /-- The other namespaces, each with its services. -/
  spaces : List (String × List Service)

namespace Groups

/-- All services, group by group. -/
def services (g : Groups) : List Service :=
  g.lone ++ g.spaces.flatMap Prod.snd

/-- The blocks of the groups: one for each service without a namespace, and then one enum for each
namespace. -/
def blocks (style : Style) (sides : Sides) (g : Groups) : List Block :=
  g.lone.map (fun s => (serviceEnum style sides s).block)
    ++ g.spaces.map (fun space =>
      (Declaration.enumeration (some style.access) space.1
        (space.2.map (serviceEnum style sides))).block)

/-- The enums of services that stand in the blocks, block by block. -/
def enums (style : Style) (sides : Sides) (g : Groups) : List Declaration :=
  g.lone.map (serviceEnum style sides)
    ++ g.spaces.flatMap (fun space => space.2.map (serviceEnum style sides))

/-- Groups that partition services. -/
structure Partitions (g : Groups) (services : List Service) : Prop where
  /-- The services without a namespace stand by themselves. -/
  lone : g.lone.Perm (servicesOf "" services)
  /-- The services of a namespace stand in its group. -/
  own : ∀ space ∈ g.spaces, space.2.Perm (servicesOf space.1 services)
  /-- There are groups for the namespaces of the services. -/
  spaces : ∀ ns, ns ∈ g.spaces.map Prod.fst ↔ ns ≠ "" ∧ ∃ s ∈ services, s.ns.upper = ns
  /-- The namespaces go up. -/
  ascending : (g.spaces.map Prod.fst).Pairwise (· < ·)

/-- The groups of some services. -/
def ofServices (services : List Service) : Groups where
  lone := servicesOf "" (ordered services)
  spaces := ((Stub.spaces services).filter (fun ns => !ns.isEmpty)).map
    (fun ns => (ns, servicesOf ns (ordered services)))

end Groups

/-! ### The namespace that is none -/

theorem not_lt_empty (s : String) :
  ¬ s < ""
  := by
  rw [String.lt_iff_toList_lt]
  apply List.not_lt_nil

/-- If there are services without a namespace, they come first. -/
theorem spaces_eq_append (services : List Service) :
  spaces services
    = (if "" ∈ spaces services then [""] else [])
      ++ (spaces services).filter (fun ns => !ns.isEmpty)
  := by
  have hsorted := spaces_lt services
  generalize spaces services = names at hsorted
  cases names with
  | nil => rfl
  | cons ns names =>
      obtain ⟨hns, -⟩ := List.pairwise_cons.mp hsorted
      have hbehind : ∀ other ∈ names, other ≠ "" := by
        rintro other hother rfl
        exact not_lt_empty ns (hns "" hother)
      have hnames : names.filter (fun ns => !ns.isEmpty) = names := by
        apply List.filter_eq_self.mpr
        simpa using hbehind
      by_cases hempty : ns = ""
      · simp [hempty, hnames]
      · have hnone : "" ∉ ns :: names := by
          rw [List.mem_cons, not_or]
          exact ⟨Ne.symm hempty, fun h => hbehind "" h rfl⟩
        simp [hnone, hempty, hnames]

/-- What is made of each namespace is made of the one that is none first. -/
theorem flatMap_spaces {α : Type} (services : List Service) (f : String → List α)
    (h : "" ∉ spaces services → f "" = []) :
  (spaces services).flatMap f
    = f "" ++ ((spaces services).filter (fun ns => !ns.isEmpty)).flatMap f
  := by
  conv_lhs => rw [spaces_eq_append, List.flatMap_append]
  congr 1
  split
  · rw [List.flatMap_singleton]
  · next hnone => rw [h hnone, List.flatMap_nil]

theorem servicesOf_eq_nil {services : List Service} {ns : String} (h : ns ∉ spaces services) :
  servicesOf ns (ordered services) = []
  := by
  apply List.filter_eq_nil_iff.mpr
  intro s hs hns
  apply h
  exact (mem_spaces_iff services ns).mpr ⟨s, (mem_ordered services s).mp hs, beq_iff_eq.mp hns⟩

/-! ### The groups of the section -/

namespace Groups

/-- The alias section consists of the blocks of the groups. -/
theorem aliasSection_eq_blocks (style : Style) (sides : Sides) (services : List Service) :
  aliasSection style sides services = (ofServices services).blocks style sides
  := by
  have hlone : spaceDeclarations style sides services "" = enumsOf style sides services "" := rfl
  have hspaces : ((Stub.spaces services).filter (fun ns => !ns.isEmpty)).flatMap
        (spaceDeclarations style sides services)
      = ((Stub.spaces services).filter (fun ns => !ns.isEmpty)).map
        (fun ns => .enumeration (some style.access) ns (enumsOf style sides services ns)) := by
    rw [List.map_eq_flatMap]
    apply List.flatMap_congr
    intro ns hns
    obtain ⟨-, hns⟩ := List.mem_filter.mp hns
    rw [spaceDeclarations, if_neg (by simpa using hns)]
  rw [aliasSection_eq, flatMap_spaces, hspaces, hlone, List.map_append, blocks, ofServices]
  · simp only [enumsOf, List.map_map]
    rfl
  · intro hnone
    rw [hlone, enumsOf, servicesOf_eq_nil hnone, List.map_nil]

theorem services_ofServices (services : List Service) :
  (ofServices services).services = ordered services
  := by
  rw [← flatMap_servicesOf_spaces services, flatMap_spaces services _ servicesOf_eq_nil,
    Groups.services, ofServices, List.flatMap_map]

theorem enums_eq (style : Style) (sides : Sides) (g : Groups) :
  g.enums style sides = g.services.map (serviceEnum style sides)
  := by
  rw [enums, Groups.services, List.map_append, List.map_flatMap]

theorem partitions_ofServices (services : List Service) :
  (ofServices services).Partitions services
  := by
  have hnames : (ofServices services).spaces.map Prod.fst
      = (Stub.spaces services).filter (fun ns => !ns.isEmpty) := by
    rw [ofServices, List.map_map]
    exact List.map_id _
  constructor
  · exact (ordered_perm services).filter _
  · intro space hspace
    obtain ⟨ns, -, rfl⟩ := List.mem_map.mp hspace
    exact (ordered_perm services).filter _
  · intro ns
    rw [hnames, List.mem_filter, mem_spaces_iff, and_comm]
    simp
  · rw [hnames]
    exact (spaces_lt services).filter _

end Groups

/-- The alias section partitions the services. It has one block for each service without a
namespace, and then one enum for each namespace, with the namespaces going up. The enums of the
services, block by block, are those of a stable sort of the services, so that each service has its
enum in the group of its namespace and nowhere else. -/
theorem aliasSection_partitions (style : Style) (sides : Sides) (services : List Service) :
  ∃ (g : Groups) (sorted : List Service),
    aliasSection style sides services = g.blocks style sides
      ∧ g.Partitions services
      ∧ StablySorted services sorted
      ∧ g.services = sorted
      ∧ g.enums style sides = sorted.map (serviceEnum style sides)
  := by
  use Groups.ofServices services, ordered services
  have hservices := Groups.services_ofServices services
  refine ⟨?_, ?_, ?_, hservices, ?_⟩
  · exact Groups.aliasSection_eq_blocks style sides services
  · exact Groups.partitions_ofServices services
  · exact stablySorted_ordered services
  · rw [Groups.enums_eq, hservices]

end SwiftStubs.Stub
