import SwiftStubs.Proofs.Acceptance
import Mathlib.Data.List.SplitBy
import Mathlib.Data.String.Basic

/-!
# Services by namespace

The alias section takes the services in order and cuts them where the namespace changes. Since the
order goes by namespace first, every namespace is cut out once: `byNamespace_eq` says that the
groups are the services of each namespace, and `aliasSection_eq` what the section then consists of.
-/

namespace SwiftStubs.Stub

open Swift

/-! ### The order -/

/-- The services in the order of the alias section. -/
def ordered (services : List Service) : List Service :=
  services.mergeSort precedes

theorem ordered_perm (services : List Service) :
  (ordered services).Perm services
  := List.mergeSort_perm services precedes

@[simp]
theorem mem_ordered (services : List Service) (s : Service) :
  s ∈ ordered services ↔ s ∈ services
  := (ordered_perm services).mem_iff

/-- One service precedes another if its namespace comes first, or if the namespaces agree and its
name does not come later. -/
theorem precedes_iff (s t : Service) :
  precedes s t = true
    ↔ s.ns.upper < t.ns.upper ∨ (s.ns.upper = t.ns.upper ∧ s.name.upper ≤ t.name.upper)
  := by
  simp [precedes]

theorem precedes_trans (s t u : Service) (hst : precedes s t = true) (htu : precedes t u = true) :
  precedes s u = true
  := by
  rw [precedes_iff] at hst htu ⊢
  obtain hst | ⟨hst, hst'⟩ := hst
  · obtain htu | ⟨htu, -⟩ := htu
    · exact Or.inl (lt_trans hst htu)
    · exact Or.inl (htu ▸ hst)
  · obtain htu | ⟨htu, htu'⟩ := htu
    · exact Or.inl (hst ▸ htu)
    · exact Or.inr ⟨hst.trans htu, le_trans hst' htu'⟩

theorem precedes_total (s t : Service) :
  (precedes s t || precedes t s) = true
  := by
  rw [Bool.or_eq_true, precedes_iff, precedes_iff]
  obtain h | h | h := lt_trichotomy s.ns.upper t.ns.upper
  · exact Or.inl (Or.inl h)
  · obtain h' | h' := le_total s.name.upper t.name.upper
    · exact Or.inl (Or.inr ⟨h, h'⟩)
    · exact Or.inr (Or.inr ⟨h.symm, h'⟩)
  · exact Or.inr (Or.inl h)

/-- Services whose namespaces do not go back. -/
def Sorted (services : List Service) : Prop :=
  services.Pairwise (fun s t => s.ns.upper ≤ t.ns.upper)

theorem sorted_ordered (services : List Service) :
  Sorted (ordered services)
  := by
  apply (List.pairwise_mergeSort precedes_trans precedes_total services).imp
  intro s t h
  obtain h | ⟨h, -⟩ := (precedes_iff s t).mp h
  · exact h.le
  · exact h.le

/-! ### The groups -/

/-- The services of other namespaces. -/
def othersThan (ns : String) (services : List Service) : List Service :=
  services.filter (fun s => s.ns.upper != ns)

theorem mem_othersThan_iff (ns : String) (services : List Service) (s : Service) :
  s ∈ othersThan ns services ↔ s ∈ services ∧ s.ns.upper ≠ ns
  := by
  rw [othersThan, List.mem_filter, bne_iff_ne]

/-- The services of the first namespace come before all others. -/
theorem Sorted.eq_append {ns : String} {services : List Service} (h : Sorted services)
    (hns : ∀ s ∈ services, ns ≤ s.ns.upper) :
  services = servicesOf ns services ++ othersThan ns services
  := by
  induction services with
  | nil => rfl
  | cons s services ih =>
      obtain ⟨hs, hservices⟩ := List.pairwise_cons.mp h
      rw [List.forall_mem_cons] at hns
      by_cases heq : s.ns.upper = ns
      · simpa [servicesOf, othersThan, heq] using ih hservices hns.2
      · have hlater : ∀ t ∈ services, t.ns.upper ≠ ns := by
          intro t ht
          apply ne_of_gt (lt_of_lt_of_le (lt_of_le_of_ne hns.1 (Ne.symm heq)) (hs t ht))
        have hnone : servicesOf ns services = [] := by
          apply List.filter_eq_nil_iff.mpr
          simpa using hlater
        have hall : othersThan ns services = services := by
          apply List.filter_eq_self.mpr
          simpa using hlater
        rw [servicesOf] at hnone
        rw [othersThan] at hall
        simp [servicesOf, othersThan, heq, hnone, hall]

/-- The namespaces are the first one and those of the services of other namespaces. -/
theorem namespaces_cons (s : Service) (services : List Service) :
  namespaces (s :: services) = s.ns.upper :: namespaces (othersThan s.ns.upper services)
  := by
  rw [namespaces, List.map_cons, List.eraseDups_cons, List.filter_map, namespaces, othersThan]
  rfl

theorem othersThan_cons_self (s : Service) (services : List Service) :
  othersThan s.ns.upper (s :: services) = othersThan s.ns.upper services
  := by
  simp [othersThan]

theorem servicesOf_othersThan {ns ns' : String} (h : ns' ≠ ns) (services : List Service) :
  servicesOf ns' (othersThan ns services) = servicesOf ns' services
  := by
  rw [servicesOf, othersThan, List.filter_filter]
  apply List.filter_congr
  intro s _
  by_cases hs : s.ns.upper = ns'
  · simp [hs, h]
  · simp [hs]

/-- The first namespace comes first, and the other services are sorted as well. -/
theorem Sorted.cons_inv {s : Service} {services : List Service} (h : Sorted (s :: services)) :
  (∀ t ∈ s :: services, s.ns.upper ≤ t.ns.upper) ∧ Sorted (othersThan s.ns.upper services)
  := by
  obtain ⟨hs, hservices⟩ := List.pairwise_cons.mp h
  constructor
  · exact List.forall_mem_cons.mpr ⟨le_rfl, hs⟩
  · exact hservices.filter _

/-- Services of one namespace are not cut. -/
theorem splitBy_servicesOf {ns : String} {services : List Service}
    (h : servicesOf ns services ≠ []) :
  (servicesOf ns services).splitBy (fun s t => s.ns.upper == t.ns.upper) = [servicesOf ns services]
  := by
  apply List.splitBy_of_isChain h
  apply List.Pairwise.isChain
  apply List.pairwise_of_forall_mem_list
  intro s hs t ht
  rw [beq_iff_eq, ((mem_servicesOf_iff _ _ _).mp hs).2, ((mem_servicesOf_iff _ _ _).mp ht).2]

/-- Without one namespace there are fewer services. -/
theorem length_othersThan_lt (s : Service) (services : List Service) :
  (othersThan s.ns.upper services).length < (s :: services).length
  := Nat.lt_succ_of_le (List.length_filter_le _ _)

/-- Cutting sorted services where the namespace changes gives the services of each namespace. -/
theorem Sorted.splitBy_eq :
    ∀ {services : List Service}, Sorted services →
      services.splitBy (fun s t => s.ns.upper == t.ns.upper)
        = (namespaces services).map (fun ns => servicesOf ns services)
  | [], _ => rfl
  | s :: services, h => by
      obtain ⟨hfirst, hothers⟩ := h.cons_inv
      have hne : servicesOf s.ns.upper (s :: services) ≠ [] := by
        apply List.ne_nil_of_mem
        apply (mem_servicesOf_iff _ _ s).mpr ⟨List.mem_cons_self, rfl⟩
      have hsplit := h.eq_append hfirst
      rw [othersThan_cons_self] at hsplit
      have hrest : (namespaces (othersThan s.ns.upper services)).map
            (fun ns => servicesOf ns (othersThan s.ns.upper services))
          = (namespaces (othersThan s.ns.upper services)).map
            (fun ns => servicesOf ns (s :: services)) := by
        apply List.map_congr_left
        intro ns hns
        obtain ⟨t, ht, rfl⟩ := (mem_namespaces_iff _ ns).mp hns
        have htns := ((mem_othersThan_iff _ _ t).mp ht).2
        rw [← othersThan_cons_self, servicesOf_othersThan htns]
      conv_lhs => rw [hsplit]
      rw [List.splitBy_append, splitBy_servicesOf hne, Sorted.splitBy_eq hothers, hrest,
        namespaces_cons]
      · rfl
      · intro t ht u hu
        have htns := ((mem_servicesOf_iff _ _ t).mp (List.mem_of_mem_getLast? ht)).2
        have huns := ((mem_othersThan_iff _ _ u).mp (List.mem_of_mem_head? hu)).2
        rw [beq_eq_false_iff_ne, htns]
        exact huns.symm
termination_by services => services.length
decreasing_by apply length_othersThan_lt

/-- The namespaces of sorted services go up. -/
theorem Sorted.namespaces_lt :
    ∀ {services : List Service}, Sorted services → (namespaces services).Pairwise (· < ·)
  | [], _ => List.Pairwise.nil
  | s :: services, h => by
      obtain ⟨hfirst, hothers⟩ := h.cons_inv
      rw [namespaces_cons]
      apply List.pairwise_cons.mpr
      constructor
      · intro ns hns
        obtain ⟨t, ht, rfl⟩ := (mem_namespaces_iff _ ns).mp hns
        obtain ⟨ht, htns⟩ := (mem_othersThan_iff _ _ t).mp ht
        apply lt_of_le_of_ne (hfirst t (List.mem_cons_of_mem s ht)) htns.symm
      · apply Sorted.namespaces_lt hothers
termination_by services => services.length
decreasing_by apply length_othersThan_lt

/-- The groups of the alias section are the services of each namespace. -/
theorem byNamespace_eq (services : List Service) :
  byNamespace services
    = (namespaces (ordered services)).map (fun ns => servicesOf ns (ordered services))
  := (sorted_ordered services).splitBy_eq

/-- The namespaces that the alias section goes through, in its order. -/
def spaces (services : List Service) : List String :=
  namespaces (ordered services)

theorem spaces_lt (services : List Service) :
  (spaces services).Pairwise (· < ·)
  := (sorted_ordered services).namespaces_lt

theorem nodup_spaces (services : List Service) :
  (spaces services).Nodup
  := (spaces_lt services).imp ne_of_lt

theorem mem_spaces_iff (services : List Service) (ns : String) :
  ns ∈ spaces services ↔ ∃ s ∈ services, s.ns.upper = ns
  := by
  simp [spaces, mem_namespaces_iff]

/-! ### The section -/

/-- The enums of the services of a namespace, in order. -/
def enumsOf (style : Style) (sides : Sides) (services : List Service) (ns : String) :
    List Declaration :=
  (servicesOf ns (ordered services)).map (serviceEnum style sides)

/-- The declarations of the alias section for a namespace: the enums of its services, inside of one
enum unless the namespace is none. -/
def spaceDeclarations (style : Style) (sides : Sides) (services : List Service) (ns : String) :
    List Declaration :=
  if ns.isEmpty then enumsOf style sides services ns
  else [.enumeration (some style.access) ns (enumsOf style sides services ns)]

/-- The alias section goes through the namespaces in order. -/
theorem aliasSection_eq (style : Style) (sides : Sides) (services : List Service) :
  aliasSection style sides services
    = ((spaces services).flatMap (spaceDeclarations style sides services)).map Declaration.block
  := by
  rw [aliasSection, byNamespace_eq, List.map_flatMap, List.flatMap_map]
  apply List.flatMap_congr
  intro ns hns
  obtain ⟨s, hs, hsns⟩ := (mem_namespaces_iff _ ns).mp hns
  have hmem := (mem_servicesOf_iff ns _ s).mpr ⟨hs, hsns⟩
  rw [spaceDeclarations, enumsOf]
  cases hgroup : servicesOf ns (ordered services) with
  | nil =>
      rw [hgroup] at hmem
      cases hmem
  | cons t ts =>
      have ht : t ∈ servicesOf ns (ordered services) := by
        rw [hgroup]
        exact List.mem_cons_self
      rw [namespaceBlocks, ((mem_servicesOf_iff _ _ _).mp ht).2]
      split
      · rfl
      · rfl

end SwiftStubs.Stub
