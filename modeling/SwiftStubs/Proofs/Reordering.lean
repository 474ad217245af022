import SwiftStubs.Proofs.Grouping
import SwiftStubs.Proofs.SourceText
import Mathlib.Data.List.FinRange

/-!
# Services in another order

The order in which services come decides about little. Whether a request is accepted is a matter of
which names there are, not of where. The alias section puts the services in an order of its own, and
in an accepted request no two of them can change places in it, since no two agree in both namespace
and name. Only the server and the client section follow the services: a group of blocks for each,
which does not depend on the other services (`Request.reordering_moves_groups`).
-/

namespace SwiftStubs

open Swift Stub

/-! ### Lists in another order -/

/-- A list in another order: at each place stands what stood at the place that the permutation
says. -/
def reordered {α : Type} (xs : List α) (σ : Equiv.Perm (Fin xs.length)) : List α :=
  List.ofFn (fun i => xs.get (σ i))

theorem reordered_perm {α : Type} (xs : List α) (σ : Equiv.Perm (Fin xs.length)) :
  (reordered xs σ).Perm xs
  := by
  have h := σ.ofFn_comp_perm xs.get
  rw [List.ofFn_get] at h
  exact h

/-- A request with its services in another order. -/
def Request.reordered (r : Request) (σ : Equiv.Perm (Fin r.services.length)) : Request :=
  { r with services := SwiftStubs.reordered r.services σ }

/-! ### Acceptance -/

section

variable {services services' : List Service}

theorem LoneServicesApart.perm (h : LoneServicesApart services)
    (hperm : services'.Perm services) :
  LoneServicesApart services'
  := by
  intro s hs t ht
  apply h s (hperm.subset hs) t (hperm.subset ht)

theorem ServicesApart.perm (h : ServicesApart services) (hperm : services'.Perm services) :
  ServicesApart services'
  := by
  rw [servicesApart_iff] at h ⊢
  intro ns
  have hgroup : (servicesOf ns services').Perm (servicesOf ns services) := hperm.filter _
  apply (hgroup.map _).nodup_iff.mpr (h ns)

/-- Two services that are told apart by namespace and name are one if they agree in both. -/
theorem ServicesApart.eq_of_names (h : ServicesApart services) {s t : Service}
    (hs : s ∈ services) (ht : t ∈ services) (hns : s.ns.upper = t.ns.upper)
    (hname : s.name.upper = t.name.upper) :
  s = t
  := by
  apply List.inj_on_of_nodup_map ((servicesApart_iff services).mp h s.ns.upper) _ _ hname
  · apply (mem_servicesOf_iff _ _ s).mpr ⟨hs, rfl⟩
  · apply (mem_servicesOf_iff _ _ t).mpr ⟨ht, hns.symm⟩

end

/-- A request stays acceptable when its services come in another order. -/
theorem Request.Acceptable.perm {r : Request} (h : r.Acceptable) {services : List Service}
    (hperm : services.Perm r.services) :
  ({ r with services := services } : Request).Acceptable
  where
  kinds := h.kinds
  wireNames := (hperm.map _).nodup_iff.mpr h.wireNames
  loneServices := h.loneServices.perm hperm
  services := h.services.perm hperm
  methods := fun s hs => h.methods s (hperm.subset hs)

theorem Request.acceptable_reordered_iff (r : Request) (σ : Equiv.Perm (Fin r.services.length)) :
  (r.reordered σ).Acceptable ↔ r.Acceptable
  := by
  have hperm := reordered_perm r.services σ
  constructor
  · intro h
    apply h.perm hperm.symm
  · intro h
    apply h.perm hperm

/-! ### Sections -/

/-- Services that are told apart have one order only in the alias section. -/
theorem ordered_eq_of_perm {services services' : List Service} (h : ServicesApart services)
    (hperm : services'.Perm services) :
  ordered services' = ordered services
  := by
  have hsorted : ∀ services, (ordered services).Pairwise (fun s t => precedes s t = true) :=
    List.pairwise_mergeSort precedes_trans precedes_total
  have hperm' : (ordered services').Perm (ordered services) :=
    (ordered_perm services').trans (hperm.trans (ordered_perm services).symm)
  apply List.Perm.eq_of_pairwise _ (hsorted services') (hsorted services) hperm'
  intro s t hs ht hst hts
  rw [precedes_iff] at hst hts
  rw [mem_ordered] at hs ht
  obtain hlt | ⟨hns, hname⟩ := hst
  · obtain hgt | ⟨heq, -⟩ := hts
    · exact absurd hgt (lt_asymm hlt)
    · exact absurd heq.symm hlt.ne
  · obtain hgt | ⟨-, hname'⟩ := hts
    · exact absurd hns.symm hgt.ne
    · exact h.eq_of_names (hperm.subset hs) ht hns (le_antisymm hname hname')

/-- The alias section of services that are told apart does not depend on their order. -/
theorem aliasSection_eq_of_perm (style : Style) (sides : Sides) {services services' : List Service}
    (h : ServicesApart services) (hperm : services'.Perm services) :
  aliasSection style sides services' = aliasSection style sides services
  := by
  have hordered := ordered_eq_of_perm h hperm
  rw [ordered, ordered] at hordered
  rw [aliasSection, aliasSection, byNamespace, byNamespace, hordered]

/-- The blocks of a file with the given blocks for each service. -/
def grouped (sides : Sides) (aliases : List Block) (server client : Service → List Block)
    (services : List Service) : List Block :=
  aliases ++ (if sides.server then services.flatMap server else [])
    ++ (if sides.client then services.flatMap client else [])

/-- The order of services moves groups of blocks and nothing else. A request is accepted if and only
if it is with its services in another order. The two files have then the same comment on top, the
same imports and the same alias section, followed by the same four and three blocks for each
service, which stand in the order of the services. -/
theorem Request.reordering_moves_groups (r : Request) (σ : Equiv.Perm (Fin r.services.length)) :
  ((r.reordered σ).check = .ok () ↔ r.check = .ok ())
    ∧ (r.check = .ok () → ∀ c : Configuration,
      ∃ f f' server client, r.file c = .ok f ∧ (r.reordered σ).file c = .ok f'
        ∧ f'.name = f.name
        ∧ f'.contents.topComment = f.contents.topComment
        ∧ f'.contents.imports = f.contents.imports
        ∧ (∀ s, (server s).length = 4) ∧ (∀ s, (client s).length = 3)
        ∧ f.contents.blocks
          = grouped c.sides (aliasSection c.style c.sides r.services) server client r.services
        ∧ f'.contents.blocks
          = grouped c.sides (aliasSection c.style c.sides r.services) server client
            (SwiftStubs.reordered r.services σ))
  := by
  have haccepted : (r.reordered σ).check = .ok () ↔ r.check = .ok () := by
    rw [check_eq_ok_iff, check_eq_ok_iff, acceptable_reordered_iff]
  refine ⟨haccepted, ?_⟩
  intro h c
  have hacceptable := (check_eq_ok_iff r).mp h
  obtain ⟨is, his⟩ := importsOf_eq_ok hacceptable.kinds
  have haliases := aliasSection_eq_of_perm c.style c.sides hacceptable.services
    (reordered_perm r.services σ)
  use ⟨stripExtension r.fileName, topComment r, is, sections c.style c.sides r⟩,
    ⟨stripExtension r.fileName, topComment r, is, sections c.style c.sides (r.reordered σ)⟩,
    fun s => (serverDeclarations c.style r s).map Declaration.block,
    fun s => (clientDeclarations c.style r s).map Declaration.block
  refine ⟨?_, ?_, rfl, rfl, rfl, fun _ => rfl, fun _ => rfl, rfl, ?_⟩
  · exact (file_eq_ok_iff c r _).mpr ⟨h, is, his, rfl⟩
  · exact (file_eq_ok_iff c _ _).mpr ⟨haccepted.mpr h, is, his, rfl⟩
  · rw [grouped, ← haliases]
    rfl

/-- The permutation that exchanges the two services of the example. -/
def Request.exchange : Equiv.Perm (Fin greetings.services.length) :=
  Equiv.swap ⟨0, by decide⟩ ⟨1, by decide⟩

theorem Request.greetings_exchange_moves_groups :
  (greetings.reordered exchange).services = greetings.services.reverse
    ∧ greetings.check = .ok () ∧ (greetings.reordered exchange).check = .ok ()
    ∧ ∃ f f' server client, greetings.file .standard = .ok f
      ∧ (greetings.reordered exchange).file .standard = .ok f'
      ∧ f.contents.blocks
        = aliasSection Configuration.standard.style {} greetings.services
          ++ greetings.services.flatMap server ++ greetings.services.flatMap client
      ∧ f'.contents.blocks
        = aliasSection Configuration.standard.style {} greetings.services
          ++ greetings.services.reverse.flatMap server ++ greetings.services.reverse.flatMap client
  := by
  have hreverse : (greetings.reordered exchange).services = greetings.services.reverse := rfl
  obtain ⟨haccepted, hfiles⟩ := greetings.reordering_moves_groups exchange
  obtain ⟨f, f', server, client, hf, hf', -, -, -, -, -, hblocks, hblocks'⟩ :=
    hfiles check_greetings .standard
  exact ⟨hreverse, check_greetings, haccepted.mpr check_greetings, f, f', server, client, hf, hf',
    hblocks, hblocks'⟩

end SwiftStubs
