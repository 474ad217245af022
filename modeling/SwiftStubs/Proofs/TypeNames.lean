import SwiftStubs.Proofs.Grouping
import Mathlib.Data.List.Perm.Basic

/-!
# The types that a file declares

A stub file declares types at its top level in three sections: the enums of namespaces and of
services without one, and the protocols and structs of every service. The names of the latter are
made by putting a role behind the name of the service, so that two names can agree although the
parts they are made of differ. `Separated` lists the ways in which that can happen for an accepted
request, and `nodup_typeNames_iff` says that there are no others.
-/

namespace SwiftStubs

open Swift Stub

/-! ### Names of declarations -/

/-- A declaration without the comments and attributes in front of it. -/
def Swift.Declaration.bare : Declaration → Declaration
  | .commented _ d => d.bare
  | .guarded _ d => d.bare
  | d => d

@[simp]
theorem Swift.Declaration.bare_documented (documentation : String) (d : Declaration) :
  (d.documented documentation).bare = d.bare
  := by
  rw [documented]
  split
  · rfl
  · rfl

@[simp]
theorem Swift.Declaration.bare_available (availability : Option Availability) (d : Declaration) :
  (d.available availability).bare = d.bare
  := by
  cases availability with
  | none => rfl
  | some a => rfl

@[simp]
theorem Stub.Style.bare_present (style : Style) (documentation : String) (d : Declaration) :
  (style.present documentation d).bare = d.bare
  := by
  rw [Style.present, Declaration.bare_documented, Declaration.bare_available]

/-- The name of the type that a declaration declares. An extension declares none. -/
def Swift.Declaration.typeName? (d : Declaration) : Option String :=
  match d.bare with
  | .enumeration _ name _ => some name
  | .struct _ name _ _ => some name
  | .protocol _ name _ _ => some name
  | _ => none

/-- The declarations at the top level of a file. -/
def Swift.File.declarations (f : File) : List Declaration :=
  f.blocks.filterMap (fun b => match b with
    | .declaration d _ => some d
    | .expression _ _ => none)

/-- The names of the types that a file declares at its top level. -/
def Swift.File.typeNames (f : File) : List String :=
  f.declarations.filterMap Declaration.typeName?

/-- The declarations of the file for a request, section by section. -/
def Stub.declarations (style : Style) (sides : Sides) (r : Request) : List Declaration :=
  (spaces r.services).flatMap (spaceDeclarations style sides r.services)
    ++ (if sides.server then r.services.flatMap (serverDeclarations style r) else [])
    ++ (if sides.client then r.services.flatMap (clientDeclarations style r) else [])

/-- The blocks of the file for a request are the declarations of its sections. -/
theorem Stub.sections_eq (style : Style) (sides : Sides) (r : Request) :
  sections style sides r = (declarations style sides r).map Declaration.block
  := by
  rw [sections, declarations, aliasSection_eq, List.map_append, List.map_append]
  congr 1
  · congr 1
    split
    · exact List.map_flatMap.symm
    · rfl
  · split
    · exact List.map_flatMap.symm
    · rfl

/-- An accepted request has a file, which consists of the declarations of its sections. -/
theorem Request.file_declarations {r : Request} (c : Configuration) (h : r.check = .ok ()) :
  ∃ f, r.file c = .ok f ∧ f.contents.declarations = declarations c.style c.sides r
  := by
  obtain ⟨f, hf, hblocks⟩ := Request.file_eq_ok c h
  use f, hf
  rw [File.declarations, hblocks, sections_eq, List.filterMap_map]
  exact List.filterMap_some

/-! ### Names at the top level -/

/-- The name of the enum at the top level that holds the enum of a service, or is it. -/
def Service.outerName (s : Service) : String :=
  if s.ns.upper.isEmpty then s.name.upper else s.ns.upper

/-- The names that the alias section declares at the top level. -/
def outerNames (services : List Service) : List String :=
  (spaces services).flatMap (fun ns =>
    if ns.isEmpty then (servicesOf ns (ordered services)).map (fun s => s.name.upper) else [ns])

/-- The names of the protocols and structs of a service. -/
def Service.roleNames (sides : Sides) (s : Service) : List String :=
  (roles sides).map (fun role => s.typeName ++ role)

theorem filterMap_spaceDeclarations (style : Style) (sides : Sides) (services : List Service)
    (ns : String) :
  (spaceDeclarations style sides services ns).filterMap Declaration.typeName?
    = if ns.isEmpty then (servicesOf ns (ordered services)).map (fun s => s.name.upper) else [ns]
  := by
  rw [spaceDeclarations]
  split
  · rw [enumsOf, List.filterMap_map, ← List.filterMap_eq_map]
    rfl
  · rfl

theorem filterMap_serverDeclarations (style : Style) (r : Request) (s : Service) :
  (serverDeclarations style r s).filterMap Declaration.typeName?
    = s.roleNames { server := true, client := false }
  := by
  simp [serverDeclarations, streamingProtocol, registration, serviceProtocol, adapter,
    Declaration.typeName?, Declaration.bare, Service.roleNames, roles]

theorem filterMap_clientDeclarations (style : Style) (r : Request) (s : Service) :
  (clientDeclarations style r s).filterMap Declaration.typeName?
    = s.roleNames { server := false, client := true }
  := by
  simp [clientDeclarations, clientProtocol, overloads, clientStruct, Declaration.typeName?,
    Declaration.bare, Service.roleNames, roles]

/-- Up to their order, the names at the top level are those of the alias section and the roles of
all services. -/
theorem typeNames_perm (style : Style) (sides : Sides) (r : Request) :
  ((declarations style sides r).filterMap Declaration.typeName?).Perm
    (outerNames r.services ++ r.services.flatMap (Service.roleNames sides))
  := by
  obtain ⟨client, server⟩ := sides
  have houter : ((spaces r.services).flatMap
        (spaceDeclarations style ⟨client, server⟩ r.services)).filterMap Declaration.typeName?
      = outerNames r.services := by
    rw [List.filterMap_flatMap, outerNames]
    apply List.flatMap_congr
    intro ns _
    apply filterMap_spaceDeclarations
  simp only [declarations, List.filterMap_append, houter, List.append_assoc]
  apply List.Perm.append_left
  cases server <;> cases client
  · simp [Service.roleNames, roles]
  · simp [List.filterMap_flatMap, filterMap_clientDeclarations]
  · simp [List.filterMap_flatMap, filterMap_serverDeclarations]
  · simp only [if_true, List.filterMap_flatMap, filterMap_clientDeclarations,
      filterMap_serverDeclarations]
    apply List.flatMap_append_perm _ _ _

/-! ### The names of the alias section -/

theorem mem_outerNames_iff (services : List Service) (name : String) :
  name ∈ outerNames services ↔ ∃ s ∈ services, s.outerName = name
  := by
  rw [outerNames, List.mem_flatMap]
  constructor
  · rintro ⟨ns, hns, hname⟩
    split at hname
    · next hempty =>
        obtain ⟨s, hs, rfl⟩ := List.mem_map.mp hname
        obtain ⟨hmem, rfl⟩ := (mem_servicesOf_iff ns _ s).mp hs
        use s, (mem_ordered services s).mp hmem
        rw [Service.outerName, if_pos hempty]
    · next hempty =>
        obtain ⟨s, hs, rfl⟩ := (mem_spaces_iff services ns).mp hns
        use s, hs
        rw [Service.outerName, if_neg hempty]
        apply (List.mem_singleton.mp hname).symm
  · rintro ⟨s, hs, rfl⟩
    use s.ns.upper, (mem_spaces_iff services _).mpr ⟨s, hs, rfl⟩
    rw [Service.outerName]
    split
    · apply List.mem_map_of_mem
      apply (mem_servicesOf_iff _ _ s).mpr ⟨(mem_ordered services s).mpr hs, rfl⟩
    · apply List.mem_singleton_self _

/-- A name of the alias section belongs to one namespace only. -/
theorem disjoint_outerNames {services : List Service} (h : LoneServicesApart services)
    {ns ns' : String} (hns' : ns' ∈ spaces services) (hne : ns ≠ ns') {name : String}
    (hempty : ns.isEmpty) (hname : name ∈ (servicesOf ns (ordered services)).map
      (fun s => s.name.upper)) :
  name ≠ ns'
  := by
  obtain rfl := String.isEmpty_iff.mp hempty
  obtain ⟨s, hs, rfl⟩ := List.mem_map.mp hname
  obtain ⟨hs, hlone⟩ := (mem_servicesOf_iff "" _ s).mp hs
  obtain ⟨t, ht, rfl⟩ := (mem_spaces_iff services ns').mp hns'
  apply h s ((mem_ordered services s).mp hs) t ht hlone hne.symm

/-- The alias section of an accepted request declares no name twice. -/
theorem nodup_outerNames {services : List Service} (hlone : LoneServicesApart services)
    (hservices : ServicesApart services) :
  (outerNames services).Nodup
  := by
  apply List.nodup_flatMap.mpr
  constructor
  · intro ns _
    split
    · have hperm : (servicesOf ns (ordered services)).Perm (servicesOf ns services) :=
        (ordered_perm services).filter _
      rw [(hperm.map _).nodup_iff]
      apply (servicesApart_iff services).mp hservices ns
    · apply List.nodup_singleton ns
  · apply (nodup_spaces services).imp_of_mem
    intro ns ns' hns hns' hne name hname hname'
    dsimp only at hname hname'
    split at hname
    · next hempty =>
        split at hname'
        · next hempty' =>
            rw [String.isEmpty_iff] at hempty hempty'
            apply hne (hempty.trans hempty'.symm)
        · apply disjoint_outerNames hlone hns' hne hempty hname (List.mem_singleton.mp hname')
    · obtain rfl := List.mem_singleton.mp hname
      split at hname'
      · next hempty' => exact disjoint_outerNames hlone hns hne.symm hempty' hname' rfl
      · apply hne (List.mem_singleton.mp hname')

/-! ### The names of roles -/

/-- Of two endings of a text one is an ending of the other. -/
theorem suffix_or_suffix_of_append_eq {a b x y : String} (h : a ++ x = b ++ y) :
  x.toList <:+ y.toList ∨ y.toList <:+ x.toList
  := by
  have hlist : a.toList ++ x.toList = b.toList ++ y.toList := by
    rw [← String.toList_append, h, String.toList_append]
  have hx : x.toList <:+ a.toList ++ x.toList := List.suffix_append _ _
  have hy : y.toList <:+ a.toList ++ x.toList := by
    rw [hlist]
    apply List.suffix_append _ _
  apply List.suffix_or_suffix_of_suffix hx hy

/-- The longer of the two roles of which one is an ending of the other. -/
theorem append_streaming (a : String) :
  a ++ "StreamingServiceProtocol" = (a ++ "Streaming") ++ "ServiceProtocol"
  := by
  rw [String.append_assoc]
  rfl

/-- Apart from the roles of the two protocols of a server, no role is an ending of another. -/
theorem roles_suffix (sides : Sides) :
  ∀ role ∈ roles sides, ∀ role' ∈ roles sides,
    role = role'
      ∨ (role = "ServiceProtocol" ∧ role' = "StreamingServiceProtocol")
      ∨ (role = "StreamingServiceProtocol" ∧ role' = "ServiceProtocol")
      ∨ ¬ (role.toList <:+ role'.toList ∨ role'.toList <:+ role.toList)
  := by
  obtain ⟨client, server⟩ := sides
  cases client <;> cases server <;> decide

/-- Two names with roles agree if the roles and the names in front do, or if one name in front is
the other with what the role of the other starts with. -/
theorem append_role_eq_iff {sides : Sides} {role role' : String} (h : role ∈ roles sides)
    (h' : role' ∈ roles sides) (a b : String) :
  a ++ role = b ++ role'
    ↔ (role = role' ∧ a = b)
      ∨ (role = "ServiceProtocol" ∧ role' = "StreamingServiceProtocol" ∧ a = b ++ "Streaming")
      ∨ (role = "StreamingServiceProtocol" ∧ role' = "ServiceProtocol" ∧ b = a ++ "Streaming")
  := by
  obtain rfl | ⟨rfl, rfl⟩ | ⟨rfl, rfl⟩ | hsuffix := roles_suffix sides role h role' h'
  · rw [String.append_left_inj]
    constructor
    · intro hab
      exact Or.inl ⟨rfl, hab⟩
    · rintro (⟨-, hab⟩ | ⟨rfl, heq, -⟩ | ⟨rfl, heq, -⟩)
      · exact hab
      · exact absurd heq (by decide)
      · exact absurd heq (by decide)
  · rw [append_streaming, String.append_left_inj]
    simp
  · rw [append_streaming, String.append_left_inj, eq_comm]
    simp
  · have hne : a ++ role ≠ b ++ role' := fun h => hsuffix (suffix_or_suffix_of_append_eq h)
    simp only [hne, false_iff]
    rintro (⟨rfl, -⟩ | ⟨rfl, rfl, -⟩ | ⟨rfl, rfl, -⟩)
    · apply hsuffix (Or.inl List.suffix_rfl)
    · apply hsuffix (by decide)
    · apply hsuffix (by decide)

theorem nodup_roles (sides : Sides) :
  (roles sides).Nodup
  := by
  obtain ⟨client, server⟩ := sides
  cases client <;> cases server <;> decide

theorem nodup_roleNames (sides : Sides) (s : Service) :
  (s.roleNames sides).Nodup
  := by
  apply (nodup_roles sides).map
  intro role role' h
  apply (String.append_right_inj _).mp h

/-! ### Separated services -/

/-- A service has two types for the server and two for the client. -/
inductive HasRole (sides : Sides) : String → Prop
  | streamingServiceProtocol (h : sides.server) : HasRole sides "StreamingServiceProtocol"
  | serviceProtocol (h : sides.server) : HasRole sides "ServiceProtocol"
  | clientProtocol (h : sides.client) : HasRole sides "ClientProtocol"
  | client (h : sides.client) : HasRole sides "Client"

theorem HasRole.side {sides : Sides} {role : String} (h : HasRole sides role) :
  sides.server ∨ sides.client
  := by
  cases h with
  | streamingServiceProtocol h => exact Or.inl h
  | serviceProtocol h => exact Or.inl h
  | clientProtocol h => exact Or.inr h
  | client h => exact Or.inr h

theorem mem_roles_iff (sides : Sides) (role : String) :
  role ∈ roles sides ↔ HasRole sides role
  := by
  simp only [roles, List.mem_append, List.mem_ite_nil_right, List.mem_cons, List.not_mem_nil,
    or_false]
  constructor
  · rintro (⟨h, rfl | rfl⟩ | ⟨h, rfl | rfl⟩)
    · exact HasRole.streamingServiceProtocol h
    · exact HasRole.serviceProtocol h
    · exact HasRole.clientProtocol h
    · exact HasRole.client h
  · intro h
    cases h with
    | streamingServiceProtocol h => exact Or.inl ⟨h, Or.inl rfl⟩
    | serviceProtocol h => exact Or.inl ⟨h, Or.inr rfl⟩
    | clientProtocol h => exact Or.inr ⟨h, Or.inl rfl⟩
    | client h => exact Or.inr ⟨h, Or.inr rfl⟩

/-- The ways in which names at the top level can agree, all excluded: two services may have one
name in front of their roles, the name of one may be that of another followed by `Streaming`, and
an enum may be called like a protocol or struct of some service. -/
structure Separated (sides : Sides) (services : List Service) : Prop where
  typeNames : sides.server ∨ sides.client → (services.map Service.typeName).Nodup
  streaming : sides.server → ∀ s ∈ services, ∀ t ∈ services,
    s.typeName ≠ t.typeName ++ "Streaming"
  outerNames : ∀ s ∈ services, ∀ t ∈ services, ∀ role, HasRole sides role →
    s.outerName ≠ t.typeName ++ role

/-- Two services have no name in common. -/
def RolesApart (sides : Sides) (s t : Service) : Prop :=
  (sides.server ∨ sides.client → s.typeName ≠ t.typeName)
    ∧ (sides.server → s.typeName ≠ t.typeName ++ "Streaming"
      ∧ t.typeName ≠ s.typeName ++ "Streaming")

theorem disjoint_roleNames_iff (sides : Sides) (s t : Service) :
  (s.roleNames sides).Disjoint (t.roleNames sides) ↔ RolesApart sides s t
  := by
  have hpairs : (s.roleNames sides).Disjoint (t.roleNames sides)
      ↔ ∀ role, HasRole sides role → ∀ role', HasRole sides role' →
        s.typeName ++ role ≠ t.typeName ++ role' := by
    simp only [Service.roleNames, List.disjoint_left, List.mem_map, not_exists, not_and,
      forall_exists_index, and_imp, forall_apply_eq_imp_iff₂, mem_roles_iff]
    constructor
    · intro h role hrole role' hrole' heq
      apply h role hrole role' hrole' heq.symm
    · intro h role hrole role' hrole' heq
      apply h role hrole role' hrole' heq.symm
  rw [hpairs, RolesApart]
  constructor
  · intro h
    constructor
    · intro hside heq
      obtain hserver | hclient := hside
      · have hrole := HasRole.serviceProtocol hserver
        apply h _ hrole _ hrole (by rw [heq])
      · have hrole := HasRole.client hclient
        apply h _ hrole _ hrole (by rw [heq])
    · intro hserver
      have hstreaming := HasRole.streamingServiceProtocol hserver
      have hservice := HasRole.serviceProtocol hserver
      constructor
      · intro heq
        apply h _ hservice _ hstreaming (by rw [heq, append_streaming])
      · intro heq
        apply h _ hstreaming _ hservice (by rw [heq, append_streaming])
  · rintro ⟨hne, hstreaming⟩ role hrole role' hrole' heq
    have hserver : role = "ServiceProtocol" ∨ role = "StreamingServiceProtocol" →
        sides.server = true := by
      intro hname
      cases hrole with
      | streamingServiceProtocol h => exact h
      | serviceProtocol h => exact h
      | clientProtocol => exact absurd hname (by decide)
      | client => exact absurd hname (by decide)
    obtain ⟨-, heq⟩ | ⟨hservice, -, heq⟩ | ⟨hservice, -, heq⟩ :=
      (append_role_eq_iff ((mem_roles_iff sides role).mpr hrole)
        ((mem_roles_iff sides role').mpr hrole') _ _).mp heq
    · apply hne hrole.side heq
    · apply (hstreaming (hserver (Or.inl hservice))).1 heq
    · apply (hstreaming (hserver (Or.inr hservice))).2 heq

theorem pairwise_rolesApart_iff (sides : Sides) (services : List Service) :
  services.Pairwise (RolesApart sides)
    ↔ (sides.server ∨ sides.client → (services.map Service.typeName).Nodup)
      ∧ (sides.server → ∀ s ∈ services, ∀ t ∈ services, s.typeName ≠ t.typeName ++ "Streaming")
  := by
  constructor
  · intro h
    constructor
    · intro hside
      apply List.pairwise_map.mpr
      apply h.imp (fun hst => hst.1 hside)
    · intro hserver
      have hself : ∀ s : Service, s.typeName ≠ s.typeName ++ "Streaming" := by
        intro s heq
        have hlength := congrArg String.length heq
        rw [String.length_append] at hlength
        simp at hlength
      have hpairs := h.imp (fun hst => hst.2 hserver)
      intro s hs t ht
      apply List.Pairwise.forall_of_forall_of_flip (fun s _ => hself s)
        (hpairs.imp And.left) (hpairs.imp And.right) hs ht
  · rintro ⟨hnames, hstreaming⟩
    by_cases hside : sides.server ∨ sides.client
    · apply (List.pairwise_map.mp (hnames hside)).imp_of_mem
      intro s t hs ht hne
      constructor
      · exact fun _ => hne
      · exact fun hserver => ⟨hstreaming hserver s hs t ht, hstreaming hserver t ht s hs⟩
    · apply List.pairwise_of_forall_mem_list
      intro s _ t _
      constructor
      · exact fun h => absurd h hside
      · exact fun h => absurd (Or.inl h) hside

/-- The names at the top level of the file for an accepted request are distinct if and only if its
services are separated. -/
theorem nodup_typeNames_iff (style : Style) (sides : Sides) {r : Request} (h : r.Acceptable) :
  ((declarations style sides r).filterMap Declaration.typeName?).Nodup
    ↔ Separated sides r.services
  := by
  have hroles : (r.services.flatMap (Service.roleNames sides)).Nodup
      ↔ r.services.Pairwise (RolesApart sides) := by
    rw [List.nodup_flatMap]
    constructor
    · rintro ⟨-, h⟩
      apply h.imp (fun hst => (disjoint_roleNames_iff sides _ _).mp hst)
    · intro h
      use fun s _ => nodup_roleNames sides s
      apply h.imp (fun hst => (disjoint_roleNames_iff sides _ _).mpr hst)
  rw [(typeNames_perm style sides r).nodup_iff, List.nodup_append', hroles,
    pairwise_rolesApart_iff]
  constructor
  · rintro ⟨-, ⟨hnames, hstreaming⟩, hdisjoint⟩
    refine ⟨hnames, hstreaming, ?_⟩
    intro s hs t ht role hrole heq
    apply hdisjoint ((mem_outerNames_iff _ _).mpr ⟨s, hs, rfl⟩)
    rw [heq]
    apply List.mem_flatMap.mpr ⟨t, ht, List.mem_map_of_mem ((mem_roles_iff _ role).mpr hrole)⟩
  · rintro ⟨hnames, hstreaming, houter⟩
    refine ⟨nodup_outerNames h.loneServices h.services, ⟨hnames, hstreaming⟩, ?_⟩
    intro name hname hname'
    obtain ⟨s, hs, rfl⟩ := (mem_outerNames_iff _ name).mp hname
    obtain ⟨t, ht, hrole⟩ := List.mem_flatMap.mp hname'
    obtain ⟨role, hrole, heq⟩ := List.mem_map.mp hrole
    apply houter s hs t ht role ((mem_roles_iff _ role).mp hrole) heq.symm

/-- An accepted request has a file, and the types that the file declares at its top level have
distinct names exactly if the services of the request are separated. -/
theorem Request.typeNames_distinct_iff_separated (c : Configuration) {r : Request}
    (h : r.check = .ok ()) :
  ∃ f, r.file c = .ok f ∧ (f.contents.typeNames.Nodup ↔ Separated c.sides r.services)
  := by
  obtain ⟨f, hf, hdeclarations⟩ := Request.file_declarations c h
  use f, hf
  rw [File.typeNames, hdeclarations]
  apply nodup_typeNames_iff
  apply (Request.check_eq_ok_iff r).mp h

theorem Request.greetings_separated :
  Separated {} greetings.services
  := by
  have houter : ∀ s ∈ greetings.services, ∀ t ∈ greetings.services, ∀ role ∈ roles {},
      s.outerName ≠ t.typeName ++ role := by
    decide
  constructor
  · decide
  · decide
  · intro s hs t ht role hrole
    apply houter s hs t ht role ((mem_roles_iff _ role).mpr hrole)

theorem Request.typeNames_greetings_distinct :
  ∃ f, greetings.file .standard = .ok f ∧ f.contents.typeNames.Nodup
  := by
  obtain ⟨f, hf, h⟩ := typeNames_distinct_iff_separated .standard check_greetings
  exact ⟨f, hf, h.mpr greetings_separated⟩

/-- Two services of one namespace, of which one is called like the other with `Streaming` behind
it. -/
def Request.clashing : Request where
  fileName := "hello.proto"
  services := [
    { name := ⟨"Greeter", "Greeter", "greeter"⟩
      ns := ⟨"hello", "Hello", "hello"⟩ },
    { name := ⟨"GreeterStreaming", "GreeterStreaming", "greeterStreaming"⟩
      ns := ⟨"hello", "Hello", "hello"⟩ }]

/-- The two services are accepted, and their file declares a protocol twice. -/
theorem Request.typeNames_clashing_repeated :
  clashing.check = .ok ()
    ∧ ∃ f, clashing.file .standard = .ok f ∧ ¬ f.contents.typeNames.Nodup
  := by
  have hcheck : clashing.check = .ok () := rfl
  use hcheck
  obtain ⟨f, hf, hdeclarations⟩ := Request.file_declarations .standard hcheck
  use f, hf
  rw [File.typeNames, hdeclarations, nodup_typeNames_iff _ _ ((check_eq_ok_iff _).mp hcheck)]
  intro h
  exact absurd (h.streaming rfl) (by decide)

end SwiftStubs
