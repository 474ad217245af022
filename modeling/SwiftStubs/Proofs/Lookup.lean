import SwiftStubs.Proofs.TypeNames

/-!
# Looking up names in a file

A path leads through enums, one for each of its names, and may lead to several places or to none.
For an accepted request the names of a service lead to one enum, the one that the alias section
declares for it, and the names of its methods and roles lead on from there.
-/

namespace SwiftStubs

open Swift Stub

/-! ### Looking up names -/

namespace Swift.Declaration

/-- The name and the members of an enum. -/
def enum? (d : Declaration) : Option (String × List Declaration) :=
  match d.bare with
  | .enumeration _ name ms => some (name, ms)
  | _ => none

/-- The name and the target of an alias. -/
def alias? (d : Declaration) : Option (String × String) :=
  match d.bare with
  | .typeAlias _ name target => some (name, target)
  | _ => none

/-- The name and the value of a static constant. -/
def static? (d : Declaration) : Option (String × Option Expression) :=
  match d.bare with
  | .constant _ name true _ value => some (name, value)
  | _ => none

/-- The name of a protocol or struct. -/
def nominal? (d : Declaration) : Option String :=
  match d.bare with
  | .protocol _ name _ _ => some name
  | .struct _ name _ _ => some name
  | _ => none

end Swift.Declaration

/-- What belongs to a name, of things with names. -/
def belonging {α : Type} (name : String) (xs : List (String × α)) : List α :=
  xs.filterMap (fun x => if x.1 = name then some x.2 else none)

/-- The members of the enums with a name. -/
def enumsNamed (name : String) (ds : List Declaration) : List (List Declaration) :=
  belonging name (ds.filterMap Declaration.enum?)

/-- The targets of the aliases with a name. -/
def aliasesNamed (name : String) (ds : List Declaration) : List String :=
  belonging name (ds.filterMap Declaration.alias?)

/-- The values of the static constants with a name. -/
def staticsNamed (name : String) (ds : List Declaration) : List (Option Expression) :=
  belonging name (ds.filterMap Declaration.static?)

/-- The names of enums, in order. -/
def enumNames (ds : List Declaration) : List String :=
  (ds.filterMap Declaration.enum?).map Prod.fst

/-- The members of the enums that a path leads to. -/
def reach : List String → List Declaration → List (List Declaration)
  | [], ds => [ds]
  | name :: path, ds => (enumsNamed name ds).flatMap (reach path)

/-- A path is continued from where its first part leads to. -/
theorem reach_append (path path' : List String) (ds : List Declaration) :
  reach (path ++ path') ds = (reach path ds).flatMap (reach path')
  := by
  induction path generalizing ds with
  | nil => simp [reach]
  | cons name path ih =>
      rw [List.cons_append, reach, reach, List.flatMap_assoc]
      apply List.flatMap_congr
      intro ms _
      apply ih

theorem reach_append_of_eq {path : List String} {ds ms : List Declaration}
    (h : reach path ds = [ms]) (path' : List String) :
  reach (path ++ path') ds = reach path' ms
  := by
  rw [reach_append, h, List.flatMap_singleton]

theorem enumsNamed_append (name : String) (ds ds' : List Declaration) :
  enumsNamed name (ds ++ ds') = enumsNamed name ds ++ enumsNamed name ds'
  := by
  rw [enumsNamed, List.filterMap_append, belonging, List.filterMap_append]
  rfl

theorem enumsNamed_flatMap {α : Type} (name : String) (xs : List α) (g : α → List Declaration) :
  enumsNamed name (xs.flatMap g) = xs.flatMap (fun x => enumsNamed name (g x))
  := by
  rw [enumsNamed, List.filterMap_flatMap, belonging, List.filterMap_flatMap]
  rfl

/-! ### Unique names -/

/-- If all but one of the parts of a concatenation are empty, it is that one. -/
theorem flatMap_eq_of_unique {α β : Type} {xs : List α} (hxs : xs.Nodup) {x : α} (hx : x ∈ xs)
    {g : α → List β} (h : ∀ y ∈ xs, y ≠ x → g y = []) :
  xs.flatMap g = g x
  := by
  obtain ⟨front, back, rfl⟩ := List.append_of_mem hx
  have hfront : front.flatMap g = [] := by
    apply List.flatMap_eq_nil_iff.mpr
    intro y hy
    apply h y (List.mem_append_left _ hy)
    rintro rfl
    apply List.disjoint_of_nodup_append hxs hy List.mem_cons_self
  have hback : back.flatMap g = [] := by
    apply List.flatMap_eq_nil_iff.mpr
    intro y hy
    apply h y (List.mem_append_right _ (List.mem_cons_of_mem x hy))
    rintro rfl
    apply (List.nodup_cons.mp (List.nodup_append.mp hxs).2.1).1 hy
  rw [List.flatMap_append, List.flatMap_cons, hfront, hback, List.nil_append, List.append_nil]

/-- Among things with distinct names, one thing belongs to the name of each. -/
theorem belonging_map {α β : Type} {xs : List α} {name : α → String} (hxs : (xs.map name).Nodup)
    (g : α → β) {x : α} (hx : x ∈ xs) :
  belonging (name x) (xs.map (fun y => (name y, g y))) = [g x]
  := by
  have hparts : belonging (name x) (xs.map (fun y => (name y, g y)))
      = xs.flatMap (fun y => if name y = name x then [g y] else []) := by
    rw [belonging, List.filterMap_map, List.filterMap_eq_flatMap_toList]
    apply List.flatMap_congr
    intro y _
    dsimp only [Function.comp]
    split
    · rfl
    · rfl
  rw [hparts, flatMap_eq_of_unique hxs.of_map hx]
  · rw [if_pos rfl]
  · intro y hy hne
    rw [if_neg]
    intro heq
    apply hne (List.inj_on_of_nodup_map hxs hy hx heq)

/-! ### Sections -/

/-- The protocols, structs and extensions for a service. -/
def sideDeclarations (style : Style) (sides : Sides) (r : Request) (s : Service) :
    List Declaration :=
  (if sides.server then serverDeclarations style r s else [])
    ++ (if sides.client then clientDeclarations style r s else [])

/-- The server and the client section of a request. -/
def sided (style : Style) (sides : Sides) (r : Request) : List Declaration :=
  (if sides.server then r.services.flatMap (serverDeclarations style r) else [])
    ++ (if sides.client then r.services.flatMap (clientDeclarations style r) else [])

theorem declarations_eq (style : Style) (sides : Sides) (r : Request) :
  declarations style sides r
    = (spaces r.services).flatMap (spaceDeclarations style sides r.services)
      ++ sided style sides r
  := List.append_assoc _ _ _

theorem mem_sideDeclarations_iff (style : Style) (sides : Sides) (r : Request) (s : Service)
    (d : Declaration) :
  d ∈ sideDeclarations style sides r s
    ↔ (sides.server ∧ d ∈ serverDeclarations style r s)
      ∨ (sides.client ∧ d ∈ clientDeclarations style r s)
  := by
  rw [sideDeclarations, List.mem_append, List.mem_ite_nil_right, List.mem_ite_nil_right]

theorem mem_sided_iff (style : Style) (sides : Sides) (r : Request) (d : Declaration) :
  d ∈ sided style sides r ↔ ∃ s ∈ r.services, d ∈ sideDeclarations style sides r s
  := by
  simp only [sided, List.mem_append, List.mem_ite_nil_right, List.mem_flatMap,
    mem_sideDeclarations_iff]
  constructor
  · rintro (⟨hside, s, hs, hd⟩ | ⟨hside, s, hs, hd⟩)
    · exact ⟨s, hs, Or.inl ⟨hside, hd⟩⟩
    · exact ⟨s, hs, Or.inr ⟨hside, hd⟩⟩
  · rintro ⟨s, hs, ⟨hside, hd⟩ | ⟨hside, hd⟩⟩
    · exact Or.inl ⟨hside, s, hs, hd⟩
    · exact Or.inr ⟨hside, s, hs, hd⟩

/-- The alias section consists of enums. -/
theorem isSome_enum?_of_mem {style : Style} {sides : Sides} {services : List Service}
    {ns : String} {d : Declaration} (h : d ∈ spaceDeclarations style sides services ns) :
  d.enum?.isSome
  := by
  rw [spaceDeclarations] at h
  split at h
  · obtain ⟨s, -, rfl⟩ := List.mem_map.mp h
    rfl
  · obtain rfl := List.mem_singleton.mp h
    rfl

/-- The server and the client section declare no enums. -/
theorem enum?_of_mem_sided {style : Style} {sides : Sides} {r : Request} {d : Declaration}
    (h : d ∈ sided style sides r) :
  d.enum? = none
  := by
  obtain ⟨s, -, hd⟩ := (mem_sided_iff style sides r d).mp h
  obtain ⟨-, hd⟩ | ⟨-, hd⟩ := (mem_sideDeclarations_iff style sides r s d).mp hd
  · simp only [serverDeclarations, List.mem_cons, List.not_mem_nil, or_false] at hd
    obtain rfl | rfl | rfl | rfl := hd
    · simp [streamingProtocol, Declaration.enum?, Declaration.bare]
    · simp [registration, Declaration.enum?, Declaration.bare]
    · simp [serviceProtocol, Declaration.enum?, Declaration.bare]
    · simp [adapter, Declaration.enum?, Declaration.bare]
  · simp only [clientDeclarations, List.mem_cons, List.not_mem_nil, or_false] at hd
    obtain rfl | rfl | rfl := hd
    · simp [clientProtocol, Declaration.enum?, Declaration.bare]
    · simp [overloads, Declaration.enum?, Declaration.bare]
    · simp [clientStruct, Declaration.enum?, Declaration.bare]

/-! ### The enum of a service -/

/-- The names that lead to the enum of a service. -/
def Service.components (s : Service) : List String :=
  if s.ns.upper.isEmpty then [s.name.upper] else [s.ns.upper, s.name.upper]

/-- The members of the enum of a service. -/
def serviceMembers (style : Style) (sides : Sides) (s : Service) : List Declaration :=
  methodsEnum style s :: (roles sides).map (roleAlias style s)

theorem filterMap_enumsOf (style : Style) (sides : Sides) (services : List Service) (ns : String) :
  (enumsOf style sides services ns).filterMap Declaration.enum?
    = (servicesOf ns (ordered services)).map
      (fun s => (s.name.upper, serviceMembers style sides s))
  := by
  rw [enumsOf, List.filterMap_map, ← List.filterMap_eq_map]
  rfl

/-- Within a namespace the name of a service leads to its enum. -/
theorem enumsNamed_enumsOf {style : Style} {sides : Sides} {services : List Service}
    (h : ServicesApart services) {s : Service} (hs : s ∈ services) :
  enumsNamed s.name.upper (enumsOf style sides services s.ns.upper)
    = [serviceMembers style sides s]
  := by
  have hperm : (servicesOf s.ns.upper (ordered services)).Perm (servicesOf s.ns.upper services) :=
    (ordered_perm services).filter _
  have hnames := (hperm.map (fun s : Service => s.name.upper)).nodup_iff.mpr
    ((servicesApart_iff services).mp h s.ns.upper)
  rw [enumsNamed, filterMap_enumsOf]
  apply belonging_map hnames
  apply (mem_servicesOf_iff _ _ s).mpr ⟨(mem_ordered services s).mpr hs, rfl⟩

/-- A namespace other than the one of a service holds nothing by the outer name of the service. -/
theorem enumsNamed_other {style : Style} {sides : Sides} {services : List Service}
    (h : LoneServicesApart services) {s : Service} (hs : s ∈ services) {ns : String}
    (hns : ns ∈ spaces services) (hne : ns ≠ s.ns.upper) :
  enumsNamed s.outerName (spaceDeclarations style sides services ns) = []
  := by
  by_cases hempty : ns.isEmpty
  · obtain rfl := String.isEmpty_iff.mp hempty
    have hspace : ¬ s.ns.upper.isEmpty := by
      rw [String.isEmpty_iff]
      exact hne.symm
    rw [spaceDeclarations, if_pos hempty, Service.outerName, if_neg hspace, enumsNamed,
      filterMap_enumsOf, belonging, List.filterMap_map, List.filterMap_eq_nil_iff]
    intro t ht
    obtain ⟨ht, hlone⟩ := (mem_servicesOf_iff "" _ t).mp ht
    have htne := h t ((mem_ordered services t).mp ht) s hs hlone hne.symm
    simp [htne]
  · have houter : ns ≠ s.outerName := by
      rw [Service.outerName]
      split
      · next hlone =>
          obtain ⟨t, ht, rfl⟩ := (mem_spaces_iff services ns).mp hns
          rw [String.isEmpty_iff] at hempty hlone
          apply (h s hs t ht hlone hempty).symm
      · exact hne
    rw [spaceDeclarations, if_neg hempty]
    simp [enumsNamed, belonging, Declaration.enum?, Declaration.bare, houter]

/-- Enums are found in the alias section. -/
theorem enumsNamed_declarations (style : Style) (sides : Sides) (r : Request) (name : String) :
  enumsNamed name (declarations style sides r)
    = (spaces r.services).flatMap
      (fun ns => enumsNamed name (spaceDeclarations style sides r.services ns))
  := by
  have hsided : enumsNamed name (sided style sides r) = [] := by
    rw [enumsNamed, List.filterMap_eq_nil_iff.mpr (fun d hd => enum?_of_mem_sided hd)]
    rfl
  rw [declarations_eq, enumsNamed_append, hsided, List.append_nil, enumsNamed_flatMap]

/-- The names of a service lead to its enum, and to no other. -/
theorem reach_components (style : Style) (sides : Sides) {r : Request} (h : r.Acceptable)
    {s : Service} (hs : s ∈ r.services) :
  reach s.components (declarations style sides r) = [serviceMembers style sides s]
  := by
  have hspace : s.ns.upper ∈ spaces r.services := (mem_spaces_iff _ _).mpr ⟨s, hs, rfl⟩
  have houter : enumsNamed s.outerName (declarations style sides r)
      = enumsNamed s.outerName (spaceDeclarations style sides r.services s.ns.upper) := by
    rw [enumsNamed_declarations]
    apply flatMap_eq_of_unique (nodup_spaces r.services) hspace
    intro ns hns hne
    apply enumsNamed_other h.loneServices hs hns hne
  rw [spaceDeclarations] at houter
  rw [Service.components]
  split
  · next hlone =>
      rw [if_pos hlone, Service.outerName, if_pos hlone, enumsNamed_enumsOf h.services hs] at houter
      rw [reach, houter]
      rfl
  · next hlone =>
      rw [if_neg hlone, Service.outerName, if_neg hlone] at houter
      have hns : enumsNamed s.ns.upper [Declaration.enumeration (some style.access) s.ns.upper
          (enumsOf style sides r.services s.ns.upper)]
          = [enumsOf style sides r.services s.ns.upper] := by
        simp [enumsNamed, belonging, Declaration.enum?, Declaration.bare]
      rw [reach, houter, hns, List.flatMap_singleton, reach, enumsNamed_enumsOf h.services hs]
      rfl

/-! ### What the enum of a service holds -/

/-- The members of the enum of a method. -/
def methodMembers (style : Style) (s : Service) (m : Method) : List Declaration :=
  [.typeAlias (some style.access) "Input" m.inputType,
    .typeAlias (some style.access) "Output" m.outputType,
    .constant (some style.access) "descriptor" true none (some (descriptorCall s m))]

/-- The members of the enum `Method` of a service. -/
def methodsMembers (style : Style) (s : Service) : List Declaration :=
  s.methods.map (methodEnum style s) ++ [descriptorList style s]

theorem filterMap_methodsMembers (style : Style) (s : Service) :
  (methodsMembers style s).filterMap Declaration.enum?
    = s.methods.map (fun m => (m.name.upper, methodMembers style s m))
  := by
  rw [methodsMembers, List.filterMap_append, List.filterMap_map, ← List.filterMap_eq_map]
  apply List.append_nil _

theorem enumNames_methodsMembers (style : Style) (s : Service) :
  enumNames (methodsMembers style s) = s.methods.map (fun m => m.name.upper)
  := by
  rw [enumNames, filterMap_methodsMembers, List.map_map]
  rfl

theorem enumsNamed_methodsMembers (style : Style) {s : Service} (h : s.MethodsApart) {m : Method}
    (hm : m ∈ s.methods) :
  enumsNamed m.name.upper (methodsMembers style s) = [methodMembers style s m]
  := by
  rw [enumsNamed, filterMap_methodsMembers]
  apply belonging_map h.upper (methodMembers style s) hm

/-- The descriptors are the one static constant beside the enums of the methods. -/
theorem staticsNamed_methodsMembers (style : Style) (s : Service) :
  staticsNamed "descriptors" (methodsMembers style s)
    = [some (.arrayLiteral ((enumNames (methodsMembers style s)).map
      (fun name => .identifier (name ++ ".descriptor"))))]
  := by
  have hmethods : (s.methods.map (methodEnum style s)).filterMap Declaration.static? = [] := by
    rw [List.filterMap_map, List.filterMap_eq_nil_iff]
    intro m _
    rfl
  rw [enumNames_methodsMembers, List.map_map, staticsNamed, methodsMembers,
    List.filterMap_append, hmethods]
  rfl

theorem enumsNamed_serviceMembers (style : Style) (sides : Sides) (s : Service) :
  enumsNamed "Method" (serviceMembers style sides s) = [methodsMembers style s]
  := by
  have hroles : ((roles sides).map (roleAlias style s)).filterMap Declaration.enum? = [] := by
    simp [List.filterMap_map, roleAlias, Declaration.enum?, Declaration.bare]
  rw [enumsNamed, serviceMembers, List.filterMap_cons, hroles]
  rfl

/-- One alias belongs to each role. -/
theorem aliasesNamed_serviceMembers (style : Style) {sides : Sides} (s : Service) {role : String}
    (h : role ∈ roles sides) :
  aliasesNamed role (serviceMembers style sides s) = [s.typeName ++ role]
  := by
  have haliases : (serviceMembers style sides s).filterMap Declaration.alias?
      = (roles sides).map (fun role => (role, s.typeName ++ role)) := by
    rw [serviceMembers, List.filterMap_cons, List.filterMap_map, ← List.filterMap_eq_map]
    simp [methodsEnum, roleAlias, Declaration.alias?, Declaration.bare, Function.comp_def]
  rw [aliasesNamed, haliases]
  apply belonging_map _ _ h
  rw [List.map_id']
  apply nodup_roles sides

end SwiftStubs
