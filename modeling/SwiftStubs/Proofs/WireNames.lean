import SwiftStubs.Proofs.Parsing
import SwiftStubs.Proofs.SourceText
import SwiftStubs.Proofs.Wiring

/-!
# Names on the wire

A method is called under the names that the schema gives to it, its service and its package. On the
way to generated code these names are recased, the namespace is replaced by a prefix, and services
are sorted and grouped by the new spellings. The descriptors in the generated file keep the names of
the schema: there is one for each method of the schema file, and the table of a service lists them
in the order of the schema.
-/

namespace SwiftStubs

open Swift Stub

/-! ### Enums inside of types -/

namespace Swift

mutual

/-- The enums of a declaration and of the types inside of it: their names and members. -/
def Declaration.enums : Declaration → List (String × List Declaration)
  | .commented _ d => d.enums
  | .guarded _ d => d.enums
  | .enumeration _ name ms => (name, ms) :: memberEnums ms
  | .struct _ _ _ ms => memberEnums ms
  | .protocol _ _ _ ms => memberEnums ms
  | .extension _ _ _ ms => memberEnums ms
  | .typeAlias _ _ _ => []
  | .constant _ _ _ _ _ => []
  | .function _ _ => []
  | .unspecified => []
  | .misplaced _ => []

/-- The enums of members. -/
def memberEnums : List Declaration → List (String × List Declaration)
  | [] => []
  | d :: ds => d.enums ++ memberEnums ds

end

attribute [local simp] Declaration.enums

@[simp]
theorem memberEnums_eq (ds : List Declaration) :
  memberEnums ds = ds.flatMap Declaration.enums
  := by
  induction ds with
  | nil => rfl
  | cons d ds ih => rw [memberEnums, ih, List.flatMap_cons]

@[simp]
theorem Declaration.enums_documented (documentation : String) (d : Declaration) :
  (d.documented documentation).enums = d.enums
  := by
  rw [documented]
  split
  · rfl
  · simp

@[simp]
theorem Declaration.enums_available (availability : Option Availability) (d : Declaration) :
  (d.available availability).enums = d.enums
  := by
  cases availability with
  | none => rfl
  | some a => simp [available]

@[simp]
theorem Declaration.enums_present (style : Style) (documentation : String) (d : Declaration) :
  (style.present documentation d).enums = d.enums
  := by
  rw [Style.present, enums_documented, enums_available]

end Swift

/-! ### Tables of methods -/

/-- The descriptors made in a table of methods, which is an enum `Method` with a list of
descriptors. -/
def methodTable? (e : String × List Declaration) : Option (List (String × String)) :=
  if e.1 = "Method" ∧ (staticsNamed "descriptors" e.2).isEmpty = false then
    some (e.2.flatMap (Declaration.read descriptor?))
  else none

/-- What the tables of methods in a file hold. -/
def Swift.File.methodTables (f : File) : List (List (String × String)) :=
  (f.declarations.flatMap Declaration.enums).filterMap methodTable?

theorem methodTable?_eq_none {name : String} {ms : List Declaration}
    (h : staticsNamed "descriptors" ms = []) :
  methodTable? (name, ms) = none
  := by
  rw [methodTable?, h]
  apply if_neg
  rintro ⟨-, ⟨⟩⟩

theorem enums_methodsEnum (style : Style) (s : Service) :
  (methodsEnum style s).enums
    = ("Method", methodsMembers style s)
      :: s.methods.map (fun m => (m.name.upper, methodMembers style s m))
  := by
  have hmethods : (s.methods.map (methodEnum style s)).flatMap Declaration.enums
      = s.methods.map (fun m => (m.name.upper, methodMembers style s m)) := by
    rw [List.flatMap_map, List.map_eq_flatMap]
    rfl
  rw [methodsEnum, Declaration.enums, memberEnums_eq, List.flatMap_append, hmethods]
  apply congrArg (List.cons _)
  apply List.append_nil

/-- In the enum of a service there is one table, which goes through the methods in order. -/
theorem filterMap_enums_serviceEnum (style : Style) (sides : Sides) (s : Service) :
  (serviceEnum style sides s).enums.filterMap methodTable? = [s.wirePairs]
  := by
  have hroles : ((roles sides).map (roleAlias style s)).flatMap Declaration.enums = [] := by
    rw [List.flatMap_map, List.flatMap_eq_nil_iff]
    intro role _
    rw [roleAlias, Declaration.enums_available, Declaration.enums]
  have hservice : methodTable? (s.name.upper, serviceMembers style sides s) = none := by
    apply methodTable?_eq_none
    simp [staticsNamed, serviceMembers, methodsEnum, roleAlias, Declaration.static?,
      Declaration.bare, belonging]
  have hmethods : (s.methods.map (fun m => (m.name.upper, methodMembers style s m))).filterMap
      methodTable? = [] := by
    rw [List.filterMap_map, List.filterMap_eq_nil_iff]
    intro m _
    apply methodTable?_eq_none
    simp [staticsNamed, methodMembers, Declaration.static?, Declaration.bare, belonging]
  have htable : methodTable? ("Method", methodsMembers style s) = some s.wirePairs := by
    have hread : (methodsMembers style s).flatMap (Declaration.read descriptor?) = s.wirePairs := by
      rw [← read_methodsEnum style s, methodsEnum, Declaration.read_enumeration, methodsMembers]
    rw [methodTable?, hread, staticsNamed_methodsMembers]
    rfl
  rw [serviceEnum, Declaration.enums, memberEnums_eq, List.flatMap_cons, hroles, List.append_nil,
    enums_methodsEnum, ← serviceMembers, List.filterMap_cons_none hservice,
    List.filterMap_cons_some htable, hmethods]

theorem filterMap_enums_spaceDeclarations (style : Style) (sides : Sides)
    (services : List Service) (ns : String) :
  ((spaceDeclarations style sides services ns).flatMap Declaration.enums).filterMap methodTable?
    = (servicesOf ns (ordered services)).map Service.wirePairs
  := by
  have henums : ((enumsOf style sides services ns).flatMap Declaration.enums).filterMap methodTable?
      = (servicesOf ns (ordered services)).map Service.wirePairs := by
    rw [enumsOf, List.flatMap_map, List.filterMap_flatMap, List.map_eq_flatMap]
    simp only [filterMap_enums_serviceEnum]
  have hspace : methodTable? (ns, enumsOf style sides services ns) = none := by
    apply methodTable?_eq_none
    simp [staticsNamed, enumsOf, serviceEnum, Declaration.static?, Declaration.bare, belonging,
      List.filterMap_map]
  rw [spaceDeclarations]
  split
  · exact henums
  · rw [List.flatMap_singleton, Declaration.enums, memberEnums_eq,
      List.filterMap_cons_none hspace, henums]

/-- The server and the client section hold no enums. -/
theorem enums_sideDeclarations {style : Style} {sides : Sides} {r : Request} {s : Service}
    {d : Declaration} (h : d ∈ sideDeclarations style sides r s) :
  d.enums = []
  := by
  obtain ⟨-, hd⟩ | ⟨-, hd⟩ := (mem_sideDeclarations_iff style sides r s d).mp h
  · simp only [serverDeclarations, List.mem_cons, List.not_mem_nil, or_false] at hd
    obtain rfl | rfl | rfl | rfl := hd
    · simp [streamingProtocol, streamingRequirement, Declaration.enums]
    · simp [registration, registerMethods, Declaration.enums]
    · simp [serviceProtocol, ownRequirement, Declaration.enums]
    · simp [adapter, adapterMethod, Declaration.enums]
  · simp only [clientDeclarations, List.mem_cons, List.not_mem_nil, or_false] at hd
    obtain rfl | rfl | rfl := hd
    · simp [clientProtocol, clientRequirement, Declaration.enums]
    · simp [overloads, overload, Declaration.enums]
    · simp [clientStruct, clientProperty, clientInitializer, clientMethod, Declaration.enums]

/-- The tables of methods in a file are those of the services, in the order of the alias section. -/
theorem filterMap_enums_declarations (style : Style) (sides : Sides) (r : Request) :
  ((declarations style sides r).flatMap Declaration.enums).filterMap methodTable?
    = (ordered r.services).map Service.wirePairs
  := by
  have hsided : (sided style sides r).flatMap Declaration.enums = [] := by
    rw [List.flatMap_eq_nil_iff]
    intro d hd
    obtain ⟨s, -, hd⟩ := (mem_sided_iff style sides r d).mp hd
    apply enums_sideDeclarations hd
  rw [declarations_eq, List.flatMap_append, hsided, List.append_nil, List.flatMap_assoc,
    List.filterMap_flatMap]
  simp only [filterMap_enums_spaceDeclarations]
  rw [← List.map_flatMap, flatMap_servicesOf_spaces]

/-! ### The whole file -/

theorem filterMap_blockParts_sections (style : Style) (sides : Sides) (r : Request) :
  (blockParts (sections style sides r)).filterMap descriptor?
    = (ordered r.services).flatMap SwiftStubs.Service.wirePairs
  := by
  rw [← read_declarations style sides r, sections_eq, blockParts_eq, List.flatMap_map,
    List.filterMap_flatMap]
  rfl

theorem methodTables_of_blocks {f : File} {style : Style} {sides : Sides} {r : Request}
    (h : f.blocks = sections style sides r) :
  f.methodTables = (ordered r.services).map SwiftStubs.Service.wirePairs
  := by
  rw [File.methodTables, File.declarations, h, sections_eq, List.filterMap_map,
    ← filterMap_enums_declarations style sides r]
  simp [Function.comp_def, Declaration.block]

/-! ### The names of a schema -/

namespace Schema

/-- The name of a service on the wire, in the spelling of the schema. -/
def Service.wireName (package : RawText) (s : Service) : String :=
  if package.shown.isEmpty then s.name.shown else package.shown ++ "." ++ s.name.shown

/-- The names on the wire of the methods of a service, in the order of the schema. -/
def Service.wirePairs (package : RawText) (s : Service) : List (String × String) :=
  s.methods.map (fun m => (s.wireName package, m.name.shown))

/-- The names of a service and its methods can be read. -/
def Service.Named (s : Service) : Prop :=
  s.name.Readable ∧ ∀ m ∈ s.methods, m.name.Readable

/-- What holds of each result holds of all, in order. -/
theorem forall₂_of_mapM_zipIdx {ε α β : Type} {R : α → β → Prop} {g : α × Nat → Except ε β}
    {xs : List α} {ys : List β} (h : xs.zipIdx.mapM g = .ok ys)
    (hg : ∀ x i y, g (x, i) = .ok y → R x y) :
  List.Forall₂ R xs ys
  := by
  rw [← List.zipIdx_map_fst 0 xs, List.forall₂_map_left_iff]
  apply (mapM_eq_ok_iff.mp h).imp
  rintro ⟨x, i⟩ y hy
  exact hg x i y hy

/-- A method is described under its own name. -/
theorem name_of_method {context : Context} {service index : Nat} {m : Method}
    {n : SwiftStubs.Method} (h : context.method service index m = .ok n) :
  m.name = .text n.name.base
  := by
  simp only [Context.method, bind_eq_ok_iff] at h
  obtain ⟨_, -, name, hname, _, -, _, -, ⟨⟩⟩ := h
  exact RawText.readable_eq_ok_iff.mp hname

/-- A service is described under its own name and those of its methods. -/
theorem names_of_service {context : Context} {index : Nat} {s : Service} {n : SwiftStubs.Service}
    (h : context.service index s = .ok n) :
  s.name = .text n.name.base ∧ n.ns = context.ns
    ∧ List.Forall₂ (fun m k => m.name = .text k.name.base) s.methods n.methods
  := by
  simp only [Context.service, bind_eq_ok_iff] at h
  obtain ⟨methods, hmethods, _, -, name, hname, ⟨⟩⟩ := h
  refine ⟨RawText.readable_eq_ok_iff.mp hname, rfl, ?_⟩
  apply forall₂_of_mapM_zipIdx hmethods
  intro m i k hk
  exact name_of_method hk

/-- A service described in the namespace of a package has the names of the schema on the wire. -/
theorem wirePairs_of_service {context : Context} {package : RawText}
    (hns : context.ns.base = package.shown) {index : Nat} {s : Service} {n : SwiftStubs.Service}
    (h : context.service index s = .ok n) :
  s.Named ∧ n.wirePairs = s.wirePairs package
  := by
  obtain ⟨hname, hcontext, hmethods⟩ := names_of_service h
  have hparts : List.Forall₂ (fun m k => m.name.Readable ∧ m.name.shown = k.name.base)
      s.methods n.methods := by
    apply hmethods.imp
    intro m k hm
    rw [hm]
    exact ⟨⟨_, rfl⟩, rfl⟩
  obtain ⟨hreadable, hshown⟩ := (List.forall₂_and_left _ _).mp hparts
  have hwire : n.wireName = s.wireName package := by
    rw [SwiftStubs.Service.wireName, Service.wireName, hcontext, hns, hname]
    rfl
  refine ⟨⟨⟨_, hname⟩, hreadable⟩, ?_⟩
  rw [SwiftStubs.Service.wirePairs, Service.wirePairs, hwire, eq_comm, ← List.forall₂_eq_eq_eq,
    List.forall₂_map_left_iff, List.forall₂_map_right_iff]
  apply hshown.imp
  intro m k hm
  rw [hm]

/-- The services of a request have the names of the schema on the wire. -/
theorem wirePairs_of_request {modules : ModuleMap} {files : List File} {f : File} {r : Request}
    (h : request modules files f = .ok r) :
  (∀ s ∈ f.services, s.Named)
    ∧ r.services.map SwiftStubs.Service.wirePairs = f.services.map (Service.wirePairs f.package)
  := by
  simp only [request, bind_eq_ok_iff] at h
  obtain ⟨_, -, _, -, _, -, services, hservices, _, -, ⟨⟩⟩ := h
  have hparts : List.Forall₂ (fun s n => s.Named ∧ n.wirePairs = s.wirePairs f.package)
      f.services services := by
    apply forall₂_of_mapM_zipIdx hservices
    intro s i n hn
    exact wirePairs_of_service rfl hn
  obtain ⟨hnamed, hpairs⟩ := (List.forall₂_and_left _ _).mp hparts
  refine ⟨hnamed, ?_⟩
  rw [eq_comm, ← List.forall₂_eq_eq_eq, List.forall₂_map_left_iff, List.forall₂_map_right_iff]
  apply hpairs.imp
  intro s n hn
  exact hn.symm

end Schema

/-- The names of the schema are kept on the wire. In the file generated for a schema file, the
descriptors made anywhere are one for each method of the schema file, with the names of package,
service and method as the schema spells them. The tables of methods are one for each service, and
each goes through the methods of its service in the order of the schema. -/
theorem Schema.wire_names_kept {modules : ModuleMap} {files : List File} {f : File} {r : Request}
    (hr : request modules files f = .ok r) {c : Configuration} {n : NamedFile}
    (hn : (r.withExtraImports c).file c = .ok n) :
  (∀ s ∈ f.services, s.Named)
    ∧ ((blockParts n.contents.blocks).filterMap descriptor?).Perm
      (f.services.flatMap (Service.wirePairs f.package))
    ∧ n.contents.methodTables.Perm (f.services.map (Service.wirePairs f.package))
  := by
  obtain ⟨hnamed, hpairs⟩ := wirePairs_of_request hr
  obtain ⟨-, is, -, rfl⟩ := (Request.file_eq_ok_iff c _ n).mp hn
  have hordered := ordered_perm r.services
  have hall : f.services.flatMap (Service.wirePairs f.package)
      = r.services.flatMap SwiftStubs.Service.wirePairs := by
    rw [List.flatMap_def, ← hpairs, ← List.flatMap_def]
  refine ⟨hnamed, ?_, ?_⟩
  · rw [filterMap_blockParts_sections, hall]
    exact hordered.flatMap_right _
  · rw [methodTables_of_blocks rfl, ← hpairs]
    exact hordered.map _

namespace Schema

/-- A file with a prefix of its own, whose services are not in order and not in camel case. -/
def ordersFile : File where
  name := "orders.proto"
  package := "shop.v1"
  swiftPrefix := some "XY"
  messages := [.mk "Item" []]
  services := [
    { name := "order_api"
      methods := [
        { name := "list_all", inputType := ".shop.v1.Item", outputType := ".shop.v1.Item" },
        { name := "GetOne", inputType := ".shop.v1.Item", outputType := ".shop.v1.Item" }] },
    { name := "Admin"
      methods := [
        { name := "drop", inputType := "shop.v1.Item", outputType := "shop.v1.Item" }] }]

/-- The request of this file. -/
def ordersRequest : Request where
  fileName := "orders.proto"
  leadingTrivia := banner "orders.proto"
  dependencies := [{ moduleName := protobufModule }]
  services := [
    { name := Name.ofIdentifier "order_api"
      ns := ordersFile.namespaceName
      methods := [
        { name := Name.ofIdentifier "list_all", inputType := "XYItem", outputType := "XYItem" },
        { name := Name.ofIdentifier "GetOne", inputType := "XYItem", outputType := "XYItem" }] },
    { name := Name.ofIdentifier "Admin"
      ns := ordersFile.namespaceName
      methods := [
        { name := Name.ofIdentifier "drop", inputType := "XYItem", outputType := "XYItem" }] }]

theorem request_ordersFile :
  request Configuration.standard.moduleMap [ordersFile] ordersFile = .ok ordersRequest
  := by
  have hneeded : neededModules Configuration.standard.moduleMap (byName [ordersFile]) ordersFile
      = .ok [] := by
    apply neededModules_alone rfl
  rw [request, knownFiles_eq rfl, hneeded]
  rfl

/-- The tables of the two services, each in the order and the spelling of the schema. -/
theorem orders_wire_names_kept :
  request Configuration.standard.moduleMap [ordersFile] ordersFile = .ok ordersRequest
    ∧ ∃ n, (ordersRequest.withExtraImports .standard).file .standard = .ok n
      ∧ n.contents.methodTables.Perm
        [[("shop.v1.order_api", "list_all"), ("shop.v1.order_api", "GetOne")],
          [("shop.v1.Admin", "drop")]]
  := by
  have hcheck : (ordersRequest.withExtraImports .standard).check = .ok () := by
    rw [Request.check_eq_ok_iff, Request.acceptable_withExtraImports_iff,
      ← Request.check_eq_ok_iff]
    rfl
  obtain ⟨n, hn, -⟩ := Request.file_eq_ok .standard hcheck
  exact ⟨request_ordersFile, n, hn, (wire_names_kept request_ordersFile hn).2.2⟩

end Schema

end SwiftStubs
