import SwiftStubs.Proofs.Lookup
import SwiftStubs.Proofs.Parts

/-!
# How client and server are wired

A server registers its methods with a router, each for a descriptor and with a deserializer and a
serializer. A client passes a descriptor with every call, and its short calls choose a serializer
and a deserializer. What is registered, passed and chosen is read from the trees here, without
regard to how they were made. `Wired` says what is read from the file for an accepted request: on
both sides the same descriptors, with the two message types of a method in swapped places.
-/

namespace SwiftStubs

open Swift Stub

/-! ### Reading calls -/

/-- The name that is given as the argument with a label. -/
def nameAt (label : String) (args : List Argument) : Option String :=
  args.findSome? (fun a => match a with
    | .mk (some l) (.identifier name) => if l = label then some name else none
    | _ => none)

/-- The callee and the arguments of a call that is tried and awaited. -/
def awaited? : Block → Option (String × List Argument)
  | .expression (.keyword .tryCall (some (.keyword .awaitCall
      (some (.call (.identifier callee) args))))) _ => some (callee, args)
  | _ => none

/-- What the closure given as the handler calls. -/
def handledBy (args : List Argument) : Option String :=
  args.findSome? (fun a => match a with
    | .mk (some l) (.closure _ [b]) => if l = "handler" then (awaited? b).map Prod.fst else none
    | _ => none)

/-- What a method is registered with. -/
structure Registration where
  descriptor : String
  deserializer : String
  serializer : String
  /-- The function that the handler calls. -/
  handler : String
deriving Repr, DecidableEq

/-- The registration that a part is, if it is one. -/
def registration? : Part → Option Registration
  | .expression (.call (.identifier callee) args) => do
    let descriptor ← nameAt "forMethod" args
    let deserializer ← nameAt "deserializer" args
    let serializer ← nameAt "serializer" args
    let handler ← handledBy args
    if callee = "router.registerHandler" then
      some ⟨descriptor, deserializer, serializer, handler⟩
    else none
  | _ => none

/-- The function by which a service registers its methods, with what it registers. -/
def registering? (d : Declaration) : Option (List Registration) :=
  match d.bare with
  | .function g _ =>
    if g.name = "registerMethods"
        ∧ g.parameters = [⟨"with", "inout GRPCCore.RPCRouter", some "router"⟩] then
      some (d.read registration?)
    else none
  | _ => none

/-- What an extension registers, if it has a function to do so. -/
def registered? (d : Declaration) : Option (List Registration) :=
  match d.bare with
  | .extension _ _ _ ms => ms.findSome? registering?
  | _ => none

/-- A call that a function of a client makes. -/
structure ForwardedCall where
  /-- The function that makes the call. -/
  function : String
  callee : String
  descriptor : String
  serializer : String
  deserializer : String
deriving Repr, DecidableEq

/-- The call that a function forwards to, if that is all it does. -/
def forwardedCall? (d : Declaration) : Option ForwardedCall :=
  match d.bare with
  | .function g (some [b]) => do
    let (callee, args) ← awaited? b
    let descriptor ← nameAt "descriptor" args
    let serializer ← nameAt "serializer" args
    let deserializer ← nameAt "deserializer" args
    some ⟨g.name, callee, descriptor, serializer, deserializer⟩
  | _ => none

/-- The calls that the functions of a struct forward to. -/
def forwarded? (d : Declaration) : Option (List ForwardedCall) :=
  match d.bare with
  | .struct _ _ _ ms => some (ms.filterMap forwardedCall?)
  | _ => none

/-- A call that chooses a serializer and a deserializer. -/
structure DefaultCall where
  /-- The function that makes the call. -/
  function : String
  callee : String
  serializer : String
  deserializer : String
deriving Repr, DecidableEq

/-- The call by which a function chooses a serializer and a deserializer, if that is all it does. -/
def defaultCall? (d : Declaration) : Option DefaultCall :=
  match d.bare with
  | .function g (some [b]) => do
    let (callee, args) ← awaited? b
    let serializer ← nameAt "serializer" args
    let deserializer ← nameAt "deserializer" args
    some ⟨g.name, callee, serializer, deserializer⟩
  | _ => none

/-- The choices that the functions of an extension make, with the type that is extended. -/
def defaults (d : Declaration) : List (String × DefaultCall) :=
  match d.bare with
  | .extension _ type _ ms => (ms.filterMap defaultCall?).map (fun call => (type, call))
  | _ => []

/-- The two names in the call that makes a descriptor, if a part is such a call. -/
def descriptor? : Part → Option (String × String)
  | .expression (.call (.identifier callee)
      [.mk (some l) (.stringLiteral service), .mk (some l') (.stringLiteral method)]) =>
    if callee = "MethodDescriptor" ∧ l = "service" ∧ l' = "method" then some (service, method)
    else none
  | _ => none

/-! ### What client and server have to agree on -/

/-- The registration of a method. -/
def registrationOf (r : Request) (s : Service) (m : Method) : Registration where
  descriptor := s.descriptorPath m
  deserializer := r.deserializer (s.inputPath m)
  serializer := r.serializer (s.outputPath m)
  handler := "self." ++ m.name.lower

/-- The call of a client for a method. -/
def forwardedCallOf (s : Service) (m : Method) : ForwardedCall where
  function := m.name.lower
  callee := "self.client." ++ m.shape.name
  descriptor := s.descriptorPath m
  serializer := "serializer"
  deserializer := "deserializer"

/-- The short call of a client for a method. -/
def defaultCallOf (r : Request) (s : Service) (m : Method) : DefaultCall where
  function := m.name.lower
  callee := "self." ++ m.name.lower
  serializer := r.serializer (s.inputPath m)
  deserializer := r.deserializer (s.outputPath m)

/-- The names by which the methods of a service are known on the wire. -/
def Service.wirePairs (s : Service) : List (String × String) :=
  s.methods.map (fun m => (s.wireName, m.name.base))

/-- Client and server are wired to each other.
* There is one registering extension for each service, which registers its methods in order.
* There is one struct for each service, whose functions forward to calls for its methods in order.
* The two sides have the same descriptors in the same places, and none of them twice.
* The short calls of the client choose a serializer for the messages that the server deserializes,
  and a deserializer for those that it serializes.
* The descriptors made anywhere are those of the methods, and no two of them are alike. -/
structure Wired (r : Request) (ds : List Declaration) : Prop where
  registered : ds.filterMap registered?
    = r.services.map (fun s => s.methods.map (registrationOf r s))
  forwarded : ds.filterMap forwarded?
    = r.services.map (fun s => s.methods.map (forwardedCallOf s))
  agree : (ds.filterMap registered?).map (List.map Registration.descriptor)
    = (ds.filterMap forwarded?).map (List.map ForwardedCall.descriptor)
  once : ∀ l ∈ ds.filterMap registered?, (l.map Registration.descriptor).Nodup
  defaults : ds.flatMap defaults = r.services.flatMap (fun s =>
    s.methods.map (fun m => (s.path ++ ".ClientProtocol", defaultCallOf r s m)))
  descriptors : (ds.flatMap (Declaration.read descriptor?)).Perm
    (r.services.flatMap Service.wirePairs)
  distinct : (ds.flatMap (Declaration.read descriptor?)).Nodup

/-! ### Reading section by section -/

/-- What is not read from enums is read from the two sections behind the alias section. -/
theorem flatMap_declarations {α : Type} (style : Style) {sides : Sides} (hserver : sides.server)
    (hclient : sides.client) (r : Request) {g : Declaration → List α}
    (hg : ∀ d, d.enum?.isSome → g d = []) :
  (declarations style sides r).flatMap g
    = r.services.flatMap (fun s => (serverDeclarations style r s).flatMap g)
      ++ r.services.flatMap (fun s => (clientDeclarations style r s).flatMap g)
  := by
  have halias : ((spaces r.services).flatMap
      (spaceDeclarations style sides r.services)).flatMap g = [] := by
    rw [List.flatMap_eq_nil_iff]
    intro d hd
    obtain ⟨ns, -, hd⟩ := List.mem_flatMap.mp hd
    apply hg d (isSome_enum?_of_mem hd)
  rw [declarations_eq, List.flatMap_append, halias, List.nil_append, sided, if_pos hserver,
    if_pos hclient, List.flatMap_append, List.flatMap_assoc, List.flatMap_assoc]

theorem filterMap_declarations {α : Type} (style : Style) {sides : Sides} (hserver : sides.server)
    (hclient : sides.client) (r : Request) {g : Declaration → Option α}
    (hg : ∀ d, d.enum?.isSome → g d = none) :
  (declarations style sides r).filterMap g
    = r.services.flatMap (fun s => (serverDeclarations style r s).filterMap g)
      ++ r.services.flatMap (fun s => (clientDeclarations style r s).filterMap g)
  := by
  simp only [List.filterMap_eq_flatMap_toList]
  apply flatMap_declarations style hserver hclient
  intro d hd
  rw [hg d hd, Option.toList_none]

/-- Without its comments and attributes, an enum is one. -/
theorem bare_of_isSome_enum? {d : Declaration} (h : d.enum?.isSome) :
  ∃ access name ms, d.bare = .enumeration access name ms
  := by
  rw [Declaration.enum?] at h
  split at h
  · next access name ms hbare => exact ⟨access, name, ms, hbare⟩
  · contradiction

/-! ### Registrations -/

theorem read_registerCall (r : Request) (s : Service) (m : Method) :
  (registerCall r s m).read registration? = [registrationOf r s m]
  := rfl

theorem registered?_registration (style : Style) (r : Request) (s : Service) :
  registered? (registration style r s) = some (s.methods.map (registrationOf r s))
  := by
  have hread : (registerMethods style r s).read registration?
      = s.methods.map (registrationOf r s) := by
    rw [registerMethods, Declaration.read_available, Declaration.read_function]
    simp only [read_registerCall]
    exact List.map_eq_flatMap.symm
  have hregistering : registering? (registerMethods style r s)
      = some (s.methods.map (registrationOf r s)) := by
    rw [registering?, hread]
    simp [registerMethods, Declaration.bare]
  simp [registered?, registration, Declaration.bare, hregistering]

/-- A method may be called `registerMethods` too, but then its function takes no router. -/
theorem registered?_adapter (style : Style) (s : Service) :
  registered? (adapter style s) = none
  := by
  simp [registered?, adapter, Declaration.bare, registering?, adapterMethod, streamingSignature,
    serverSignature]

theorem registered?_overloads (style : Style) (r : Request) (s : Service) :
  registered? (overloads style r s) = none
  := by
  simp [registered?, overloads, Declaration.bare, registering?, overload, shortSignature,
    callSignature]

theorem filterMap_registered?_server (style : Style) (r : Request) (s : Service) :
  (serverDeclarations style r s).filterMap registered? = [s.methods.map (registrationOf r s)]
  := by
  have hstreaming : registered? (streamingProtocol style s) = none := by
    simp [registered?, streamingProtocol, Declaration.bare]
  have hservice : registered? (serviceProtocol style s) = none := by
    simp [registered?, serviceProtocol, Declaration.bare]
  simp [serverDeclarations, hstreaming, hservice, registered?_registration, registered?_adapter]

theorem filterMap_registered?_client (style : Style) (r : Request) (s : Service) :
  (clientDeclarations style r s).filterMap registered? = []
  := by
  have hprotocol : registered? (clientProtocol style s) = none := by
    simp [registered?, clientProtocol, Declaration.bare]
  have hstruct : registered? (clientStruct style s) = none := by
    simp [registered?, clientStruct, Declaration.bare]
  simp [clientDeclarations, hprotocol, hstruct, registered?_overloads]

/-! ### Calls of the client -/

theorem forwarded?_clientStruct (style : Style) (s : Service) :
  forwarded? (clientStruct style s) = some (s.methods.map (forwardedCallOf s))
  := by
  have hmethod : ∀ m, forwardedCall? ((clientMethod style s m).documented m.documentation)
      = some (forwardedCallOf s m) := by
    intro m
    rw [forwardedCall?, Declaration.bare_documented]
    rfl
  have hmethods : (s.methods.map (fun m =>
      (clientMethod style s m).documented m.documentation)).filterMap forwardedCall?
      = s.methods.map (forwardedCallOf s) := by
    rw [List.filterMap_map, ← List.filterMap_eq_map]
    apply congrArg (s.methods.filterMap) (funext hmethod)
  have hproperty : forwardedCall? clientProperty = none := rfl
  have hinitializer : forwardedCall? (clientInitializer style) = none := rfl
  rw [forwarded?, clientStruct, Style.bare_present]
  simp only [Declaration.bare, List.filterMap_cons, hproperty, hinitializer, hmethods]

theorem filterMap_forwarded?_server (style : Style) (r : Request) (s : Service) :
  (serverDeclarations style r s).filterMap forwarded? = []
  := by
  simp [serverDeclarations, streamingProtocol, registration, serviceProtocol, adapter, forwarded?,
    Declaration.bare]

theorem filterMap_forwarded?_client (style : Style) (r : Request) (s : Service) :
  (clientDeclarations style r s).filterMap forwarded? = [s.methods.map (forwardedCallOf s)]
  := by
  have hprotocol : forwarded? (clientProtocol style s) = none := by
    simp [forwarded?, clientProtocol, Declaration.bare]
  have hoverloads : forwarded? (overloads style r s) = none := by
    simp [forwarded?, overloads, Declaration.bare]
  simp [clientDeclarations, hprotocol, hoverloads, forwarded?_clientStruct]

/-! ### Short calls -/

theorem defaults_overloads (style : Style) (r : Request) (s : Service) :
  defaults (overloads style r s)
    = s.methods.map (fun m => (s.path ++ ".ClientProtocol", defaultCallOf r s m))
  := by
  have hmethods : (s.methods.map (overload style r s)).filterMap defaultCall?
      = s.methods.map (defaultCallOf r s) := by
    rw [List.filterMap_map, ← List.filterMap_eq_map]
    rfl
  rw [defaults, overloads, Style.bare_present]
  simp only [Declaration.bare, hmethods, List.map_map]
  rfl

theorem defaults_registration (style : Style) (r : Request) (s : Service) :
  defaults (registration style r s) = []
  := by
  have hregister : defaultCall? (registerMethods style r s) = none := by
    rw [defaultCall?, registerMethods, Declaration.bare_available]
    match s.methods with
    | [] => rfl
    | [_] => rfl
    | _ :: _ :: _ => rfl
  rw [defaults, registration, Style.bare_present]
  simp [Declaration.bare, hregister]

theorem defaults_adapter (style : Style) (s : Service) :
  defaults (adapter style s) = []
  := by
  simp [defaults, adapter, Declaration.bare, defaultCall?, adapterMethod]

theorem flatMap_defaults_server (style : Style) (r : Request) (s : Service) :
  (serverDeclarations style r s).flatMap defaults = []
  := by
  have hstreaming : defaults (streamingProtocol style s) = [] := by
    simp [defaults, streamingProtocol, Declaration.bare]
  have hservice : defaults (serviceProtocol style s) = [] := by
    simp [defaults, serviceProtocol, Declaration.bare]
  simp [serverDeclarations, hstreaming, hservice, defaults_registration, defaults_adapter]

theorem flatMap_defaults_client (style : Style) (r : Request) (s : Service) :
  (clientDeclarations style r s).flatMap defaults
    = s.methods.map (fun m => (s.path ++ ".ClientProtocol", defaultCallOf r s m))
  := by
  have hprotocol : defaults (clientProtocol style s) = [] := by
    simp [defaults, clientProtocol, Declaration.bare]
  have hstruct : defaults (clientStruct style s) = [] := by
    simp [defaults, clientStruct, Declaration.bare]
  simp [clientDeclarations, hprotocol, hstruct, defaults_overloads]

/-! ### Descriptors -/

theorem read_methodEnum (style : Style) (s : Service) (m : Method) :
  (methodEnum style s m).read descriptor? = [(s.wireName, m.name.base)]
  := rfl

theorem read_descriptorList (style : Style) (s : Service) :
  (descriptorList style s).read descriptor? = []
  := by
  rw [Declaration.read, List.filterMap_eq_nil_iff, descriptorList, Declaration.parts,
    Expression.parts, elementParts_eq, List.flatMap_map, List.forall_mem_append,
    List.forall_mem_cons, List.forall_mem_flatMap]
  refine ⟨?_, rfl, ?_⟩
  · exact fun p hp => List.mem_singleton.mp hp ▸ rfl
  · intro m _ p hp
    rw [Expression.parts] at hp
    exact List.mem_singleton.mp hp ▸ rfl

theorem read_methodsEnum (style : Style) (s : Service) :
  (methodsEnum style s).read descriptor? = s.wirePairs
  := by
  have hmethods : (s.methods.map (methodEnum style s)).flatMap (Declaration.read descriptor?)
      = s.wirePairs := by
    rw [List.flatMap_map]
    simp only [read_methodEnum]
    exact List.map_eq_flatMap.symm
  rw [methodsEnum, Declaration.read_enumeration, List.flatMap_append, hmethods,
    List.flatMap_singleton, read_descriptorList, List.append_nil]

theorem read_serviceEnum (style : Style) (sides : Sides) (s : Service) :
  (serviceEnum style sides s).read descriptor? = s.wirePairs
  := by
  have hroles : ((roles sides).map (roleAlias style s)).flatMap (Declaration.read descriptor?)
      = [] := by
    rw [List.flatMap_map, List.flatMap_eq_nil_iff]
    intro role _
    rw [roleAlias, Declaration.read_available]
    rfl
  rw [serviceEnum, Declaration.read_enumeration, List.flatMap_cons, hroles, List.append_nil,
    read_methodsEnum]

theorem read_spaceDeclarations (style : Style) (sides : Sides) (services : List Service)
    (ns : String) :
  (spaceDeclarations style sides services ns).flatMap (Declaration.read descriptor?)
    = (servicesOf ns (ordered services)).flatMap Service.wirePairs
  := by
  have henums : (enumsOf style sides services ns).flatMap (Declaration.read descriptor?)
      = (servicesOf ns (ordered services)).flatMap Service.wirePairs := by
    rw [enumsOf, List.flatMap_map]
    simp only [read_serviceEnum]
  rw [spaceDeclarations]
  split
  · exact henums
  · rw [List.flatMap_singleton, Declaration.read_enumeration, henums]

/-- The groups of services, one after the other, are all services in order. -/
theorem flatMap_servicesOf_spaces (services : List Service) :
  (spaces services).flatMap (fun ns => servicesOf ns (ordered services)) = ordered services
  := by
  rw [List.flatMap_def, spaces, ← byNamespace_eq, byNamespace, List.flatten_splitBy]
  rfl

/-- A declaration in which no descriptor is made. -/
def Plain (d : Declaration) : Prop :=
  d.Reads descriptor? (fun _ => False)

theorem plain_of_read_eq_nil {d : Declaration} (h : d.read descriptor? = []) :
  Plain d
  := List.eq_nil_iff_forall_not_mem.mp h

theorem plain_type (t : String) :
  ∀ x ∈ descriptor? (.type t), False
  := by
  rintro x ⟨⟩

theorem plain_signature (g : Signature) :
  ∀ x ∈ g.parts.filterMap descriptor?, False
  := forall_mem_types (fun t _ => plain_type t)

theorem plain_requirement (documentation : String) (g : Signature) :
  Plain ((Declaration.function g none).documented documentation)
  := by
  apply Declaration.reads_documented
  rw [Declaration.Reads, Declaration.read, Declaration.parts]
  apply plain_signature g

theorem plain_adapterMethod (style : Style) (s : Service) (m : Method) :
  Plain (adapterMethod style s m)
  := by
  rw [adapterMethod, adaptedRequest, adaptedResponse]
  cases m.inputStreaming with
  | true =>
      cases m.outputStreaming with
      | true => apply plain_of_read_eq_nil rfl
      | false => apply plain_of_read_eq_nil rfl
  | false =>
      cases m.outputStreaming with
      | true => apply plain_of_read_eq_nil rfl
      | false => apply plain_of_read_eq_nil rfl

/-- No descriptor is made outside of the alias section. -/
theorem plain_sideDeclarations {style : Style} {sides : Sides} {r : Request} {s : Service}
    {d : Declaration} (h : d ∈ sideDeclarations style sides r s) :
  Plain d
  := by
  obtain ⟨-, hd⟩ | ⟨-, hd⟩ := (mem_sideDeclarations_iff style sides r s d).mp h
  · simp only [serverDeclarations, List.mem_cons, List.not_mem_nil, or_false] at hd
    obtain rfl | rfl | rfl | rfl := hd
    · apply Declaration.reads_protocol (fun t _ => plain_type t)
      rw [List.forall_mem_map]
      exact fun m _ => plain_requirement m.documentation _
    · apply Declaration.reads_extension (plain_type _)
      rw [List.forall_mem_singleton]
      apply Declaration.reads_available
      apply Declaration.reads_function (plain_signature _)
      exact fun m _ x hx => absurd hx List.not_mem_nil
    · apply Declaration.reads_protocol (fun t _ => plain_type t)
      rw [List.forall_mem_map]
      exact fun m _ => plain_requirement m.documentation _
    · apply Declaration.reads_extension (plain_type _)
      rw [List.forall_mem_map]
      exact fun m _ => plain_adapterMethod style s m
  · simp only [clientDeclarations, List.mem_cons, List.not_mem_nil, or_false] at hd
    obtain rfl | rfl | rfl := hd
    · apply Declaration.reads_protocol (fun t _ => plain_type t)
      rw [List.forall_mem_map]
      exact fun m _ => plain_requirement m.documentation _
    · apply Declaration.reads_extension (plain_type _)
      rw [List.forall_mem_map]
      intro m _
      apply plain_of_read_eq_nil rfl
    · apply Declaration.reads_struct (fun t _ => plain_type t)
      rw [List.forall_mem_cons, List.forall_mem_cons, List.forall_mem_map]
      refine ⟨?_, ?_, ?_⟩
      · apply plain_of_read_eq_nil rfl
      · apply plain_of_read_eq_nil rfl
      · intro m _
        apply Declaration.reads_documented
        apply plain_of_read_eq_nil rfl

/-- The descriptors in a file are those of the alias section, which goes through the services in
order. -/
theorem read_declarations (style : Style) (sides : Sides) (r : Request) :
  (declarations style sides r).flatMap (Declaration.read descriptor?)
    = (ordered r.services).flatMap Service.wirePairs
  := by
  have hsided : (sided style sides r).flatMap (Declaration.read descriptor?) = [] := by
    rw [List.flatMap_eq_nil_iff]
    intro d hd
    obtain ⟨s, -, hd⟩ := (mem_sided_iff style sides r d).mp hd
    apply List.eq_nil_iff_forall_not_mem.mpr (plain_sideDeclarations hd)
  have halias : ((spaces r.services).flatMap (spaceDeclarations style sides r.services)).flatMap
      (Declaration.read descriptor?) = (ordered r.services).flatMap Service.wirePairs := by
    rw [List.flatMap_assoc]
    simp only [read_spaceDeclarations]
    rw [← List.flatMap_assoc, flatMap_servicesOf_spaces]
  rw [declarations_eq, List.flatMap_append, hsided, halias, List.append_nil]

/-- No two methods of an accepted request have the same names on the wire. -/
theorem nodup_wirePairs {r : Request} (h : r.Acceptable) :
  (r.services.flatMap Service.wirePairs).Nodup
  := by
  rw [List.nodup_flatMap]
  constructor
  · intro s hs
    have hnames : (s.wirePairs.map Prod.snd).Nodup := by
      rw [Service.wirePairs, List.map_map]
      apply (h.methods s hs).base
    exact hnames.of_map
  · apply (List.pairwise_map.mp h.wireNames).imp
    intro s t hne pair hs ht
    obtain ⟨m, -, rfl⟩ := List.mem_map.mp hs
    obtain ⟨m', -, heq⟩ := List.mem_map.mp ht
    apply hne (congrArg Prod.fst heq).symm

/-! ### Both sides -/

theorem nodup_descriptorPath {s : Service} (h : s.MethodsApart) :
  (s.methods.map s.descriptorPath).Nodup
  := by
  have hupper := List.pairwise_map.mp h.upper
  apply List.pairwise_map.mpr
  apply hupper.imp
  intro m m' hne heq
  apply hne
  rw [Service.descriptorPath, Service.descriptorPath, String.append_left_inj, Service.methodPath,
    Service.methodPath, String.append_right_inj] at heq
  exact heq

/-- With both sides, the file for an accepted request is wired. -/
theorem wired_declarations (style : Style) {sides : Sides} (hserver : sides.server)
    (hclient : sides.client) {r : Request} (h : r.Acceptable) :
  Wired r (declarations style sides r)
  := by
  have hregistered : (declarations style sides r).filterMap registered?
      = r.services.map (fun s => s.methods.map (registrationOf r s)) := by
    rw [filterMap_declarations style hserver hclient]
    · simp only [filterMap_registered?_server, filterMap_registered?_client]
      rw [← List.map_eq_flatMap, List.flatMap_eq_nil_iff.mpr (fun s _ => rfl), List.append_nil]
    · intro d hd
      obtain ⟨access, name, ms, hbare⟩ := bare_of_isSome_enum? hd
      rw [registered?, hbare]
  have hforwarded : (declarations style sides r).filterMap forwarded?
      = r.services.map (fun s => s.methods.map (forwardedCallOf s)) := by
    rw [filterMap_declarations style hserver hclient]
    · simp only [filterMap_forwarded?_server, filterMap_forwarded?_client]
      rw [← List.map_eq_flatMap, List.flatMap_eq_nil_iff.mpr (fun s _ => rfl), List.nil_append]
    · intro d hd
      obtain ⟨access, name, ms, hbare⟩ := bare_of_isSome_enum? hd
      rw [forwarded?, hbare]
  have hdescriptors := read_declarations style sides r
  constructor
  · exact hregistered
  · exact hforwarded
  · rw [hregistered, hforwarded, List.map_map, List.map_map]
    apply List.map_congr_left
    intro s _
    simp only [Function.comp, List.map_map]
    rfl
  · rw [hregistered, List.forall_mem_map]
    intro s hs
    rw [List.map_map]
    apply nodup_descriptorPath (h.methods s hs)
  · rw [flatMap_declarations style hserver hclient]
    · simp only [flatMap_defaults_server, flatMap_defaults_client]
      rw [List.flatMap_eq_nil_iff.mpr (fun s _ => rfl), List.nil_append]
    · intro d hd
      obtain ⟨access, name, ms, hbare⟩ := bare_of_isSome_enum? hd
      rw [defaults, hbare]
  · rw [hdescriptors]
    apply (ordered_perm r.services).flatMap_right Service.wirePairs
  · rw [hdescriptors, ((ordered_perm r.services).flatMap_right _).nodup_iff]
    apply nodup_wirePairs h

/-- With both sides, an accepted request has a file in which client and server are wired to each
other. -/
theorem Request.file_wired (c : Configuration) (hserver : c.sides.server)
    (hclient : c.sides.client) {r : Request} (h : r.check = .ok ()) :
  ∃ f, r.file c = .ok f ∧ Wired r f.contents.declarations
  := by
  obtain ⟨f, hf, hdeclarations⟩ := Request.file_declarations c h
  use f, hf
  rw [hdeclarations]
  apply wired_declarations c.style hserver hclient ((Request.check_eq_ok_iff r).mp h)

/-- What a server with a unary and a streaming method registers, beside one with a lone method. -/
theorem Request.file_greetings_wired :
  greetings.check = .ok ()
    ∧ ∃ f, greetings.file .standard = .ok f
      ∧ (f.contents.declarations.filterMap registered?).map (List.map Registration.descriptor)
        = [["Hello_World.Greeter.Method.SayHello.descriptor",
            "Hello_World.Greeter.Method.Chat.descriptor"],
          ["Echo.Method.Ping.descriptor"]]
      ∧ (f.contents.declarations.flatMap (Declaration.read descriptor?)).Nodup
  := by
  obtain ⟨f, hf, hwired⟩ := file_wired .standard rfl rfl check_greetings
  use check_greetings, f, hf
  constructor
  · rw [hwired.registered]
    rfl
  · exact hwired.distinct

end SwiftStubs
