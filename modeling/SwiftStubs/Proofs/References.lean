import SwiftStubs.Proofs.Lookup
import SwiftStubs.Proofs.Parts

/-!
# References

The server and the client section refer to declarations of the alias section by dotted paths. For
an accepted request every such path leads to exactly one alias or constant. `Service.Resolved` says
what the paths of a service lead to, and `Accounted` that a type or a name written in the two
sections is such a path or owes nothing to the alias section.
-/

namespace SwiftStubs

open Swift Stub

/-! ### Paths -/

/-- A path as it is written. -/
def dotted (path : List String) : String :=
  String.intercalate "." path

/-- A written path leads to exactly one alias or to exactly one static constant. -/
def Leads (ds : List Declaration) (path : String) : Prop :=
  ∃ names name ms, path = dotted (names ++ [name]) ∧ reach names ds = [ms]
    ∧ ((∃ target, aliasesNamed name ms = [target]) ∨ ∃ value, staticsNamed name ms = [value])

namespace Service

theorem components_ne_nil (s : Service) :
  s.components ≠ []
  := by
  rw [components]
  split
  · apply List.cons_ne_nil _ _
  · apply List.cons_ne_nil _ _

theorem dotted_components (s : Service) :
  dotted s.components = s.path
  := by
  rw [components, path]
  split
  · rfl
  · rfl

theorem dotted_components_append (s : Service) {names : List String} (h : names ≠ []) :
  dotted (s.components ++ names) = s.path ++ "." ++ dotted names
  := by
  rw [dotted, String.intercalate_append_of_ne_nil s.components_ne_nil h, ← dotted,
    dotted_components]
  rfl

theorem rolePath_eq (s : Service) (role : String) :
  s.path ++ ("." ++ role) = dotted (s.components ++ [role])
  := by
  rw [dotted_components_append s (List.cons_ne_nil _ _), String.append_assoc]
  rfl

/-- The paths below the enum of a method are made of its names. -/
theorem methodPath_append_eq (s : Service) (m : Method) (name : String) :
  s.methodPath m ++ ("." ++ name) = dotted (s.components ++ ["Method", m.name.upper] ++ [name])
  := by
  have hmethod : ".Method." = "." ++ ("Method" ++ ".") := rfl
  have hnames : ["Method", m.name.upper] ++ [name] ≠ [] := List.cons_ne_nil _ _
  rw [List.append_assoc, s.dotted_components_append hnames, methodPath, hmethod, dotted,
    List.cons_append, List.cons_append, List.nil_append, String.intercalate_cons_cons,
    String.intercalate_cons_cons, String.intercalate_singleton]
  simp only [String.append_assoc]

end Service

/-! ### What the paths of a service lead to -/

/-- The names of a service lead to its declarations.
* Below its path, the names of a method lead to one enum, with the types of its messages and its
  descriptor.
* The enum around those lists the descriptors of the enums it holds, which are those of the methods
  in order.
* At its path there is one alias for each role, of a protocol or struct declared for the
  service. -/
structure Service.Resolved (style : Style) (sides : Sides) (r : Request) (ds : List Declaration)
    (s : Service) : Prop where
  method : ∀ m ∈ s.methods, ∃ ms, reach (s.components ++ ["Method", m.name.upper]) ds = [ms]
    ∧ aliasesNamed "Input" ms = [m.inputType]
    ∧ aliasesNamed "Output" ms = [m.outputType]
    ∧ staticsNamed "descriptor" ms = [some (descriptorCall s m)]
  descriptors : ∃ ms, reach (s.components ++ ["Method"]) ds = [ms]
    ∧ enumNames ms = s.methods.map (fun m => m.name.upper)
    ∧ staticsNamed "descriptors" ms = [some (.arrayLiteral
      ((enumNames ms).map (fun name => .identifier (name ++ ".descriptor"))))]
  role : ∃ ms, reach s.components ds = [ms] ∧ ∀ role, HasRole sides role →
    aliasesNamed role ms = [s.typeName ++ role]
      ∧ ∃ d ∈ ds, d ∈ sideDeclarations style sides r s ∧ d.nominal? = some (s.typeName ++ role)

/-- For every role of a service there is a protocol or struct. -/
theorem exists_nominal (style : Style) {sides : Sides} (r : Request) (s : Service) {role : String}
    (h : HasRole sides role) :
  ∃ d ∈ sideDeclarations style sides r s, d.nominal? = some (s.typeName ++ role)
  := by
  cases h with
  | streamingServiceProtocol hside =>
      use streamingProtocol style s
      simp [sideDeclarations, serverDeclarations, hside, streamingProtocol, Declaration.nominal?,
        Declaration.bare]
  | serviceProtocol hside =>
      use serviceProtocol style s
      simp [sideDeclarations, serverDeclarations, hside, serviceProtocol, Declaration.nominal?,
        Declaration.bare]
  | clientProtocol hside =>
      use clientProtocol style s
      simp [sideDeclarations, clientDeclarations, hside, clientProtocol, Declaration.nominal?,
        Declaration.bare]
  | client hside =>
      use clientStruct style s
      simp [sideDeclarations, clientDeclarations, hside, clientStruct, Declaration.nominal?,
        Declaration.bare]

/-- The names of every service of an accepted request are resolved in its file. -/
theorem resolved_declarations (style : Style) (sides : Sides) {r : Request} (h : r.Acceptable)
    {s : Service} (hs : s ∈ r.services) :
  s.Resolved style sides r (declarations style sides r)
  := by
  have hservice := reach_components style sides h hs
  have hmethods : reach (s.components ++ ["Method"]) (declarations style sides r)
      = [methodsMembers style s] := by
    rw [reach_append_of_eq hservice, reach, enumsNamed_serviceMembers]
    rfl
  constructor
  · intro m hm
    use methodMembers style s m
    refine ⟨?_, rfl, rfl, rfl⟩
    have hmethod := reach_append_of_eq hmethods [m.name.upper]
    rw [List.append_assoc, reach, enumsNamed_methodsMembers style (h.methods s hs) hm] at hmethod
    exact hmethod
  · use methodsMembers style s, hmethods
    use enumNames_methodsMembers style s
    apply staticsNamed_methodsMembers style s
  · use serviceMembers style sides s, hservice
    intro role hrole
    use aliasesNamed_serviceMembers style s ((mem_roles_iff sides role).mpr hrole)
    obtain ⟨d, hd, hname⟩ := exists_nominal style r s hrole
    have hmem : d ∈ declarations style sides r := by
      rw [declarations_eq]
      apply List.mem_append_right _ ((mem_sided_iff style sides r d).mpr ⟨s, hs, hd⟩)
    exact ⟨d, hmem, hd, hname⟩

namespace Service.Resolved

variable {style : Style} {sides : Sides} {r : Request} {ds : List Declaration} {s : Service}

theorem leads_role (h : s.Resolved style sides r ds) {role : String} (hrole : HasRole sides role) :
  Leads ds (s.path ++ ("." ++ role))
  := by
  obtain ⟨ms, hms, hroles⟩ := h.role
  use s.components, role, ms, s.rolePath_eq role, hms
  exact Or.inl ⟨_, (hroles role hrole).1⟩

theorem leads_input (h : s.Resolved style sides r ds) {m : Method} (hm : m ∈ s.methods) :
  Leads ds (s.inputPath m)
  := by
  obtain ⟨ms, hms, hinput, -, -⟩ := h.method m hm
  use s.components ++ ["Method", m.name.upper], "Input", ms, s.methodPath_append_eq m "Input", hms
  exact Or.inl ⟨_, hinput⟩

theorem leads_output (h : s.Resolved style sides r ds) {m : Method} (hm : m ∈ s.methods) :
  Leads ds (s.outputPath m)
  := by
  obtain ⟨ms, hms, -, houtput, -⟩ := h.method m hm
  use s.components ++ ["Method", m.name.upper], "Output", ms, s.methodPath_append_eq m "Output",
    hms
  exact Or.inl ⟨_, houtput⟩

theorem leads_descriptor (h : s.Resolved style sides r ds) {m : Method} (hm : m ∈ s.methods) :
  Leads ds (s.descriptorPath m)
  := by
  obtain ⟨ms, hms, -, -, hdescriptor⟩ := h.method m hm
  use s.components ++ ["Method", m.name.upper], "descriptor", ms,
    s.methodPath_append_eq m "descriptor", hms
  exact Or.inr ⟨_, hdescriptor⟩

end Service.Resolved

/-! ### Types and names that are written -/

/-- The generic types around the type of a message. -/
def wrappers : List String :=
  ["ServerRequest.Stream", "ServerRequest.Single", "ServerResponse.Stream",
    "ServerResponse.Single", "ClientRequest.Stream", "ClientRequest.Single",
    "ClientResponse.Stream", "ClientResponse.Single"]

/-- The types and names that do not depend on the request: those of the modules that are used, and
those of parameters, properties and constants. -/
def fixedNames : List String :=
  ["GRPCCore.RegistrableRPCService", "inout GRPCCore.RPCRouter", "GRPCCore.GRPCClient",
    "ServerRequest.Single", "ServerResponse.Stream", "Sendable", "R", "R: Sendable",
    "router.registerHandler", "self.client", "client", "request", "response", "serializer",
    "deserializer", "body"]

/-- The ways in which a path is written: alone, as the argument of a generic type, in the type of a
serializer, of a deserializer or of a handler, and in the expression that makes a serializer or a
deserializer. -/
inductive Mention (r : Request) (path : String) : String → Prop
  | alone : Mention r path path
  | wrapped {wrapper : String} (h : wrapper ∈ wrappers) :
    Mention r path (genericType wrapper [some path])
  | serializerType : Mention r path ("some MessageSerializer<" ++ path ++ ">")
  | deserializerType : Mention r path ("some MessageDeserializer<" ++ path ++ ">")
  | handlerType {wrapper : String} (h : wrapper ∈ wrappers) :
    Mention r path
      ("@Sendable @escaping (" ++ genericType wrapper [some path] ++ ") async throws -> R")
  | serializer : Mention r path (r.serializer path)
  | deserializer : Mention r path (r.deserializer path)

/-- What is written is a path that leads to one place, is the same for all requests, or is one of
the functions of `self` and of the client that calls go to. -/
inductive Accounted (r : Request) (ds : List Declaration) : String → Prop
  | path {p text : String} (hp : Leads ds p) (h : Mention r p text) : Accounted r ds text
  | fixed {text : String} (h : text ∈ fixedNames) : Accounted r ds text
  | method {s : Service} (hs : s ∈ r.services) {m : Method} (hm : m ∈ s.methods) :
    Accounted r ds ("self." ++ m.name.lower)
  | forwarded (shape : Shape) : Accounted r ds ("self.client." ++ shape.name)

/-! ### The parts of the two sections -/

section

variable {style : Style} {sides : Sides} {r : Request} {ds : List Declaration} {s : Service}

/-- All types and names in a declaration are accounted for. -/
def Closed (r : Request) (ds : List Declaration) (d : Declaration) : Prop :=
  ∀ t ∈ d.texts, Accounted r ds t

theorem Accounted.type {t : String} (h : Accounted r ds t) :
  ∀ x ∈ Part.text? (.type t), Accounted r ds x
  := by
  rintro x ⟨⟩
  exact h

/-- The type at a path is accounted for in a wrapper. -/
theorem accounted_wrapped {path : String} (h : Leads ds path) {wrapper wrapper' : String}
    (hw : wrapper ∈ wrappers) (hw' : wrapper' ∈ wrappers) (streaming : Bool) :
  Accounted r ds (genericType (if streaming then wrapper else wrapper') [some path])
  := by
  apply Accounted.path h
  cases streaming with
  | true => apply Mention.wrapped hw
  | false => apply Mention.wrapped hw'

theorem Service.Resolved.accounted_role (h : s.Resolved style sides r ds) {role : String}
    (hrole : HasRole sides role) :
  Accounted r ds (s.path ++ ("." ++ role))
  := Accounted.path (h.leads_role hrole) Mention.alone

/-! ### The server section -/

theorem accounted_serverSignature (h : s.Resolved style sides r ds) {m : Method}
    (hm : m ∈ s.methods) (access : Option AccessModifier) (inputStreaming outputStreaming : Bool) :
  ∀ t ∈ (serverSignature access s m inputStreaming outputStreaming).parts.filterMap Part.text?,
    Accounted r ds t
  := by
  have htexts : (serverSignature access s m inputStreaming outputStreaming).parts.filterMap
      Part.text? = [serverRequest inputStreaming (s.inputPath m),
        serverResponse outputStreaming (s.outputPath m)] := rfl
  rw [htexts, List.forall_mem_cons, List.forall_mem_singleton]
  constructor
  · apply accounted_wrapped (h.leads_input hm) (by decide) (by decide) inputStreaming
  · apply accounted_wrapped (h.leads_output hm) (by decide) (by decide) outputStreaming

theorem closed_streamingProtocol (h : s.Resolved style sides r ds) :
  Closed r ds (streamingProtocol style s)
  := by
  apply Declaration.reads_protocol
  · rw [List.forall_mem_singleton]
    apply Accounted.type (Accounted.fixed (by decide))
  · rw [List.forall_mem_map]
    intro m hm
    apply Declaration.reads_documented
    apply accounted_serverSignature h hm none true true

theorem accounted_registerCall (h : s.Resolved style sides r ds) (hs : s ∈ r.services)
    {m : Method} (hm : m ∈ s.methods) :
  ∀ t ∈ (registerCall r s m).texts, Accounted r ds t
  := by
  have htexts : (registerCall r s m).texts = ["router.registerHandler", s.descriptorPath m,
      r.deserializer (s.inputPath m), r.serializer (s.outputPath m), "self." ++ m.name.lower,
      "request"] := rfl
  intro t ht
  simp only [htexts, List.mem_cons, List.not_mem_nil, or_false] at ht
  obtain rfl | rfl | rfl | rfl | rfl | rfl := ht
  · apply Accounted.fixed (by decide)
  · apply Accounted.path (h.leads_descriptor hm) Mention.alone
  · apply Accounted.path (h.leads_input hm) Mention.deserializer
  · apply Accounted.path (h.leads_output hm) Mention.serializer
  · apply Accounted.method hs hm
  · apply Accounted.fixed (by decide)

theorem closed_registration (h : s.Resolved style sides r ds) (hs : s ∈ r.services)
    (hserver : sides.server) :
  Closed r ds (registration style r s)
  := by
  have hrole := HasRole.streamingServiceProtocol hserver
  apply Declaration.reads_extension
  · apply (h.accounted_role hrole).type
  · rw [List.forall_mem_singleton]
    apply Declaration.reads_available
    apply Declaration.reads_function
    · intro t ht
      obtain rfl := List.mem_singleton.mp ht
      apply Accounted.fixed (by decide)
    · intro m hm
      apply accounted_registerCall h hs hm

theorem closed_serviceProtocol (h : s.Resolved style sides r ds) (hserver : sides.server) :
  Closed r ds (serviceProtocol style s)
  := by
  have hrole := HasRole.streamingServiceProtocol hserver
  apply Declaration.reads_protocol
  · rw [List.forall_mem_singleton]
    apply (h.accounted_role hrole).type
  · rw [List.forall_mem_map]
    intro m hm
    apply Declaration.reads_documented
    apply accounted_serverSignature h (List.mem_of_mem_filter hm) none _ _

theorem fixed_adaptedRequest (m : Method) :
  ∀ t ∈ (adaptedRequest m).texts, t ∈ fixedNames
  := by
  rw [adaptedRequest]
  split
  · decide
  · decide

theorem fixed_adaptedResponse (m : Method) :
  ∀ t ∈ (adaptedResponse m).texts, t ∈ fixedNames
  := by
  rw [adaptedResponse]
  split
  · decide
  · decide

theorem closed_adapterMethod (h : s.Resolved style sides r ds) (hs : s ∈ r.services) {m : Method}
    (hm : m ∈ s.methods) :
  Closed r ds (adapterMethod style s m)
  := by
  have htexts : (adapterMethod style s m).texts
      = (streamingSignature (some style.access) s m).parts.filterMap Part.text?
        ++ ("self." ++ m.name.lower)
          :: ((adaptedRequest m).texts ++ (adaptedResponse m).texts) := by
    simp [adapterMethod, Declaration.texts, Declaration.read, Declaration.parts, Expression.texts,
      Expression.read, Expression.parts, Expression.tryAwait, argumentParts, Part.text?,
      Declaration.block, Expression.block, Block.parts, List.filterMap_cons]
  rw [Closed, htexts, List.forall_mem_append, List.forall_mem_cons, List.forall_mem_append]
  refine ⟨?_, ?_, ?_, ?_⟩
  · apply accounted_serverSignature h hm (some style.access) true true
  · apply Accounted.method hs hm
  · exact fun t ht => Accounted.fixed (fixed_adaptedRequest m t ht)
  · exact fun t ht => Accounted.fixed (fixed_adaptedResponse m t ht)

theorem closed_adapter (h : s.Resolved style sides r ds) (hs : s ∈ r.services)
    (hserver : sides.server) :
  Closed r ds (adapter style s)
  := by
  have hrole := HasRole.serviceProtocol hserver
  apply Declaration.reads_extension
  · apply (h.accounted_role hrole).type
  · rw [List.forall_mem_map]
    intro m hm
    apply closed_adapterMethod h hs (List.mem_of_mem_filter hm)

/-! ### The client section -/

theorem accounted_requestParameter (h : s.Resolved style sides r ds) {m : Method}
    (hm : m ∈ s.methods) :
  Accounted r ds (requestParameter s m).type
  := accounted_wrapped (h.leads_input hm) (by decide) (by decide) m.inputStreaming

theorem accounted_bodyParameter (h : s.Resolved style sides r ds) {m : Method}
    (hm : m ∈ s.methods) :
  Accounted r ds (bodyParameter s m).type
  := by
  apply Accounted.path (h.leads_output hm)
  rw [bodyParameter, clientResponse]
  cases m.outputStreaming with
  | true => apply Mention.handlerType (by decide)
  | false => apply Mention.handlerType (by decide)

theorem accounted_shortSignature (h : s.Resolved style sides r ds) {m : Method}
    (hm : m ∈ s.methods) (access : Option AccessModifier) :
  ∀ t ∈ (shortSignature access s m).parts.filterMap Part.text?, Accounted r ds t
  := by
  have htexts : (shortSignature access s m).parts.filterMap Part.text?
      = [(requestParameter s m).type, (bodyParameter s m).type, "R", "R: Sendable"] := rfl
  intro t ht
  simp only [htexts, List.mem_cons, List.not_mem_nil, or_false] at ht
  obtain rfl | rfl | rfl | rfl := ht
  · apply accounted_requestParameter h hm
  · apply accounted_bodyParameter h hm
  · apply Accounted.fixed (by decide)
  · apply Accounted.fixed (by decide)

theorem accounted_fullSignature (h : s.Resolved style sides r ds) {m : Method}
    (hm : m ∈ s.methods) (access : Option AccessModifier) :
  ∀ t ∈ (fullSignature access s m).parts.filterMap Part.text?, Accounted r ds t
  := by
  have htexts : (fullSignature access s m).parts.filterMap Part.text?
      = [(requestParameter s m).type, "some MessageSerializer<" ++ s.inputPath m ++ ">",
        "some MessageDeserializer<" ++ s.outputPath m ++ ">", (bodyParameter s m).type, "R",
        "R: Sendable"] := rfl
  intro t ht
  simp only [htexts, List.mem_cons, List.not_mem_nil, or_false] at ht
  obtain rfl | rfl | rfl | rfl | rfl | rfl := ht
  · apply accounted_requestParameter h hm
  · apply Accounted.path (h.leads_input hm) Mention.serializerType
  · apply Accounted.path (h.leads_output hm) Mention.deserializerType
  · apply accounted_bodyParameter h hm
  · apply Accounted.fixed (by decide)
  · apply Accounted.fixed (by decide)

theorem closed_clientProtocol (h : s.Resolved style sides r ds) :
  Closed r ds (clientProtocol style s)
  := by
  apply Declaration.reads_protocol
  · rw [List.forall_mem_singleton]
    apply Accounted.type (Accounted.fixed (by decide))
  · rw [List.forall_mem_map]
    intro m hm
    apply Declaration.reads_documented
    apply accounted_fullSignature h hm none

theorem closed_overload (h : s.Resolved style sides r ds) (hs : s ∈ r.services) {m : Method}
    (hm : m ∈ s.methods) :
  Closed r ds (overload style r s m)
  := by
  have htexts : (overload style r s m).texts
      = (shortSignature (some style.access) s m).parts.filterMap Part.text?
        ++ ["self." ++ m.name.lower, "request", r.serializer (s.inputPath m),
          r.deserializer (s.outputPath m), "body"] := rfl
  rw [Closed, htexts, List.forall_mem_append]
  constructor
  · apply accounted_shortSignature h hm (some style.access)
  · intro t ht
    simp only [List.mem_cons, List.not_mem_nil, or_false] at ht
    obtain rfl | rfl | rfl | rfl | rfl := ht
    · apply Accounted.method hs hm
    · apply Accounted.fixed (by decide)
    · apply Accounted.path (h.leads_input hm) Mention.serializer
    · apply Accounted.path (h.leads_output hm) Mention.deserializer
    · apply Accounted.fixed (by decide)

theorem closed_overloads (h : s.Resolved style sides r ds) (hs : s ∈ r.services)
    (hclient : sides.client) :
  Closed r ds (overloads style r s)
  := by
  have hrole := HasRole.clientProtocol hclient
  apply Declaration.reads_extension
  · apply (h.accounted_role hrole).type
  · rw [List.forall_mem_map]
    intro m hm
    apply closed_overload h hs hm

theorem closed_clientMethod (h : s.Resolved style sides r ds) {m : Method} (hm : m ∈ s.methods) :
  Closed r ds (clientMethod style s m)
  := by
  have htexts : (clientMethod style s m).texts
      = (fullSignature (some style.access) s m).parts.filterMap Part.text?
        ++ ["self.client." ++ m.shape.name, "request", s.descriptorPath m, "serializer",
          "deserializer", "body"] := rfl
  rw [Closed, htexts, List.forall_mem_append]
  constructor
  · apply accounted_fullSignature h hm (some style.access)
  · intro t ht
    simp only [List.mem_cons, List.not_mem_nil, or_false] at ht
    obtain rfl | rfl | rfl | rfl | rfl | rfl := ht
    · apply Accounted.forwarded m.shape
    · apply Accounted.fixed (by decide)
    · apply Accounted.path (h.leads_descriptor hm) Mention.alone
    · apply Accounted.fixed (by decide)
    · apply Accounted.fixed (by decide)
    · apply Accounted.fixed (by decide)

theorem closed_clientStruct (h : s.Resolved style sides r ds) (hclient : sides.client) :
  Closed r ds (clientStruct style s)
  := by
  have hrole := HasRole.clientProtocol hclient
  apply Declaration.reads_struct
  · rw [List.forall_mem_singleton]
    apply (h.accounted_role hrole).type
  · rw [List.forall_mem_cons, List.forall_mem_cons, List.forall_mem_map]
    refine ⟨?_, ?_, ?_⟩
    · exact fun t ht => Accounted.fixed (by revert t; decide)
    · have htexts : (clientInitializer style).read Part.text?
          = [forwardingClient, "self.client", "client"] := rfl
      rw [Declaration.Reads, htexts]
      exact fun t ht => Accounted.fixed (by revert t; decide)
    · intro m hm
      apply Declaration.reads_documented (closed_clientMethod h hm)

/-! ### All references -/

theorem closed_sideDeclarations (h : s.Resolved style sides r ds) (hs : s ∈ r.services) :
  ∀ d ∈ sideDeclarations style sides r s, Closed r ds d
  := by
  intro d hd
  obtain ⟨hserver, hd⟩ | ⟨hclient, hd⟩ := (mem_sideDeclarations_iff style sides r s d).mp hd
  · simp only [serverDeclarations, List.mem_cons, List.not_mem_nil, or_false] at hd
    obtain rfl | rfl | rfl | rfl := hd
    · apply closed_streamingProtocol h
    · apply closed_registration h hs hserver
    · apply closed_serviceProtocol h hserver
    · apply closed_adapter h hs hserver
  · simp only [clientDeclarations, List.mem_cons, List.not_mem_nil, or_false] at hd
    obtain rfl | rfl | rfl := hd
    · apply closed_clientProtocol h
    · apply closed_overloads h hs hclient
    · apply closed_clientStruct h hclient

end

/-- In the file for an accepted request, all that is written outside of the alias section is
accounted for. -/
theorem closed_declarations (style : Style) (sides : Sides) {r : Request} (h : r.Acceptable)
    {d : Declaration} (hd : d ∈ declarations style sides r) (henum : d.enum? = none) :
  Closed r (declarations style sides r) d
  := by
  obtain hd | hd := List.mem_append.mp (declarations_eq style sides r ▸ hd)
  · obtain ⟨ns, -, hd⟩ := List.mem_flatMap.mp hd
    have hsome := isSome_enum?_of_mem hd
    rw [henum] at hsome
    contradiction
  · obtain ⟨s, hs, hd⟩ := (mem_sided_iff style sides r d).mp hd
    apply closed_sideDeclarations (resolved_declarations style sides h hs) hs d hd

/-- An accepted request has a file in which the names of all services are resolved, and in which
all that is written outside of the alias section is accounted for. -/
theorem Request.references_resolved (c : Configuration) {r : Request} (h : r.check = .ok ()) :
  ∃ f, r.file c = .ok f
    ∧ (∀ s ∈ r.services, s.Resolved c.style c.sides r f.contents.declarations)
    ∧ ∀ d ∈ f.contents.declarations, d.enum? = none →
      ∀ t ∈ d.texts, Accounted r f.contents.declarations t
  := by
  obtain ⟨f, hf, hdeclarations⟩ := Request.file_declarations c h
  have hacceptable := (Request.check_eq_ok_iff r).mp h
  use f, hf
  rw [hdeclarations]
  constructor
  · intro s hs
    apply resolved_declarations c.style c.sides hacceptable hs
  · intro d hd henum
    apply closed_declarations c.style c.sides hacceptable hd henum

/-- The path of a method that streams both ways leads to its enum. -/
theorem Request.references_greetings_resolved :
  greetings.check = .ok ()
    ∧ ∃ f ms, greetings.file .standard = .ok f
      ∧ reach ["Hello_World", "Greeter", "Method", "Chat"] f.contents.declarations = [ms]
      ∧ aliasesNamed "Input" ms = ["Hello_World_Line"]
      ∧ ∀ d ∈ f.contents.declarations, d.enum? = none →
        ∀ t ∈ d.texts, Accounted greetings f.contents.declarations t
  := by
  obtain ⟨f, hf, hresolved, hclosed⟩ := references_resolved .standard check_greetings
  obtain ⟨ms, hms, hinput, -, -⟩ := (hresolved _ List.mem_cons_self).method _
    (List.mem_cons_of_mem _ List.mem_cons_self)
  exact ⟨check_greetings, f, ms, hf, hms, hinput, hclosed⟩

end SwiftStubs
