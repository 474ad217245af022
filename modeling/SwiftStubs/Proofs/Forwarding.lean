import SwiftStubs.Proofs.Members
import SwiftStubs.Proofs.Wiring

/-!
# The calls of a client

A client has its calls in three places: as requirements of its protocol, as short calls that choose
the serializers, and as functions of its struct that forward to a `GRPCClient`. A call goes to the
function with its name and its labels, and by the labels a short call reaches the requirement and
never a short call. What the struct forwards to is one of four calls, told apart by the generic
types of what they take and give; it is the one for which the request and the handler have the right
types.
-/

namespace SwiftStubs

open Swift Stub

/-! ### Calls and labels -/

/-- The labels of parameters. An underscore stands for none. -/
def Swift.Signature.labels (g : Signature) : List (Option String) :=
  g.parameters.map (fun p => if p.label = "_" then none else some p.label)

/-- The label of an argument. -/
def Swift.Argument.label : Argument → Option String
  | .mk label _ => label

/-- The call that a function makes, if that is all it does. -/
def Swift.Function.call? (f : Function) : Option (String × List Argument) :=
  match f.body with
  | [b] => awaited? b
  | _ => none

/-- A call on `self` goes to a function with its name and its labels. -/
structure Reaches (call : String × List Argument) (g : Signature) : Prop where
  callee : call.1 = "self." ++ g.name
  labels : call.2.map Argument.label = g.labels

/-- A signature with an access modifier. -/
def Swift.Signature.withAccess (access : AccessModifier) (g : Signature) : Signature :=
  { g with access := some access }

/-- A signature without the parameters for the serializers. -/
def Swift.Signature.withoutSerializers (g : Signature) : Signature :=
  { g with parameters := g.parameters.filter (fun p =>
      p.label != "serializer" && p.label != "deserializer") }

/-- A function calls the one with the given signature, and none of the given functions. -/
def Swift.Function.CallsPast (fs : List Function) (g : Signature) (f : Function) : Prop :=
  ∃ call, f.call? = some call ∧ Reaches call g ∧ ∀ f' ∈ fs, ¬ Reaches call f'.signature

/-! ### The calls of `GRPCClient` -/

/-- A call of `GRPCClient`, with the generic types of the request that it takes and of the response
that it hands on. -/
structure ClientCall where
  name : String
  request : String
  response : String
deriving Repr, DecidableEq

/-- The calls of `GRPCClient`. -/
def clientCalls : List ClientCall :=
  [⟨"unary", "ClientRequest.Single", "ClientResponse.Single"⟩,
    ⟨"clientStreaming", "ClientRequest.Stream", "ClientResponse.Single"⟩,
    ⟨"serverStreaming", "ClientRequest.Single", "ClientResponse.Stream"⟩,
    ⟨"bidirectionalStreaming", "ClientRequest.Stream", "ClientResponse.Stream"⟩]

/-- The type of a parameter, by its name in the body. -/
def Swift.Signature.typeOf? (g : Signature) (x : String) : Option String :=
  (g.parameters.find? (fun p => p.inner == x)).map Parameter.type

/-- A call takes the given arguments, where they have the types that parameters have. -/
structure ClientCall.Takes (call : ClientCall) (g : Signature) (args : List Argument) : Prop where
  request : ∃ message, (nameAt "request" args).bind g.typeOf?
    = some (call.request ++ "<" ++ message ++ ">")
  handler : ∃ message, (nameAt "handler" args).bind g.typeOf?
    = some ("@Sendable @escaping (" ++ (call.response ++ "<" ++ message ++ ">")
      ++ ") async throws -> R")

/-- A function forwards to the one call that takes what it is given. -/
def Swift.Function.Forwards (g : Signature) (f : Function) : Prop :=
  ∃ call ∈ clientCalls, ∃ args, f.call? = some ("self.client." ++ call.name, args)
    ∧ call.Takes g args ∧ ∀ call' ∈ clientCalls, call'.Takes g args → call' = call

/-- No two calls of a client take the same arguments. -/
theorem ClientCall.Takes.unique {call call' : ClientCall} (hcall : call ∈ clientCalls)
    (hcall' : call' ∈ clientCalls) {g : Signature} {args : List Argument} (h : call.Takes g args)
    (h' : call'.Takes g args) :
  call = call'
  := by
  have hlengths : ∀ c ∈ clientCalls, c.request.length = 20 ∧ c.response.length = 21 := by decide
  have hdetermined : ∀ c ∈ clientCalls, ∀ c' ∈ clientCalls, c.request = c'.request →
      c.response = c'.response → c = c' := by decide
  obtain ⟨hrequests, hresponses⟩ := hlengths call hcall
  obtain ⟨hrequests', hresponses'⟩ := hlengths call' hcall'
  obtain ⟨⟨message, hrequest⟩, answer, hhandler⟩ := h
  obtain ⟨⟨message', hrequest'⟩, answer', hhandler'⟩ := h'
  rw [hrequest, Option.some_inj, ← genericType_eq, ← genericType_eq] at hrequest'
  rw [hhandler, Option.some_inj, String.append_left_inj, String.append_right_inj,
    ← genericType_eq, ← genericType_eq] at hhandler'
  apply hdetermined call hcall call' hcall'
  · apply (genericType_inj (hrequests.trans hrequests'.symm) hrequest').1
  · apply (genericType_inj (hresponses.trans hresponses'.symm) hhandler').1

/-! ### The functions of a client -/

/-- The function of the struct for a method. -/
def clientFunction (style : Style) (s : Service) (m : Method) : Function where
  signature := fullSignature (some style.access) s m
  body := [(forwardedCall s m).tryAwait.block]

/-- The short call for a method. -/
def overloadFunction (style : Style) (r : Request) (s : Service) (m : Method) : Function where
  signature := shortSignature (some style.access) s m
  body := [(overloadCall r s m).tryAwait.block]

/-- The call for the shape of a method has the types of its request and its response. -/
theorem exists_clientCall (m : Method) :
  ∃ call ∈ clientCalls, m.shape.name = call.name
    ∧ (∀ type, clientRequest m.inputStreaming type = call.request ++ "<" ++ type ++ ">")
    ∧ ∀ type, clientResponse m.outputStreaming type = call.response ++ "<" ++ type ++ ">"
  := by
  rw [Method.shape]
  cases m.inputStreaming with
  | true =>
      cases m.outputStreaming with
      | true =>
          use ⟨"bidirectionalStreaming", "ClientRequest.Stream", "ClientResponse.Stream"⟩
          exact ⟨by decide, rfl, genericType_eq _, genericType_eq _⟩
      | false =>
          use ⟨"clientStreaming", "ClientRequest.Stream", "ClientResponse.Single"⟩
          exact ⟨by decide, rfl, genericType_eq _, genericType_eq _⟩
  | false =>
      cases m.outputStreaming with
      | true =>
          use ⟨"serverStreaming", "ClientRequest.Single", "ClientResponse.Stream"⟩
          exact ⟨by decide, rfl, genericType_eq _, genericType_eq _⟩
      | false =>
          use ⟨"unary", "ClientRequest.Single", "ClientResponse.Single"⟩
          exact ⟨by decide, rfl, genericType_eq _, genericType_eq _⟩

theorem forwards_clientFunction (style : Style) (s : Service) (m : Method) :
  (clientFunction style s m).Forwards (fullSignature none s m)
  := by
  obtain ⟨call, hcall, hname, hrequest, hresponse⟩ := exists_clientCall m
  have htakes : call.Takes (fullSignature none s m)
      [.mk (some "request") (.identifier "request"),
        .mk (some "descriptor") (.identifier (s.descriptorPath m)),
        .mk (some "serializer") (.identifier "serializer"),
        .mk (some "deserializer") (.identifier "deserializer"),
        .mk (some "handler") (.identifier "body")] := by
    constructor
    · use s.inputPath m
      rw [← hrequest]
      rfl
    · use s.outputPath m
      rw [← hresponse]
      rfl
  refine ⟨call, hcall, _, ?_, htakes, ?_⟩
  · rw [← hname]
    rfl
  · intro call' hcall' h
    apply ClientCall.Takes.unique hcall' hcall h htakes

/-- Short calls have two labels, and the calls they make have four. -/
theorem callsPast_overloadFunction (style : Style) (r : Request) (s : Service) (m : Method) :
  (overloadFunction style r s m).CallsPast (s.methods.map (overloadFunction style r s))
    (fullSignature none s m)
  := by
  refine ⟨_, rfl, ⟨rfl, rfl⟩, ?_⟩
  rw [List.forall_mem_map]
  rintro m' - ⟨-, hlabels⟩
  have hlength : 4 = 2 := congrArg List.length hlabels
  cases hlength

/-! ### The declarations of a service -/

/-- What the protocol of a client requires. -/
def Service.calls (s : Service) : List Signature :=
  s.methods.map (fullSignature none s)

/-- The client declarations of a service fit together.
* The protocol requires the calls of the service.
* The struct has an initializer and, behind it, a function for each requirement, in order, with its
  signature and an access modifier, which forwards to the call of `GRPCClient` that it fits.
* The extension has a short call for each requirement, in order, which lacks the parameters for the
  serializers, and which reaches the requirement and no short call. -/
structure Service.Conforming (style : Style) (s : Service) (ds : List Declaration) : Prop where
  requirements : protocolsNamed (s.typeName ++ "ClientProtocol") ds = [s.calls]
  struct : ∃ init fs, structsNamed (s.typeName ++ "Client") ds = [init :: fs]
    ∧ init.signature.name = "init"
    ∧ fs.map Function.signature = s.calls.map (Signature.withAccess style.access)
    ∧ List.Forall₂ Function.Forwards s.calls fs
  overloads : ∃ fs, extensionsOf (s.path ++ ".ClientProtocol") ds = [fs]
    ∧ fs.map Function.signature
      = s.calls.map (fun g => (g.withAccess style.access).withoutSerializers)
    ∧ List.Forall₂ (Function.CallsPast fs) s.calls fs

theorem filterMap_protocol?_client (style : Style) (r : Request) (s : Service) :
  (clientDeclarations style r s).filterMap Declaration.protocol?
    = [(s.typeName ++ "ClientProtocol", s.calls)]
  := by
  have hprotocol : (clientProtocol style s).protocol?
      = some (s.typeName ++ "ClientProtocol", s.calls) := by
    apply protocol?_present
    intro m
    rw [Declaration.requirement?, clientRequirement, Declaration.bare_documented]
    rfl
  have hoverloads : (overloads style r s).protocol? = none := by
    rw [Declaration.protocol?, overloads, Style.bare_present]
    rfl
  have hstruct : (clientStruct style s).protocol? = none := by
    rw [Declaration.protocol?, clientStruct, Style.bare_present]
    rfl
  simp only [clientDeclarations, List.filterMap_cons, List.filterMap_nil, hprotocol, hoverloads,
    hstruct]

theorem filterMap_extension?_client (style : Style) (r : Request) (s : Service) :
  (clientDeclarations style r s).filterMap Declaration.extension?
    = [(s.path ++ ".ClientProtocol", s.methods.map (overloadFunction style r s))]
  := by
  have hprotocol : (clientProtocol style s).extension? = none := by
    rw [Declaration.extension?, clientProtocol, Style.bare_present]
    rfl
  have hoverloads : (overloads style r s).extension?
      = some (s.path ++ ".ClientProtocol", s.methods.map (overloadFunction style r s)) := by
    apply extension?_present
    intro m
    rfl
  have hstruct : (clientStruct style s).extension? = none := by
    rw [Declaration.extension?, clientStruct, Style.bare_present]
    rfl
  simp only [clientDeclarations, List.filterMap_cons, List.filterMap_nil, hprotocol, hoverloads,
    hstruct]

theorem filterMap_struct?_client (style : Style) (r : Request) (s : Service) :
  ∃ init, init.signature.name = "init"
    ∧ (clientDeclarations style r s).filterMap Declaration.struct?
      = [(s.typeName ++ "Client", init :: s.methods.map (clientFunction style s))]
  := by
  obtain ⟨init, hinit, hname⟩ : ∃ init, (clientInitializer style).function? = some init
      ∧ init.signature.name = "init" := ⟨_, rfl, rfl⟩
  have hmethod : ∀ m, ((clientMethod style s m).documented m.documentation).function?
      = some (clientFunction style s m) := by
    intro m
    rw [Declaration.function?, Declaration.bare_documented]
    rfl
  have hmethods : (s.methods.map (fun m =>
      (clientMethod style s m).documented m.documentation)).filterMap Declaration.function?
      = s.methods.map (clientFunction style s) := by
    rw [List.filterMap_map, ← List.filterMap_eq_map]
    apply congrArg (s.methods.filterMap) (funext hmethod)
  have hprotocol : (clientProtocol style s).struct? = none := by
    rw [Declaration.struct?, clientProtocol, Style.bare_present]
    rfl
  have hoverloads : (overloads style r s).struct? = none := by
    rw [Declaration.struct?, overloads, Style.bare_present]
    rfl
  have hproperty : clientProperty.function? = none := rfl
  have hstruct : (clientStruct style s).struct?
      = some (s.typeName ++ "Client", init :: s.methods.map (clientFunction style s)) := by
    rw [Declaration.struct?, clientStruct, Style.bare_present]
    simp only [Declaration.bare, List.filterMap_cons, hproperty, hinit, hmethods]
  use init, hname
  simp only [clientDeclarations, List.filterMap_cons, List.filterMap_nil, hprotocol, hoverloads,
    hstruct]

theorem conforming_clientDeclarations (style : Style) (r : Request) (s : Service) :
  s.Conforming style (clientDeclarations style r s)
  := by
  constructor
  · rw [protocolsNamed, filterMap_protocol?_client]
    simp [belonging]
  · obtain ⟨init, hname, hstructs⟩ := filterMap_struct?_client style r s
    refine ⟨init, s.methods.map (clientFunction style s), ?_, hname, ?_, ?_⟩
    · rw [structsNamed, hstructs]
      simp [belonging]
    · rw [Service.calls, List.map_map, List.map_map]
      rfl
    · rw [Service.calls, List.forall₂_map_left_iff, List.forall₂_map_right_iff, List.forall₂_same]
      intro m _
      apply forwards_clientFunction
  · refine ⟨s.methods.map (overloadFunction style r s), ?_, ?_, ?_⟩
    · rw [extensionsOf, filterMap_extension?_client]
      simp [belonging]
    · rw [Service.calls, List.map_map, List.map_map]
      rfl
    · rw [Service.calls, List.forall₂_map_left_iff, List.forall₂_map_right_iff, List.forall₂_same]
      intro m _
      apply callsPast_overloadFunction

/-- For every request, the client section consists of the declarations of its services, in order,
and those of each service fit together. -/
theorem clientSection_conforming (style : Style) (r : Request) :
  ∃ groups : List (List Declaration), clientSection style r = groups.flatten.map Declaration.block
    ∧ List.Forall₂ (Service.Conforming style) r.services groups
  := by
  use r.services.map (clientDeclarations style r)
  constructor
  · rw [clientSection, List.map_flatten, List.map_map, List.flatMap_def]
    rfl
  · rw [List.forall₂_map_right_iff, List.forall₂_same]
    intro s _
    apply conforming_clientDeclarations

end SwiftStubs
