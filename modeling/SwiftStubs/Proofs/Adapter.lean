import SwiftStubs.Proofs.Members

/-!
# The adapter of a server

A server may be written against the protocol of own shapes, since the adapter answers the streaming
methods by those of their own shape. The two have the same name, so it matters which one the call
in the adapter goes to. Bodies are typed here by a few rules, with the function that calls on `self`
go to as a parameter: the body of an adapter method is well typed for the requirement of own shape,
and for nothing that differs from it. The streaming requirement always does.
-/

namespace SwiftStubs

open Swift Stub

/-! ### Types of messages -/

theorem serverRequest_inj {b b' : Bool} {type type' : String}
    (h : serverRequest b type = serverRequest b' type') :
  b = b' ∧ type = type'
  := by
  rw [serverRequest, serverRequest] at h
  apply genericType_choice_inj _ _ h
  · decide
  · decide

theorem serverResponse_inj {b b' : Bool} {type type' : String}
    (h : serverResponse b type = serverResponse b' type') :
  b = b' ∧ type = type'
  := by
  rw [serverResponse, serverResponse] at h
  apply genericType_choice_inj _ _ h
  · decide
  · decide

/-! ### Typing rules -/

/-- The initializers that convert messages: the generic type that is initialized, the label, and
the generic type of what is converted. -/
def conversions : List (String × String × String) :=
  [("ServerRequest.Single", "stream", "ServerRequest.Stream"),
    ("ServerResponse.Stream", "single", "ServerResponse.Single")]

/-- The types of expressions where names have the given types and calls on `self` go to the given
function. -/
inductive HasType (target : Signature) (names : List (String × String)) : Expression → String → Prop
  | name {x type : String} (h : names.lookup x = some type) :
    HasType target names (.identifier x) type
  | conversion {result label source : String} (h : (result, label, source) ∈ conversions)
    {e : Expression} {type : String}
    (he : HasType target names e (genericType source [some type])) :
    HasType target names (.call (.identifier result) [.mk (some label) e])
      (genericType result [some type])
  | call {callee label : String} {e : Expression} {argument result : String}
    (hcallee : callee = "self." ++ target.name)
    (hparameters : target.parameters.map (fun p => (p.label, p.type)) = [(label, argument)])
    (hasync : target.isAsync = true) (hthrowing : target.isThrowing = true)
    (he : HasType target names e argument) (hresult : target.returnType = some result) :
    HasType target names (Expression.call (.identifier callee) [.mk (some label) e]).tryAwait result

/-- The types that bodies return. A constant can be used behind its declaration. -/
inductive Returns (target : Signature) : List (String × String) → List Block → String → Prop
  | value {names : List (String × String)} {e : Expression} {type : String}
    (h : HasType target names e type) :
    Returns target names [(Expression.keyword .returnValue (some e)).block] type
  | constant {names : List (String × String)} {x : String} {e : Expression} {type result : String}
    {blocks : List Block} (h : HasType target names e type)
    (hblocks : Returns target ((x, type) :: names) blocks result) :
    Returns target names ((Declaration.constant none x false none (some e)).block :: blocks) result

/-- The body of a function returns what its signature says, if calls on `self` go to the given
function. -/
def Swift.Function.WellTyped (f : Function) (target : Signature) : Prop :=
  ∃ type, f.signature.returnType = some type
    ∧ Returns target (f.signature.parameters.map (fun p => (p.inner, p.type))) f.body type

/-- Signatures agree in what calls depend on. -/
structure Swift.Signature.Agrees (g h : Signature) : Prop where
  name : g.name = h.name
  parameters : g.parameters.map (fun p => (p.label, p.type))
    = h.parameters.map (fun p => (p.label, p.type))
  isAsync : g.isAsync = h.isAsync
  isThrowing : g.isThrowing = h.isThrowing
  returnType : g.returnType = h.returnType

section Inversion

variable {target : Signature} {names : List (String × String)} {type : String}

theorem hasType_identifier_iff {x : String} :
  HasType target names (.identifier x) type ↔ names.lookup x = some type
  := by
  constructor
  · rintro ⟨h⟩
    exact h
  · apply HasType.name

theorem hasType_conversion_iff {result label : String} {e : Expression} :
  HasType target names (.call (.identifier result) [.mk (some label) e]) type
    ↔ ∃ source argument, (result, label, source) ∈ conversions
      ∧ HasType target names e (genericType source [some argument])
      ∧ type = genericType result [some argument]
  := by
  constructor
  · intro h
    cases h with
    | conversion h he => exact ⟨_, _, h, he, rfl⟩
  · rintro ⟨source, argument, h, he, rfl⟩
    apply HasType.conversion h he

theorem hasType_call_iff {callee label : String} {e : Expression} :
  HasType target names (Expression.call (.identifier callee) [.mk (some label) e]).tryAwait type
    ↔ ∃ argument, HasType target names e argument ∧ callee = "self." ++ target.name
      ∧ target.parameters.map (fun p => (p.label, p.type)) = [(label, argument)]
      ∧ target.isAsync = true ∧ target.isThrowing = true ∧ target.returnType = some type
  := by
  constructor
  · intro h
    cases h with
    | call hcallee hparameters hasync hthrowing he hresult =>
        exact ⟨_, he, hcallee, hparameters, hasync, hthrowing, hresult⟩
  · rintro ⟨argument, he, hcallee, hparameters, hasync, hthrowing, hresult⟩
    apply HasType.call hcallee hparameters hasync hthrowing he hresult

/-- A body that gives a name to a value and returns another. -/
theorem returns_pair_iff {x : String} {e e' : Expression} :
  Returns target names [(Declaration.constant none x false none (some e)).block,
      (Expression.keyword .returnValue (some e')).block] type
    ↔ ∃ inner, HasType target names e inner ∧ HasType target ((x, inner) :: names) e' type
  := by
  constructor
  · intro h
    cases h with
    | constant h hblocks =>
        cases hblocks with
        | value h' => exact ⟨_, h, h'⟩
  · rintro ⟨inner, h, h'⟩
    apply Returns.constant h (Returns.value h')

end Inversion

/-! ### The body of an adapter method -/

section Body

variable {target : Signature} {names : List (String × String)}

/-- From a stream of requests, what is passed on has the shape that the method takes. -/
theorem hasType_adaptedRequest_iff (m : Method) {type message : String}
    (h : names.lookup "request" = some (serverRequest true message)) :
  HasType target names (adaptedRequest m) type ↔ type = serverRequest m.inputStreaming message
  := by
  rw [adaptedRequest]
  cases m.inputStreaming with
  | true =>
      rw [if_pos rfl, hasType_identifier_iff, h]
      constructor
      · intro heq
        exact (Option.some.inj heq).symm
      · rintro rfl
        rfl
  | false =>
      rw [if_neg (by decide), hasType_conversion_iff]
      constructor
      · rintro ⟨source, argument, hmem, hrequest, rfl⟩
        obtain rfl : source = "ServerRequest.Stream" := by
          simpa [conversions] using hmem
        rw [hasType_identifier_iff, h] at hrequest
        obtain ⟨-, rfl⟩ := genericType_inj rfl (Option.some.inj hrequest)
        rfl
      · rintro rfl
        exact ⟨"ServerRequest.Stream", message, by decide, HasType.name h, rfl⟩

/-- What is returned is a stream of responses if the response has the shape that the method
gives. -/
theorem hasType_adaptedResponse_iff (m : Method) {type message : String}
    (h : names.lookup "response" = some type) :
  HasType target names (adaptedResponse m) (serverResponse true message)
    ↔ type = serverResponse m.outputStreaming message
  := by
  rw [adaptedResponse]
  cases m.outputStreaming with
  | true =>
      rw [if_pos rfl, hasType_identifier_iff, h, Option.some_inj]
  | false =>
      rw [if_neg (by decide), hasType_conversion_iff]
      constructor
      · rintro ⟨source, argument, hmem, hresponse, heq⟩
        obtain rfl : source = "ServerResponse.Single" := by
          simpa [conversions] using hmem
        obtain ⟨-, rfl⟩ := genericType_inj rfl heq
        rw [hasType_identifier_iff, h] at hresponse
        exact Option.some.inj hresponse
      · rintro rfl
        exact ⟨"ServerResponse.Single", message, by decide, HasType.name h, rfl⟩

end Body

/-- The function of the adapter for a method. -/
def adapterFunction (style : Style) (s : Service) (m : Method) : Function where
  signature := streamingSignature (some style.access) s m
  body := [
    (Declaration.constant none "response" false none
      (some (Expression.call (.identifier ("self." ++ m.name.lower))
        [.mk (some "request") (adaptedRequest m)]).tryAwait)).block,
    (Expression.keyword .returnValue (some (adaptedResponse m))).block]

theorem function?_adapterMethod (style : Style) (s : Service) (m : Method) :
  (adapterMethod style s m).function? = some (adapterFunction style s m)
  := rfl

/-- The body of an adapter method is well typed if and only if its call goes to a function that
agrees with the requirement of own shape. -/
theorem wellTyped_adapterFunction_iff (style : Style) (s : Service) (m : Method)
    (target : Signature) :
  (adapterFunction style s m).WellTyped target ↔ target.Agrees (ownSignature s m)
  := by
  have hreturn : (adapterFunction style s m).signature.returnType
      = some (serverResponse true (s.outputPath m)) := rfl
  constructor
  · rintro ⟨type, htype, hbody⟩
    obtain rfl := Option.some.inj (hreturn.symm.trans htype)
    obtain ⟨inner, hcall, hresponse⟩ := returns_pair_iff.mp hbody
    obtain ⟨argument, hrequest, hcallee, hparameters, hasync, hthrowing, hresult⟩ :=
      hasType_call_iff.mp hcall
    obtain rfl := (hasType_adaptedRequest_iff m rfl).mp hrequest
    obtain rfl := (hasType_adaptedResponse_iff m rfl).mp hresponse
    exact ⟨(String.append_right_inj _ |>.mp hcallee).symm, hparameters, hasync, hthrowing, hresult⟩
  · rintro ⟨hname, hparameters, hasync, hthrowing, hresult⟩
    refine ⟨_, hreturn, returns_pair_iff.mpr
      ⟨serverResponse m.outputStreaming (s.outputPath m), ?_, ?_⟩⟩
    · apply hasType_call_iff.mpr
      refine ⟨serverRequest m.inputStreaming (s.inputPath m), ?_, ?_, hparameters, hasync,
        hthrowing, hresult⟩
      · apply (hasType_adaptedRequest_iff m rfl).mpr rfl
      · rw [hname]
        rfl
    · apply (hasType_adaptedResponse_iff m rfl).mpr rfl

/-! ### Methods that are adapted -/

/-- Whether a method takes a stream and gives one. -/
def Method.streamsBothWays (m : Method) : Bool :=
  m.inputStreaming && m.outputStreaming

/-- The methods of own shape are those that do not stream both ways. -/
theorem narrowMethods_eq (s : Service) :
  narrowMethods s = s.methods.filter (fun m => !m.streamsBothWays)
  := by
  rw [narrowMethods]
  congr
  funext m
  rw [Method.shape, Method.streamsBothWays]
  cases m.inputStreaming with
  | true => cases m.outputStreaming <;> rfl
  | false => cases m.outputStreaming <;> rfl

/-- The two requirements for a method differ in a type, unless it streams both ways. -/
theorem not_streamingSignature_agrees (access : Option AccessModifier) (s : Service) {m : Method}
    (h : m.streamsBothWays = false) :
  ¬ (streamingSignature access s m).Agrees (ownSignature s m)
  := by
  rintro ⟨-, hparameters, -, -, hreturn⟩
  have hrequest : serverRequest true (s.inputPath m)
      = serverRequest m.inputStreaming (s.inputPath m) :=
    congrArg Prod.snd (List.cons.inj hparameters).1
  obtain ⟨hinput, -⟩ := serverRequest_inj hrequest
  obtain ⟨houtput, -⟩ := serverResponse_inj (Option.some.inj hreturn)
  rw [Method.streamsBothWays, ← hinput, ← houtput] at h
  cases h

/-- A function answers the streaming method by the one of own shape. Its call on `self` is well
typed for the requirement of own shape, for what agrees with it alone, and not for the streaming
requirement or the function itself. -/
structure Swift.Function.Adapts (s : Service) (m : Method) (f : Function) : Prop where
  typed : f.WellTyped (ownSignature s m)
  only : ∀ g, f.WellTyped g → g.Agrees (ownSignature s m)
  apart : ¬ (streamingSignature none s m).Agrees (ownSignature s m)
  itself : ¬ f.WellTyped f.signature

theorem adapts_adapterFunction (style : Style) (s : Service) {m : Method}
    (h : m.streamsBothWays = false) :
  (adapterFunction style s m).Adapts s m
  := by
  refine ⟨?_, ?_, not_streamingSignature_agrees none s h, ?_⟩
  · apply (wellTyped_adapterFunction_iff style s m _).mpr
    exact ⟨rfl, rfl, rfl, rfl, rfl⟩
  · intro g hg
    apply (wellTyped_adapterFunction_iff style s m g).mp hg
  · intro hself
    apply not_streamingSignature_agrees (some style.access) s h
    apply (wellTyped_adapterFunction_iff style s m _).mp hself

/-! ### The declarations of a service -/

/-- The server declarations of a service fit together.
* The streaming protocol has one requirement for each method, in order.
* The protocol of own shapes has one for each method that does not stream both ways, in order.
* The adapter has a function for each of those, in order, with the signature of the streaming
  requirement and an access modifier, and the function answers by the method of own shape. -/
structure Service.Adapted (style : Style) (s : Service) (ds : List Declaration) : Prop where
  streaming : protocolsNamed (s.typeName ++ "StreamingServiceProtocol") ds
    = [s.methods.map (streamingSignature none s)]
  own : protocolsNamed (s.typeName ++ "ServiceProtocol") ds
    = [(s.methods.filter (fun m => !m.streamsBothWays)).map (ownSignature s)]
  adapter : ∃ fs, extensionsOf (s.path ++ ".ServiceProtocol") ds = [fs]
    ∧ fs.map Function.signature = (s.methods.filter (fun m => !m.streamsBothWays)).map (fun m =>
      { streamingSignature none s m with access := some style.access })
    ∧ List.Forall₂ (Function.Adapts s) (s.methods.filter (fun m => !m.streamsBothWays)) fs

theorem filterMap_protocol?_server (style : Style) (r : Request) (s : Service) :
  (serverDeclarations style r s).filterMap Declaration.protocol?
    = [(s.typeName ++ "StreamingServiceProtocol", s.methods.map (streamingSignature none s)),
      (s.typeName ++ "ServiceProtocol", (narrowMethods s).map (ownSignature s))]
  := by
  have hstreaming : (streamingProtocol style s).protocol?
      = some (s.typeName ++ "StreamingServiceProtocol",
          s.methods.map (streamingSignature none s)) := by
    apply protocol?_present
    intro m
    rw [Declaration.requirement?, streamingRequirement, Declaration.bare_documented]
    rfl
  have hregistration : (registration style r s).protocol? = none := by
    rw [Declaration.protocol?, registration, Style.bare_present]
    rfl
  have hown : (serviceProtocol style s).protocol?
      = some (s.typeName ++ "ServiceProtocol", (narrowMethods s).map (ownSignature s)) := by
    apply protocol?_present
    intro m
    rw [Declaration.requirement?, ownRequirement, Declaration.bare_documented]
    rfl
  have hadapter : (adapter style s).protocol? = none := by
    rw [Declaration.protocol?, adapter, Style.bare_present]
    rfl
  simp only [serverDeclarations, List.filterMap_cons, List.filterMap_nil, hstreaming, hregistration,
    hown, hadapter]

theorem filterMap_extension?_server (style : Style) (r : Request) (s : Service) :
  ∃ fs, (serverDeclarations style r s).filterMap Declaration.extension?
    = [(s.path ++ ".StreamingServiceProtocol", fs),
      (s.path ++ ".ServiceProtocol", (narrowMethods s).map (adapterFunction style s))]
  := by
  have hstreaming : (streamingProtocol style s).extension? = none := by
    rw [Declaration.extension?, streamingProtocol, Style.bare_present]
    rfl
  obtain ⟨f, hf⟩ : ∃ f, (registerMethods style r s).function? = some f := by
    rw [Declaration.function?, registerMethods, Declaration.bare_available]
    exact ⟨_, rfl⟩
  have hregistration : (registration style r s).extension?
      = some (s.path ++ ".StreamingServiceProtocol", [f]) :=
    extension?_present [()] (fun _ => hf)
  have hown : (serviceProtocol style s).extension? = none := by
    rw [Declaration.extension?, serviceProtocol, Style.bare_present]
    rfl
  have hadapter : (adapter style s).extension?
      = some (s.path ++ ".ServiceProtocol", (narrowMethods s).map (adapterFunction style s)) :=
    extension?_present (narrowMethods s) (function?_adapterMethod style s)
  use [f]
  simp only [serverDeclarations, List.filterMap_cons, List.filterMap_nil, hstreaming, hregistration,
    hown, hadapter]

theorem adapted_serverDeclarations (style : Style) (r : Request) (s : Service) :
  s.Adapted style (serverDeclarations style r s)
  := by
  have hnames : "StreamingServiceProtocol" ≠ "ServiceProtocol" := by decide
  have htypes : ".StreamingServiceProtocol" ≠ ".ServiceProtocol" := by decide
  obtain ⟨fs, hextensions⟩ := filterMap_extension?_server style r s
  have hnarrow := narrowMethods_eq s
  refine ⟨?_, ?_, (narrowMethods s).map (adapterFunction style s), ?_, ?_, ?_⟩
  · rw [protocolsNamed, filterMap_protocol?_server]
    simp [belonging, hnames.symm]
  · rw [protocolsNamed, filterMap_protocol?_server, ← hnarrow]
    simp [belonging, hnames]
  · rw [extensionsOf, hextensions]
    simp [belonging, htypes]
  · rw [← hnarrow, List.map_map]
    rfl
  · rw [← hnarrow]
    rw [List.forall₂_map_right_iff, List.forall₂_same]
    intro m hm
    rw [hnarrow, List.mem_filter] at hm
    apply adapts_adapterFunction style s (by simpa using hm.2)

/-- For every request, the server section consists of the declarations of its services, in order,
and those of each service fit together. -/
theorem serverSection_adapted (style : Style) (r : Request) :
  ∃ groups : List (List Declaration), serverSection style r = groups.flatten.map Declaration.block
    ∧ List.Forall₂ (Service.Adapted style) r.services groups
  := by
  use r.services.map (serverDeclarations style r)
  constructor
  · rw [serverSection, List.map_flatten, List.map_map, List.flatMap_def]
    rfl
  · rw [List.forall₂_map_right_iff, List.forall₂_same]
    intro s _
    apply adapted_serverDeclarations

end SwiftStubs
