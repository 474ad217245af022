import SwiftStubs.Stub.Alias

/-!
# The server section

For every service there are four declarations:

1. a protocol in which every method streams both ways,
2. an extension of it that registers the methods with a router,
3. a protocol in which every method has its own shape,
4. an extension of that which answers the streaming methods by the ones of their own shape.

Methods that stream both ways already have the shape of the first protocol, so the last two leave
them out.
-/

namespace SwiftStubs.Stub

open Swift

/-- The protocol that services are registered by. -/
def registrable : String := "GRPCCore.RegistrableRPCService"

/-- The type of the messages that arrive at a server. -/
def serverRequest (streaming : Bool) (type : String) : String :=
  genericType (if streaming then "ServerRequest.Stream" else "ServerRequest.Single") [some type]

/-- The type of the messages that a server answers with. -/
def serverResponse (streaming : Bool) (type : String) : String :=
  genericType (if streaming then "ServerResponse.Stream" else "ServerResponse.Single") [some type]

/-- The signature of a method of a server with the given streams. -/
def serverSignature (access : Option AccessModifier) (s : Service) (m : Method)
    (inputStreaming outputStreaming : Bool) : Signature where
  access := access
  name := m.name.lower
  parameters := [⟨"request", serverRequest inputStreaming (s.inputPath m), none⟩]
  isAsync := true
  isThrowing := true
  returnType := some (serverResponse outputStreaming (s.outputPath m))

/-- The signature of a method that streams both ways. -/
def streamingSignature (access : Option AccessModifier) (s : Service) (m : Method) : Signature :=
  serverSignature access s m true true

/-- The signature of a method with its own shape. -/
def ownSignature (s : Service) (m : Method) : Signature :=
  serverSignature none s m m.inputStreaming m.outputStreaming

/-- The methods that do not stream both ways. -/
def narrowMethods (s : Service) : List Method :=
  s.methods.filter (fun m => m.shape != .bidirectionalStreaming)

/-! ### The streaming protocol -/

/-- The requirement of the streaming protocol for a method. -/
def streamingRequirement (s : Service) (m : Method) : Declaration :=
  (Declaration.function (streamingSignature none s m) none).documented m.documentation

/-- The protocol in which every method streams both ways. -/
def streamingProtocol (style : Style) (s : Service) : Declaration :=
  style.present s.documentation
    (.protocol (some style.access) (s.typeName ++ "StreamingServiceProtocol") [registrable]
      (s.methods.map (streamingRequirement s)))

/-! ### Registration -/

/-- The call that registers a method. -/
def registerCall (r : Request) (s : Service) (m : Method) : Expression :=
  .call (.identifier "router.registerHandler")
    [.mk (some "forMethod") (.identifier (s.descriptorPath m)),
      .mk (some "deserializer") (.identifier (r.deserializer (s.inputPath m))),
      .mk (some "serializer") (.identifier (r.serializer (s.outputPath m))),
      .mk (some "handler") (.closure ["request"]
        [(Expression.call (.identifier ("self." ++ m.name.lower))
          [.mk (some "request") (.identifier "request")]).tryAwait.block])]

/-- The function that registers all methods. -/
def registerMethods (style : Style) (r : Request) (s : Service) : Declaration :=
  (Declaration.function
    { access := some style.access
      name := "registerMethods"
      parameters := [⟨"with", "inout GRPCCore.RPCRouter", some "router"⟩] }
    (some (s.methods.map (fun m => (registerCall r s m).block)))).available style.availability

/-- The extension that registers the methods of a service. -/
def registration (style : Style) (r : Request) (s : Service) : Declaration :=
  style.present ("Conformance to `" ++ registrable ++ "`.")
    (.extension none (s.path ++ ".StreamingServiceProtocol") [] [registerMethods style r s])

/-! ### The protocol of own shapes -/

/-- The requirement of the protocol of own shapes for a method. -/
def ownRequirement (s : Service) (m : Method) : Declaration :=
  (Declaration.function (ownSignature s m) none).documented m.documentation

/-- The protocol in which every method has its own shape. -/
def serviceProtocol (style : Style) (s : Service) : Declaration :=
  style.present s.documentation
    (.protocol (some style.access) (s.typeName ++ "ServiceProtocol")
      [s.path ++ ".StreamingServiceProtocol"] ((narrowMethods s).map (ownRequirement s)))

/-! ### The adapter -/

/-- The request in the shape that a method takes. -/
def adaptedRequest (m : Method) : Expression :=
  if m.inputStreaming then .identifier "request"
  else .call (.identifier "ServerRequest.Single") [.mk (some "stream") (.identifier "request")]

/-- The response as a stream. -/
def adaptedResponse (m : Method) : Expression :=
  if m.outputStreaming then .identifier "response"
  else .call (.identifier "ServerResponse.Stream") [.mk (some "single") (.identifier "response")]

/-- The streaming method that calls the method of its own shape. -/
def adapterMethod (style : Style) (s : Service) (m : Method) : Declaration :=
  .function (streamingSignature (some style.access) s m)
    (some [
      (Declaration.constant none "response" false none
        (some (Expression.call (.identifier ("self." ++ m.name.lower))
          [.mk (some "request") (adaptedRequest m)]).tryAwait)).block,
      (Expression.keyword .returnValue (some (adaptedResponse m))).block])

/-- The extension that answers the streaming methods by the ones of their own shape. -/
def adapter (style : Style) (s : Service) : Declaration :=
  style.present ("Partial conformance to `" ++ s.typeName ++ "StreamingServiceProtocol`.")
    (.extension none (s.path ++ ".ServiceProtocol") []
      ((narrowMethods s).map (adapterMethod style s)))

/-! ### The section -/

/-- The four declarations for a service. -/
def serverDeclarations (style : Style) (r : Request) (s : Service) : List Declaration :=
  [streamingProtocol style s, registration style r s, serviceProtocol style s, adapter style s]

/-- The server section of a request. -/
def serverSection (style : Style) (r : Request) : List Block :=
  r.services.flatMap (fun s => (serverDeclarations style r s).map Declaration.block)

end SwiftStubs.Stub
