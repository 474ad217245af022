import SwiftStubs.Stub.Alias

/-!
# The client section

For every service there are three declarations: a protocol with the calls of a client, an extension
of it with calls that use the default serializers, and a struct that forwards the calls to a
`GRPCClient`.
-/

namespace SwiftStubs.Stub

open Swift

/-- The type of the client that calls are forwarded to. -/
def forwardingClient : String := "GRPCCore.GRPCClient"

/-- The type of the messages that a client sends. -/
def clientRequest (streaming : Bool) (type : String) : String :=
  genericType (if streaming then "ClientRequest.Stream" else "ClientRequest.Single") [some type]

/-- The type of the messages that a client is answered with. -/
def clientResponse (streaming : Bool) (type : String) : String :=
  genericType (if streaming then "ClientResponse.Stream" else "ClientResponse.Single") [some type]

/-- The parameter for the message or messages that are sent. -/
def requestParameter (s : Service) (m : Method) : Parameter :=
  ⟨"request", clientRequest m.inputStreaming (s.inputPath m), none⟩

/-- The parameters for the serializer and the deserializer. -/
def serializerParameters (s : Service) (m : Method) : List Parameter :=
  [⟨"serializer", "some MessageSerializer<" ++ s.inputPath m ++ ">", none⟩,
    ⟨"deserializer", "some MessageDeserializer<" ++ s.outputPath m ++ ">", none⟩]

/-- The parameter for what is done with the answer. -/
def bodyParameter (s : Service) (m : Method) : Parameter :=
  ⟨"_", "@Sendable @escaping (" ++ clientResponse m.outputStreaming (s.outputPath m)
    ++ ") async throws -> R", some "body"⟩

/-- The signature of a call with the given parameters. -/
def callSignature (access : Option AccessModifier) (m : Method) (parameters : List Parameter) :
    Signature where
  access := access
  name := m.name.lower
  generics := ["R"]
  parameters := parameters
  isAsync := true
  isThrowing := true
  returnType := some "R"
  conditions := ["R: Sendable"]

/-- The signature of a call that is given its serializers. -/
def fullSignature (access : Option AccessModifier) (s : Service) (m : Method) : Signature :=
  callSignature access m
    (requestParameter s m :: serializerParameters s m ++ [bodyParameter s m])

/-- The signature of a call that uses the default serializers. -/
def shortSignature (access : Option AccessModifier) (s : Service) (m : Method) : Signature :=
  callSignature access m [requestParameter s m, bodyParameter s m]

/-! ### The protocol -/

/-- The requirement of the protocol for a method. -/
def clientRequirement (s : Service) (m : Method) : Declaration :=
  (Declaration.function (fullSignature none s m) none).documented m.documentation

/-- The protocol with the calls of a client. -/
def clientProtocol (style : Style) (s : Service) : Declaration :=
  style.present s.documentation
    (.protocol (some style.access) (s.typeName ++ "ClientProtocol") ["Sendable"]
      (s.methods.map (clientRequirement s)))

/-! ### Calls with default serializers -/

/-- The call of a method with its default serializers. -/
def overloadCall (r : Request) (s : Service) (m : Method) : Expression :=
  .call (.identifier ("self." ++ m.name.lower))
    [.mk (some "request") (.identifier "request"),
      .mk (some "serializer") (.identifier (r.serializer (s.inputPath m))),
      .mk (some "deserializer") (.identifier (r.deserializer (s.outputPath m))),
      .mk none (.identifier "body")]

/-- The call that uses the default serializers. -/
def overload (style : Style) (r : Request) (s : Service) (m : Method) : Declaration :=
  .function (shortSignature (some style.access) s m)
    (some [(overloadCall r s m).tryAwait.block])

/-- The extension with the calls that use the default serializers. -/
def overloads (style : Style) (r : Request) (s : Service) : Declaration :=
  style.present ""
    (.extension none (s.path ++ ".ClientProtocol") [] (s.methods.map (overload style r s)))

/-! ### The struct -/

/-- The property that holds the client. -/
def clientProperty : Declaration :=
  .constant (some .hidden) "client" false (some forwardingClient) none

/-- The initializer of the struct. -/
def clientInitializer (style : Style) : Declaration :=
  .function
    { access := some style.access
      name := "init"
      parameters := [⟨"client", forwardingClient, none⟩] }
    (some [(Expression.assignment (.identifier "self.client") (.identifier "client")).block])

/-- The call of the client for the shape of a method. -/
def forwardedCall (s : Service) (m : Method) : Expression :=
  .call (.identifier ("self.client." ++ m.shape.name))
    [.mk (some "request") (.identifier "request"),
      .mk (some "descriptor") (.identifier (s.descriptorPath m)),
      .mk (some "serializer") (.identifier "serializer"),
      .mk (some "deserializer") (.identifier "deserializer"),
      .mk (some "handler") (.identifier "body")]

/-- The function of the struct for a method. -/
def clientMethod (style : Style) (s : Service) (m : Method) : Declaration :=
  .function (fullSignature (some style.access) s m)
    (some [(forwardedCall s m).tryAwait.block])

/-- The struct that forwards calls to a client. -/
def clientStruct (style : Style) (s : Service) : Declaration :=
  style.present s.documentation
    (.struct (some style.access) (s.typeName ++ "Client") [s.path ++ ".ClientProtocol"]
      (clientProperty :: clientInitializer style
        :: s.methods.map (fun m => (clientMethod style s m).documented m.documentation)))

/-! ### The section -/

/-- The three declarations for a service. -/
def clientDeclarations (style : Style) (r : Request) (s : Service) : List Declaration :=
  [clientProtocol style s, overloads style r s, clientStruct style s]

/-- The client section of a request. -/
def clientSection (style : Style) (r : Request) : List Block :=
  r.services.flatMap (fun s => (clientDeclarations style r s).map Declaration.block)

end SwiftStubs.Stub
