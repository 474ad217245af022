import SwiftStubs.Name

/-!
# Services

A service is a named list of methods, placed in a namespace or in none. A method takes one message
or a stream of them and answers with one message or a stream, which gives four shapes of calls.
From the names of a service three further names are formed: the one used on the wire, the one the
generated types start with, and the path of the enum that holds the service's aliases.
-/

namespace SwiftStubs

/-- The four shapes of calls. -/
inductive Shape where
  | unary
  | clientStreaming
  | serverStreaming
  | bidirectionalStreaming
deriving Repr, DecidableEq

/-- The name of a shape, which is also the name of the client's call for it. -/
def Shape.name : Shape → String
  | .unary => "unary"
  | .clientStreaming => "clientStreaming"
  | .serverStreaming => "serverStreaming"
  | .bidirectionalStreaming => "bidirectionalStreaming"

/-- A remote procedure of a service. -/
structure Method where
  documentation : String := ""
  name : Name
  inputStreaming : Bool := false
  outputStreaming : Bool := false
  inputType : String
  outputType : String
deriving Repr, DecidableEq

/-- The shape given by what is streamed. -/
def Method.shape (m : Method) : Shape :=
  match m.inputStreaming, m.outputStreaming with
  | true, true => .bidirectionalStreaming
  | true, false => .clientStreaming
  | false, true => .serverStreaming
  | false, false => .unary

/-- A service in the namespace `ns`, which is `Name.absent` if there is none. -/
structure Service where
  documentation : String := ""
  name : Name
  ns : Name := Name.absent
  methods : List Method := []
deriving Repr, DecidableEq

namespace Service

/-- The name on the wire, such as `hello.world.Greeter`. -/
def wireName (s : Service) : String :=
  if s.ns.base.isEmpty then s.name.base else s.ns.base ++ "." ++ s.name.base

/-- What the names of the generated protocols and structs start with, such as
`Hello_World_Greeter`. -/
def typeName (s : Service) : String :=
  if s.ns.upper.isEmpty then s.name.upper else s.ns.upper ++ "_" ++ s.name.upper

/-- The path of the enum with the aliases of the service, such as `Hello_World.Greeter`. -/
def path (s : Service) : String :=
  if s.ns.upper.isEmpty then s.name.upper else s.ns.upper ++ "." ++ s.name.upper

/-- The path of the enum of a method, such as `Hello_World.Greeter.Method.SayHello`. -/
def methodPath (s : Service) (m : Method) : String :=
  s.path ++ ".Method." ++ m.name.upper

/-- The path of the alias for the messages a method takes. -/
def inputPath (s : Service) (m : Method) : String :=
  s.methodPath m ++ ".Input"

/-- The path of the alias for the messages a method answers with. -/
def outputPath (s : Service) (m : Method) : String :=
  s.methodPath m ++ ".Output"

/-- The path of the constant that describes a method. -/
def descriptorPath (s : Service) (m : Method) : String :=
  s.methodPath m ++ ".descriptor"

end Service

end SwiftStubs
