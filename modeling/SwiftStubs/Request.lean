import SwiftStubs.Service

/-!
# Requests

A request says what one generated file is made of: the services, the modules to import, the comment
on top, and how the serializer and the deserializer of a message type are written.
-/

namespace SwiftStubs

/-- The kinds of things that can be imported alone from a module. -/
inductive ImportKind where
  | typeAlias
  | struct
  | classType
  | enumeration
  | protocol
  | letBinding
  | varBinding
  | function
deriving Repr, DecidableEq

namespace ImportKind

/-- All kinds. -/
def all : List ImportKind :=
  [.typeAlias, .struct, .classType, .enumeration, .protocol, .letBinding, .varBinding, .function]

/-- The keyword of a kind. -/
def keyword : ImportKind → String
  | .typeAlias => "typealias"
  | .struct => "struct"
  | .classType => "class"
  | .enumeration => "enum"
  | .protocol => "protocol"
  | .letBinding => "let"
  | .varBinding => "var"
  | .function => "func"

/-- The kind with a keyword. -/
def ofKeyword? (s : String) : Option ImportKind :=
  all.find? (fun k => k.keyword == s)

end ImportKind

/-- Whether an import is marked as made before concurrency was checked. -/
inductive Preconcurrency where
  | required
  | notRequired
  /-- Required on the listed operating systems alone. -/
  | requiredOn (systems : List String)
deriving Repr, DecidableEq

/-- One thing imported from a module. Its kind is kept as it was written, and checked when the
request is. -/
structure DependencyItem where
  kind : String
  name : String
deriving Repr, DecidableEq

/-- A module the generated code imports, or one thing of it. -/
structure Dependency where
  moduleName : String
  item : Option DependencyItem := none
  spi : Option String := none
  preconcurrency : Preconcurrency := .notRequired
deriving Repr, DecidableEq

/-- The expression that makes the serializer of a message type. -/
def protobufSerializer (type : String) : String :=
  "ProtobufSerializer<" ++ type ++ ">()"

/-- The expression that makes the deserializer of a message type. -/
def protobufDeserializer (type : String) : String :=
  "ProtobufDeserializer<" ++ type ++ ">()"

/-- What one generated file is made of. -/
structure Request where
  /-- The name of the schema file. -/
  fileName : String
  /-- The comment on top of the generated file. -/
  leadingTrivia : String := ""
  dependencies : List Dependency := []
  services : List Service := []
  /-- The expression that makes the serializer of a message type. -/
  serializer : String → String := protobufSerializer
  /-- The expression that makes the deserializer of a message type. -/
  deserializer : String → String := protobufDeserializer

end SwiftStubs
