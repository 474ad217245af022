import SwiftStubs.Swift.Basic

/-!
# Swift source as a tree

Declarations hold members, function bodies and values; expressions hold arguments, elements and
closures; a block of code is one or the other, with an optional comment in front. Only the
constructs that the stubs need are here.

A tree may be ill-formed in two ways: a place may be left `unspecified`, and a declaration may stand
where an expression is due or the other way round, which is then `misplaced`. Such a tree cannot be
rendered, and the kind of the offending part is what the failure names.
-/

namespace SwiftStubs.Swift

mutual

/-- A declaration. -/
inductive Declaration where
  /-- A declaration with a comment in front. -/
  | commented (comment : Option Comment) (declaration : Declaration)
  /-- A declaration with an availability attribute in front. -/
  | guarded (availability : Availability) (declaration : Declaration)
  /-- An enum without cases, used as a namespace. -/
  | enumeration (access : Option AccessModifier) (name : String) (members : List Declaration)
  | struct (access : Option AccessModifier) (name : String) (conformances : List String)
      (members : List Declaration)
  | protocol (access : Option AccessModifier) (name : String) (conformances : List String)
      (members : List Declaration)
  | extension (access : Option AccessModifier) (type : String) (conformances : List String)
      (members : List Declaration)
  | typeAlias (access : Option AccessModifier) (name : String) (target : String)
  /-- A constant, with or without a value. -/
  | constant (access : Option AccessModifier) (name : String) (isStatic : Bool)
      (type : Option String) (value : Option Expression)
  /-- A function. Without a body it is a requirement of a protocol. -/
  | function (signature : Signature) (body : Option (List Block))
  /-- The place of a declaration with nothing in it. -/
  | unspecified
  /-- An expression that stands where a declaration is due. -/
  | misplaced (expression : Expression)

/-- An expression. -/
inductive Expression where
  /-- A name or a dotted path, written as it stands. -/
  | identifier (name : String)
  | stringLiteral (value : String)
  | arrayLiteral (elements : List Expression)
  | call (callee : Expression) (arguments : List Argument)
  | closure (parameters : List String) (body : List Block)
  /-- A keyword, alone or in front of an expression. -/
  | keyword (word : Keyword) (operand : Option Expression)
  | assignment (left right : Expression)
  /-- The place of an expression with nothing in it. -/
  | unspecified
  /-- A declaration that stands where an expression is due. -/
  | misplaced (declaration : Declaration)

/-- An argument of a call, with or without a label. -/
inductive Argument where
  | mk (label : Option String) (value : Expression)

/-- A declaration or an expression among code, with an optional comment in front. -/
inductive Block where
  | declaration (declaration : Declaration) (comment : Option Comment)
  | expression (expression : Expression) (comment : Option Comment)

end

instance : Inhabited Declaration := ⟨.unspecified⟩

instance : Inhabited Expression := ⟨.unspecified⟩

mutual

/-- The kind of a declaration, as failures name it. -/
def Declaration.kind : Declaration → String
  | .commented .. => "CommentableDeclaration"
  | .guarded .. => "GuardedDeclaration"
  | .enumeration .. => "EnumDescription"
  | .struct .. => "StructDescription"
  | .protocol .. => "ProtocolDescription"
  | .extension .. => "ExtensionDescription"
  | .typeAlias .. => "TypealiasDescription"
  | .constant .. => "VariableDescription"
  | .function .. => "FunctionDescription"
  | .unspecified => "Declaration"
  | .misplaced e => e.kind

/-- The kind of an expression, as failures name it. -/
def Expression.kind : Expression → String
  | .identifier .. => "IdentifierExpression"
  | .stringLiteral .. => "StringLiteralExpression"
  | .arrayLiteral .. => "ArrayLiteralExpression"
  | .call .. => "FunctionCallExpression"
  | .closure .. => "ClosureExpression"
  | .keyword .. => "KeywordExpression"
  | .assignment .. => "AssignmentExpression"
  | .unspecified => "Expression"
  | .misplaced d => d.kind

end

/-- Puts documentation in front of a declaration, unless it is empty. -/
def Declaration.documented (documentation : String) (d : Declaration) : Declaration :=
  if documentation.isEmpty then d else .commented (some ⟨.doc, documentation⟩) d

/-- Puts an availability attribute in front of a declaration, if there is one. -/
def Declaration.available (availability : Option Availability) (d : Declaration) : Declaration :=
  match availability with
  | none => d
  | some a => .guarded a d

/-- A declaration among code, without a comment. -/
def Declaration.block (d : Declaration) : Block := .declaration d none

/-- An expression among code, without a comment. -/
def Expression.block (e : Expression) : Block := .expression e none

/-- An expression that is tried and awaited. -/
def Expression.tryAwait (e : Expression) : Expression :=
  .keyword .tryCall (some (.keyword .awaitCall (some e)))

/-- A source file. -/
structure File where
  topComment : Option Comment := none
  imports : List Import := []
  blocks : List Block := []

/-- A source file and its name without extension. -/
structure NamedFile where
  name : String
  contents : File

end SwiftStubs.Swift
