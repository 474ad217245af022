import SwiftStubs.Request

/-!
# Parts of Swift source

The parts of Swift declarations that hold no declarations themselves: access modifiers, comments,
imports, availability, and the signatures of functions. Each has its text.
-/

namespace SwiftStubs.Swift

/-! ### Access -/

/-- The access levels that generated declarations can be given, from the most restrictive on. -/
inductive AccessLevel where
  | fileprivate
  | internal
  | package
  | exported
deriving Repr, DecidableEq

namespace AccessLevel

/-- All access levels. -/
def all : List AccessLevel := [.fileprivate, .internal, .package, .exported]

/-- The keyword of an access level. -/
def keyword : AccessLevel → String
  | .fileprivate => "fileprivate"
  | .internal => "internal"
  | .package => "package"
  | .exported => "public"

/-- The access level with a keyword. -/
def ofKeyword? (s : String) : Option AccessLevel :=
  all.find? (fun a => a.keyword == s)

end AccessLevel

/-- An access modifier: one of the access levels, or the one that hides a declaration from
everything outside the enclosing one. -/
inductive AccessModifier where
  | hidden
  | level (a : AccessLevel)
deriving Repr, DecidableEq

namespace AccessModifier

/-- The keyword of a modifier. -/
def keyword : AccessModifier → String
  | .hidden => "private"
  | .level a => a.keyword

/-- The modifier with a keyword. -/
def ofKeyword? (s : String) : Option AccessModifier :=
  if s == "private" then some .hidden else (AccessLevel.ofKeyword? s).map .level

end AccessModifier

/-- The text of a modifier in front of a declaration. -/
def accessText : Option AccessModifier → String
  | none => ""
  | some a => a.keyword ++ " "

/-! ### Comments -/

/-- How a comment is written: as documentation, every line marked, or as it stands. -/
inductive CommentStyle where
  | doc
  | preformatted
deriving Repr, DecidableEq

structure Comment where
  style : CommentStyle
  text : String
deriving Repr, DecidableEq

/-! ### Imports -/

structure ImportItem where
  kind : ImportKind
  name : String
deriving Repr, DecidableEq

/-- An import of a module, or of one thing of it. -/
structure Import where
  moduleName : String
  item : Option ImportItem := none
  spi : Option String := none
  preconcurrency : Preconcurrency := .notRequired
deriving Repr, DecidableEq

namespace Import

/-- What stands between the marks and the keyword of an import: the interface it asks for. -/
def spiText (i : Import) : String :=
  match i.spi with
  | none => ""
  | some name => if name.isEmpty then "" else "@_spi(" ++ name ++ ") "

/-- What an import names. -/
def subject (i : Import) : String :=
  match i.item with
  | none => i.moduleName
  | some item => item.kind.keyword ++ " " ++ i.moduleName ++ "." ++ item.name

/-- The line of an import, marked or not. -/
def line (i : Import) (marked : Bool) : String :=
  (if marked then "@preconcurrency " else "") ++ i.spiText ++ "import " ++ i.subject

/-- The lines of an import. Where the mark depends on the platform there are two imports under a
condition. -/
def lines (i : Import) : List String :=
  match i.preconcurrency with
  | .required => [i.line true]
  | .notRequired => [i.line false]
  | .requiredOn systems =>
    ["#if " ++ String.intercalate " || " (systems.map (fun o => "os(" ++ o ++ ")")),
      i.line true, "#else", i.line false, "#endif"]

end Import

/-! ### Availability -/

/-- The lowest versions of the platforms on which a declaration is available. -/
structure Availability where
  platforms : List String
deriving Repr, DecidableEq

/-- The attribute of an availability. -/
def Availability.text (a : Availability) : String :=
  "@available(" ++ String.intercalate ", " (a.platforms ++ ["*"]) ++ ")"

/-! ### Signatures -/

/-- A parameter of a function: its label, its type, and its name if that is not the label. -/
structure Parameter where
  label : String
  type : String
  name : Option String := none
deriving Repr, DecidableEq

/-- The text of a parameter. -/
def Parameter.text (p : Parameter) : String :=
  match p.name with
  | none => p.label ++ ": " ++ p.type
  | some name => p.label ++ " " ++ name ++ ": " ++ p.type

/-- The signature of a function, or of an initializer if the name is `init`. -/
structure Signature where
  access : Option AccessModifier := none
  name : String
  generics : List String := []
  parameters : List Parameter := []
  isAsync : Bool := false
  isThrowing : Bool := false
  returnType : Option String := none
  /-- The conditions of the `where` clause. -/
  conditions : List String := []
deriving Repr, DecidableEq

namespace Signature

/-- What stands in front of the parameters. -/
def head (f : Signature) : String :=
  accessText f.access ++ (if f.name == "init" then "init" else "func " ++ f.name)
    ++ (if f.generics.isEmpty then "" else "<" ++ String.intercalate ", " f.generics ++ ">")

/-- What stands behind the parameters. -/
def tail (f : Signature) : String :=
  (if f.isAsync then " async" else "") ++ (if f.isThrowing then " throws" else "")
    ++ (match f.returnType with
        | none => ""
        | some type => " -> " ++ type)
    ++ (if f.conditions.isEmpty then "" else " where " ++ String.intercalate ", " f.conditions)

end Signature

/-- The text of the types that a type conforms to. -/
def conformanceText (types : List String) : String :=
  if types.isEmpty then "" else ": " ++ String.intercalate ", " types

/-- Puts a comma and a space between the texts that are present and not empty. -/
def joined (texts : List (Option String)) : String :=
  String.intercalate ", " ((texts.filterMap id).filter (fun t => !t.isEmpty))

/-- A generic type with its arguments. -/
def genericType (name : String) (arguments : List (Option String)) : String :=
  name ++ "<" ++ joined arguments ++ ">"

/-- Texts with a comma behind each but the last. -/
def commaEnded : List String → List String
  | [] => []
  | [t] => [t]
  | t :: ts => (t ++ ",") :: commaEnded ts

/-- The keywords that stand in front of an expression. -/
inductive Keyword where
  | tryCall
  | awaitCall
  | returnValue
deriving Repr, DecidableEq

/-- The text of a keyword. -/
def Keyword.text : Keyword → String
  | .tryCall => "try"
  | .awaitCall => "await"
  | .returnValue => "return"

end SwiftStubs.Swift
