/-!
# Names

An identifier of a schema appears in generated code in two casings: types are written in upper
camel case and functions in lower camel case. A `Name` keeps the schema's own spelling beside
both. Words of an identifier are its longest runs of letters and digits.
-/

namespace SwiftStubs

/-! ### Camel case -/

/-- The words of an identifier: its longest runs of letters and digits, in order. -/
def words (cs : List Char) : List (List Char) :=
  (cs.splitOnP (fun c => !c.isAlphanum)).filter (fun w => !w.isEmpty)

/-- A word with a capital in front. -/
def capitalize : List Char → List Char
  | [] => []
  | c :: cs => c.toUpper :: cs

/-- The words of an identifier, each with a capital in front, put together. -/
def upperCamelChars (cs : List Char) : List Char :=
  (words cs).flatMap capitalize

/-- How many capitals in front become small. All of them if nothing else follows. Otherwise the
last one of several stays, since it starts the next word. -/
def loweredCount (cs : List Char) : Nat :=
  let run := (cs.takeWhile Char.isUpper).length
  if run < cs.length ∧ 1 < run then run - 1 else run

/-- Makes the capitals in front of a list of characters small. -/
def decapitalize (cs : List Char) : List Char :=
  (cs.take (loweredCount cs)).map Char.toLower ++ cs.drop (loweredCount cs)

/-- The upper camel case of an identifier: `say_hello` becomes `SayHello`. -/
def upperCamel (s : String) : String :=
  String.ofList (upperCamelChars s.toList)

/-- The lower camel case of an identifier: `SayHello` becomes `sayHello` and `URLFetch` becomes
`urlFetch`. -/
def lowerCamel (s : String) : String :=
  String.ofList (decapitalize (upperCamelChars s.toList))

/-! ### Names in three spellings -/

/-- An identifier with the casings used in generated code. -/
structure Name where
  /-- The spelling of the schema. -/
  base : String
  /-- The spelling of types. -/
  upper : String
  /-- The spelling of functions. -/
  lower : String
deriving Repr, DecidableEq, Inhabited

namespace Name

/-- The name of the namespace that is none. -/
def absent : Name := ⟨"", "", ""⟩

/-- The name of an identifier, in its two camel casings. -/
def ofIdentifier (s : String) : Name := ⟨s, upperCamel s, lowerCamel s⟩

end Name

end SwiftStubs
