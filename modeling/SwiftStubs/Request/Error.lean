import SwiftStubs.Text.Quoted

/-!
# Why a request is rejected

A rejection has a code, which says what kind of rule was broken, and a message, which names the
identifier that broke it. The causes are kept apart from their wording.
-/

namespace SwiftStubs

/-- The kinds of rules. -/
inductive RejectionCode where
  | nonUniqueServiceName
  | nonUniqueMethodName
  | invalidKind
deriving Repr, DecidableEq

namespace RejectionCode

/-- All codes. -/
def all : List RejectionCode := [.nonUniqueServiceName, .nonUniqueMethodName, .invalidKind]

/-- The name of a code. -/
def name : RejectionCode → String
  | .nonUniqueServiceName => "nonUniqueServiceName"
  | .nonUniqueMethodName => "nonUniqueMethodName"
  | .invalidKind => "invalidKind"

/-- The name of a code as a constant. -/
def constantName : RejectionCode → String
  | .nonUniqueServiceName => "NON_UNIQUE_SERVICE_NAME"
  | .nonUniqueMethodName => "NON_UNIQUE_METHOD_NAME"
  | .invalidKind => "INVALID_KIND"

/-- The code with a name. -/
def ofName? (s : String) : Option RejectionCode :=
  all.find? (fun c => c.name == s)

end RejectionCode

/-- A code and a message. -/
structure Rejection where
  code : RejectionCode
  message : String
deriving Repr, DecidableEq

namespace Rejection

/-- What a user is told. -/
def text (r : Rejection) : String :=
  r.code.name ++ ": " ++ r.message

/-- A rejection with its parts spelled out. -/
def inspect (r : Rejection) : String :=
  "CodeGenError(code=<CodeGenErrorCode." ++ r.code.constantName ++ ": " ++ Text.quoted r.code.name
    ++ ">, message=" ++ Text.quoted r.message ++ ")"

end Rejection

/-- The three spellings of a name. -/
inductive Spelling where
  | base
  | upper
  | lower
deriving Repr, DecidableEq

/-- The rules that a request can break, with the identifier that breaks them. -/
inductive RequestError where
  /-- A dependency names a kind of import that there is not. -/
  | invalidKind (kind : String)
  /-- Two services have one name on the wire. -/
  | repeatedWireName (name : String)
  /-- A service without a namespace is called like a namespace. -/
  | serviceNamedAsNamespace (name : String)
  /-- Two services without a namespace have one name. -/
  | repeatedLoneService (name : String)
  /-- Two services of one namespace have one name. -/
  | repeatedService (name ns : String)
  /-- Two methods of a service have one name, in one of the spellings. -/
  | repeatedMethod (spelling : Spelling) (name service : String)
deriving Repr, DecidableEq

namespace RequestError

/-- The kind of rule that was broken. -/
def code : RequestError → RejectionCode
  | .invalidKind _ => .invalidKind
  | .repeatedWireName _ => .nonUniqueServiceName
  | .serviceNamedAsNamespace _ => .nonUniqueServiceName
  | .repeatedLoneService _ => .nonUniqueServiceName
  | .repeatedService _ _ => .nonUniqueServiceName
  | .repeatedMethod _ _ _ => .nonUniqueMethodName

/-- The wording of a broken rule. -/
def message : RequestError → String
  | .invalidKind kind => "Invalid kind name for import: " ++ kind
  | .repeatedWireName name =>
    "Services must have unique descriptors. " ++ name
      ++ " is the descriptor of at least two different services."
  | .serviceNamedAsNamespace name =>
    "Services with no namespace must not have the same generated upper case names as the "
      ++ "namespaces. " ++ name ++ " is used as a generated upper case name for a service with "
      ++ "no namespace and a namespace."
  | .repeatedLoneService name =>
    "Services in an empty namespace must have unique generated upper case names. " ++ name
      ++ " is used as a generated upper case name for multiple services without namespaces."
  | .repeatedService name ns =>
    "Services within the same namespace must have unique generated upper case names. " ++ name
      ++ " is used as a generated upper case name for multiple services in the " ++ ns
      ++ " namespace."
  | .repeatedMethod spelling name service =>
    let (plural, singular) := match spelling with
      | .base => ("base names", "a base name")
      | .upper => ("generated upper case names", "a generated upper case name")
      | .lower => ("lower case names", "a signature name")
    "Methods of a service must have unique " ++ plural ++ ". " ++ name ++ " is used as " ++ singular
      ++ " for multiple methods of the " ++ service ++ " service."

/-- The rejection of a request that breaks a rule. -/
def rejection (e : RequestError) : Rejection := ⟨e.code, e.message⟩

end RequestError

end SwiftStubs
