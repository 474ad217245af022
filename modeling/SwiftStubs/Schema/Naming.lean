import SwiftStubs.Failure
import SwiftStubs.Name
import SwiftStubs.Schema.Basic
import SwiftStubs.Text.Lines
import SwiftStubs.Text.Lowercase

/-!
# The prefix of a file

The Swift types of a file share a prefix. It comes from the package, so that the types of
`hello.world` start with `Hello_World_`, unless the file states a prefix of its own. The namespace
of the services of a file is the prefix without the underscores at its end.

Names are made of texts as they are shown. Whether these texts can be read is checked apart.
-/

namespace SwiftStubs.Schema.File

/-- The prefix of the Swift names of the messages of a file. -/
def typePrefix (f : File) : String :=
  match f.swiftPrefix with
  | some p => p.shown
  | none =>
    if f.package.shown.isEmpty then ""
    else String.intercalate "_" ((Text.pieces '.' f.package.shown).map upperCamel) ++ "_"

/-- A text with its first character in lower case. -/
def lowerFirst : List Char → List Char
  | [] => []
  | c :: cs => Text.lowerChar c ++ cs

/-- The namespace of the services of a file. -/
def namespaceName (f : File) : Name :=
  let upper := Text.dropLastWhile (· == '_') f.typePrefix.toList
  { base := f.package.shown
    upper := String.ofList upper
    lower := String.ofList (lowerFirst upper) }

/-- A package from which the prefix comes has to be readable. -/
def checkPackage (f : File) : Except Failure Unit :=
  match f.swiftPrefix with
  | some _ => .ok ()
  | none => do
    let _ ← f.package.readable

/-- A prefix from which the namespace comes has to be readable. -/
def checkPrefix (f : File) : Except Failure Unit :=
  match f.swiftPrefix with
  | some p => do
    let _ ← p.readable
  | none => .ok ()

end SwiftStubs.Schema.File
