import SwiftStubs.Failure
import SwiftStubs.Schema.Basic
import SwiftStubs.Text.Lines

/-!
# Comments of a file

The comments that generated code takes over: the documentation of services and methods, and the
header of the file, usually a licence. The header is put in front of a banner that says where the
generated file comes from. Comments that are taken over have to be readable.
-/

namespace SwiftStubs.Schema

/-- The comments of a file, by the paths of the commented parts. -/
abbrev Comments := Dictionary (List Int) Location

/-- The comments of a file. Of two locations with one path the later counts. -/
def File.comments (f : File) : Comments :=
  Dictionary.ofList (f.locations.map (fun l => (l.path, l)))

/-! ### Paths of parts -/

/-- The path of the statement that says in which version of the language the file is written. -/
def versionPath : List Int := [12]

/-- The path of the statement that names the package. -/
def packagePath : List Int := [2]

/-- The path of a service. -/
def servicePath (service : Nat) : List Int := [6, service]

/-- The path of a method of a service. -/
def methodPath (service method : Nat) : List Int := [6, service, 2, method]

/-! ### Texts -/

/-- The lines of a comment, without the line breaks at its end. -/
def commentLines (s : String) : List String :=
  Text.pieces '\n' (String.ofList (Text.dropLastWhile (· == '\n') s.toList))

/-- A line without a space in front. -/
def withoutSpace (line : String) : String :=
  match line.toList with
  | ' ' :: cs => String.ofList cs
  | _ => line

/-- A comment as documentation. -/
def documented (s : String) : String :=
  if s.isEmpty then "" else String.intercalate "\n" ((commentLines s).map withoutSpace)

/-- The documentation of a part: the comment directly in front of it. -/
def Comments.documentation (comments : Comments) (path : List Int) : Except Failure String :=
  match Dictionary.get? comments path with
  | none => .ok ""
  | some l => l.leading.readable.map documented

/-- A comment with two slashes in front of every line. -/
def slashed (s : String) : String :=
  String.intercalate "\n" ((commentLines s).map ("//" ++ ·))

/-- The header of a file: the comments on top that belong to nothing. -/
def Comments.header (comments : Comments) : Except Failure String :=
  match (Dictionary.get? comments versionPath).or (Dictionary.get? comments packagePath) with
  | none => .ok ""
  | some l => do
    let texts ← l.detached.mapM RawText.readable
    .ok (String.intercalate "\n\n" (texts.map slashed))

/-- Says that a file is generated, and from what. -/
def banner (source : String) : String :=
  String.intercalate "\n"
    ["// DO NOT EDIT.",
      "// swift-format-ignore-file",
      "//",
      "// Generated by the gRPC Swift generator plugin for the protocol buffer compiler.",
      "// Source: " ++ source,
      "//",
      "// For information on using the generated types, please see the documentation:",
      "//   https://github.com/grpc/grpc-swift"]

/-- The comment on top of the file generated for a schema file. -/
def File.leadingTrivia (f : File) : Except Failure String := do
  let header ← f.comments.header
  let banner := banner f.name.shown
  .ok (if header.isEmpty then banner else header ++ "\n\n" ++ banner)

end SwiftStubs.Schema
