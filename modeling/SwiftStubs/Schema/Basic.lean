import SwiftStubs.Dictionary
import SwiftStubs.Text.Raw

/-!
# Schema files

What a schema compiler tells about a file: its package, what it imports, the messages and services
it declares, an optional prefix for the names of Swift types, and the comments of its parts. Types
are named in full, with a dot in front. Texts are raw, since it depends on the use of a file which
of them have to be readable; the names of messages only have to be shown.
-/

namespace SwiftStubs.Schema

/-- A message type and the message types declared inside it. -/
inductive Message where
  | mk (name : String) (nested : List Message)
deriving Repr

/-- A method of a service. -/
structure Method where
  name : RawText
  inputType : RawText
  outputType : RawText
  /-- Whether the client sends several messages. -/
  clientStreaming : Bool := false
  /-- Whether the server sends several messages. -/
  serverStreaming : Bool := false
deriving Repr, DecidableEq

/-- A service. -/
structure Service where
  name : RawText
  methods : List Method := []
deriving Repr, DecidableEq

/-- The comments of one part of a file. -/
structure Location where
  /-- Which part it is: field numbers and indexes, from the file down. -/
  path : List Int
  /-- The comment directly in front of the part. -/
  leading : RawText := ""
  /-- The comments in front of that one, with empty lines between them. -/
  detached : List RawText := []
deriving Repr, DecidableEq

/-- A schema file. -/
structure File where
  name : RawText
  package : RawText := ""
  imports : List RawText := []
  /-- Where in the list of imports those stand that importing files see as well. -/
  publicImports : List Int := []
  messages : List Message := []
  services : List Service := []
  swiftPrefix : Option RawText := none
  locations : List Location := []
deriving Repr

/-- Files by name. Of two files with one name the later counts. -/
def byName (files : List File) : Dictionary RawText File :=
  Dictionary.ofList (files.map (fun f => (f.name, f)))

end SwiftStubs.Schema
