import SwiftStubs.Text.Quoted

/-!
# Switches

The switches of the command line, how they are spelled, and how many values they take. A switch has
a long spelling, and some have a short one of a single letter.
-/

namespace SwiftStubs.Command

/-- The switches. -/
inductive Switch where
  | help
  | descriptorSet
  | files
  | outputDir
  | moduleMappings
  | extraImports
  | fileNaming
  | visibility
  | noServer
  | noClient
  | indentation
  | noAvailability
deriving Repr, DecidableEq

/-- How many values a switch takes. -/
inductive Arity where
  | none
  | one
  /-- One or more. -/
  | many
deriving Repr, DecidableEq

namespace Switch

/-- All switches. -/
def all : List Switch :=
  [.help, .descriptorSet, .files, .outputDir, .moduleMappings, .extraImports, .fileNaming,
    .visibility, .noServer, .noClient, .indentation, .noAvailability]

/-- The letter of a switch. -/
def letter : Switch → Option Char
  | .help => some 'h'
  | .descriptorSet => some 'd'
  | .files => some 'f'
  | .outputDir => some 'o'
  | .moduleMappings => some 'm'
  | .extraImports => some 'e'
  | _ => none

/-- The long spelling of a switch. -/
def long : Switch → String
  | .help => "--help"
  | .descriptorSet => "--descriptor-set"
  | .files => "--files"
  | .outputDir => "--output-dir"
  | .moduleMappings => "--module-mappings"
  | .extraImports => "--extra-module-imports"
  | .fileNaming => "--file-naming"
  | .visibility => "--visibility"
  | .noServer => "--no-server"
  | .noClient => "--no-client"
  | .indentation => "--indentation"
  | .noAvailability => "--no-availability"

/-- How many values a switch takes. -/
def arity : Switch → Arity
  | .help | .noServer | .noClient | .noAvailability => .none
  | .files | .extraImports => .many
  | _ => .one

/-- All spellings of a switch. -/
def spellings (s : Switch) : List String :=
  match s.letter with
  | none => [s.long]
  | some c => [String.ofList ['-', c], s.long]

/-- The name of a switch in messages. -/
def name (s : Switch) : String :=
  String.intercalate "/" s.spellings

/-- The switch with a spelling. -/
def ofSpelling? (text : String) : Option Switch :=
  all.find? (fun s => text ∈ s.spellings)

/-- The switch with a letter. -/
def ofLetter? (c : Char) : Option Switch :=
  all.find? (fun s => s.letter == some c)

end Switch

/-- What can be wrong with a command line. -/
inductive UsageError where
  /-- A shortened spelling fits several switches. -/
  | ambiguous (text : String) (spellings : List String)
  | expectedOne (s : Switch)
  | expectedSome (s : Switch)
  /-- A switch without values was given one. -/
  | ignored (s : Switch) (value : String)
  | notInteger (s : Switch) (value : String)
  /-- A switch was given a value that it does not know. -/
  | unknownValue (s : Switch) (value : String)
  | unrecognized (texts : List String)
deriving Repr, DecidableEq

namespace UsageError

/-- What is said about a switch. -/
def about (s : Switch) (message : String) : String :=
  "argument " ++ s.name ++ ": " ++ message

/-- The wording of an error. -/
def message : UsageError → String
  | .ambiguous text spellings =>
    "ambiguous option: " ++ text ++ " could match " ++ String.intercalate ", " spellings
  | .expectedOne s => about s "expected one argument"
  | .expectedSome s => about s "expected at least one argument"
  | .ignored s value => about s ("ignored explicit argument " ++ Text.quoted value)
  | .notInteger s value => about s ("invalid int value: " ++ Text.quoted value)
  | .unknownValue s value => about s ("invalid from_option value: " ++ Text.quoted value)
  | .unrecognized texts => "unrecognized arguments: " ++ String.intercalate " " texts

end UsageError

end SwiftStubs.Command
