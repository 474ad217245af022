import SwiftStubs.ModuleMap
import SwiftStubs.Stub.Alias
import SwiftStubs.Text.Lines
import SwiftStubs.Text.Lowercase

/-!
# Configurations

A configuration says how stubs are generated: how visible they are, how they are indented, which
sides there are, what they import, where the types of other schema files are defined, from which
versions of platforms on they are available, and what the generated files are called. The
indentation of a configuration is positive.
-/

namespace SwiftStubs

open Swift

/-- A text as options are compared: without blank ends and in lower case. -/
def optionWord (s : String) : String :=
  Text.lower (Text.trim s)

/-- The access level that an option names. -/
def Swift.AccessLevel.ofOption (value : String) : Except OptionError AccessLevel :=
  match AccessLevel.ofKeyword? (optionWord value) with
  | none => .error (.unknownAccessLevel value)
  | some a => .ok a

/-- How the name of a generated file is made from the name of the schema file. -/
inductive FileNaming where
  | fullPath
  | pathToUnderscores
  | dropPath
deriving Repr, DecidableEq

namespace FileNaming

/-- All ways of naming. -/
def all : List FileNaming := [.fullPath, .pathToUnderscores, .dropPath]

/-- The word for a way of naming. -/
def word : FileNaming → String
  | .fullPath => "FullPath"
  | .pathToUnderscores => "PathToUnderscores"
  | .dropPath => "DropPath"

/-- The way of naming with a word. -/
def ofWord? (s : String) : Option FileNaming :=
  all.find? (fun n => n.word == s)

/-- The way of naming that an option names. -/
def ofOption (value : String) : Except OptionError FileNaming :=
  match all.find? (fun n => Text.lower n.word == optionWord value) with
  | none => .error (.unknownFileNaming value)
  | some n => .ok n

/-- The ending of the names of generated files. -/
def ending : String := ".grpc.swift"

/-- The name of the file generated for a schema file, given without extension. -/
def outputName (naming : FileNaming) (name : String) : String :=
  let base := match naming with
    | .fullPath => name
    | .pathToUnderscores =>
      String.ofList (name.toList.map (fun c => if c == '/' then '_' else c))
    | .dropPath => baseName name
  base ++ ending

end FileNaming

/-- A version of a platform. -/
structure PlatformVersion where
  platform : String
  version : String
deriving Repr, DecidableEq

/-- The text of a version of a platform. -/
def PlatformVersion.text (p : PlatformVersion) : String :=
  p.platform ++ " " ++ p.version

/-- The versions from which on stubs are available if nothing else is said. -/
def defaultAvailability : List PlatformVersion :=
  [⟨"macOS", "13.0"⟩, ⟨"iOS", "16.0"⟩, ⟨"watchOS", "9.0"⟩, ⟨"tvOS", "16.0"⟩]

/-- How stubs are generated. -/
structure Configuration where
  accessLevel : AccessLevel := .internal
  /-- The number of spaces of one level. -/
  indentation : Int := 4
  indentation_pos : 1 ≤ indentation := by decide
  sides : Stub.Sides := {}
  /-- Modules that are imported beside those that the schema needs. -/
  extraImports : List String := []
  moduleMap : ModuleMap := Dictionary.empty
  /-- The versions from which on stubs are available. If there are none, nothing is said. -/
  availability : List PlatformVersion := defaultAvailability
  fileNaming : FileNaming := .fullPath

namespace Configuration

/-- The configuration if nothing is said. -/
def standard : Configuration := {}

/-- The configuration with another indentation, which has to be positive. -/
def withIndentation (c : Configuration) (n : Int) : Except OptionError Configuration :=
  if h : 1 ≤ n then .ok { c with indentation := n, indentation_pos := h }
  else .error (.indentation n)

/-- The style of stubs. -/
def style (c : Configuration) : Stub.Style where
  access := .level c.accessLevel
  availability :=
    if c.availability.isEmpty then none
    else some ⟨c.availability.map PlatformVersion.text⟩

end Configuration

end SwiftStubs
