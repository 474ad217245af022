import SwiftStubs.Configuration
import SwiftStubs.ModuleMap.Reader
import SwiftStubs.Text.Integer

/-!
# Parameters

A parameter is a text such as `Visibility=Public,Server=false,ExtraModuleImports=Foo`: options
between commas, each a key and a value. Keys are compared in lower case. The last of several
options with one key counts, except that extra imports add up. A module map is loaded after all
options are read, and the indentation is checked at the very end.
-/

namespace SwiftStubs

/-! ### Options of a parameter -/

/-- A key and a value, both without blank ends. -/
structure ParameterOption where
  key : String
  value : String
deriving Repr, DecidableEq

namespace ParameterOption

/-- The option that a piece of a parameter writes. The first equality sign ends the key. Without
one the value is empty. -/
def ofPiece (cs : List Char) : ParameterOption where
  key := String.ofList (Text.trimChars (cs.takeWhile (· != '=')))
  value := String.ofList (Text.trimChars ((cs.dropWhile (· != '=')).drop 1))

/-- The options of a parameter. Pieces without anything but blanks do not count. -/
def ofParameter (parameter : String) : List ParameterOption :=
  ((parameter.toList.splitOn ',').filter (fun cs => !cs.all Text.isBlank)).map ofPiece

/-- The truth value of an option. An option without a value is true. -/
def boolean (o : ParameterOption) : Except OptionError Bool :=
  let word := optionWord o.value
  if word ∈ ["true", "yes", "1", ""] then .ok true
  else if word ∈ ["false", "no", "0"] then .ok false
  else .error (.notBoolean o.key o.value)

/-- The integer of an option. -/
def integer (o : ParameterOption) : Except OptionError Int :=
  match Text.integer? o.value with
  | none => .error (.notInteger o.key o.value)
  | some n => .ok n

end ParameterOption

/-! ### Configurations in the making -/

/-- A configuration in the making: its indentation is not checked yet, and a module map may be left
to load. -/
structure Draft where
  base : Configuration
  indentation : Int
  /-- The path of the module map to load, if it is not empty. -/
  mapPath : String := ""

namespace Draft

/-- The draft of a configuration as it is. -/
def ofConfiguration (c : Configuration) : Draft where
  base := c
  indentation := c.indentation

/-- Carries out one option. -/
def set (d : Draft) (o : ParameterOption) : Except OptionError Draft :=
  match Text.lower o.key with
  | "visibility" => do
    let a ← Swift.AccessLevel.ofOption o.value
    .ok { d with base := { d.base with accessLevel := a } }
  | "server" => do
    let b ← o.boolean
    .ok { d with base := { d.base with sides := { d.base.sides with server := b } } }
  | "client" => do
    let b ← o.boolean
    .ok { d with base := { d.base with sides := { d.base.sides with client := b } } }
  | "indentation" => do
    let n ← o.integer
    .ok { d with indentation := n }
  | "extramoduleimports" =>
    .ok { d with base := { d.base with extraImports := d.base.extraImports ++ [o.value] } }
  | "protopathmodulemappings" => .ok { d with mapPath := o.value }
  | "filenaming" => do
    let n ← FileNaming.ofOption o.value
    .ok { d with base := { d.base with fileNaming := n } }
  | _ => .error (.unknownOption o.key)

/-- Loads the module map, if one is left to load. -/
def loadMap (read : FileReader) (d : Draft) : Except Failure Configuration :=
  if d.mapPath.isEmpty then .ok d.base
  else do
    let m ← ModuleMap.load read d.mapPath
    .ok { d.base with moduleMap := m }

/-- The configuration of a draft. -/
def finish (read : FileReader) (d : Draft) : Except Failure Configuration := do
  let c ← d.loadMap read
  mapError OptionError.failure (c.withIndentation d.indentation)

end Draft

/-- The draft that a parameter makes of a configuration. -/
def Draft.ofParameter (base : Configuration) (parameter : String) : Except OptionError Draft :=
  (ParameterOption.ofParameter parameter).foldlM Draft.set (Draft.ofConfiguration base)

/-- The configuration that a parameter makes of another one. -/
def Configuration.withParameter (base : Configuration) (read : FileReader) (parameter : String) :
    Except Failure Configuration := do
  let d ← mapError OptionError.failure (Draft.ofParameter base parameter)
  d.finish read

end SwiftStubs
