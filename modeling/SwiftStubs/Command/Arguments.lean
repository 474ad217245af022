import SwiftStubs.Command.Word
import SwiftStubs.Settings

/-!
# Arguments

What a command line asks for. Words are taken from left to right: a switch takes the values behind
it, the last of several equal switches counts, and what no switch takes is reported at the end. The
switch for help ends everything. Two dashes attached to a switch are no value: they leave blank what
the switch sets.
-/

namespace SwiftStubs.Command

/-- What a command line asks for. -/
structure Arguments where
  /-- The file with the descriptors. If the path is empty, the program works as a plugin. -/
  descriptorSet : String := ""
  /-- The schema files to generate. If there are none, all are. -/
  files : List String := []
  /-- Where generated files are saved, unless it was left blank. -/
  outputDir : Option String := some "."
  moduleMappings : String := ""
  extraImports : List String := []
  /-- How generated files are named, unless it was left blank. -/
  fileNaming : Option FileNaming := some .fullPath
  /-- The access level, unless it was left blank. -/
  visibility : Option Swift.AccessLevel := some .internal
  sides : Stub.Sides := {}
  /-- The number of spaces of one level, unless it was left blank. -/
  indentation : Option Int := some 4
  availability : Bool := true
deriving Repr, DecidableEq

/-- Why a command line is not carried out. -/
inductive Stop where
  | help
  | usage (error : UsageError)
deriving Repr, DecidableEq

namespace Arguments

/-- The naming that a value of a switch stands for. -/
def namingOf (s : Switch) (value : String) : Except UsageError FileNaming :=
  mapError (fun _ => .unknownValue s value) (FileNaming.ofOption value)

/-- The access level that a value of a switch stands for. -/
def accessLevelOf (s : Switch) (value : String) : Except UsageError Swift.AccessLevel :=
  mapError (fun _ => .unknownValue s value) (Swift.AccessLevel.ofOption value)

/-- The integer that a value of a switch stands for. -/
def integerOf (s : Switch) (value : String) : Except UsageError Int :=
  match Text.integer? value with
  | some n => .ok n
  | none => .error (.notInteger s value)

/-- Carries out a switch with its values. Without a value a switch that takes one leaves blank what
it sets; a blank path is an empty one. -/
def set (a : Arguments) (s : Switch) (values : List String) : Except UsageError Arguments :=
  match s with
  | .help => .ok a
  | .descriptorSet => .ok { a with descriptorSet := values.headD "" }
  | .files => .ok { a with files := values }
  | .outputDir => .ok { a with outputDir := values.head? }
  | .moduleMappings => .ok { a with moduleMappings := values.headD "" }
  | .extraImports => .ok { a with extraImports := values }
  | .fileNaming => do
    let naming ← values.head?.mapM (namingOf s)
    .ok { a with fileNaming := naming }
  | .visibility => do
    let level ← values.head?.mapM (accessLevelOf s)
    .ok { a with visibility := level }
  | .noServer => .ok { a with sides := { a.sides with server := false } }
  | .noClient => .ok { a with sides := { a.sides with client := false } }
  | .indentation => do
    let n ← values.head?.mapM (integerOf s)
    .ok { a with indentation := n }
  | .noAvailability => .ok { a with availability := false }

end Arguments

/-! ### Values of switches -/

/-- The values in front of some words. -/
def leadingValues : List Word → List String
  | .value text :: ws => text :: leadingValues ws
  | _ => []

/-- The values that a switch takes from the words behind it. -/
def followingValues (s : Switch) (ws : List Word) : Except UsageError (List String) :=
  match s.arity, leadingValues ws with
  | .none, _ => .ok []
  | .one, [] => .error (.expectedOne s)
  | .one, value :: _ => .ok [value]
  | .many, [] => .error (.expectedSome s)
  | .many, values => .ok values

/-- What is wrong with the text attached to the letter for help, if anything is. Its characters are
read as the letters of further switches, up to one that takes values. -/
def gluedError? (ws : List Word) : List Char → Option UsageError
  | [] => none
  | c :: cs =>
    match Switch.ofLetter? c with
    | none => some (.ignored .help (String.ofList (c :: cs)))
    | some .help => gluedError? ws cs
    | some s =>
      if cs.isEmpty then
        match followingValues s ws with
        | .error e => some e
        | .ok _ => none
      else none

/-- The values of a switch, and how many of the words behind it they are. -/
structure Taken where
  values : List String
  used : Nat
deriving Repr, DecidableEq

/-- The values of a switch. -/
def valuesOf (s : Switch) (isShort : Bool) (attached : Option String) (ws : List Word) :
    Except Stop Taken :=
  match attached with
  | none =>
    if s = .help then .error .help
    else
      match followingValues s ws with
      | .error e => .error (.usage e)
      | .ok values => .ok ⟨values, values.length⟩
  | some t =>
    if s.arity ≠ .none then .ok ⟨if t = dividerText then [] else [t], 0⟩
    else if isShort ∧ t ≠ "" then
      match gluedError? ws t.toList with
      | some e => .error (.usage e)
      | none => .error .help
    else .error (.usage (.ignored s t))

/-- Takes words from left to right. What no switch takes is collected. -/
def takeWords (a : Arguments) (others : List String) (ws : List Word) : Except Stop Arguments :=
  match ws with
  | [] => if others.isEmpty then .ok a else .error (.usage (.unrecognized others))
  | .value text :: ws => takeWords a (others ++ [text]) ws
  | .divider :: ws => takeWords a (others ++ [dividerText]) ws
  | .unknown text :: ws => takeWords a (others ++ [text]) ws
  | .switch s isShort attached :: ws => do
    let taken ← valuesOf s isShort attached ws
    let a ← mapError Stop.usage (a.set s taken.values)
    takeWords a others (ws.drop taken.used)
termination_by ws.length
decreasing_by
  all_goals
    simp only [List.length_cons, List.length_drop]
    omega

/-- The arguments of a command line. -/
def Arguments.ofTexts (texts : List String) : Except Stop Arguments := do
  let ws ← mapError Stop.usage (Word.ofTexts texts)
  takeWords {} [] ws

/-! ### Settings -/

namespace Arguments

/-- The configuration that a command line asks for, before its module map is loaded and its
indentation is checked. -/
def base (a : Arguments) : Configuration :=
  { Configuration.standard with
    accessLevel := a.visibility.getD .internal
    sides := a.sides
    extraImports := a.extraImports
    availability := if a.availability then defaultAvailability else []
    fileNaming := a.fileNaming.getD .fullPath }

/-- The draft of the configuration that a command line asks for. -/
def draft (a : Arguments) : Draft where
  base := a.base
  indentation := a.indentation.getD a.base.indentation
  mapPath := a.moduleMappings

/-- What a command line leaves blank. -/
def blanks (a : Arguments) : Blanks where
  accessLevel := a.visibility.isNone
  fileNaming := a.fileNaming.isNone

/-- The settings that a command line asks for. The indentation must not be blank. -/
def settings (a : Arguments) (read : FileReader) : Except Failure Settings := do
  if a.indentation.isNone then
    let _ ← a.draft.loadMap read
    .error (.breakdown (.blank .indentation))
  else
    let c ← a.draft.finish read
    .ok ⟨c, a.blanks⟩

end Arguments

end SwiftStubs.Command
