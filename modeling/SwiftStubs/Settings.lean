import SwiftStubs.Configuration.Parameter

/-!
# Settings

A command line can leave the access level and the naming of files blank. Nothing is wrong with this
by itself: a parameter may still give them, and there may be no file to generate. A blank setting is
missed where it is used.
-/

namespace SwiftStubs

/-- The settings that were left blank. -/
structure Blanks where
  accessLevel : Bool := false
  fileNaming : Bool := false
deriving Repr, DecidableEq

/-- The blanks that are left when some options are given. -/
def Blanks.filledBy (blanks : Blanks) (options : List ParameterOption) : Blanks :=
  let given (key : String) : Bool := options.any (fun o => Text.lower o.key == key)
  { accessLevel := blanks.accessLevel && !given "visibility"
    fileNaming := blanks.fileNaming && !given "filenaming" }

/-- A configuration with blanks in it. What it says at a blank does not count. -/
structure Settings where
  configuration : Configuration
  blanks : Blanks := {}

instance : Coe Configuration Settings := ⟨fun c => { configuration := c }⟩

namespace Settings

/-- The settings that a parameter makes of others. -/
def withParameter (base : Settings) (read : FileReader) (parameter : String) :
    Except Failure Settings := do
  let c ← base.configuration.withParameter read parameter
  .ok ⟨c, base.blanks.filledBy (ParameterOption.ofParameter parameter)⟩

/-- An access level has to be there. -/
def checkAccessLevel (s : Settings) : Except Failure Unit :=
  if s.blanks.accessLevel then .error (.breakdown (.blank .accessLevel)) else .ok ()

/-- A naming of files has to be there. -/
def checkFileNaming (s : Settings) : Except Failure Unit :=
  if s.blanks.fileNaming then .error (.breakdown (.blank .fileNaming)) else .ok ()

end Settings

end SwiftStubs
