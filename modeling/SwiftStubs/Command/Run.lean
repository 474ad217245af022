import SwiftStubs.Log

/-!
# Runs

What the program does to the outside is described as a run: a list of steps, each of which tells
something or saves a file, then what goes to the standard output, and how the run ends. A run can be
carried out on a disk. It breaks off at the first file that cannot be saved.
-/

namespace SwiftStubs.Command

/-- A step of a run. -/
inductive Step where
  /-- Tells something to the user. -/
  | tell (text : String)
  /-- Saves a file, in directories that are made if they are missing. -/
  | save (path : Path) (contents : String)
deriving Repr, DecidableEq

/-- How a run ends. -/
inductive Ending where
  | exit (code : Nat)
  | breakdown (cause : Breakdown)
deriving Repr, DecidableEq

/-- What the program does to the outside. -/
structure Run where
  steps : List Step := []
  /-- What goes to the standard output. -/
  output : List UInt8 := []
  ending : Ending
deriving Repr, DecidableEq

/-- The steps that tell a log, as far as it is shown. -/
def logSteps (least : LogLevel) (log : List LogLine) : List Step :=
  (log.filter (LogLine.shownFrom least)).map (fun l => .tell l.text)

/-- Saves a file on a disk. -/
def saveFile (d : Disk) (path : Path) (contents : String) : Except Breakdown Disk := do
  if path.parent.hasNul then .error .invalidPath
  else
    let d ← mapError Breakdown.disk (d.makeDirectories path.parent)
    if path.hasNul then .error .invalidPath
    else mapError Breakdown.disk (d.write path contents.toUTF8.toList)

/-- What a run leaves behind. -/
structure Outcome where
  disk : Disk
  /-- What the user was told. -/
  told : String
  output : List UInt8
  ending : Ending

namespace Run

/-- Carries out steps on a disk. The disk, what was told, and why the steps broke off, if they
did. -/
def perform (d : Disk) : List Step → Disk × String × Option Breakdown
  | [] => (d, "", none)
  | .tell text :: steps =>
    let (d, told, cause) := perform d steps
    (d, text ++ told, cause)
  | .save path contents :: steps =>
    match saveFile d path contents with
    | .error cause => (d, "", some cause)
    | .ok d => perform d steps

/-- Carries out a run on a disk. -/
def outcome (d : Disk) (r : Run) : Outcome :=
  match perform d r.steps with
  | (d, told, none) => ⟨d, told, r.output, r.ending⟩
  | (d, told, some cause) => ⟨d, told, [], .breakdown cause⟩

end Run

end SwiftStubs.Command
