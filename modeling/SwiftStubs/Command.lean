import SwiftStubs.Command.Arguments
import SwiftStubs.Command.Run
import SwiftStubs.Plugin

/-!
# The command

The program is called in two ways. As a plugin of a schema compiler it reads a query and writes the
answer. As a command it reads descriptors from a file and saves what it generates, or works as a
plugin with the options of the command line if no such file is named.
-/

namespace SwiftStubs.Command

/-- The name of the program. -/
def programName : String := "grpc-swift-stub-generator"

/-- How the program is called. -/
inductive Entry where
  | command (arguments : List String)
  | plugin
deriving Repr, DecidableEq

/-! ### As a plugin -/

/-- What is said at the start of a query. -/
def generating (names : List String) : String :=
  "Generating code for " ++ String.intercalate ", " names

/-- Answers the query written by some bytes. The names of the files to generate are told, and have
to be readable for that. -/
def answerBytes (m : Swift.Memory) (read : FileReader) (base : Settings) (input : List UInt8) :
    Logged (List UInt8) := do
  let q ← .ofExcept (match Wire.read .query input with
    | none => .error (.breakdown .malformedMessage)
    | some message => .ok (Plugin.Query.ofWire message))
  let names ← .ofExcept (q.names.mapM RawText.readable)
  .tell .info .command (generating names)
  let a ← Plugin.answer m read base q
  return a.toBytes

/-! ### With descriptors from a file -/

/-- The schema files described by a file of descriptors. -/
def descriptors (read : FileReader) (path : String) : Except Failure (List Schema.File) := do
  let bytes ← read.open path (.unreadableDescriptors path)
  match Wire.read .fileSet bytes with
  | none => .error (OptionError.malformedDescriptors path).failure
  | some m => .ok ((m.messages 1).map Schema.File.ofWire)

/-- Generates the files that a command line asks for. -/
def outputs (m : Swift.Memory) (read : FileReader) (c : Settings) (a : Arguments) :
    Logged (List Output) := do
  let files ← .ofExcept (descriptors read a.descriptorSet)
  let names := if a.files.isEmpty then files.map Schema.File.name else a.files.map RawText.text
  Batch.run m c files names

/-- Where an output is saved. -/
def outputPath (directory : String) (o : Output) : Path :=
  (Path.ofText directory).join (Path.ofText o.name)

/-- What is said about a saved file. -/
def wrote (p : Path) : LogLine :=
  ⟨.info, .batch, "Wrote " ++ p.text⟩

/-- What is said at the end. A blank directory is shown by brackets. -/
def finished (count : Nat) (directory : Option String) : LogLine :=
  ⟨.info, .command,
    "Generated " ++ toString count ++ " file(s) into " ++ directory.getD "[]"⟩

/-- Saves outputs in a directory. -/
def saveSteps (directory : String) (os : List Output) : List Step :=
  os.flatMap (fun o =>
    let p := outputPath directory o
    [.save p o.contents, .tell (wrote p).text])

/-- The run that saves outputs in a directory, behind some other steps. Only if there are no outputs
the directory can be blank. -/
def savedRun (steps : List Step) (directory : Option String) (os : List Output) : Run :=
  let last := Step.tell (finished os.length directory).text
  match directory with
  | some d => { steps := steps ++ saveSteps d os ++ [last], ending := .exit 0 }
  | none =>
    if os.isEmpty then { steps := steps ++ [last], ending := .exit 0 }
    else { steps := steps, ending := .breakdown (.blank .outputDirectory) }

/-! ### Runs -/

/-- The run of a command that failed. -/
def failedRun (log : List LogLine) : Failure → Run
  | .problem p => {
      steps := logSteps .info (log ++ [⟨.error, .command, p.message⟩])
      ending := .exit 1 }
  | .breakdown b => {
      steps := logSteps .info log
      ending := .breakdown b }

/-- The run of a command with descriptors from a file. -/
def descriptorRun (m : Swift.Memory) (read : FileReader) (c : Settings) (a : Arguments) : Run :=
  let work := outputs m read c a
  match work.result with
  | .error e => failedRun work.log e
  | .ok os => savedRun (logSteps .info work.log) a.outputDir os

/-- The run of a command that works as a plugin. -/
def pluginRun (m : Swift.Memory) (read : FileReader) (c : Settings) (input : List UInt8) : Run :=
  let work := answerBytes m read c input
  match work.result with
  | .error e => failedRun work.log e
  | .ok bytes => {
      steps := logSteps .info work.log
      output := bytes
      ending := .exit 0 }

/-- The run of a command with the given arguments. -/
def argumentsRun (m : Swift.Memory) (read : FileReader) (input : List UInt8) (a : Arguments) :
    Run :=
  match a.settings read with
  | .error e => failedRun [] e
  | .ok c =>
    if a.descriptorSet.isEmpty then pluginRun m read c input else descriptorRun m read c a

/-- What is said about a wrong command line. -/
def usageText (e : UsageError) : String :=
  programName ++ ": error: " ++ e.message ++ "\n"

/-- The run of a command line. -/
def commandRun (m : Swift.Memory) (read : FileReader) (input : List UInt8)
    (texts : List String) : Run :=
  match Arguments.ofTexts texts with
  | .error .help => { ending := .exit 0 }
  | .error (.usage e) => { steps := [.tell (usageText e)], ending := .exit 2 }
  | .ok a => argumentsRun m read input a

/-- The run of a plugin, which shows warnings and errors alone. -/
def bareRun (m : Swift.Memory) (read : FileReader) (input : List UInt8) : Run :=
  let work := answerBytes m read Configuration.standard input
  let steps := logSteps .warning work.log
  match work.result with
  | .ok bytes => { steps := steps, output := bytes, ending := .exit 0 }
  | .error (.breakdown b) => { steps := steps, ending := .breakdown b }
  | .error (.problem _) => { steps := steps, ending := .exit 1 }

/-- The run of the program, with the given memory. -/
def Entry.run (entry : Entry) (m : Swift.Memory) (read : FileReader) (input : List UInt8) : Run :=
  match entry with
  | .command texts => commandRun m read input texts
  | .plugin => bareRun m read input

/-! ### What is read -/

/-- Whether a run reads the standard input. -/
def Entry.readsInput : Entry → Bool
  | .plugin => true
  | .command texts =>
    match Arguments.ofTexts texts with
    | .ok a => a.descriptorSet.isEmpty
    | .error _ => false

/-- The path of the module map that a parameter names, or the empty path. -/
def parameterPath (parameter : String) : String :=
  match Draft.ofParameter .standard parameter with
  | .ok d => d.mapPath
  | .error _ => ""

/-- The path of the module map that a query names, or the empty path. -/
def queryPath (input : List UInt8) : String :=
  match Wire.read .query input with
  | none => ""
  | some m =>
    match m.text 2 with
    | .text parameter => parameterPath parameter
    | .garbled _ => ""

/-- The paths that a run reads from, and perhaps others. -/
def Entry.paths (entry : Entry) (input : List UInt8) : List Path :=
  match entry with
  | .plugin => [.ofText (queryPath input)]
  | .command texts =>
    match Arguments.ofTexts texts with
    | .ok a =>
      [a.moduleMappings, a.descriptorSet, queryPath input].map Path.ofText
    | .error _ => []

/-- Runs the program on a disk, with the given memory. -/
def Entry.outcome (entry : Entry) (m : Swift.Memory) (d : Disk) (input : List UInt8) : Outcome :=
  (entry.run m d.read input).outcome d

end SwiftStubs.Command
