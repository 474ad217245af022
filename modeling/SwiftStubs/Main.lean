import SwiftStubs.Command

/-!
# The program

Reads the files and the input that a run needs, and carries the run out.
-/

namespace SwiftStubs

/-- The error of the disk that an error of the system stands for. -/
def DiskError.ofSystem : IO.Error → DiskError
  | .alreadyExists .. => .alreadyThere
  | .inappropriateType _ code _ => if code == 21 then .isADirectory else .notADirectory
  | .invalidArgument .. => .nameTooLong
  | _ => .missing

/-- Reads a file of the system. -/
def readSystemFile (p : Path) : IO (Path × Except DiskError (List UInt8)) := do
  if p.hasNul then return (p, .error .missing)
  try
    let bytes ← IO.FS.readBinFile p.text
    return (p, .ok bytes.toList)
  catch e => return (p, .error (.ofSystem e))

/-- Reads a stream to its end. -/
partial def readStream (input : IO.FS.Stream) (soFar : ByteArray) : IO ByteArray := do
  let bytes ← input.read 65536
  if bytes.isEmpty then return soFar
  readStream input (soFar ++ bytes)

/-- Carries out a step on the system. -/
def Command.Step.perform : Command.Step → IO Unit
  | .tell text => IO.eprint text
  | .save path contents => do
    if path.hasNul then throw (IO.userError (Breakdown.message .invalidPath))
    IO.FS.createDirAll path.parent.text
    IO.FS.writeFile path.text contents

/-- Whether the program is called as a plugin: by the name under which schema compilers look for
one. -/
def isPluginName (name : String) : Bool :=
  name.startsWith "protoc-gen-"

end SwiftStubs

open SwiftStubs in
/-- The program. -/
def main (arguments : List String) : IO UInt32 := do
  let name := (← IO.appPath).fileName.getD ""
  let entry : Command.Entry := if isPluginName name then .plugin else .command arguments
  let input ← if entry.readsInput then readStream (← IO.getStdin) .empty else pure .empty
  let files ← (entry.paths input.toList).mapM readSystemFile
  let read : FileReader := fun p => (files.lookup p).getD (.error .missing)
  let run := entry.run .ample read input.toList
  run.steps.forM Command.Step.perform
  let out ← IO.getStdout
  out.write run.output.toByteArray
  out.flush
  match run.ending with
  | .exit code => return code.toUInt32
  | .breakdown cause => throw (IO.userError cause.message)
