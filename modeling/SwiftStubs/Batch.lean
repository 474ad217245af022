import SwiftStubs.Log
import SwiftStubs.Schema.Request
import SwiftStubs.Settings
import SwiftStubs.Stub.File

/-!
# Batches

A batch generates the files for several schema files, in the order in which they are asked for.
Schema files without services are skipped. A batch has all its outputs or none: it ends with the
first failure, and two outputs must not have one name.
-/

namespace SwiftStubs

/-- A generated file under its final name. -/
structure Output where
  name : String
  contents : String
deriving Repr, DecidableEq

namespace Batch

/-- The descriptor of a schema file that is asked for. -/
def descriptor (files : List Schema.File) (name : RawText) : Except OptionError Schema.File :=
  match (Schema.byName files).get? name with
  | none => .error (.noDescriptor name.shown)
  | some f => .ok f

/-- Generates the file for one schema file. -/
def source (m : Swift.Memory) (c : Settings) (files : List Schema.File) (f : Schema.File) :
    Except Failure SourceFile := do
  let r ← Schema.request c.configuration.moduleMap files f
  c.checkAccessLevel
  r.generate m c.configuration

/-- The final form of the file generated for a schema file. The name of the latter has to be
readable. -/
def output (c : Settings) (f : Schema.File) (s : SourceFile) : Except Failure Output := do
  c.checkFileNaming
  let _ ← f.name.readable
  .ok ⟨c.configuration.fileNaming.outputName s.name, s.contents⟩

/-- What is said about a skipped file. -/
def skipped (name : RawText) : String :=
  "Skipping " ++ name.shown ++ ", it declares no services."

/-- What is said about a generated file. -/
def generated (f : Schema.File) : String :=
  "Generated " ++ f.name.stripExtension.shown ++ " for " ++ toString f.services.length
    ++ " service(s)."

/-- Adds an output to others, unless one of them has its name. -/
def add (done : List Output) (o : Output) : Except OptionError (List Output) :=
  if done.any (fun d => d.name == o.name) then .error (.outputClash o.name)
  else .ok (done ++ [o])

/-- Adds what is generated for one schema file to the outputs before it. -/
def step (m : Swift.Memory) (c : Settings) (files : List Schema.File) (done : List Output)
    (name : RawText) : Logged (List Output) := do
  let f ← .ofExcept (mapError OptionError.failure (descriptor files name))
  if f.services.isEmpty then
    .tell .info .batch (skipped name)
    return done
  else
    let s ← .ofExcept (source m c files f)
    .tell .info .generator (generated f)
    let o ← .ofExcept (output c f s)
    .ofExcept (mapError OptionError.failure (add done o))

/-- Generates the files for the schema files with the given names. -/
def run (m : Swift.Memory) (c : Settings) (files : List Schema.File) (names : List RawText) :
    Logged (List Output) :=
  names.foldlM (step m c files) []

end Batch

end SwiftStubs
