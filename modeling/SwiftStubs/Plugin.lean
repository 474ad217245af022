import SwiftStubs.Batch
import SwiftStubs.Schema.Wire

/-!
# The compiler plugin

A schema compiler asks a plugin to generate files: it gives a parameter with options, the files it
knows and the names of those to generate. The plugin answers with files or with an error. Problems
are part of the answer, so that the compiler can show them. Queries and answers are messages.
-/

namespace SwiftStubs.Plugin

/-- What a schema compiler asks for. -/
structure Query where
  /-- The names of the files to generate. -/
  names : List RawText := []
  parameter : RawText := ""
  files : List Schema.File := []

/-- What a plugin answers. -/
structure Answer where
  error : Option String := none
  outputs : List Output := []
deriving Repr, DecidableEq

/-- The features of the schema language that the plugin supports: optional fields. -/
def supportedFeatures : Nat := 1

/-- Carries out a query on top of some settings. Its parameter has to be readable. -/
def outputs (m : Swift.Memory) (read : FileReader) (base : Settings) (q : Query) :
    Logged (List Output) := do
  let parameter ← .ofExcept q.parameter.readable
  let c ← .ofExcept (base.withParameter read parameter)
  Batch.run m c q.files q.names

/-- What is said about a problem. -/
def failed (p : Problem) : String :=
  "Code generation failed: " ++ p.message

/-- The answer to a query. -/
def answer (m : Swift.Memory) (read : FileReader) (base : Settings) (q : Query) :
    Logged Answer :=
  let work := outputs m read base q
  match work.result with
  | .ok os => ⟨work.log, .ok { outputs := os }⟩
  | .error (.problem p) =>
    ⟨work.log ++ [⟨.error, .batch, failed p⟩], .ok { error := some p.message }⟩
  | .error (.breakdown b) => ⟨work.log, .error (.breakdown b)⟩

/-! ### On the wire -/

open Wire

/-- The query that a message describes. -/
def Query.ofWire (m : Wire.Message) : Query where
  names := m.texts 1
  parameter := m.text 2
  files := (m.messages 15).map Schema.File.ofWire

/-- The bytes of an output. -/
def outputBytes (o : Output) : List UInt8 :=
  writeTextField 1 o.name ++ writeTextField 15 o.contents

/-- The bytes of an answer. -/
def Answer.toBytes (a : Answer) : List UInt8 :=
  (match a.error with
    | none => []
    | some e => writeTextField 1 e)
    ++ writeNumberField 2 supportedFeatures
    ++ a.outputs.flatMap (fun o => writeBytesField 15 (outputBytes o))

end SwiftStubs.Plugin
