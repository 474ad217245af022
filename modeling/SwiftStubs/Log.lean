import SwiftStubs.Failure

/-!
# Logs

What the program tells while it works, and computations that tell something. Such a computation has
a log in any case, and a result or a failure: what was told before a failure stays told.
-/

namespace SwiftStubs

/-- How important a line is. -/
inductive LogLevel where
  | info
  | warning
  | error
deriving Repr, DecidableEq

namespace LogLevel

/-- The word for a level. -/
def word : LogLevel → String
  | .info => "INFO"
  | .warning => "WARNING"
  | .error => "ERROR"

/-- Levels in order of importance. -/
def rank : LogLevel → Nat
  | .info => 20
  | .warning => 30
  | .error => 40

end LogLevel

/-- The parts of the program that tell something. -/
inductive LogSource where
  | command
  | batch
  | generator
deriving Repr, DecidableEq

/-- The name of a part. -/
def LogSource.name : LogSource → String
  | .command => "grpc_swift_stub_generator.cli"
  | .batch => "grpc_swift_stub_generator.run"
  | .generator => "grpc_swift_stub_generator.generator"

/-- One line of a log. -/
structure LogLine where
  level : LogLevel
  source : LogSource
  message : String
deriving Repr, DecidableEq

namespace LogLine

/-- The text of a line, with the line break. -/
def text (l : LogLine) : String :=
  l.level.word ++ ":" ++ l.source.name ++ ":" ++ l.message ++ "\n"

/-- Whether a line is shown from a level on. -/
def shownFrom (least : LogLevel) (l : LogLine) : Bool :=
  least.rank ≤ l.level.rank

end LogLine

/-- A computation that tells something, and has a result or fails. -/
structure Logged (α : Type) where
  log : List LogLine
  result : Except Failure α

namespace Logged

variable {α β : Type}

/-- The computation that tells one line. -/
def tell (level : LogLevel) (source : LogSource) (message : String) : Logged Unit :=
  ⟨[⟨level, source, message⟩], .ok ()⟩

/-- The computation that tells nothing. -/
def ofExcept (result : Except Failure α) : Logged α := ⟨[], result⟩

/-- One computation after the other, unless the first fails. -/
def andThen (x : Logged α) (f : α → Logged β) : Logged β :=
  match x.result with
  | .error e => ⟨x.log, .error e⟩
  | .ok a => ⟨x.log ++ (f a).log, (f a).result⟩

instance : Monad Logged where
  pure a := ⟨[], .ok a⟩
  bind := andThen

@[simp]
theorem result_pure (a : α) :
  (pure a : Logged α).result = .ok a
  := rfl

/-- The result does not depend on what was told. -/
@[simp]
theorem result_bind (x : Logged α) (f : α → Logged β) :
  (x >>= f).result = x.result.bind (fun a => (f a).result)
  := by
  show (andThen x f).result = _
  unfold andThen
  cases x.result <;> rfl

@[simp]
theorem result_tell (level : LogLevel) (source : LogSource) (message : String) :
  (tell level source message).result = .ok ()
  := rfl

@[simp]
theorem result_ofExcept (result : Except Failure α) :
  (ofExcept result).result = result
  := rfl

end Logged

end SwiftStubs
