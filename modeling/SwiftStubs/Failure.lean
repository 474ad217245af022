import SwiftStubs.Options.Error
import SwiftStubs.Request.Error
import SwiftStubs.Swift.Render

/-!
# Failures

A failure is either a problem, about which the user is told in the words of the program, or a
breakdown, which ends the program where it happens. A file that cannot be read is a problem to
report. A path that no file can have, and a text that is not UTF-8, are breakdowns.
-/

namespace SwiftStubs

/-- What the user is told about. -/
inductive Problem where
  | request (error : RequestError)
  | options (error : OptionError)
deriving Repr, DecidableEq

/-- What the user is told. -/
def Problem.message : Problem → String
  | .request e => e.rejection.text
  | .options e => e.message

/-- The settings that are missed if they are blank. -/
inductive Setting where
  | accessLevel
  | fileNaming
  | indentation
  | outputDirectory
deriving Repr, DecidableEq

/-- What a setting is called. -/
def Setting.name : Setting → String
  | .accessLevel => "access level"
  | .fileNaming => "naming of files"
  | .indentation => "indentation"
  | .outputDirectory => "output directory"

/-- What ends the program where it happens. -/
inductive Breakdown where
  /-- A public import points outside of the list of imports. -/
  | importIndex
  /-- A text in a file is not valid UTF-8. -/
  | invalidText
  /-- A text in a message is not valid UTF-8. -/
  | garbledField
  /-- A path holds a character that no path can hold. -/
  | invalidPath
  /-- Bytes that should be a message are not. -/
  | malformedMessage
  /-- A file cannot be written. -/
  | disk (error : DiskError)
  /-- A setting is used that was left blank. -/
  | blank (setting : Setting)
  /-- The text of a tree cannot be written. -/
  | render (error : Swift.RenderError)
deriving Repr, DecidableEq

/-- What is said when the program ends by a breakdown. -/
def Breakdown.message : Breakdown → String
  | .importIndex => "a public import points outside of the list of imports"
  | .invalidText => "a text in a file is not valid UTF-8"
  | .garbledField => "a text in a message is not valid UTF-8"
  | .invalidPath => "a path holds a null character"
  | .malformedMessage => "the input is not a message"
  | .disk error => error.description
  | .blank setting => "the " ++ setting.name ++ " was left blank"
  | .render error => error.message

/-- Why nothing, or not everything, was generated. -/
inductive Failure where
  | problem (problem : Problem)
  | breakdown (breakdown : Breakdown)
deriving Repr, DecidableEq

/-- The failure of a request that is rejected. -/
def RequestError.failure (e : RequestError) : Failure := .problem (.request e)

/-- The failure of options that are wrong. -/
def OptionError.failure (e : OptionError) : Failure := .problem (.options e)

/-- A raw text that has to be read. -/
def RawText.readable : RawText → Except Failure String
  | .text s => .ok s
  | .garbled _ => .error (.breakdown .garbledField)

/-- Gives an error another form. -/
def mapError {α ε δ : Type} (f : ε → δ) : Except ε α → Except δ α
  | .ok a => .ok a
  | .error e => .error (f e)

/-! ### Reading files -/

/-- How files are read: the contents of the file at a path, or why there are none. -/
abbrev FileReader := Path → Except DiskError (List UInt8)

/-- Reads the file at a path that a user wrote. -/
def FileReader.open (read : FileReader) (path : String) (error : DiskError → OptionError) :
    Except Failure (List UInt8) :=
  let p := Path.ofText path
  if p.hasNul then .error (.breakdown .invalidPath)
  else mapError (fun e => (error e).failure) (read p)

/-- The text written by the bytes of a file. -/
def fileText (bytes : List UInt8) : Except Failure String :=
  match RawText.ofBytes bytes with
  | .text s => .ok s
  | .garbled _ => .error (.breakdown .invalidText)

end SwiftStubs
