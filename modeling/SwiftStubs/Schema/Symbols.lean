import SwiftStubs.Options.Error
import SwiftStubs.Schema.Naming

/-!
# Symbols

The Swift names of messages. A message on top of a file has the prefix of the file in front of its
name, and one inside another message is a member of the Swift type of that message. A symbol table
knows the messages of several files by their full names.
-/

namespace SwiftStubs.Schema

mutual

/-- The full names of a message and of those inside it, with their Swift names. -/
def Message.symbols (typePrefix scope swiftScope : String) : Message → List (String × String)
  | .mk name nested =>
    let full := scope ++ "." ++ name
    let swift := if swiftScope.isEmpty then typePrefix ++ name else swiftScope ++ "." ++ name
    (full, swift) :: symbolsOf typePrefix full swift nested

/-- The full names of some messages and of those inside them, with their Swift names. -/
def symbolsOf (typePrefix scope swiftScope : String) : List Message → List (String × String)
  | [] => []
  | m :: ms => m.symbols typePrefix scope swiftScope ++ symbolsOf typePrefix scope swiftScope ms

end

/-- What the full names of the messages of a file start with. -/
def File.scope (f : File) : String :=
  if f.package.shown.isEmpty then "" else "." ++ f.package.shown

/-- The full names of the messages of a file, with their Swift names. -/
def File.symbols (f : File) : List (String × String) :=
  symbolsOf f.typePrefix f.scope "" f.messages

/-- Swift names by full names. -/
abbrev SymbolTable := Dictionary String String

namespace SymbolTable

/-- The symbol table of some files. -/
def ofFiles (files : List File) : SymbolTable :=
  Dictionary.ofList (files.flatMap File.symbols)

/-- A full name, with the dot in front that may have been left out. -/
def withDot (name : String) : String :=
  if name.toList.head? = some '.' then name else "." ++ name

/-- The Swift name of a message. -/
def resolve (table : SymbolTable) (name : String) : Except OptionError String :=
  match Dictionary.get? table (withDot name) with
  | none => .error (.unknownMessage (withDot name))
  | some swift => .ok swift

end SymbolTable

end SwiftStubs.Schema
