import SwiftStubs.Dictionary
import SwiftStubs.Options.Error

/-!
# Module maps

A module map says in which module the types of a schema file are defined. It is written as a list
of entries, each a module and the files it defines. A file may be listed several times, but only
for one module.
-/

namespace SwiftStubs

/-- The modules of schema files, by the paths of the files. -/
abbrev ModuleMap := Dictionary String String

/-- An entry of a written module map. -/
structure MapEntry where
  moduleName : String := ""
  paths : List String := []
deriving Repr, DecidableEq

namespace ModuleMap

/-- Adds the files of one module. -/
def addPaths (moduleName : String) (m : ModuleMap) : List String → Except OptionError ModuleMap
  | [] => .ok m
  | path :: paths =>
    match m.get? path with
    | none => addPaths moduleName (m.insert path moduleName) paths
    | some other =>
      if other = moduleName then addPaths moduleName m paths
      else .error (.conflictingModules path other moduleName)

/-- Adds entries, of which the first has the given index. -/
def addEntries (index : Nat) (m : ModuleMap) : List MapEntry → Except OptionError ModuleMap
  | [] => .ok m
  | e :: es =>
    if e.moduleName.isEmpty then .error (.namelessEntry index)
    else do
      let m ← addPaths e.moduleName m e.paths
      addEntries (index + 1) m es

/-- The module map of some entries. -/
def ofEntries (es : List MapEntry) : Except OptionError ModuleMap :=
  addEntries 0 Dictionary.empty es

end ModuleMap

end SwiftStubs
