import SwiftStubs.Disk.Basic

/-!
# What can be wrong with the options and the files they name

The causes for which nothing is generated although the program itself works: options that do not
exist or have no such value, files that cannot be read or understood, and descriptors that do not
fit together. Each has a wording that names the offending text.
-/

namespace SwiftStubs

/-- The causes. -/
inductive OptionError where
  | unknownAccessLevel (value : String)
  | unknownFileNaming (value : String)
  /-- The number of spaces of one level is not positive. -/
  | indentation (n : Int)
  | unknownOption (key : String)
  | notBoolean (key value : String)
  | notInteger (key value : String)
  | unreadableMappings (path : String) (error : DiskError)
  | malformedMappings
  /-- An entry of a module map names no module. -/
  | namelessEntry (index : Nat)
  /-- A module map gives two modules for one file. -/
  | conflictingModules (path first second : String)
  | unknownMessage (name : String)
  | noDescriptor (file : String)
  /-- Two files would be generated under one name. -/
  | outputClash (name : String)
  | unreadableDescriptors (path : String) (error : DiskError)
  | malformedDescriptors (path : String)
deriving Repr, DecidableEq

/-- The wording of a cause. -/
def OptionError.message : OptionError → String
  | .unknownAccessLevel value => "Unknown access level '" ++ value ++ "'."
  | .unknownFileNaming value => "Unknown file naming option '" ++ value ++ "'."
  | .indentation n =>
    "Indentation must be a positive number of spaces, got " ++ toString n ++ "."
  | .unknownOption key => "Unknown generator option '" ++ key ++ "'."
  | .notBoolean key value => "Option '" ++ key ++ "' expects a boolean, got '" ++ value ++ "'."
  | .notInteger key value => "Option '" ++ key ++ "' expects an integer, got '" ++ value ++ "'."
  | .unreadableMappings path error =>
    "Could not read module mappings from '" ++ path ++ "': " ++ error.report (.ofText path)
  | .malformedMappings => "Could not parse module mappings: the text is malformed."
  | .namelessEntry index => "Module mapping entry " ++ toString index ++ " has no module name."
  | .conflictingModules path first second =>
    "'" ++ path ++ "' is mapped to more than one module: '" ++ first ++ "' and '" ++ second ++ "'."
  | .unknownMessage name => "Unknown message type '" ++ name ++ "'."
  | .noDescriptor file => "No descriptor was given for '" ++ file ++ "'."
  | .outputClash name => "More than one file would be generated as '" ++ name ++ "'."
  | .unreadableDescriptors path error =>
    "Could not read descriptor set '" ++ path ++ "': " ++ error.report (.ofText path)
  | .malformedDescriptors path =>
    "'" ++ path ++ "' is not a serialized FileDescriptorSet: the bytes are malformed."

end SwiftStubs
