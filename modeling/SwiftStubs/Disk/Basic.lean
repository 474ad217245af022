import SwiftStubs.Dictionary
import SwiftStubs.Disk.Path
import SwiftStubs.Text.Quoted

/-!
# Disks

A disk is a tree of directories and files, kept as a table from locations to what is there, with a
working directory that relative paths start at. A location is the list of the names from the root
down. Paths are followed part by part, so that a part that goes up leaves the directory reached
before it, and following fails where a directory is missing or a file stands in its place.
-/

namespace SwiftStubs

/-- The ways in which the disk refuses an operation. -/
inductive DiskError where
  | missing
  | alreadyThere
  | notADirectory
  | isADirectory
  | nameTooLong
deriving Repr, DecidableEq

namespace DiskError

/-- The number of an error. -/
def number : DiskError → Nat
  | .missing => 2
  | .alreadyThere => 17
  | .notADirectory => 20
  | .isADirectory => 21
  | .nameTooLong => 36

/-- The wording of an error. -/
def description : DiskError → String
  | .missing => "No such file or directory"
  | .alreadyThere => "File exists"
  | .notADirectory => "Not a directory"
  | .isADirectory => "Is a directory"
  | .nameTooLong => "File name too long"

/-- What is said about an error at a path. -/
def report (e : DiskError) (p : Path) : String :=
  "[Errno " ++ toString e.number ++ "] " ++ e.description ++ ": " ++ Text.quoted p.text

end DiskError

/-- What is at a location. -/
inductive DiskNode where
  | directory
  | file (bytes : List UInt8)
deriving Repr, DecidableEq

/-- Where something is: the names from the root down. -/
abbrev Location := List String

/-- Directories and files, and a working directory. -/
structure Disk where
  nodes : Dictionary Location DiskNode
  working : Location

namespace Disk

/-- The longest name of a file, in bytes. -/
def maxName : Nat := 255

/-- The longest path, in bytes. -/
def maxPath : Nat := 4095

/-- What is at a location. The root is a directory. -/
def node? (d : Disk) : Location → Option DiskNode
  | [] => some .directory
  | location => d.nodes.get? location

/-- The disk with something put at a location. -/
def put (d : Disk) (location : Location) (node : DiskNode) : Disk :=
  { d with nodes := d.nodes.insert location node }

/-- Where one part of a path leads from a location. -/
def step (d : Disk) (here : Location) (part : String) : Except DiskError Location :=
  match d.node? here with
  | none => .error .missing
  | some (.file _) => .error .notADirectory
  | some .directory =>
    if part == ".." then .ok here.dropLast
    else if maxName < part.utf8ByteSize then .error .nameTooLong
    else .ok (here ++ [part])

/-- Where a path leads. There need not be anything. -/
def locate (d : Disk) (p : Path) : Except DiskError Location :=
  if maxPath < p.text.utf8ByteSize then .error .nameTooLong
  else p.parts.foldlM d.step (if p.isAbsolute then [] else d.working)

/-- The contents of the file at a path. -/
def read (d : Disk) (p : Path) : Except DiskError (List UInt8) := do
  match d.node? (← d.locate p) with
  | none => .error .missing
  | some .directory => .error .isADirectory
  | some (.file bytes) => .ok bytes

/-- Writes a file at a path, in place of one that is there. -/
def write (d : Disk) (p : Path) (bytes : List UInt8) : Except DiskError Disk := do
  let location ← d.locate p
  match d.node? location with
  | some .directory => .error .isADirectory
  | _ => .ok (d.put location (.file bytes))

/-- Whether a path leads to a directory. -/
def isDirectory (d : Disk) (p : Path) : Bool :=
  match d.locate p with
  | .ok location => d.node? location == some .directory
  | .error _ => false

/-- Makes one directory. -/
def makeDirectory (d : Disk) (p : Path) : Except DiskError Disk := do
  let location ← d.locate p
  match d.node? location with
  | some _ => .error .alreadyThere
  | none => .ok (d.put location .directory)

/-- Forgives an error in making a directory that is there. -/
def unlessThere (d : Disk) (p : Path) : Except DiskError Disk → Except DiskError Disk
  | .ok e => .ok e
  | .error e => if d.isDirectory p then .ok d else .error e

/-- Makes a directory and those above it, as far as they are missing. -/
def makeDirectories (d : Disk) (p : Path) : Except DiskError Disk :=
  match d.makeDirectory p with
  | .error .missing =>
    if p.parts.isEmpty then .error .missing
    else do
      let above ← d.makeDirectories p.parent
      above.unlessThere p (above.makeDirectory p)
  | result => d.unlessThere p result
termination_by p.parts.length
decreasing_by
  have : p.parts ≠ [] := by simp_all
  have : 0 < p.parts.length := List.length_pos_iff.mpr this
  simp only [Path.parent, List.length_dropLast]
  omega

end Disk

end SwiftStubs
