import SwiftStubs.Text.Lines
import SwiftStubs.Text.Raw

/-!
# Paths

A path is absolute or relative and has a list of parts. Empty parts and parts that stay where they
are do not count; parts that go up are kept, since what they lead to depends on the disk. Two
slashes in front are a root of their own.
-/

namespace SwiftStubs

/-- A path, without the parts that do not count. -/
structure Path where
  /-- The slashes in front: none for a relative path, one or two for an absolute one. -/
  root : String
  parts : List String
deriving Repr, DecidableEq

namespace Path

/-- The path written by a text. -/
def ofText (s : String) : Path where
  root :=
    match (s.toList.takeWhile (· == '/')).length with
    | 0 => ""
    | 2 => "//"
    | _ => "/"
  parts := (Text.pieces '/' s).filter (fun p => !p.isEmpty && p != ".")

/-- The text of a path. A relative path without parts is written as a dot. -/
def text (p : Path) : String :=
  if p.root.isEmpty && p.parts.isEmpty then "."
  else p.root ++ String.intercalate "/" p.parts

/-- Whether a path starts at the root of the disk. -/
def isAbsolute (p : Path) : Bool := !p.root.isEmpty

/-- A path continued by another one. An absolute one stands for itself. -/
def join (p q : Path) : Path :=
  if q.isAbsolute then q else ⟨p.root, p.parts ++ q.parts⟩

/-- The path without its last part. -/
def parent (p : Path) : Path := ⟨p.root, p.parts.dropLast⟩

/-- Whether a path holds the character that no name of a file can hold. -/
def hasNul (p : Path) : Bool :=
  p.parts.any (fun part => part.toList.contains (Char.ofNat 0))

end Path

/-! ### File names -/

section

variable {α : Type} [BEq α]

/-- What stands behind the last slash of a name. -/
def behindLast (slash : α) (xs : List α) : List α :=
  (xs.reverse.takeWhile (· != slash)).reverse

/-- A name without its extension: the last dot of what stands behind the last slash and all after
it. Dots at the start of that part do not begin an extension. -/
def withoutExtension (slash dot : α) (xs : List α) : List α :=
  let base := behindLast slash xs
  let dots := base.takeWhile (· == dot)
  let rest := base.dropWhile (· == dot)
  if rest.contains dot then
    let stem := ((rest.reverse.dropWhile (· != dot)).drop 1).reverse
    xs.take (xs.length - base.length) ++ dots ++ stem
  else xs

end

/-- What stands behind the last slash of a name. -/
def baseName (s : String) : String :=
  String.ofList (behindLast '/' s.toList)

/-- A name without its extension. -/
def stripExtension (s : String) : String :=
  String.ofList (withoutExtension '/' '.' s.toList)

/-- A raw name without its extension. -/
def RawText.stripExtension : RawText → RawText
  | .text s => .text (SwiftStubs.stripExtension s)
  | .garbled bytes => .garbled (withoutExtension 0x2F 0x2E bytes)

end SwiftStubs
