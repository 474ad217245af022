import SwiftStubs.Text.ByteName
import SwiftStubs.Text.Quoted

/-!
# Escapes in quoted texts

Between quotes a backslash starts an escape. Escapes are resolved in three passes. The first gives
every hexadecimal escape two digits. The second replaces the escapes of characters by the
characters; a character outside of the first 256 with a backslash in front stands for the text of
its own escape. The third gives bytes: escapes of bytes, among them the names of characters between
braces, become the bytes, and all else is written in UTF-8. A backslash in front of any other
character stays.
-/

namespace SwiftStubs.ModuleMap

/-- The value of a hexadecimal digit. -/
def hexValue? (c : Char) : Option Nat :=
  if '0' ≤ c ∧ c ≤ '9' then some (c.toNat - '0'.toNat)
  else if 'a' ≤ c ∧ c ≤ 'f' then some (c.toNat - 'a'.toNat + 10)
  else if 'A' ≤ c ∧ c ≤ 'F' then some (c.toNat - 'A'.toNat + 10)
  else none

/-- The number with the given hexadecimal digits. -/
def hexNumber? (cs : List Char) : Option Nat :=
  (cs.mapM hexValue?).map (fun ds => ds.foldl (fun n d => 16 * n + d) 0)

/-- Whether a list starts with a hexadecimal digit. -/
def startsHex (cs : List Char) : Bool :=
  match cs with
  | [] => false
  | c :: _ => (hexValue? c).isSome

/-- Gives every hexadecimal escape of one digit a second one. -/
def padHex : List Char → List Char
  | [] => []
  | '\\' :: 'x' :: rest =>
    if startsHex rest && !startsHex (rest.drop 1) then '\\' :: 'x' :: '0' :: padHex rest
    else '\\' :: 'x' :: padHex rest
  | '\\' :: c :: rest => '\\' :: c :: padHex rest
  | c :: rest => c :: padHex rest

/-- The character with a number. -/
def char? (n : Nat) : Option Char :=
  if n.isValidChar then some (Char.ofNat n) else none

/-- The text of the escape of a character outside of the first 256. -/
def escapeText (c : Char) : List Char :=
  if c.toNat < 0x10000 then ['\\', 'u'] ++ Text.hexDigits 4 c.toNat
  else ['\\', 'U'] ++ Text.hexDigits 8 c.toNat

/-- Replaces the escapes of characters by the characters. -/
def resolveChars : List Char → Option (List Char)
  | [] => some []
  | '\\' :: 'u' :: a :: b :: c :: d :: rest => do
    let x ← char? (← hexNumber? [a, b, c, d])
    let xs ← resolveChars rest
    some (x :: xs)
  | '\\' :: 'u' :: _ => none
  | '\\' :: 'U' :: a :: b :: c :: d :: e :: f :: g :: h :: rest => do
    let x ← char? (← hexNumber? [a, b, c, d, e, f, g, h])
    let xs ← resolveChars rest
    some (x :: xs)
  | '\\' :: 'U' :: _ => none
  | '\\' :: c :: rest => do
    let xs ← resolveChars rest
    some ('\\' :: (if c.toNat < 0x100 then [c] else escapeText c) ++ xs)
  | c :: rest => do
    let xs ← resolveChars rest
    some (c :: xs)

/-- The byte with a number. -/
def byte? (n : Nat) : Option UInt8 :=
  if n < 256 then some n.toUInt8 else none

/-- The byte of an escape of one character. -/
def simpleEscape? (c : Char) : Option UInt8 :=
  match c with
  | 'a' => some 7
  | 'b' => some 8
  | 't' => some 9
  | 'n' => some 10
  | 'v' => some 11
  | 'f' => some 12
  | 'r' => some 13
  | '"' => some 34
  | '\'' => some 39
  | '\\' => some 92
  | _ => none

/-- Whether a character is an octal digit. -/
def isOctal (c : Char) : Bool := '0' ≤ c && c ≤ '7'

/-- The number with the given octal digits. -/
def octalNumber (cs : List Char) : Nat :=
  cs.foldl (fun n c => 8 * n + (c.toNat - '0'.toNat)) 0

/-- What stands before the closing brace, and what comes after it. -/
def bracedPart :
    (cs : List Char) → Option (List Char × { rest : List Char // rest.length ≤ cs.length })
  | [] => none
  | c :: cs =>
    if c == '\x7d' then some ([], ⟨cs, by simp only [List.length_cons]; omega⟩)
    else do
      let (inside, ⟨rest, h⟩) ← bracedPart cs
      some (c :: inside, ⟨rest, by simp only [List.length_cons]; omega⟩)

/-- The bytes of a text whose escapes of characters are resolved. -/
def resolveBytes : List Char → Option (List UInt8)
  | [] => some []
  | ['\\'] => none
  | '\\' :: '\n' :: rest => resolveBytes rest
  | '\\' :: 'x' :: a :: b :: rest => do
    let x ← byte? (← hexNumber? [a, b])
    let xs ← resolveBytes rest
    some (x :: xs)
  | '\\' :: 'x' :: _ => none
  | '\\' :: 'u' :: a :: b :: c :: d :: rest => do
    let x ← byte? (← hexNumber? [a, b, c, d])
    let xs ← resolveBytes rest
    some (x :: xs)
  | '\\' :: 'u' :: _ => none
  | '\\' :: 'U' :: a :: b :: c :: d :: e :: f :: g :: h :: rest => do
    let x ← byte? (← hexNumber? [a, b, c, d, e, f, g, h])
    let xs ← resolveBytes rest
    some (x :: xs)
  | '\\' :: 'U' :: _ => none
  | '\\' :: 'N' :: '\x7b' :: rest => do
    let (name, ⟨rest, _⟩) ← bracedPart rest
    let x ← byte? (← Text.byteNamed? name)
    let xs ← resolveBytes rest
    some (x :: xs)
  | '\\' :: 'N' :: _ => none
  | '\\' :: c :: rest =>
    if isOctal c then do
      let more := (rest.take 2).takeWhile isOctal
      let x ← byte? (octalNumber (c :: more))
      let xs ← resolveBytes (rest.drop more.length)
      some (x :: xs)
    else
      match simpleEscape? c with
      | some x => do
        let xs ← resolveBytes rest
        some (x :: xs)
      | none => do
        let xs ← resolveBytes rest
        some (92 :: String.utf8EncodeChar c ++ xs)
  | c :: rest => do
    let xs ← resolveBytes rest
    some (String.utf8EncodeChar c ++ xs)
termination_by cs => cs.length
decreasing_by
  all_goals simp only [List.length_cons, List.length_drop]
  all_goals omega

/-- The bytes of what stands between quotes. -/
def unescape (cs : List Char) : Option (List UInt8) := do
  resolveBytes (← resolveChars (padHex cs))

end SwiftStubs.ModuleMap
