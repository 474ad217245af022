import SwiftStubs.Text.Quoted

/-!
# Texts from outside

A text in a message should be written in UTF-8, but nothing makes sure that it is. A raw text is
either readable, or it is garbled and its bytes are all there is. Raw texts can be compared and
shown. What stands in a garbled text cannot be read, and a garbled text is never equal to a readable
one, even if both are shown alike.
-/

namespace SwiftStubs

/-! ### Quoted bytes -/

namespace Text

/-- A byte between quotes of the given kind. Bytes outside of ASCII are escaped. -/
def escapeByte (quote : Char) (b : UInt8) : List Char :=
  if b.toNat < 0x80 then escapeChar quote (Char.ofNat b.toNat)
  else ['\\', 'x'] ++ hexDigits 2 b.toNat

/-- Bytes between quotes. -/
def quotedBytes (bs : List UInt8) : String :=
  let quote := quoteFor (bs.map (fun b => Char.ofNat b.toNat))
  String.ofList (quote :: bs.flatMap (escapeByte quote) ++ [quote])

end Text

/-! ### Raw texts -/

/-- A text from outside. -/
inductive RawText where
  | text (s : String)
  /-- Bytes that are no text. -/
  | garbled (bytes : List UInt8)
deriving Repr, DecidableEq

instance : Coe String RawText := ⟨.text⟩

namespace RawText

/-- The raw text that some bytes write. -/
def ofBytes (bytes : List UInt8) : RawText :=
  match String.fromUTF8? bytes.toByteArray with
  | some s => .text s
  | none => .garbled bytes

/-- The text, if it can be read. -/
def text? : RawText → Option String
  | .text s => some s
  | .garbled _ => none

/-- How a raw text is shown: a garbled one is quoted, with a letter in front. -/
def shown : RawText → String
  | .text s => s
  | .garbled bytes => "b" ++ Text.quotedBytes bytes

@[simp]
theorem shown_text (s : String) :
  shown s = s
  := rfl

@[simp]
theorem text?_text (s : String) :
  text? s = some s
  := rfl

end RawText

end SwiftStubs
