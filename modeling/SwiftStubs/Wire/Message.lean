import SwiftStubs.Text.Raw
import SwiftStubs.Wire.Item
import SwiftStubs.Wire.Layout

/-!
# Messages

A message that was read is a tree: its fields hold numbers, bytes, or messages again. A field may
come several times. Of a single number or text the last one counts, and single messages are put
together. Fields with a value of another kind than theirs are passed over.
-/

namespace SwiftStubs.Wire

/-- A field of a message. -/
inductive Field where
  /-- One number, or a list of them. -/
  | numbers (id : Nat) (ns : List Nat)
  | bytes (id : Nat) (bs : List UInt8)
  | message (id : Nat) (fields : List Field)

/-- The fields of a message, in the order in which they came. -/
abbrev Message := List Field

/-! ### Reading -/

/-- How deep messages and groups can be nested in a message. -/
def maxDepth : Nat := 100

/-- Reads the value of a field, given how the messages inside are read. There may be nothing to
look at in it. -/
def readField (inside : Layout → List UInt8 → Option Message) (layout : Layout) (i : Item) :
    Option (Option Field) :=
  match i.value with
  | .number n => some (some (.numbers i.id [n]))
  | .bytes bs =>
    match layout.kind i.id with
    | .text => some (some (.bytes i.id bs))
    | .numbers => (readNumbers bs).map (fun ns => some (.numbers i.id ns))
    | .message l => (inside l bs).map (fun m => some (.message i.id m))
  | _ => some none

/-- Reads a message, given how the messages inside are read. -/
def readWith (depth : Nat) (inside : Layout → List UInt8 → Option Message) (layout : Layout)
    (bs : List UInt8) : Option Message := do
  let items ← readItems bs
  let items ← withoutGroups depth [] items
  let fields ← items.mapM (readField inside layout)
  return fields.filterMap id

/-- Reads a message with at most the given number of levels inside it. -/
def readDeep : Nat → Layout → List UInt8 → Option Message
  | 0 => readWith 0 (fun _ _ => none)
  | depth + 1 => readWith (depth + 1) (readDeep depth)

/-- Reads a message. -/
def read (layout : Layout) (bs : List UInt8) : Option Message :=
  readDeep maxDepth layout bs

/-! ### Looking up -/

/-- The numbers in a field. -/
def Field.numbersAt (id : Nat) : Field → List Nat
  | .numbers i ns => if i = id then ns else []
  | _ => []

/-- The bytes in a field, if it holds bytes. -/
def Field.bytesAt (id : Nat) : Field → Option (List UInt8)
  | .bytes i bs => if i = id then some bs else none
  | _ => none

/-- The message in a field, if it holds one. -/
def Field.messageAt (id : Nat) : Field → Option Message
  | .message i m => if i = id then some m else none
  | _ => none

namespace Message

/-- All numbers of a field. -/
def numbers (m : Message) (id : Nat) : List Nat :=
  m.flatMap (Field.numbersAt id)

/-- Whether the number of a field is not zero. -/
def flag (m : Message) (id : Nat) : Bool :=
  (numbers m id).getLast?.getD 0 != 0

/-- All texts of a field. -/
def texts (m : Message) (id : Nat) : List RawText :=
  (m.filterMap (Field.bytesAt id)).map RawText.ofBytes

/-- The text of a field, if there is one. -/
def text? (m : Message) (id : Nat) : Option RawText :=
  (texts m id).getLast?

/-- The text of a field, which is empty if there is none. -/
def text (m : Message) (id : Nat) : RawText :=
  (text? m id).getD ""

/-- All messages of a field. -/
def messages (m : Message) (id : Nat) : List Message :=
  m.filterMap (Field.messageAt id)

/-- The messages of a field put together to one. -/
def merged (m : Message) (id : Nat) : Message :=
  (messages m id).flatten

end Message

/-- The signed number of 32 bits that the low bits of a number stand for. -/
def signed32 (n : Nat) : Int :=
  let low := n % 0x100000000
  if low < 0x80000000 then (low : Int) else (low : Int) - 0x100000000

/-! ### Writing -/

/-- Writes a field that holds a number. -/
def writeNumberField (id n : Nat) : List UInt8 :=
  writeNumber (8 * id) ++ writeNumber n

/-- Writes a field that holds bytes. -/
def writeBytesField (id : Nat) (bs : List UInt8) : List UInt8 :=
  writeNumber (8 * id + 2) ++ writeNumber bs.length ++ bs

/-- Writes a field that holds a text. -/
def writeTextField (id : Nat) (s : String) : List UInt8 :=
  writeBytesField id s.toUTF8.toList

end SwiftStubs.Wire
