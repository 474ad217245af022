/-!
# Scopes

A scope collects lines of text at a level of nesting. A new line is indented by the width of the
scope for every level. Instead of starting a new line, a text can be glued to the last line: the
request to glue holds for one text and is forgotten after it.

The lines are kept newest first, so that adding and gluing look only at the front. The spaces in
front of a line are counted and not written until the text is asked for. A line is started only if
there is room for its spaces: their number has to be a signed number of 64 bits, and they have to
fit in memory. How many fit is a parameter (`Memory`), and everything else is taken to fit.
-/

namespace SwiftStubs.Swift

/-! ### Lines -/

/-- A line of text and the number of spaces in front of it. -/
structure Line where
  /-- The number of spaces. If it is negative, there are none. -/
  indent : Int
  text : String
deriving Repr, DecidableEq

/-- The line as it is written. -/
def Line.written (l : Line) : String :=
  String.ofList (List.replicate l.indent.toNat ' ') ++ l.text

/-! ### Rooms -/

/-- Why the spaces in front of a line cannot be written. -/
inductive Excess where
  /-- Their number is no signed number of 64 bits. -/
  | word
  /-- They do not fit in memory. -/
  | memory
deriving Repr, DecidableEq

/-- A room for lines: it says of a number of spaces why they cannot be written, if they cannot. -/
structure Room where
  excess? : Int → Option Excess

/-- A memory, by the largest number of spaces that fit in front of a line. -/
structure Memory where
  spaces : Nat
deriving Repr, DecidableEq

/-- A memory in which all spaces fit whose number has 64 bits. -/
def Memory.ample : Memory where
  spaces := 0x7fffffffffffffff

/-- The room for lines in a memory. -/
def Memory.room (m : Memory) : Room where
  excess? n :=
    if n < -0x8000000000000000 ∨ 0x8000000000000000 ≤ n then some .word
    else if m.spaces < n.toNat then some .memory
    else none

/-! ### Scopes -/

/-- Lines in the making. -/
structure Scope where
  /-- The room for the lines. -/
  room : Room
  /-- The number of spaces of one level. -/
  width : Int
  /-- The level of nesting. -/
  level : Int := 0
  /-- The lines so far, the newest first. -/
  newest : List Line := []
  /-- Whether the next text is glued to the newest line. -/
  glues : Bool := false

namespace Scope

/-- The lines so far, the oldest first. -/
def lines (s : Scope) : List String :=
  s.newest.reverse.map Line.written

/-- The text so far, without a line feed at its end. -/
def contents (s : Scope) : String :=
  String.intercalate "\n" s.lines

/-- The spaces in front of a new line. -/
def indent (s : Scope) : Int := s.width * s.level

/-- Forgets the lines, the level and a request to glue. -/
def reset (s : Scope) : Scope where
  room := s.room
  width := s.width

/-- Why no text can be added, if none can. A text that is glued needs no spaces. -/
def excess? (s : Scope) : Option Excess :=
  match s.glues, s.newest with
  | true, _ :: _ => none
  | _, _ => s.room.excess? s.indent

/-- The scope with a text more: glued to the newest line if that was asked for and there is one,
and as a new line otherwise. -/
def added (s : Scope) (text : String) : Scope :=
  match s.glues, s.newest with
  | true, line :: older =>
    { s with newest := { line with text := line.text ++ text } :: older, glues := false }
  | _, newest => { s with newest := ⟨s.indent, text⟩ :: newest, glues := false }

/-- Adds a text, if there is room for it. -/
def add (s : Scope) (text : String) : Except Excess Scope :=
  match s.excess? with
  | none => .ok (s.added text)
  | some cause => .error cause

/-- Asks for the next text to be glued. -/
def glue (s : Scope) : Scope :=
  { s with glues := true }

/-- Goes one level in. -/
def enter (s : Scope) : Scope :=
  { s with level := s.level + 1 }

/-- Goes one level out. -/
def leave (s : Scope) : Scope :=
  { s with level := s.level - 1 }

end Scope

end SwiftStubs.Swift
