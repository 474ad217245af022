/-!
# Blank ends, lines and pieces of a text

A character is *blank* if it separates words in every script: the space and the tabulators, the
line and paragraph separators, and the spaces of fixed width. Texts given by a user are compared
and split after their blank ends are cut off.

A text is cut in two ways. `lines` cuts it at every kind of line break, so that no piece holds one
and a break at the very end opens no further line. `pieces` cuts it at one given character and
keeps every piece, also the empty ones.
-/

namespace SwiftStubs.Text

/-! ### Blank characters -/

/-- The blank characters. -/
def isBlank (c : Char) : Bool :=
  let n := c.toNat
  (9 ≤ n && n ≤ 13) || (28 ≤ n && n ≤ 32) || n == 0x85 || n == 0xA0 || n == 0x1680
    || (0x2000 ≤ n && n ≤ 0x200A) || n == 0x2028 || n == 0x2029 || n == 0x202F || n == 0x205F
    || n == 0x3000

/-- A list without its last elements that satisfy `p`. -/
def dropLastWhile {α : Type} (p : α → Bool) (xs : List α) : List α :=
  (xs.reverse.dropWhile p).reverse

/-- The characters between the blank ones at both ends. -/
def trimChars (cs : List Char) : List Char :=
  dropLastWhile isBlank (cs.dropWhile isBlank)

/-- The text between the blank characters at both ends. -/
def trim (s : String) : String :=
  String.ofList (trimChars s.toList)

/-! ### Lines and pieces -/

/-- The characters that end a line. A carriage return followed by a line feed ends one line. -/
def isLineBreak (c : Char) : Bool :=
  let n := c.toNat
  (10 ≤ n && n ≤ 13) || (28 ≤ n && n ≤ 30) || n == 0x85 || n == 0x2028 || n == 0x2029

/-- Puts a character in front of the first of some lines. -/
def consFirst (c : Char) : List (List Char) → List (List Char)
  | [] => [[c]]
  | line :: more => (c :: line) :: more

/-- The lines of a list of characters, without their breaks. -/
def lineChars : List Char → List (List Char)
  | [] => []
  | '\r' :: '\n' :: rest => [] :: lineChars rest
  | c :: rest => if isLineBreak c then [] :: lineChars rest else consFirst c (lineChars rest)

/-- The lines of a text, without their breaks. The empty text has no lines. -/
def lines (s : String) : List String :=
  (lineChars s.toList).map String.ofList

/-- The pieces of a text between the occurrences of a character. There is always at least one. -/
def pieces (separator : Char) (s : String) : List String :=
  (s.toList.splitOn separator).map String.ofList

/-- The text with carriage returns, alone or before a line feed, read as line feeds. -/
def normalizeBreaks : List Char → List Char
  | [] => []
  | '\r' :: '\n' :: rest => '\n' :: normalizeBreaks rest
  | c :: rest => (if c == '\r' then '\n' else c) :: normalizeBreaks rest

end SwiftStubs.Text
