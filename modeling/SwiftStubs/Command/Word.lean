import SwiftStubs.Command.Switch
import SwiftStubs.Text.Integer

/-!
# Words of a command line

Before anything else is done, every word of a command line is told apart: it is a switch, perhaps
with a text attached to it, or a value. A text is attached behind an equality sign or, to a letter,
directly. A long spelling can be shortened as long as one switch alone fits. Two dashes alone end
the switches: all words behind them are values.
-/

namespace SwiftStubs.Command

/-- A word of a command line. -/
inductive Word where
  | value (text : String)
  /-- Two dashes alone. -/
  | divider
  /-- A switch, in its short or its long spelling. -/
  | switch (s : Switch) (isShort : Bool) (attached : Option String)
  /-- Something that looks like a switch but is none. -/
  | unknown (text : String)
deriving Repr, DecidableEq

/-- The text of two dashes alone. -/
def dividerText : String := "--"

/-- A text cut at the first equality sign, if there is one. -/
def splitAtEquals (cs : List Char) : String × Option String :=
  let front := cs.takeWhile (· != '=')
  match cs.dropWhile (· != '=') with
  | [] => (String.ofList front, none)
  | _ :: behind => (String.ofList front, some (String.ofList behind))

/-- Whether a spelling is the short one. -/
def isShort (spelling : String) : Bool :=
  spelling.length == 2

/-- Whether a word looks like a negative number: a dash and digits, perhaps with a point among
them. A line break at the end does not count. -/
def looksNegative : List Char → Bool
  | '-' :: cs =>
    let digits := if cs.getLast? = some '\n' then cs.dropLast else cs
    let isDigit (c : Char) : Bool := (Text.digitValue? c).isSome
    match digits.dropWhile isDigit with
    | [] => !digits.isEmpty
    | '.' :: decimals => !decimals.isEmpty && decimals.all isDigit
    | _ => false
  | _ => false

/-- A word that is no switch, although it starts with a dash. -/
def ofStranger (text : String) : Word :=
  if looksNegative text.toList || text.toList.contains ' ' then .value text else .unknown text

/-- The spellings that a shortened long spelling fits. -/
def fitting (front : String) : List (Switch × String) :=
  Switch.all.flatMap (fun s =>
    (s.spellings.filter (fun t => front.toList.isPrefixOf t.toList)).map (s, ·))

/-- Tells apart a word with two dashes in front that is no full spelling. -/
def ofShortened (text : String) : Except UsageError Word :=
  let (front, attached) := splitAtEquals text.toList
  match fitting front with
  | [] => .ok (ofStranger text)
  | [(s, _)] => .ok (.switch s false attached)
  | several => .error (.ambiguous text (several.map Prod.snd))

/-- Tells apart a word that starts with a dash and is no full spelling. -/
def ofDashed (text : String) : Except UsageError Word :=
  match text.toList with
  | '-' :: '-' :: _ => ofShortened text
  | '-' :: c :: cs =>
    match Switch.ofLetter? c with
    | some s => .ok (.switch s true (some (String.ofList cs)))
    | none => .ok (ofStranger text)
  | _ => .ok (.value text)

/-- Tells apart a word. -/
def Word.ofText (text : String) : Except UsageError Word :=
  if text.toList.head? ≠ some '-' then .ok (.value text)
  else
    match Switch.ofSpelling? text with
    | some s => .ok (.switch s (isShort text) none)
    | none =>
      match splitAtEquals text.toList with
      | (front, some attached) =>
        match Switch.ofSpelling? front with
        | some s => .ok (.switch s (isShort front) (some attached))
        | none => ofDashed text
      | (_, none) => ofDashed text

/-- Tells apart the words of a command line. -/
def Word.ofTexts : List String → Except UsageError (List Word)
  | [] => .ok []
  | text :: texts =>
    if text = dividerText then .ok (.divider :: texts.map .value)
    else do
      let w ← Word.ofText text
      let ws ← Word.ofTexts texts
      .ok (w :: ws)

end SwiftStubs.Command
