import SwiftStubs.Failure
import SwiftStubs.ModuleMap
import SwiftStubs.ModuleMap.Escape

/-!
# Reading module maps

A written module map is a list of fields `mapping`, each holding an entry or a list of entries:

    mapping {
      module_name: "Other"
      proto_file_path: ["a.proto", "b.proto"]
    }

Blanks and comments, from a `#` to the end of the line, separate tokens. Fields may be followed by a
comma or a semicolon. A text is one or more quoted tokens, joined. No field takes a number, so the
characters of one are symbols without a place in the grammar.

A module map is loaded from a file in UTF-8. All line breaks are read as line feeds.
-/

namespace SwiftStubs.ModuleMap

/-! ### Tokens -/

/-- The tokens of a written module map. -/
inductive Token where
  | name (s : String)
  /-- What stands between quotes, with its escapes resolved. -/
  | text (bytes : List UInt8)
  | symbol (c : Char)
deriving Repr, DecidableEq

/-- Whether a character can start a name. -/
def startsName (c : Char) : Bool := c.isAlpha || c == '_'

/-- Whether a character can go on with a name. -/
def continuesName (c : Char) : Bool := c.isAlphanum || c == '_' || c == '+' || c == '-'

/-- What stands before the closing quote, escapes as they are, and what comes after it. At the end
of a line an escaped quote closes as well, and leaves its backslash behind. -/
def quotedPart (quote : Char) :
    (cs : List Char) → Option (List Char × { rest : List Char // rest.length ≤ cs.length })
  | [] => none
  | ['\\'] => none
  | ['\\', c] =>
    if c == quote then some (['\\'], ⟨[], by simp only [List.length_nil]; omega⟩) else none
  | '\\' :: c :: cs => do
    let (inside, ⟨rest, h⟩) ← quotedPart quote cs
    some ('\\' :: c :: inside, ⟨rest, by simp only [List.length_cons]; omega⟩)
  | c :: cs =>
    if c == quote then some ([], ⟨cs, by simp only [List.length_cons]; omega⟩)
    else do
      let (inside, ⟨rest, h⟩) ← quotedPart quote cs
      some (c :: inside, ⟨rest, by simp only [List.length_cons]; omega⟩)

theorem length_dropWhile_le {α : Type} (p : α → Bool) (xs : List α) :
  (xs.dropWhile p).length ≤ xs.length
  := (List.dropWhile_sublist p).length_le

/-- The tokens of a line. -/
def lineTokens (cs : List Char) : Option (List Token) :=
  match cs with
  | [] => some []
  | c :: rest =>
    if Text.isBlank c then lineTokens rest
    else if c == '#' then some []
    else if startsName c then do
      let ts ← lineTokens (rest.dropWhile continuesName)
      some (.name (String.ofList (c :: rest.takeWhile continuesName)) :: ts)
    else if c == '"' || c == '\'' then do
      let (inside, ⟨after, _⟩) ← quotedPart c rest
      let bytes ← unescape inside
      let ts ← lineTokens after
      some (.text bytes :: ts)
    else do
      let ts ← lineTokens rest
      some (.symbol c :: ts)
termination_by cs.length
decreasing_by
  all_goals simp only [List.length_cons]
  · omega
  · have := length_dropWhile_le continuesName rest
    omega
  · omega
  · omega

/-- The tokens of a text. They do not cross lines. -/
def tokens (s : String) : Option (List Token) :=
  ((s.toList.splitOn '\n').mapM lineTokens).map List.flatten

/-! ### Grammar -/

/-- Tokens that are left after some were read. -/
abbrev Rest (ts : List Token) := { rest : List Token // rest.length < ts.length }

/-- The bytes of the quoted tokens in front. -/
def adjacent : (ts : List Token) → List UInt8 × { rest : List Token // rest.length ≤ ts.length }
  | .text bytes :: ts =>
    let (more, ⟨rest, h⟩) := adjacent ts
    (bytes ++ more, ⟨rest, by simp only [List.length_cons]; omega⟩)
  | ts => ([], ⟨ts, Nat.le_refl _⟩)

/-- Reads a text. -/
def readText : (ts : List Token) → Option (String × Rest ts)
  | .text bytes :: ts => do
    let (more, ⟨rest, h⟩) := adjacent ts
    let s ← String.fromUTF8? (bytes ++ more).toByteArray
    some (s, ⟨rest, by simp only [List.length_cons]; omega⟩)
  | _ => none

/-- Reads the rest of a list after an element, up to its closing bracket. -/
def readMore {α : Type} (element : (ts : List Token) → Option (α × Rest ts)) (ts : List Token) :
    Option (List α × Rest ts) :=
  match ts with
  | .symbol ']' :: ts => some ([], ⟨ts, by simp only [List.length_cons]; omega⟩)
  | .symbol ',' :: ts => do
    let (x, ⟨rest, h⟩) ← element ts
    let (xs, ⟨rest', h'⟩) ← readMore element rest
    some (x :: xs, ⟨rest', by simp only [List.length_cons]; omega⟩)
  | _ => none
termination_by ts.length
decreasing_by simp only [List.length_cons]; omega

/-- Reads one element, or a list of elements between brackets. -/
def readMany {α : Type} (element : (ts : List Token) → Option (α × Rest ts)) (ts : List Token) :
    Option (List α × Rest ts) :=
  match ts with
  | .symbol '[' :: .symbol ']' :: ts =>
    some ([], ⟨ts, by simp only [List.length_cons]; omega⟩)
  | .symbol '[' :: ts => do
    let (x, ⟨rest, h⟩) ← element ts
    let (xs, ⟨rest', h'⟩) ← readMore element rest
    some (x :: xs, ⟨rest', by simp only [List.length_cons]; omega⟩)
  | ts => do
    let (x, rest) ← element ts
    some ([x], rest)

/-- Skips a comma or a semicolon. -/
def skipSeparator : (ts : List Token) → { rest : List Token // rest.length ≤ ts.length }
  | .symbol c :: ts =>
    if c == ',' || c == ';' then ⟨ts, by simp only [List.length_cons]; omega⟩
    else ⟨.symbol c :: ts, Nat.le_refl _⟩
  | ts => ⟨ts, Nat.le_refl _⟩

/-- Reads the fields of an entry up to its closing symbol. The name of the module may be given anew
only while it is empty. -/
def readFields (close : Char) (e : MapEntry) (ts : List Token) : Option (MapEntry × Rest ts) :=
  match ts with
  | .symbol c :: ts =>
    if c == close then some (e, ⟨ts, by simp only [List.length_cons]; omega⟩) else none
  | .name "module_name" :: .symbol ':' :: ts => do
    let (s, ⟨rest, h⟩) ← readText ts
    if !e.moduleName.isEmpty then none
    else do
      let ⟨rest', h'⟩ := skipSeparator rest
      let (e, ⟨rest'', h''⟩) ← readFields close { e with moduleName := s } rest'
      some (e, ⟨rest'', by simp only [List.length_cons]; omega⟩)
  | .name "proto_file_path" :: .symbol ':' :: ts => do
    let (paths, ⟨rest, h⟩) ← readMany readText ts
    let ⟨rest', h'⟩ := skipSeparator rest
    let (e, ⟨rest'', h''⟩) ← readFields close { e with paths := e.paths ++ paths } rest'
    some (e, ⟨rest'', by simp only [List.length_cons]; omega⟩)
  | _ => none
termination_by ts.length
decreasing_by all_goals simp only [List.length_cons]; omega

/-- Reads an entry, between braces or angle brackets. -/
def readEntry : (ts : List Token) → Option (MapEntry × Rest ts)
  | .symbol '\x7b' :: ts => do
    let (e, ⟨rest, h⟩) ← readFields '\x7d' {} ts
    some (e, ⟨rest, by simp only [List.length_cons]; omega⟩)
  | .symbol '<' :: ts => do
    let (e, ⟨rest, h⟩) ← readFields '>' {} ts
    some (e, ⟨rest, by simp only [List.length_cons]; omega⟩)
  | _ => none

/-- Reads the entries or lists of entries that follow the name of the field. -/
def readMapping : (ts : List Token) → Option (List MapEntry × Rest ts)
  | .symbol ':' :: ts => do
    let (es, ⟨rest, h⟩) ← readMany readEntry ts
    some (es, ⟨rest, by simp only [List.length_cons]; omega⟩)
  | ts => readMany readEntry ts

/-- Reads the fields of a module map. -/
def readMappings (ts : List Token) : Option (List MapEntry) :=
  match ts with
  | [] => some []
  | .name "mapping" :: ts => do
    let (es, ⟨rest, _⟩) ← readMapping ts
    let ⟨rest', _⟩ := skipSeparator rest
    let more ← readMappings rest'
    some (es ++ more)
  | _ => none
termination_by ts.length
decreasing_by simp only [List.length_cons]; omega

/-- The entries of a written module map. -/
def entries? (s : String) : Option (List MapEntry) := do
  readMappings (← tokens s)

/-- The module map that a text writes. -/
def ofText (s : String) : Except OptionError ModuleMap :=
  match entries? s with
  | none => .error .malformedMappings
  | some es => ofEntries es

/-! ### Files -/

/-- Loads the module map at a path. -/
def load (read : FileReader) (path : String) : Except Failure ModuleMap := do
  let bytes ← read.open path (.unreadableMappings path)
  let s ← fileText bytes
  mapError OptionError.failure (ofText (String.ofList (Text.normalizeBreaks s.toList)))

end SwiftStubs.ModuleMap
