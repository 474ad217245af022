import SwiftStubs.Swift.Render
import Mathlib.Tactic.Common

/-!
# Layouts

Rendering threads a level and a request to glue through the whole tree. What comes out does not
depend on either: every tree has a layout, which is a first line and the lines below it, each with
a depth that counts from the first. A layout is placed in a scope by adding its lines, indented by
the level and the depth; a request to glue concerns the first line alone. Layouts are made the way
trees are rendered, by gluing and nesting, and the lemmas about `Scope.place` and `Scope.put` say
what that comes to in a scope.
-/

namespace SwiftStubs.Swift

/-! ### Lines with depths -/

/-- A line of text and how much deeper than the surroundings it stands. -/
abbrev DeepLine := Nat × String

/-- A first line, at the depth of the surroundings, and the lines below it. -/
structure Layout where
  first : String
  below : List DeepLine
deriving Repr, DecidableEq

/-- Lines one level deeper. -/
def deeper (ls : List DeepLine) : List DeepLine :=
  ls.map (fun l => (l.1 + 1, l.2))

/-- Texts as lines at the depth of the surroundings. -/
def level (ts : List String) : List DeepLine :=
  ts.map (fun t => (0, t))

namespace Layout

/-- All lines of a layout. -/
def lines (l : Layout) : List DeepLine :=
  (0, l.first) :: l.below

/-- A single line. -/
def text (t : String) : Layout := ⟨t, []⟩

/-- A layout with further lines below it. -/
def extend (l : Layout) (ls : List DeepLine) : Layout :=
  ⟨l.first, l.below ++ ls⟩

/-- A layout with texts above it. -/
def under (l : Layout) : List String → Layout
  | [] => l
  | t :: ts => ⟨t, level ts ++ l.lines⟩

/-- The lines below a first text, with a layout glued to the last of them. -/
def glueBelow (t : String) : List DeepLine → Layout → Layout
  | [], b => ⟨t ++ b.first, b.below⟩
  | (d, u) :: ls, b => ⟨t, (d, (glueBelow u ls b).first) :: (glueBelow u ls b).below⟩

/-- A layout with another one glued to its last line. -/
def glue (a b : Layout) : Layout :=
  glueBelow a.first a.below b

/-- What stands between a first text and a last one, one level deeper. -/
def enclosed (opening : Layout) (ls : List DeepLine) (closing : String) : Layout :=
  opening.extend (deeper ls ++ [(0, closing)])

end Layout

/-! ### Layouts in a scope -/

namespace Scope

/-- The line that a deep line becomes in a scope. -/
def indented (s : Scope) (l : DeepLine) : Line :=
  ⟨s.width * (s.level + l.1), l.2⟩

/-- A scope with new lines. -/
def put (s : Scope) (ls : List DeepLine) : Scope :=
  { s with newest := (ls.map s.indented).reverse ++ s.newest }

/-- A scope with a layout added: its first line is glued if that was asked for. -/
def place (s : Scope) (l : Layout) : Scope :=
  (s.added l.first).put l.below

/-- Nothing is to be glued. -/
def Settled (s : Scope) : Prop :=
  s.glues = false

theorem added_eq_of_settled {s : Scope} (h : s.Settled) (t : String) :
  s.added t = s.put [(0, t)]
  := by
  obtain ⟨room, width, lvl, newest, glues⟩ := s
  obtain rfl : glues = false := h
  simp [added, put, indented, indent]

theorem settled_added (s : Scope) (t : String) :
  (s.added t).Settled
  := by
  rw [Settled, added]
  split
  · rfl
  · rfl

theorem settled_put {s : Scope} (h : s.Settled) (ls : List DeepLine) :
  (s.put ls).Settled
  := h

theorem settled_place (s : Scope) (l : Layout) :
  (s.place l).Settled
  := settled_put (settled_added s l.first) l.below

@[simp]
theorem put_put (s : Scope) (ls ls' : List DeepLine) :
  (s.put ls).put ls' = s.put (ls ++ ls')
  := by
  have hindented : (s.put ls).indented = s.indented := rfl
  rw [put, hindented, put, put]
  simp

theorem place_eq_of_settled {s : Scope} (h : s.Settled) (l : Layout) :
  s.place l = s.put l.lines
  := by
  rw [place, added_eq_of_settled h, put_put]
  rfl

theorem place_extend (s : Scope) (l : Layout) (ls : List DeepLine) :
  (s.place l).put ls = s.place (l.extend ls)
  := put_put _ _ _

/-- Lines added one level further in are lines one level deeper. -/
theorem leave_put_enter (s : Scope) (ls : List DeepLine) :
  (s.enter.put ls).leave = s.put (deeper ls)
  := by
  have hindented : ∀ l, s.enter.indented l = s.indented (l.1 + 1, l.2) := by
    intro l
    have hlevel : s.level + 1 + (l.1 : Int) = s.level + ((l.1 + 1 : Nat) : Int) := by omega
    simp only [indented, enter, hlevel]
  obtain ⟨room, width, lvl, newest, glues⟩ := s
  simp only [put, enter, leave, deeper, List.map_map]
  congr 3
  · omega
  · apply List.map_congr_left
    intro l _
    apply hindented l

/-- A scope with its newest line replaced, and nothing to be glued. -/
def amend (s : Scope) (line : Line) (older : List Line) : Scope :=
  { s with newest := line :: older, glues := false }

/-- Whatever text is added, it goes behind the same start of a line. -/
theorem added_eq_amend (s : Scope) :
  ∃ indent start older, ∀ t, s.added t = s.amend ⟨indent, start ++ t⟩ older
  := by
  obtain ⟨room, width, lvl, newest, glues⟩ := s
  cases glues with
  | false =>
      use width * lvl, "", newest
      intro t
      simp [added, amend, indent]
  | true =>
      cases newest with
      | nil =>
          use width * lvl, "", []
          intro t
          simp [added, amend, indent]
      | cons line older =>
          use line.indent, line.text, older
          intro t
          rfl

/-- A layout glued behind further lines goes to the last of them. -/
theorem place_glue_put (s : Scope) (indent : Int) (older : List Line) (b : Layout)
    (t : String) (ls : List DeepLine) :
  ((s.amend ⟨indent, t⟩ older).put ls).glue.place b
    = (s.amend ⟨indent, (Layout.glueBelow t ls b).first⟩ older).put (Layout.glueBelow t ls b).below
  := by
  induction ls generalizing s indent older t with
  | nil => rfl
  | cons l ls ih =>
      obtain ⟨d, u⟩ := l
      have hput : (s.amend ⟨indent, t⟩ older).put ((d, u) :: ls)
          = (s.amend (s.indented (d, u)) (⟨indent, t⟩ :: older)).put ls := by
        simp [put, amend, indented]
      rw [hput, indented, ih]
      simp [put, amend, indented, Layout.glueBelow]

theorem glueBelow_append (x t : String) (ls : List DeepLine)
    (b : Layout) :
  Layout.glueBelow (x ++ t) ls b
    = ⟨x ++ (Layout.glueBelow t ls b).first, (Layout.glueBelow t ls b).below⟩
  := by
  cases ls with
  | nil => simp [Layout.glueBelow, String.append_assoc]
  | cons l ls => simp [Layout.glueBelow]

/-- Placing a layout and gluing another one to it is placing the two glued together. -/
theorem place_glue (s : Scope) (a b : Layout) :
  (s.place a).glue.place b = s.place (a.glue b)
  := by
  obtain ⟨indent, start, older, hadded⟩ := s.added_eq_amend
  have hplace : ∀ l, s.place l = (s.amend ⟨indent, start ++ l.first⟩ older).put l.below := by
    intro l
    rw [place, hadded]
  rw [hplace a, hplace (a.glue b), place_glue_put, glueBelow_append]
  rfl

/-- A scope with texts more, one after the other. -/
def addedAll (s : Scope) (ts : List String) : Scope :=
  ts.foldl added s

theorem addedAll_cons (s : Scope) (t : String) (ts : List String) :
  s.addedAll (t :: ts) = (s.added t).addedAll ts
  := rfl

theorem addedAll_eq_of_settled {s : Scope} (h : s.Settled) (ts : List String) :
  s.addedAll ts = s.put (Swift.level ts)
  := by
  induction ts generalizing s with
  | nil => rfl
  | cons t ts ih =>
      rw [addedAll_cons, ih (settled_added s t), added_eq_of_settled h, put_put]
      rfl

/-- Adding texts and then placing a layout is placing the layout with the texts above it. -/
theorem place_addedAll (s : Scope) (ts : List String) (l : Layout) :
  (s.addedAll ts).place l = s.place (l.under ts)
  := by
  cases ts with
  | nil => rfl
  | cons t ts =>
      have h := settled_added s t
      rw [addedAll_cons, addedAll_eq_of_settled h, place_eq_of_settled (settled_put h _), put_put]
      rfl

end Scope

/-! ### The layouts of trees -/

/-- The layout of a signature. -/
def Signature.layout (f : Signature) : Layout :=
  match f.parameters.map Parameter.text with
  | [] => .text (f.head ++ "()" ++ f.tail)
  | [p] => .text (f.head ++ "(" ++ p ++ ")" ++ f.tail)
  | ps => Layout.enclosed (.text (f.head ++ "(")) (level (commaEnded ps)) (")" ++ f.tail)

/-- The layout of a heading with what is between its braces. -/
def bracedLayout (heading : String) (ls : List DeepLine) : Layout :=
  Layout.enclosed (.text (heading ++ " \x7b")) ls "\x7d"

/-- A layout with a label in front of it, if there is one. -/
def labelled (label : Option String) (l : Layout) : Layout :=
  match label with
  | none => l
  | some label => (Layout.text (label ++ ": ")).glue l

mutual

/-- The layout of a declaration. -/
def Declaration.layout : Declaration → Layout
  | .commented comment d => d.layout.under (commentTexts comment)
  | .guarded availability d => d.layout.under [availability.text]
  | .enumeration access name ms =>
    let heading := accessText access ++ "enum " ++ name
    if ms.isEmpty then .text (heading ++ " \x7b\x7d")
    else bracedLayout heading (memberLines false ms)
  | .protocol access name conformances ms =>
    let heading := accessText access ++ "protocol " ++ name ++ conformanceText conformances
    if ms.isEmpty then .text (heading ++ " \x7b\x7d")
    else bracedLayout heading (memberLines false ms)
  | .struct access name conformances ms =>
    let heading := accessText access ++ "struct " ++ name ++ conformanceText conformances
    if ms.isEmpty then .text (heading ++ " \x7b\x7d")
    else bracedLayout heading (memberLines true ms)
  | .extension access type conformances ms =>
    bracedLayout (accessText access ++ "extension " ++ type ++ conformanceText conformances)
      (memberLines false ms)
  | .typeAlias access name target =>
    .text (accessText access ++ "typealias " ++ name ++ " = " ++ target)
  | .constant access name isStatic type none =>
    .text (Render.constantHead access name isStatic type)
  | .constant access name isStatic type (some value) =>
    (Layout.text (Render.constantHead access name isStatic type ++ " = ")).glue value.layout
  | .function signature none => signature.layout
  | .function signature (some body) =>
    if body.isEmpty then signature.layout.glue (.text " \x7b\x7d")
    else Layout.enclosed (signature.layout.glue (.text " \x7b")) (blockLines body) "\x7d"
  | .unspecified => .text ""
  | .misplaced _ => .text ""

/-- The lines of members, with a blank one between any two if they are set apart. -/
def memberLines (apart : Bool) : List Declaration → List DeepLine
  | [] => []
  | d :: ds =>
    d.layout.lines ++ (if apart && !ds.isEmpty then [(0, "")] else []) ++ memberLines apart ds

/-- The layout of an expression. -/
def Expression.layout : Expression → Layout
  | .identifier name => .text name
  | .stringLiteral value => .text ("\"" ++ value ++ "\"")
  | .keyword word none => .text word.text
  | .keyword word (some operand) => (Layout.text (word.text ++ " ")).glue operand.layout
  | .assignment left right => (left.layout.glue (.text " = ")).glue right.layout
  | .call callee args =>
    let opening := callee.layout.glue (.text "(")
    if args.length ≤ 1 then (glueArguments opening args).glue (.text ")")
    else Layout.enclosed opening (argumentLines args) ")"
  | .arrayLiteral es =>
    if es.isEmpty then .text "[]" else Layout.enclosed (.text "[") (elementLines es) "]"
  | .closure parameters body =>
    Layout.enclosed (.text (Render.closureHead parameters)) (blockLines body) "\x7d"
  | .unspecified => .text ""
  | .misplaced _ => .text ""

/-- A layout with arguments glued to it one after the other. -/
def glueArguments (l : Layout) : List Argument → Layout
  | [] => l
  | .mk label value :: args => glueArguments (l.glue (labelled label value.layout)) args

/-- The lines of arguments, with a comma behind each but the last. -/
def argumentLines : List Argument → List DeepLine
  | [] => []
  | .mk label value :: args =>
    let l := labelled label value.layout
    (if args.isEmpty then l else l.glue (.text ",")).lines ++ argumentLines args

/-- The lines of elements, with a comma behind each but the last. -/
def elementLines : List Expression → List DeepLine
  | [] => []
  | e :: es => (if es.isEmpty then e.layout else e.layout.glue (.text ",")).lines ++ elementLines es

/-- The layout of a block of code. -/
def Block.layout : Block → Layout
  | .declaration d comment => d.layout.under (commentTexts comment)
  | .expression e comment => e.layout.under (commentTexts comment)

/-- The lines of blocks of code. -/
def blockLines : List Block → List DeepLine
  | [] => []
  | b :: bs => b.layout.lines ++ blockLines bs

end

end SwiftStubs.Swift
