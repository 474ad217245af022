import SwiftStubs.Proofs.Recovery
import SwiftStubs.Proofs.SourceText

/-!
# Brackets in rendered text

A bracket that rendering opens and the one that closes it may be glued to other texts, stand on one
line or on lines far apart. All this does not matter for the order in which brackets come:
`Layout.brackets` lists the brackets of a layout line by line, gluing and nesting just append such
lists, and neither depths nor the width of a level occur in them. So the brackets of a tree are
properly nested if those of its leaves are, by one case for each kind of tree.
-/

namespace SwiftStubs

/-! ### Properly nested brackets -/

namespace Text

/-- The bracket that closes an opening one. -/
def closer? : Char → Option Char
  | '(' => some ')'
  | '[' => some ']'
  | '\x7b' => some '\x7d'
  | _ => none

/-- Whether a character is a closing bracket. -/
def isCloser (c : Char) : Bool :=
  c == ')' || c == ']' || c == '\x7d'

/-- Whether a character is a bracket. -/
def isBracket (c : Char) : Bool :=
  (closer? c).isSome || isCloser c

/-- Characters whose brackets are properly nested. -/
inductive Nested : List Char → Prop where
  | nil : Nested []
  | plain {c : Char} {cs : List Char} (hc : isBracket c = false) (hcs : Nested cs) :
      Nested (c :: cs)
  | pair {o c : Char} {xs ys : List Char} (hc : closer? o = some c) (hxs : Nested xs)
      (hys : Nested ys) : Nested (o :: (xs ++ c :: ys))

namespace Nested

variable {o c : Char} {xs ys zs : List Char}

theorem append (hxs : Nested xs) (hys : Nested ys) :
  Nested (xs ++ ys)
  := by
  induction hxs with
  | nil => exact hys
  | plain hc _ ih => exact .plain hc ih
  | pair hc hxs _ _ ih =>
      rw [List.cons_append, List.append_assoc, List.cons_append]
      exact .pair hc hxs ih

/-- What is between two brackets that match, with something in front and behind. -/
theorem enclosed (hc : closer? o = some c) (hxs : Nested xs) (hys : Nested ys) (hzs : Nested zs) :
  Nested (xs ++ o :: (ys ++ c :: zs))
  := hxs.append (.pair hc hys hzs)

theorem flatMap {α : Type} {f : α → List Char} {as : List α} (h : ∀ a ∈ as, Nested (f a)) :
  Nested (as.flatMap f)
  := by
  induction as with
  | nil => exact .nil
  | cons a as ih =>
      obtain ⟨ha, has⟩ := List.forall_mem_cons.mp h
      rw [List.flatMap_cons]
      exact ha.append (ih has)

end Nested

/-- Whether characters close the pending brackets one after the other, and all that they open. -/
def closes : List Char → List Char → Bool
  | pending, [] => pending.isEmpty
  | pending, c :: cs =>
    match closer? c with
    | some d => closes (d :: pending) cs
    | none =>
      if isCloser c then pending.head? == some c && closes pending.tail cs else closes pending cs

/-- A closing bracket opens nothing. -/
theorem isCloser_of_closer? {o c : Char} (h : closer? o = some c) :
  closer? c = none ∧ isCloser c = true
  := by
  unfold closer? at h
  split at h
  · obtain rfl := Option.some.inj h
    decide
  · obtain rfl := Option.some.inj h
    decide
  · obtain rfl := Option.some.inj h
    decide
  · cases h

/-- Nested characters leave the pending brackets to what comes behind. -/
theorem Nested.closes_append {xs : List Char} (hxs : Nested xs) (pending ys : List Char) :
  closes pending (xs ++ ys) = closes pending ys
  := by
  induction hxs generalizing pending ys with
  | nil => rfl
  | plain hc _ ih =>
      obtain ⟨hopens, hcloses⟩ := Bool.or_eq_false_iff.mp hc
      rw [Option.isSome_eq_false_iff, Option.isNone_iff_eq_none] at hopens
      simp only [List.cons_append, closes, hopens, hcloses, Bool.false_eq_true, if_false, ih]
  | pair hc _ _ ihx ihy =>
      obtain ⟨hopens, hcloses⟩ := isCloser_of_closer? hc
      simp [closes, hc, ihx, hopens, hcloses, ihy]

/-- Nested characters, then the first of the pending brackets, and so on to the last. -/
def Closing : List Char → List Char → Prop
  | [], cs => Nested cs
  | d :: pending, cs => ∃ xs ys, cs = xs ++ d :: ys ∧ Nested xs ∧ Closing pending ys

theorem Closing.append {pending xs ys : List Char} (hxs : Nested xs) (hys : Closing pending ys) :
  Closing pending (xs ++ ys)
  := by
  cases pending with
  | nil => exact hxs.append hys
  | cons d pending =>
      obtain ⟨us, vs, rfl, hus, hvs⟩ := hys
      exact ⟨xs ++ us, vs, (List.append_assoc _ _ _).symm, hxs.append hus, hvs⟩

theorem closing_of_closes {pending cs : List Char} (h : closes pending cs = true) :
  Closing pending cs
  := by
  induction cs generalizing pending with
  | nil =>
      rw [closes, List.isEmpty_iff] at h
      rw [h]
      exact .nil
  | cons c cs ih =>
      rw [closes] at h
      split at h
      · next d hd =>
          obtain ⟨xs, ys, rfl, hxs, hys⟩ := ih h
          have happend := hys.append (.pair hd hxs .nil)
          simpa using happend
      · next hopens =>
          split at h
          · obtain ⟨hhead, htail⟩ := Bool.and_eq_true_iff.mp h
            obtain ⟨pending, rfl⟩ : ∃ rest, pending = c :: rest := by
              rw [beq_iff_eq, List.head?_eq_some_iff] at hhead
              exact hhead
            exact ⟨[], cs, rfl, .nil, ih htail⟩
          · next hcloses =>
              have hc : isBracket c = false := by
                simp [isBracket, hopens, hcloses]
              exact (ih h).append (.plain hc .nil)

/-- Brackets are properly nested if what they open is closed in the opposite order. -/
theorem closes_nil_iff (cs : List Char) :
  closes [] cs = true ↔ Nested cs
  := by
  constructor
  · exact closing_of_closes
  · intro h
    have hcs := h.closes_append [] []
    rw [List.append_nil] at hcs
    rw [hcs]
    rfl

instance (cs : List Char) : Decidable (Nested cs) :=
  decidable_of_iff _ (closes_nil_iff cs)

theorem closes_filter (pending cs : List Char) :
  closes pending (cs.filter isBracket) = closes pending cs
  := by
  induction cs generalizing pending with
  | nil => rfl
  | cons c cs ih =>
      by_cases hc : isBracket c = true
      · rw [List.filter_cons_of_pos hc]
        simp only [closes, ih]
      · rw [List.filter_cons_of_neg hc, ih]
        have hplain := (Nested.plain (by simpa using hc) .nil).closes_append pending cs
        exact hplain.symm

/-- Only brackets matter for being nested. -/
theorem nested_filter_iff (cs : List Char) :
  Nested (cs.filter isBracket) ↔ Nested cs
  := by
  rw [← closes_nil_iff, closes_filter, closes_nil_iff]

end Text

namespace Swift

open Text

/-! ### The brackets of texts and lines -/

/-- The brackets of a text. -/
def brackets (t : String) : List Char :=
  t.toList.filter isBracket

@[simp]
theorem brackets_append (t u : String) :
  brackets (t ++ u) = brackets t ++ brackets u
  := by
  rw [brackets, String.toList_append, List.filter_append]
  rfl

/-- A text without brackets does not count in front of another one. -/
theorem brackets_behind {t : String} (h : brackets t = []) (u : String) :
  brackets (t ++ u) = brackets u
  := by
  rw [brackets_append, h, List.nil_append]

/-- A text without brackets does not count behind another one. -/
theorem brackets_before {u : String} (h : brackets u = []) (t : String) :
  brackets (t ++ u) = brackets t
  := by
  rw [brackets_append, h, List.append_nil]

/-- What is put between texts does not count if it holds no brackets. -/
theorem brackets_intercalate {separator : String} (h : brackets separator = [])
    (ts : List String) :
  brackets (String.intercalate separator ts) = ts.flatMap brackets
  := by
  induction ts with
  | nil => rfl
  | cons t ts ih =>
      cases ts with
      | nil => simp
      | cons u us =>
          rw [String.intercalate_cons_cons, brackets_append, brackets_append, h, ih,
            List.append_nil]
          rfl

/-- The brackets of lines, line by line. -/
def lineBrackets (ls : List DeepLine) : List Char :=
  ls.flatMap (fun l => brackets l.2)

@[simp]
theorem lineBrackets_append (ls ls' : List DeepLine) :
  lineBrackets (ls ++ ls') = lineBrackets ls ++ lineBrackets ls'
  := List.flatMap_append

@[simp]
theorem lineBrackets_deeper (ls : List DeepLine) :
  lineBrackets (deeper ls) = lineBrackets ls
  := List.flatMap_map _ _ ls

@[simp]
theorem lineBrackets_level (ts : List String) :
  lineBrackets (level ts) = ts.flatMap brackets
  := List.flatMap_map _ _ ts

/-- Spaces in front of lines and line feeds between them are no brackets. -/
theorem brackets_contents_put (room : Room) (width : Int) (ls : List DeepLine) :
  brackets (Scope.put { room := room, width := width } ls).contents = lineBrackets ls
  := by
  have hline : ∀ l, brackets (DeepLine.text width l) = brackets l.2 := by
    intro l
    rw [DeepLine.text, Line.written, brackets_append]
    simp [brackets, isBracket, closer?, isCloser]
  rw [contents_put, brackets_intercalate (by decide), List.flatMap_map]
  simp only [hline]
  rfl

namespace Layout

/-- The brackets of a layout. -/
def brackets (l : Layout) : List Char :=
  lineBrackets l.lines

@[simp]
theorem brackets_text (t : String) :
  (Layout.text t).brackets = Swift.brackets t
  := List.flatMap_singleton _ _

theorem brackets_under (l : Layout) (ts : List String) :
  (l.under ts).brackets = ts.flatMap Swift.brackets ++ l.brackets
  := by
  cases ts with
  | nil => rfl
  | cons t ts =>
      show Swift.brackets t ++ lineBrackets (level ts ++ l.lines) = _
      rw [lineBrackets_append, lineBrackets_level, ← List.append_assoc]
      rfl

@[simp]
theorem brackets_glue (a b : Layout) :
  (a.glue b).brackets = a.brackets ++ b.brackets
  := by
  obtain ⟨t, ls⟩ := a
  rw [glue]
  induction ls generalizing t with
  | nil => simp [brackets, lines, lineBrackets, glueBelow]
  | cons l ls ih =>
      have hl := ih l.2
      simp only [brackets, lines, lineBrackets, List.flatMap_cons, glueBelow,
        List.append_assoc] at hl ⊢
      rw [hl]

theorem brackets_enclosed (l : Layout) (ls : List DeepLine) (closing : String) :
  (l.enclosed ls closing).brackets = l.brackets ++ (lineBrackets ls ++ Swift.brackets closing)
  := by
  show lineBrackets (l.lines ++ (deeper ls ++ level [closing])) = _
  simp only [lineBrackets_append, lineBrackets_deeper, lineBrackets_level, List.flatMap_singleton]
  rfl

/-- Lines between an opening bracket at the end of a layout and a text that starts with the bracket
that closes it. -/
theorem nested_enclosed {o c : Char} {xs zs : List Char} {l : Layout} {ls : List DeepLine}
    {closing : String} (hc : closer? o = some c) (hl : l.brackets = xs ++ [o])
    (hclosing : Swift.brackets closing = c :: zs) (hxs : Nested xs) (hls : Nested (lineBrackets ls))
    (hzs : Nested zs) :
  Nested (l.enclosed ls closing).brackets
  := by
  rw [brackets_enclosed, hl, hclosing, List.append_assoc, List.singleton_append]
  exact .enclosed hc hxs hls hzs

theorem nested_braced {heading : String} {ls : List DeepLine}
    (hheading : Nested (Swift.brackets heading)) (hls : Nested (lineBrackets ls)) :
  Nested (bracedLayout heading ls).brackets
  := by
  apply nested_enclosed (o := '\x7b') rfl _ rfl hheading hls .nil
  rw [brackets_text, brackets_append]
  rfl

/-- A heading with lines between its braces, or with nothing. -/
theorem nested_membersLayout {heading : String} {ls : List DeepLine} (empty : Bool)
    (hheading : Nested (Swift.brackets heading)) (hls : Nested (lineBrackets ls)) :
  Nested (if empty then .text (heading ++ " \x7b\x7d") else bracedLayout heading ls).brackets
  := by
  cases empty with
  | true =>
      rw [if_pos rfl, brackets_text, brackets_append]
      exact hheading.append (.pair (o := '\x7b') rfl .nil .nil)
  | false => exact nested_braced hheading hls

/-- A layout with a comma behind it, unless it is the last one. -/
theorem nested_commaEnded {l : Layout} (last : Bool) (h : Nested l.brackets) :
  Nested (if last then l else l.glue (.text ",")).brackets
  := by
  cases last with
  | true => exact h
  | false =>
      rw [if_neg Bool.false_ne_true, brackets_glue]
      exact h.append .nil

theorem brackets_labelled (label : Option String) (l : Layout) :
  (labelled label l).brackets = label.toList.flatMap Swift.brackets ++ l.brackets
  := by
  cases label with
  | none => rfl
  | some t =>
      rw [labelled, brackets_glue, brackets_text, brackets_before rfl, Option.toList_some,
        List.flatMap_singleton]

end Layout

/-! ### Texts of trees -/

theorem brackets_accessText (access : Option AccessModifier) :
  brackets (accessText access) = []
  := by
  obtain _ | _ | level := access
  · rfl
  · rfl
  · cases level <;> rfl

/-- A text of some texts that is left out if there are none. -/
theorem brackets_unlessEmpty {ts : List String} {text : String}
    (h : brackets text = ts.flatMap brackets) :
  brackets (if ts.isEmpty then "" else text) = ts.flatMap brackets
  := by
  cases ts with
  | nil => rfl
  | cons t ts => exact h

theorem brackets_conformanceText (types : List String) :
  brackets (conformanceText types) = types.flatMap brackets
  := by
  apply brackets_unlessEmpty
  rw [brackets_behind rfl, brackets_intercalate rfl]

theorem Parameter.brackets_text (p : Parameter) :
  brackets p.text = p.leaves.flatMap brackets
  := by
  obtain ⟨label, type, name⟩ := p
  cases name with
  | none =>
      rw [text, brackets_append, brackets_before rfl]
      exact congrArg _ (List.append_nil _).symm
  | some name =>
      rw [text, brackets_append, brackets_before rfl, brackets_append, brackets_before rfl,
        List.append_assoc]
      exact congrArg _ (congrArg _ (List.append_nil _).symm)

namespace Signature

theorem brackets_head (f : Signature) :
  brackets f.head = brackets f.name ++ f.generics.flatMap brackets
  := by
  have hgenerics : brackets ("<" ++ String.intercalate ", " f.generics ++ ">")
      = f.generics.flatMap brackets := by
    rw [brackets_before rfl, brackets_behind rfl, brackets_intercalate rfl]
  rw [head, brackets_append, brackets_unlessEmpty hgenerics,
    brackets_behind (brackets_accessText f.access)]
  split
  · next hname => rw [beq_iff_eq.mp hname]
  · rw [brackets_behind rfl]

theorem brackets_tail (f : Signature) :
  brackets f.tail = f.returnType.toList.flatMap brackets ++ f.conditions.flatMap brackets
  := by
  have hconditions : brackets (" where " ++ String.intercalate ", " f.conditions)
      = f.conditions.flatMap brackets := by
    rw [brackets_behind rfl, brackets_intercalate rfl]
  have hasync : brackets (if f.isAsync then " async" else "") = [] := by
    split <;> rfl
  have hthrows : brackets (if f.isThrowing then " throws" else "") = [] := by
    split <;> rfl
  rw [tail, brackets_append, brackets_unlessEmpty hconditions, brackets_append,
    brackets_before hthrows, hasync, List.nil_append]
  cases f.returnType with
  | none => rfl
  | some type =>
      rw [brackets_behind rfl, Option.toList_some, List.flatMap_singleton]

theorem flatMap_brackets_commaEnded (ts : List String) :
  (commaEnded ts).flatMap brackets = ts.flatMap brackets
  := by
  induction ts with
  | nil => rfl
  | cons t ts ih =>
      cases ts with
      | nil => rfl
      | cons u us =>
          show brackets (t ++ ",") ++ (commaEnded (u :: us)).flatMap brackets = _
          rw [ih, brackets_before rfl]
          rfl

/-- The parameters of a signature stand between parentheses. -/
theorem brackets_layout (f : Signature) :
  f.layout.brackets
    = brackets f.head
      ++ '(' :: ((f.parameters.flatMap Parameter.leaves).flatMap brackets ++ ')' :: brackets f.tail)
  := by
  have hparameters : (f.parameters.flatMap Parameter.leaves).flatMap brackets
      = (f.parameters.map Parameter.text).flatMap brackets := by
    simp only [List.flatMap_assoc, List.flatMap_map, Parameter.brackets_text]
  rw [hparameters, layout]
  split
  · next h =>
      rw [h, Layout.brackets_text, brackets_append, brackets_append, List.append_assoc]
      rfl
  · next p h =>
      rw [h, Layout.brackets_text]
      simp only [brackets_append, List.append_assoc, List.flatMap_singleton]
      rfl
  · rw [Layout.brackets_enclosed, lineBrackets_level, flatMap_brackets_commaEnded,
      Layout.brackets_text, brackets_append, brackets_append, List.append_assoc]
    rfl

theorem nested_layout {f : Signature} (h : ∀ t ∈ f.leaves, Nested (brackets t)) :
  Nested f.layout.brackets
  := by
  simp only [leaves, List.mem_cons, List.mem_append, or_imp, forall_and, forall_eq,
    or_assoc] at h
  obtain ⟨hname, hgenerics, hparameters, hreturn, hconditions⟩ := h
  rw [brackets_layout, brackets_head, brackets_tail]
  apply Nested.enclosed rfl
  · exact hname.append (.flatMap hgenerics)
  · exact .flatMap hparameters
  · exact (Nested.flatMap hreturn).append (.flatMap hconditions)

end Signature

theorem brackets_constantHead (access : Option AccessModifier) (name : String) (isStatic : Bool)
    (type : Option String) :
  brackets (Render.constantHead access name isStatic type)
    = (name :: type.toList).flatMap brackets
  := by
  have hstatic : brackets (if isStatic then "static " else "") = [] := by
    cases isStatic <;> rfl
  unfold Render.constantHead
  rw [brackets_append, brackets_append, brackets_before rfl, brackets_before hstatic,
    brackets_accessText, List.nil_append]
  cases type with
  | none => rfl
  | some type =>
      rw [brackets_behind rfl]
      exact congrArg _ (List.append_nil _).symm

theorem brackets_closureHead (parameters : List String) :
  brackets (Render.closureHead parameters) = '\x7b' :: parameters.flatMap brackets
  := by
  cases parameters with
  | nil => rfl
  | cons p ps =>
      have hparameters : Render.closureHead (p :: ps)
          = "\x7b " ++ String.intercalate ", " (p :: ps) ++ " in" := rfl
      rw [hparameters, brackets_before rfl, brackets_append, brackets_intercalate rfl]
      rfl

theorem Availability.nested_text {a : Availability} (h : ∀ t ∈ a.platforms, Nested (brackets t)) :
  Nested (brackets a.text)
  := by
  rw [text, brackets_append, brackets_append, brackets_intercalate rfl, List.flatMap_append,
    List.append_assoc]
  apply Nested.enclosed (o := '(') rfl .nil ((Nested.flatMap h).append .nil) .nil

/-- What stands between the marks and the keyword of an import. -/
theorem Import.nested_spiText {i : Import} (h : ∀ t ∈ i.spi.toList, Nested (brackets t)) :
  Nested (brackets i.spiText)
  := by
  unfold Import.spiText
  cases hspi : i.spi with
  | none => exact .nil
  | some name =>
      rw [hspi, Option.toList_some, List.forall_mem_singleton] at h
      dsimp only
      split
      · exact .nil
      · rw [brackets_append, brackets_append, List.append_assoc]
        apply Nested.enclosed (o := '(') rfl .nil h .nil

theorem Import.brackets_subject (i : Import) :
  brackets i.subject = (i.moduleName :: (i.item.map ImportItem.name).toList).flatMap brackets
  := by
  obtain ⟨moduleName, item, spi, preconcurrency⟩ := i
  cases item with
  | none => exact (List.append_nil _).symm
  | some item =>
      have hkind : brackets item.kind.keyword = [] := by
        cases item.kind <;> rfl
      rw [subject, brackets_append, brackets_before rfl, brackets_append, brackets_before rfl,
        hkind, List.nil_append]
      exact congrArg _ (List.append_nil _).symm

theorem Import.nested_lines {i : Import} (h : ∀ t ∈ i.leaves, Nested (brackets t)) :
  ∀ t ∈ i.lines, Nested (brackets t)
  := by
  simp only [leaves, List.mem_append, or_imp, forall_and] at h
  obtain ⟨⟨hsystems, hspi⟩, hsubject⟩ := h
  have hline : ∀ marked, Nested (brackets (i.line marked)) := by
    intro marked
    have hmark : brackets (if marked then "@preconcurrency " else "") = [] := by
      cases marked <;> rfl
    rw [line, brackets_append, brackets_before rfl, brackets_behind hmark, brackets_subject]
    exact (nested_spiText hspi).append (.flatMap hsubject)
  unfold lines
  cases hpreconcurrency : i.preconcurrency with
  | required => simpa using hline true
  | notRequired => simpa using hline false
  | requiredOn systems =>
      rw [hpreconcurrency] at hsystems
      have hcondition : Nested (brackets ("#if "
          ++ String.intercalate " || " (systems.map (fun o => "os(" ++ o ++ ")")))) := by
        rw [brackets_behind rfl, brackets_intercalate rfl, List.flatMap_map]
        apply Nested.flatMap
        intro o ho
        rw [brackets_append, brackets_append, List.append_assoc]
        apply Nested.enclosed (o := '(') rfl .nil (hsystems o ho) .nil
      simp only [List.forall_mem_cons]
      exact ⟨hcondition, hline true, by decide, hline false, by decide, by simp⟩

/-! ### Tidy trees -/

/-- A node that is no comment, and whose brackets are properly nested if it is a leaf. -/
def Node.Tidy : Node → Prop
  | .declaration _ => True
  | .expression _ => True
  | .comment _ => False
  | .leaf t => Nested (brackets t)

/-- All nodes are tidy. -/
def Tidy (ns : List Node) : Prop :=
  ∀ n ∈ ns, n.Tidy

theorem Tree.tidy_nodes {tree : Tree} (hcomments : tree.comments = [])
    (hleaves : ∀ t ∈ tree.leaves, Nested t.toList) :
  Tidy tree.nodes
  := by
  intro n hn
  cases n with
  | declaration d => trivial
  | expression e => trivial
  | comment c =>
      have hc : c ∈ tree.comments := List.mem_filterMap.mpr ⟨_, hn, rfl⟩
      rw [hcomments] at hc
      cases hc
  | leaf t =>
      have ht : t ∈ tree.leaves := List.mem_filterMap.mpr ⟨_, hn, rfl⟩
      exact (nested_filter_iff t.toList).mpr (hleaves t ht)

@[simp]
theorem tidy_cons_iff (n : Node) (ns : List Node) :
  Tidy (n :: ns) ↔ n.Tidy ∧ Tidy ns
  := List.forall_mem_cons

@[simp]
theorem tidy_append_iff (ms ns : List Node) :
  Tidy (ms ++ ns) ↔ Tidy ms ∧ Tidy ns
  := List.forall_mem_append

@[simp]
theorem tidy_leafNodes_iff (ts : List String) :
  Tidy (leafNodes ts) ↔ ∀ t ∈ ts, Nested (brackets t)
  := List.forall_mem_map

@[simp]
theorem tidy_commentNodes_iff (c : Option Comment) :
  Tidy (commentNodes c) ↔ c = none
  := by
  cases c <;> simp [Tidy, commentNodes, Node.Tidy]

/-- The heading of a declaration with its name and what it conforms to. -/
theorem nested_heading (access : Option AccessModifier) {word : String} (hword : brackets word = [])
    {name : String} {conformances : List String}
    (h : ∀ t ∈ name :: conformances, Nested (brackets t)) :
  Nested (brackets (accessText access ++ word ++ name ++ conformanceText conformances))
  := by
  rw [brackets_append, brackets_append, brackets_before hword, brackets_accessText,
    brackets_conformanceText, List.nil_append, ← List.flatMap_cons]
  exact .flatMap h

mutual

/-- The brackets of a tidy declaration are properly nested. -/
theorem Declaration.nested_layout :
    ∀ d : Declaration, Tidy d.nodes → Nested d.layout.brackets
  | .commented comment d, h => by
      simp only [Declaration.nodes, List.cons_append, tidy_cons_iff, tidy_append_iff,
        tidy_commentNodes_iff] at h
      obtain ⟨-, rfl, hd⟩ := h
      exact d.nested_layout hd
  | .guarded availability d, h => by
      simp only [Declaration.nodes, List.cons_append, tidy_cons_iff, tidy_append_iff,
        tidy_leafNodes_iff] at h
      obtain ⟨-, hplatforms, hd⟩ := h
      rw [Declaration.layout, Layout.brackets_under, List.flatMap_singleton]
      exact (Availability.nested_text hplatforms).append (d.nested_layout hd)
  | .enumeration access name ms, h => by
      simp only [Declaration.nodes, tidy_cons_iff] at h
      obtain ⟨-, hname, hms⟩ := h
      rw [Declaration.layout]
      apply Layout.nested_membersLayout _ _ (nested_memberLines false ms hms)
      rw [brackets_append, brackets_before rfl, brackets_accessText]
      exact hname
  | .protocol access name conformances ms, h => by
      simp only [Declaration.nodes, List.cons_append, tidy_cons_iff, tidy_append_iff,
        tidy_leafNodes_iff] at h
      obtain ⟨-, hheading, hms⟩ := h
      rw [Declaration.layout]
      apply Layout.nested_membersLayout _ (nested_heading access rfl hheading)
        (nested_memberLines false ms hms)
  | .struct access name conformances ms, h => by
      simp only [Declaration.nodes, List.cons_append, tidy_cons_iff, tidy_append_iff,
        tidy_leafNodes_iff] at h
      obtain ⟨-, hheading, hms⟩ := h
      rw [Declaration.layout]
      apply Layout.nested_membersLayout _ (nested_heading access rfl hheading)
        (nested_memberLines true ms hms)
  | .extension access type conformances ms, h => by
      simp only [Declaration.nodes, List.cons_append, tidy_cons_iff, tidy_append_iff,
        tidy_leafNodes_iff] at h
      obtain ⟨-, hheading, hms⟩ := h
      apply Layout.nested_braced (nested_heading access rfl hheading)
        (nested_memberLines false ms hms)
  | .typeAlias access name target, h => by
      simp only [Declaration.nodes, tidy_cons_iff, tidy_leafNodes_iff, List.forall_mem_cons] at h
      obtain ⟨-, hname, htarget, -⟩ := h
      rw [Declaration.layout, Layout.brackets_text, brackets_append, brackets_before rfl,
        brackets_append, brackets_before rfl, brackets_accessText]
      exact hname.append htarget
  | .constant access name isStatic type none, h => by
      simp only [Declaration.nodes, tidy_cons_iff, tidy_leafNodes_iff] at h
      rw [Declaration.layout, Layout.brackets_text, brackets_constantHead]
      exact .flatMap h.2
  | .constant access name isStatic type (some value), h => by
      simp only [Declaration.nodes, List.cons_append, tidy_cons_iff, tidy_append_iff,
        tidy_leafNodes_iff] at h
      obtain ⟨-, hhead, hvalue⟩ := h
      rw [Declaration.layout, Layout.brackets_glue, Layout.brackets_text, brackets_before rfl,
        brackets_constantHead]
      exact (Nested.flatMap hhead).append (value.nested_layout hvalue)
  | .function signature none, h => by
      simp only [Declaration.nodes, tidy_cons_iff, tidy_leafNodes_iff] at h
      exact Signature.nested_layout h.2
  | .function signature (some body), h => by
      simp only [Declaration.nodes, List.cons_append, tidy_cons_iff, tidy_append_iff,
        tidy_leafNodes_iff] at h
      obtain ⟨-, hsignature, hbody⟩ := h
      have hopening := Signature.nested_layout hsignature
      rw [Declaration.layout]
      split
      · rw [Layout.brackets_glue]
        exact hopening.append (.pair (o := '\x7b') rfl .nil .nil)
      · apply Layout.nested_enclosed (o := '\x7b') rfl _ rfl hopening
          (nested_blockLines body hbody) .nil
        exact Layout.brackets_glue _ _
  | .unspecified, _ => .nil
  | .misplaced e, _ => .nil

theorem nested_memberLines (apart : Bool) :
    ∀ ds : List Declaration, Tidy (memberNodes ds) → Nested (lineBrackets (memberLines apart ds))
  | [], _ => .nil
  | d :: ds, h => by
      obtain ⟨hd, hds⟩ := (tidy_append_iff _ _).mp h
      have hblank : lineBrackets (if apart && !ds.isEmpty then [(0, "")] else []) = [] := by
        split <;> rfl
      rw [memberLines, lineBrackets_append, lineBrackets_append, hblank, List.append_nil]
      exact (d.nested_layout hd).append (nested_memberLines apart ds hds)

/-- The brackets of a tidy expression are properly nested. -/
theorem Expression.nested_layout :
    ∀ e : Expression, Tidy e.nodes → Nested e.layout.brackets
  | .identifier name, h => by
      simp only [Expression.nodes, tidy_cons_iff] at h
      rw [Expression.layout, Layout.brackets_text]
      exact h.2.1
  | .stringLiteral value, h => by
      simp only [Expression.nodes, tidy_cons_iff] at h
      rw [Expression.layout, Layout.brackets_text, brackets_before rfl, brackets_behind rfl]
      exact h.2.1
  | .keyword word none, _ => by
      rw [Expression.layout, Layout.brackets_text]
      cases word <;> exact .nil
  | .keyword word (some operand), h => by
      have hword : brackets word.text = [] := by
        cases word <;> rfl
      rw [Expression.layout, Layout.brackets_glue, Layout.brackets_text, brackets_before rfl,
        hword]
      exact operand.nested_layout (List.forall_mem_cons.mp h).2
  | .assignment left right, h => by
      simp only [Expression.nodes, List.cons_append, tidy_cons_iff, tidy_append_iff] at h
      obtain ⟨-, hleft, hright⟩ := h
      rw [Expression.layout, Layout.brackets_glue, Layout.brackets_glue]
      exact ((left.nested_layout hleft).append .nil).append (right.nested_layout hright)
  | .call callee args, h => by
      simp only [Expression.nodes, List.cons_append, tidy_cons_iff, tidy_append_iff] at h
      obtain ⟨-, hcallee, hargs⟩ := h
      have hcallee := callee.nested_layout hcallee
      rw [Expression.layout]
      split
      · obtain ⟨ys, hys, hglued⟩ :=
          brackets_glueArguments args hargs (callee.layout.glue (.text "("))
        rw [Layout.brackets_glue, hglued, Layout.brackets_glue, List.append_assoc,
          List.append_assoc]
        exact .enclosed (o := '(') rfl hcallee hys .nil
      · apply Layout.nested_enclosed (o := '(') rfl _ rfl hcallee
          (nested_argumentLines args hargs) .nil
        exact Layout.brackets_glue _ _
  | .arrayLiteral es, h => by
      rw [Expression.layout]
      split
      · decide
      · have hopening : (Layout.text "[").brackets = [] ++ ['['] := rfl
        apply Layout.nested_enclosed rfl hopening rfl .nil _ .nil
        exact nested_elementLines es (List.forall_mem_cons.mp h).2
  | .closure parameters body, h => by
      simp only [Expression.nodes, List.cons_append, tidy_cons_iff, tidy_append_iff,
        tidy_leafNodes_iff] at h
      obtain ⟨-, hparameters, hbody⟩ := h
      rw [Expression.layout, Layout.brackets_enclosed, Layout.brackets_text,
        brackets_closureHead, List.cons_append, ← List.append_assoc]
      exact .pair rfl ((Nested.flatMap hparameters).append (nested_blockLines body hbody)) .nil
  | .unspecified, _ => .nil
  | .misplaced d, _ => .nil

/-- Arguments on the line of a call add nested brackets to those in front. -/
theorem brackets_glueArguments :
    ∀ args : List Argument, Tidy (argumentNodes args) → ∀ l : Layout,
      ∃ ys, Nested ys ∧ (glueArguments l args).brackets = l.brackets ++ ys
  | [], _, l => ⟨[], .nil, (List.append_nil _).symm⟩
  | .mk label value :: args, h, l => by
      simp only [argumentNodes, tidy_append_iff, tidy_leafNodes_iff] at h
      obtain ⟨⟨hlabel, hvalue⟩, hargs⟩ := h
      obtain ⟨ys, hys, heq⟩ :=
        brackets_glueArguments args hargs (l.glue (labelled label value.layout))
      refine ⟨(labelled label value.layout).brackets ++ ys, ?_, ?_⟩
      · rw [Layout.brackets_labelled]
        exact ((Nested.flatMap hlabel).append (value.nested_layout hvalue)).append hys
      · rw [glueArguments, heq, Layout.brackets_glue, List.append_assoc]

theorem nested_argumentLines :
    ∀ args : List Argument, Tidy (argumentNodes args) →
      Nested (lineBrackets (argumentLines args))
  | [], _ => .nil
  | .mk label value :: args, h => by
      simp only [argumentNodes, tidy_append_iff, tidy_leafNodes_iff] at h
      obtain ⟨⟨hlabel, hvalue⟩, hargs⟩ := h
      have hargument : Nested (labelled label value.layout).brackets := by
        rw [Layout.brackets_labelled]
        exact (Nested.flatMap hlabel).append (value.nested_layout hvalue)
      rw [argumentLines, lineBrackets_append]
      apply Nested.append _ (nested_argumentLines args hargs)
      exact Layout.nested_commaEnded _ hargument

theorem nested_elementLines :
    ∀ es : List Expression, Tidy (elementNodes es) → Nested (lineBrackets (elementLines es))
  | [], _ => .nil
  | e :: es, h => by
      obtain ⟨he, hes⟩ := (tidy_append_iff _ _).mp h
      rw [elementLines, lineBrackets_append]
      apply Nested.append _ (nested_elementLines es hes)
      exact Layout.nested_commaEnded _ (e.nested_layout he)

/-- The brackets of a tidy block are properly nested. -/
theorem Block.nested_layout :
    ∀ b : Block, Tidy b.nodes → Nested b.layout.brackets
  | .declaration d comment, h => by
      simp only [Block.nodes, tidy_append_iff, tidy_commentNodes_iff] at h
      obtain ⟨rfl, hd⟩ := h
      exact d.nested_layout hd
  | .expression e comment, h => by
      simp only [Block.nodes, tidy_append_iff, tidy_commentNodes_iff] at h
      obtain ⟨rfl, he⟩ := h
      exact e.nested_layout he

theorem nested_blockLines :
    ∀ bs : List Block, Tidy (blockNodes bs) → Nested (lineBrackets (blockLines bs))
  | [], _ => .nil
  | b :: bs, h => by
      obtain ⟨hb, hbs⟩ := (tidy_append_iff _ _).mp h
      rw [blockLines, lineBrackets_append]
      exact (b.nested_layout hb).append (nested_blockLines bs hbs)

end

theorem nested_spacedLines {bs : List Block} (h : Tidy (blockNodes bs)) :
  Nested (lineBrackets (spacedLines bs))
  := by
  induction bs with
  | nil => exact .nil
  | cons b bs ih =>
      obtain ⟨hb, hbs⟩ := (tidy_append_iff _ _).mp h
      have hblank : lineBrackets (if bs.isEmpty then [] else [(0, "")]) = [] := by
        split <;> rfl
      rw [spacedLines, lineBrackets_append, lineBrackets_append, hblank, List.append_nil]
      exact (b.nested_layout hb).append (ih hbs)

theorem File.nested_importLines {f : File}
    (h : ∀ t ∈ f.imports.flatMap Import.leaves, Nested (brackets t)) :
  Nested (lineBrackets (level f.importLines))
  := by
  have himports : Nested ((f.imports.flatMap Import.lines).flatMap brackets) := by
    rw [List.flatMap_assoc]
    apply Nested.flatMap
    intro i hi
    apply Nested.flatMap
    apply Import.nested_lines
    intro t ht
    exact h t (List.mem_flatMap.mpr ⟨i, hi, ht⟩)
  rw [lineBrackets_level, importLines]
  split
  · exact .nil
  · rw [List.flatMap_append]
    exact himports.append .nil

theorem File.nested_lines {f : File} (h : Tidy f.nodes) :
  Nested (lineBrackets f.lines)
  := by
  simp only [nodes, tidy_append_iff, tidy_commentNodes_iff, tidy_leafNodes_iff] at h
  obtain ⟨⟨hcomment, himports⟩, hblocks⟩ := h
  have hcomment : f.commentLines = [] := by
    rw [commentLines, hcomment]
  rw [lines, hcomment, lineBrackets_append, lineBrackets_append]
  exact (File.nested_importLines himports).append (nested_spacedLines hblocks)

theorem Tree.nested_lines {tree : Tree} (h : Tidy tree.nodes) :
  Nested (lineBrackets tree.lines)
  := by
  cases tree with
  | declaration d => exact d.nested_layout h
  | expression e => exact e.nested_layout h
  | block b => exact b.nested_layout h
  | blocks bs => exact nested_blockLines bs h
  | file f => exact f.nested_lines h

/-! ### Rendered text -/

/-- The text of a tree, with the given width of a level. A file is rendered from scratch. -/
def Tree.text (m : Memory) (width : Int) : Tree → Except RenderError String
  | .file f => f.render m width
  | tree => Render.written m width tree.render

theorem Tree.text_eq_written (m : Memory) (width : Int) (tree : Tree) :
  tree.text m width = Render.written m width tree.render
  := by
  cases tree with
  | file f => rfl
  | declaration d => rfl
  | expression e => rfl
  | block b => rfl
  | blocks bs => rfl

theorem Tree.firstFault?_of_renderable {tree : Tree} (h : Renderable tree.render) :
  firstFault? tree.nodes = none
  := by
  obtain ⟨s, t, hst⟩ := h
  obtain ⟨u, hu⟩ := tree.script_render.exists_ok_boundless hst
  obtain ⟨after, hafter, -⟩ := tree.ends_render
  have hfree := hafter (s.within .boundless) rfl
  cases hfault : firstFault? tree.nodes with
  | none => rfl
  | some e =>
      rw [hfault] at hfree
      obtain ⟨v, hv⟩ := hfree
      rw [hu] at hv
      cases hv

/-- If a tree can be rendered, has no comments, and the brackets in each of its leaves are properly
nested, then so are those in its text, whatever the width of a level. There is no text if a line
cannot be written. -/
theorem Tree.rendered_text_nested (tree : Tree) (hrenderable : Renderable tree.render)
    (hcomments : tree.comments = []) (hleaves : ∀ t ∈ tree.leaves, Nested t.toList) (width : Int) :
  ∃ s, tree.render { room := .boundless, width := width } = .ok () s ∧ Nested s.contents.toList
    ∧ ∀ m : Memory,
      (s.indents.reverse.findSome? m.room.excess? = none → tree.text m width = .ok s.contents)
      ∧ ∀ cause, s.indents.reverse.findSome? m.room.excess? = some cause →
        tree.text m width = .error (.excess cause)
  := by
  have hputs := tree.puts_render
  rw [firstFault?_of_renderable hrenderable] at hputs
  have hindents : (Scope.put { room := .boundless, width := width } tree.lines).indents.reverse
      = Scope.spaces { room := .boundless, width := width } tree.lines := by
    rw [(Scope.started_put { room := .boundless, width := width } tree.lines rfl).indents]
    simp [Scope.indents]
  refine ⟨_, hputs { room := .boundless, width := width } ⟨rfl, rfl⟩, ?_, ?_⟩
  · have hlines := nested_lines (tidy_nodes hcomments hleaves)
    rw [← brackets_contents_put .boundless width] at hlines
    exact (nested_filter_iff _).mp hlines
  · intro m
    rw [hindents, findSome?_spaces, text_eq_written, hputs.written_eq tree.script_render, textOf,
      contents_put]
    constructor
    · intro hnone
      rw [hnone]
    · intro cause hsome
      rw [hsome]

/-- A function on some platforms that calls each function of a table, and an import that is marked
on some systems. -/
def tableSample : File where
  imports := [{ moduleName := "Dispatch", spi := some "Queues",
                preconcurrency := .requiredOn ["Linux", "Windows"] }]
  blocks := [.declaration
    (.guarded ⟨["macOS 15.0", "iOS 18.0"]⟩
      (.function { name := "run", parameters := [⟨"_", "[String: (Int) -> Void]", some "table"⟩,
                                                 ⟨"on", "Int", some "value"⟩] }
        (some [.expression (.call (.identifier "table.forEach")
          [.mk none (.closure ["name", "body"]
            [.expression (.call (.identifier "body") [.mk none (.identifier "value")]) none])])
          none]))) none]

theorem tableSample_text_nested :
  Renderable (Tree.file tableSample).render ∧ (Tree.file tableSample).comments = []
    ∧ (∀ t ∈ (Tree.file tableSample).leaves, Nested t.toList)
    ∧ ∃ s, (Tree.file tableSample).render { room := .boundless, width := 4 } = .ok () s
      ∧ Nested s.contents.toList
      ∧ ∀ m : Memory,
        (s.indents.reverse.findSome? m.room.excess? = none →
          tableSample.render m 4 = .ok s.contents)
        ∧ ∀ cause, s.indents.reverse.findSome? m.room.excess? = some cause →
          tableSample.render m 4 = .error (.excess cause)
  := by
  have hrenderable : Renderable (Tree.file tableSample).render :=
    ⟨{ room := .boundless, width := 4 }, _, rfl⟩
  have hleaves : ∀ t ∈ (Tree.file tableSample).leaves, Nested t.toList := by decide
  exact ⟨hrenderable, rfl, hleaves,
    Tree.rendered_text_nested (.file tableSample) hrenderable rfl hleaves 4⟩

end Swift

end SwiftStubs
