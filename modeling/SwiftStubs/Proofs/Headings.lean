import SwiftStubs.Proofs.DocLines
import SwiftStubs.Proofs.TypeNames

/-!
# Headings of functions and initializers

A function is written with a heading that says what it is: behind its modifier there is `func` and
its name, or `init` alone. So the initializers of a source text can be found by looking at how its
lines start (`initializers`). To compute them it has to be known of all other lines that they do not
start that way, whatever is glued to their ends. Such lines are called inert.
-/

namespace SwiftStubs.Swift

/-! ### Lines that open a declaration -/

/-- What a declaration can have as its modifier. -/
def accesses : List (Option AccessModifier) :=
  none :: some .hidden :: AccessLevel.all.map (fun a => some (.level a))

theorem mem_accesses (a : Option AccessModifier) :
  a ∈ accesses
  := by
  obtain _ | _ | a := a
  · decide
  · decide
  · cases a <;> decide

/-- The beginnings of lines that declare something with parameters: a modifier or none, some words,
and the bracket in front of the parameters. -/
def openings (words : String) : List String :=
  accesses.flatMap (fun a => [accessText a ++ words ++ "(", accessText a ++ words ++ "<"])

/-- Whether a line declares something with parameters under the given words. -/
def opens (words t : String) : Bool :=
  (openings words).any (fun o => o.toList.isPrefixOf t.toList)

/-- The lines that declare initializers. -/
def initializers (ls : List DeepLine) : List DeepLine :=
  ls.filter (fun l => opens "init" l.2)

theorem mem_openings_iff (words o : String) :
  o ∈ openings words ↔ ∃ a, ∃ bracket ∈ ["(", "<"], o = accessText a ++ words ++ bracket
  := by
  simp [openings, mem_accesses]

theorem opens_iff (words t : String) :
  opens words t ↔ ∃ o ∈ openings words, o.toList <+: t.toList
  := by
  simp [opens]

theorem opens_append {words t : String} (h : opens words t) (u : String) :
  opens words (t ++ u)
  := by
  rw [opens_iff] at h ⊢
  obtain ⟨o, ho, hprefix⟩ := h
  refine ⟨o, ho, ?_⟩
  rw [String.toList_append]
  exact hprefix.trans (List.prefix_append _ _)

theorem opens_bracket (a : Option AccessModifier) (words : String) {bracket : String}
    (h : bracket ∈ ["(", "<"]) :
  opens words (accessText a ++ words ++ bracket)
  := by
  rw [opens_iff]
  exact ⟨_, (mem_openings_iff _ _).mpr ⟨a, bracket, h, rfl⟩, List.prefix_rfl⟩

/-! ### Inert lines -/

/-- A text that starts no line of an initializer. -/
def Inert (t : String) : Prop :=
  ∀ u, opens "init" (t ++ u) = false

theorem Inert.append {t : String} (h : Inert t) (u : String) :
  Inert (t ++ u)
  := by
  intro v
  rw [String.append_assoc]
  apply h

theorem Inert.opens {t : String} (h : Inert t) :
  Swift.opens "init" t = false
  := by
  rw [← String.append_empty (s := t)]
  apply h

/-- A text is inert if neither it nor the beginning of an initializer goes on as the other. -/
theorem inert_of_apart {t : String}
    (h : ∀ o ∈ openings "init", ¬ o.toList <+: t.toList ∧ ¬ t.toList <+: o.toList) :
  Inert t
  := by
  intro u
  rw [Bool.eq_false_iff, Ne, opens_iff]
  rintro ⟨o, ho, hprefix⟩
  obtain ⟨hopening, htext⟩ := h o ho
  rw [String.toList_append] at hprefix
  obtain h | h := List.prefix_or_prefix_of_prefix hprefix (List.prefix_append _ _)
  · exact hopening h
  · exact htext h

/-- Two modifiers in front of declarations can be told apart, and no modifier starts as another. -/
theorem accessText_apart :
  ∀ a ∈ accesses, ∀ b ∈ accesses, a ≠ b →
    ¬ (accessText b ++ "init").toList <+: (accessText a).toList
      ∧ ((accessText a).toList <+: (accessText b ++ "init").toList → a = none)
  := by
  decide +kernel

theorem openings_letter {b : Option AccessModifier} (hb : b ∈ accesses) :
  ∃ d ∈ ['i', 'p', 'f'], [d] <+: (accessText b ++ "init").toList
  := by
  have hletters : ∀ b ∈ accesses,
      ['i', 'p', 'f'].any (fun d => [d].isPrefixOf (accessText b ++ "init").toList) := by
    decide +kernel
  obtain ⟨d, hd, hletter⟩ := List.any_eq_true.mp (hletters b hb)
  exact ⟨d, hd, List.isPrefixOf_iff_prefix.mp hletter⟩

/-- A line is inert if there is a letter behind its modifier that starts neither `init` nor another
modifier. -/
theorem inert_access (a : Option AccessModifier) {t : String}
    (h : t.toList.head?.all ['i', 'p', 'f'].contains = false) :
  Inert (accessText a ++ t)
  := by
  obtain ⟨c, cs, hcs, hc⟩ : ∃ c cs, t.toList = c :: cs ∧ c ∉ ['i', 'p', 'f'] := by
    cases hcs : t.toList with
    | nil =>
        rw [hcs] at h
        cases h
    | cons c cs =>
        rw [hcs] at h
        exact ⟨c, cs, rfl, by simpa using h⟩
  intro u
  rw [Bool.eq_false_iff, Ne, opens_iff]
  rintro ⟨o, ho, hprefix⟩
  obtain ⟨b, bracket, -, rfl⟩ := (mem_openings_iff _ o).mp ho
  have hinit : (accessText b ++ "init").toList
      <+: (accessText a).toList ++ (c :: cs ++ u.toList) := by
    rw [← hcs, ← List.append_assoc, ← String.toList_append, ← String.toList_append]
    apply List.IsPrefix.trans _ hprefix
    exact ⟨bracket.toList, String.toList_append.symm⟩
  by_cases hab : a = b
  · subst hab
    rw [String.toList_append, List.prefix_append_right_inj] at hinit
    have hhead : 'i' = c := (List.cons_prefix_cons.mp hinit).1
    exact hc (hhead ▸ List.mem_cons_self)
  · obtain ⟨hlonger, hshorter⟩ := accessText_apart a (mem_accesses a) b (mem_accesses b) hab
    obtain h | h := List.prefix_or_prefix_of_prefix hinit (List.prefix_append _ _)
    · exact hlonger h
    · obtain rfl := hshorter h
      obtain ⟨d, hd, hletter⟩ := openings_letter (mem_accesses b)
      have hhead : d = c := (List.cons_prefix_cons.mp (hletter.trans hinit)).1
      exact hc (hhead ▸ hd)

theorem inert_of_head? {t : String} (h : t.toList.head?.all ['i', 'p', 'f'].contains = false) :
  Inert t
  := by
  rw [← String.empty_append (s := t)]
  exact inert_access none h

/-- The words `protocol` and `func` start with the letter of a modifier, but go on differently. -/
theorem inert_heading {word : String} (h : word ∈ ["protocol ", "func "])
    (a : Option AccessModifier) :
  Inert (accessText a ++ word)
  := by
  have hapart : ∀ word ∈ ["protocol ", "func "], ∀ a ∈ accesses, ∀ o ∈ openings "init",
      ¬ o.toList <+: (accessText a ++ word).toList
        ∧ ¬ (accessText a ++ word).toList <+: o.toList := by
    decide +kernel
  exact inert_of_apart (hapart word h a (mem_accesses a))

theorem inert_brace :
  Inert "\x7d"
  := inert_of_head? rfl

/-! ### Lines without initializers -/

/-- All lines are inert. -/
def Silent (ls : List DeepLine) : Prop :=
  ∀ l ∈ ls, Inert l.2

theorem silent_nil :
  Silent []
  := List.forall_mem_nil _

theorem silent_cons {t : String} (ht : Inert t) {depth : Nat} {ls : List DeepLine}
    (hls : Silent ls) :
  Silent ((depth, t) :: ls)
  := List.forall_mem_cons.mpr ⟨ht, hls⟩

theorem Silent.append {ls ls' : List DeepLine} (h : Silent ls) (h' : Silent ls') :
  Silent (ls ++ ls')
  := List.forall_mem_append.mpr ⟨h, h'⟩

theorem Silent.deeper {ls : List DeepLine} (h : Silent ls) :
  Silent (deeper ls)
  := List.forall_mem_map.mpr h

theorem silent_level {ts : List String} (h : ∀ t ∈ ts, Inert t) :
  Silent (level ts)
  := List.forall_mem_map.mpr h

theorem Silent.initializers {ls : List DeepLine} (h : Silent ls) :
  initializers ls = []
  := by
  apply List.filter_eq_nil_iff.mpr
  intro l hl
  rw [(h l hl).opens]
  exact Bool.false_ne_true

theorem initializers_blank :
  initializers [(0, "")] = []
  := by
  have hblank : opens "init" "" = false := by
    decide +kernel
  rw [initializers, List.filter_cons_of_neg (by simpa using hblank), List.filter_nil]

theorem initializers_append (ls ls' : List DeepLine) :
  initializers (ls ++ ls') = initializers ls ++ initializers ls'
  := List.filter_append ..

theorem initializers_deeper (ls : List DeepLine) :
  initializers (deeper ls) = deeper (initializers ls)
  := List.filter_map ..

theorem initializers_cons_of_opens {t : String} (h : opens "init" t) (depth : Nat)
    (ls : List DeepLine) :
  initializers ((depth, t) :: ls) = (depth, t) :: initializers ls
  := List.filter_cons_of_pos h

/-! ### Layouts -/

namespace Layout

/-- All lines but the first are inert. -/
def Tame (l : Layout) : Prop :=
  Silent l.below

theorem silent_lines {l : Layout} (hfirst : Inert l.first) (h : l.Tame) :
  Silent l.lines
  := silent_cons hfirst h

theorem tame_of_silent {l : Layout} (h : Silent l.lines) :
  l.Tame
  := (List.forall_mem_cons.mp h).2

theorem tame_text (t : String) :
  (Layout.text t).Tame
  := silent_nil

/-- Gluing goes on with the first line. -/
theorem first_glue (a b : Layout) :
  ∃ u, (a.glue b).first = a.first ++ u
  := by
  obtain ⟨t, ls⟩ := a
  cases ls with
  | nil => exact ⟨b.first, rfl⟩
  | cons l ls => exact ⟨"", (String.append_empty).symm⟩

theorem inert_glue {a : Layout} (h : Inert a.first) (b : Layout) :
  Inert (a.glue b).first
  := by
  obtain ⟨u, hu⟩ := a.first_glue b
  rw [hu]
  exact h.append u

/-- The last line stays inert if something is glued to it. -/
theorem Tame.glue {a b : Layout} (ha : a.Tame) (hb : b.Tame) :
  (a.glue b).Tame
  := by
  obtain ⟨t, ls⟩ := a
  show (glueBelow t ls b).Tame
  induction ls generalizing t with
  | nil => exact hb
  | cons l ls ih =>
      obtain ⟨d, u⟩ := l
      obtain ⟨hl, hls⟩ := List.forall_mem_cons.mp ha
      exact silent_cons (inert_glue (a := ⟨u, ls⟩) hl b) (ih u hls)

theorem Tame.enclosed {l : Layout} (h : l.Tame) {ls : List DeepLine} (hls : Silent ls)
    {closing : String} (hclosing : Inert closing) :
  (Layout.enclosed l ls closing).Tame
  := h.append (hls.deeper.append (silent_cons hclosing silent_nil))

theorem Tame.labelled {l : Layout} (h : l.Tame) (label : Option String) :
  (labelled label l).Tame
  := by
  cases label with
  | none => exact h
  | some t => exact (tame_text _).glue h

theorem initializers_under (l : Layout) {ts : List String} (h : ∀ t ∈ ts, Inert t) :
  initializers (l.under ts).lines = initializers l.lines
  := by
  rw [lines_under, initializers_append, (silent_level h).initializers, List.nil_append]

theorem initializers_braced {heading : String} (h : Inert heading) (ls : List DeepLine) :
  initializers (bracedLayout heading ls).lines = deeper (initializers ls)
  := by
  have hopening : Silent [(0, heading ++ " \x7b")] := silent_cons (h.append _) silent_nil
  have hclosing : Silent [(0, "\x7d")] := silent_cons inert_brace silent_nil
  show initializers ([(0, heading ++ " \x7b")] ++ ([] ++ (deeper ls ++ [(0, "\x7d")]))) = _
  rw [initializers_append, hopening.initializers, List.nil_append, List.nil_append,
    initializers_append, hclosing.initializers, List.append_nil, initializers_deeper]

end Layout

/-! ### Expressions -/

/-- The line of an argument with an inert label is inert. -/
theorem silent_labelled {label : String} (h : Inert label) {l : Layout} (hl : l.Tame) :
  Silent (labelled (some label) l).lines
  := by
  have hlabel : Inert (Layout.text (label ++ ": ")).first := h.append ": "
  exact Layout.silent_lines (Layout.inert_glue hlabel l) (hl.labelled (some label))

/-- The lines of an argument are inert. -/
def Argument.Silent : Argument → Prop
  | .mk label value => Swift.Silent (labelled label value.layout).lines

theorem silent_glued {l : Layout} (h : Silent l.lines) (t : String) :
  Silent (l.glue (.text t)).lines
  := by
  obtain ⟨hfirst, hbelow⟩ := List.forall_mem_cons.mp h
  exact Layout.silent_lines (Layout.inert_glue hfirst _)
    (Layout.Tame.glue hbelow (Layout.tame_text t))

theorem silent_argumentLines {as : List Argument} (h : ∀ a ∈ as, a.Silent) :
  Silent (argumentLines as)
  := by
  induction as with
  | nil => exact silent_nil
  | cons a as ih =>
      obtain ⟨ha, has⟩ := List.forall_mem_cons.mp h
      obtain ⟨label, value⟩ := a
      rw [argumentLines]
      apply Silent.append _ (ih has)
      split
      · exact ha
      · exact silent_glued ha ","

theorem tame_glueArguments {as : List Argument} (h : ∀ a ∈ as, a.Silent) {l : Layout}
    (hl : l.Tame) :
  (glueArguments l as).Tame
  := by
  induction as generalizing l with
  | nil => exact hl
  | cons a as ih =>
      obtain ⟨ha, has⟩ := List.forall_mem_cons.mp h
      obtain ⟨label, value⟩ := a
      rw [glueArguments]
      exact ih has (hl.glue (List.forall_mem_cons.mp ha).2)

theorem tame_call (callee : String) {as : List Argument} (h : ∀ a ∈ as, a.Silent) :
  (Expression.call (.identifier callee) as).layout.Tame
  := by
  have hopening : ((Expression.identifier callee).layout.glue (.text "(")).Tame :=
    (Layout.tame_text callee).glue (Layout.tame_text "(")
  have hclosing : Inert ")" := inert_of_head? rfl
  rw [Expression.layout]
  split
  · exact (tame_glueArguments h hopening).glue (Layout.tame_text _)
  · exact hopening.enclosed (silent_argumentLines h) hclosing

theorem first_glueArguments (l : Layout) (as : List Argument) :
  ∃ u, (glueArguments l as).first = l.first ++ u
  := by
  induction as generalizing l with
  | nil => exact ⟨"", String.append_empty.symm⟩
  | cons a as ih =>
      obtain ⟨label, value⟩ := a
      obtain ⟨u, hu⟩ := l.first_glue (labelled label value.layout)
      obtain ⟨v, hv⟩ := ih (l.glue (labelled label value.layout))
      use u ++ v
      rw [glueArguments, hv, hu, String.append_assoc]

theorem silent_call {callee : String} (hcallee : Inert callee) {as : List Argument}
    (h : ∀ a ∈ as, a.Silent) :
  Silent (Expression.call (.identifier callee) as).layout.lines
  := by
  have hopening : Inert ((Layout.text callee).glue (.text "(")).first :=
    Layout.inert_glue (a := .text callee) hcallee _
  apply Layout.silent_lines _ (tame_call callee h)
  rw [Expression.layout, Expression.layout]
  split
  · obtain ⟨u, hu⟩ := first_glueArguments ((Layout.text callee).glue (.text "(")) as
    apply Layout.inert_glue
    rw [hu]
    exact hopening.append u
  · exact hopening

theorem silent_elementLines {es : List Expression} (h : ∀ e ∈ es, Silent e.layout.lines) :
  Silent (elementLines es)
  := by
  induction es with
  | nil => exact silent_nil
  | cons e es ih =>
      obtain ⟨he, hes⟩ := List.forall_mem_cons.mp h
      rw [elementLines]
      apply Silent.append _ (ih hes)
      split
      · exact he
      · exact silent_glued he ","

theorem tame_arrayLiteral {es : List Expression} (h : ∀ e ∈ es, Silent e.layout.lines) :
  (Expression.arrayLiteral es).layout.Tame
  := by
  have hclosing : Inert "]" := inert_of_head? rfl
  rw [Expression.layout]
  split
  · exact Layout.tame_text _
  · exact (Layout.tame_text _).enclosed (silent_elementLines h) hclosing

theorem silent_blockLines {bs : List Block} (h : ∀ b ∈ bs, Silent b.layout.lines) :
  Silent (blockLines bs)
  := by
  induction bs with
  | nil => exact silent_nil
  | cons b bs ih =>
      obtain ⟨hb, hbs⟩ := List.forall_mem_cons.mp h
      rw [blockLines]
      exact hb.append (ih hbs)

theorem tame_closure (parameters : List String) {bs : List Block}
    (h : ∀ b ∈ bs, Silent b.layout.lines) :
  (Expression.closure parameters bs).layout.Tame
  := by
  rw [Expression.layout]
  exact (Layout.tame_text _).enclosed (silent_blockLines h) inert_brace

theorem inert_keyword (word : Keyword) :
  Inert word.text
  := by
  cases word with
  | tryCall => exact inert_of_head? rfl
  | awaitCall => exact inert_of_head? rfl
  | returnValue => exact inert_of_head? rfl

/-- A keyword in front of an expression makes its first line inert. -/
theorem silent_keyword (word : Keyword) {e : Expression} (h : e.layout.Tame) :
  Silent (Expression.keyword word (some e)).layout.lines
  := by
  have hword : Inert (Layout.text (word.text ++ " ")).first := (inert_keyword word).append " "
  rw [Expression.layout]
  exact Layout.silent_lines (Layout.inert_glue hword _) ((Layout.tame_text _).glue h)

theorem silent_tryAwait {e : Expression} (h : e.layout.Tame) :
  Silent e.tryAwait.layout.lines
  := silent_keyword .tryCall (Layout.tame_of_silent (silent_keyword .awaitCall h))

/-! ### Declarations -/

/-- The lines of a declaration that declare initializers. -/
def Declaration.initializers (d : Declaration) : List DeepLine :=
  Swift.initializers d.layout.lines

theorem initializers_memberLines (apart : Bool) (ds : List Declaration) :
  initializers (memberLines apart ds) = ds.flatMap Declaration.initializers
  := by
  induction ds with
  | nil => rfl
  | cons d ds ih =>
      have hblank : initializers (if apart && !ds.isEmpty then [(0, "")] else []) = [] := by
        split
        · exact initializers_blank
        · rfl
      rw [memberLines, initializers_append, initializers_append, hblank, List.append_nil, ih,
        List.flatMap_cons, Declaration.initializers]

theorem initializers_spacedLines (bs : List Block) :
  initializers (spacedLines bs) = bs.flatMap (fun b => initializers b.layout.lines)
  := by
  induction bs with
  | nil => rfl
  | cons b bs ih =>
      have hblank : initializers (if bs.isEmpty then [] else [(0, "")]) = [] := by
        split
        · rfl
        · exact initializers_blank
      rw [spacedLines, initializers_append, initializers_append, hblank, List.append_nil, ih,
        List.flatMap_cons]

theorem initializers_documented (documentation : String) (d : Declaration) :
  (d.documented documentation).initializers = d.initializers
  := by
  rw [Declaration.documented]
  split
  · rfl
  · rw [Declaration.initializers, Declaration.layout]
    apply Layout.initializers_under
    intro t ht
    obtain ⟨rest, hrest⟩ := (isDoc_texts documentation t ht).2
    apply inert_of_head?
    rw [← hrest]
    rfl

theorem initializers_available (availability : Option Availability) (d : Declaration) :
  (d.available availability).initializers = d.initializers
  := by
  cases availability with
  | none => rfl
  | some a =>
      have hattribute : Inert "@available(" := inert_of_head? rfl
      rw [Declaration.available, Declaration.initializers, Declaration.layout]
      apply Layout.initializers_under
      rw [List.forall_mem_singleton, Availability.text]
      exact (hattribute.append _).append _

theorem initializers_present (style : Stub.Style) (documentation : String) (d : Declaration) :
  (style.present documentation d).initializers = d.initializers
  := by
  rw [Stub.Style.present, initializers_documented, initializers_available]

theorem initializers_membersLayout {heading : String} (h : Inert heading) (apart : Bool)
    (ms : List Declaration) :
  initializers (if ms.isEmpty then Layout.text (heading ++ " \x7b\x7d")
      else bracedLayout heading (memberLines apart ms)).lines
    = deeper (ms.flatMap Declaration.initializers)
  := by
  cases ms with
  | nil =>
      have hsilent : Silent (Layout.text (heading ++ " \x7b\x7d")).lines :=
        Layout.silent_lines (h.append _) (Layout.tame_text _)
      rw [if_pos List.isEmpty_nil, hsilent.initializers]
      rfl
  | cons d ds =>
      rw [if_neg (by simp), Layout.initializers_braced h, initializers_memberLines]

section

variable (access : Option AccessModifier) (name : String) (conformances : List String)
  (ms : List Declaration)

theorem initializers_enumeration :
  (Declaration.enumeration access name ms).initializers
    = deeper (ms.flatMap Declaration.initializers)
  := by
  rw [Declaration.initializers, Declaration.layout]
  apply initializers_membersLayout
  exact (inert_access access rfl).append name

theorem initializers_struct :
  (Declaration.struct access name conformances ms).initializers
    = deeper (ms.flatMap Declaration.initializers)
  := by
  rw [Declaration.initializers, Declaration.layout]
  apply initializers_membersLayout
  exact ((inert_access access rfl).append name).append _

theorem initializers_protocol :
  (Declaration.protocol access name conformances ms).initializers
    = deeper (ms.flatMap Declaration.initializers)
  := by
  rw [Declaration.initializers, Declaration.layout]
  apply initializers_membersLayout
  exact ((inert_heading (by decide) access).append name).append _

theorem initializers_extension :
  (Declaration.extension access name conformances ms).initializers
    = deeper (ms.flatMap Declaration.initializers)
  := by
  have hheading : Inert (accessText access ++ "extension " ++ name
      ++ conformanceText conformances) := ((inert_access access rfl).append name).append _
  rw [Declaration.initializers, Declaration.layout, Layout.initializers_braced hheading,
    initializers_memberLines]

end

theorem initializers_typeAlias (access : Option AccessModifier) (name target : String) :
  (Declaration.typeAlias access name target).initializers = []
  := by
  have hheading : Inert (accessText access ++ "typealias " ++ name ++ " = " ++ target) :=
    (((inert_access access rfl).append name).append _).append _
  have hsilent : Silent (Layout.text
      (accessText access ++ "typealias " ++ name ++ " = " ++ target)).lines :=
    Layout.silent_lines hheading (Layout.tame_text _)
  rw [Declaration.initializers, Declaration.layout, hsilent.initializers]

theorem inert_constantHead (access : Option AccessModifier) (name : String) (isStatic : Bool)
    (type : Option String) :
  Inert (Render.constantHead access name isStatic type)
  := by
  have hwords : Inert (accessText access ++ (if isStatic then "static " else "") ++ "let ") := by
    cases isStatic with
    | true => exact (inert_access access rfl).append _
    | false =>
        rw [if_neg Bool.false_ne_true, String.append_empty]
        exact inert_access access rfl
  unfold Render.constantHead
  exact (hwords.append name).append _

theorem silent_constant (access : Option AccessModifier) (name : String) (isStatic : Bool)
    (type : Option String) {value : Expression} (h : value.layout.Tame) :
  Silent (Declaration.constant access name isStatic type (some value)).layout.lines
  := by
  have hhead : Inert (Layout.text (Render.constantHead access name isStatic type ++ " = ")).first :=
    (inert_constantHead access name isStatic type).append _
  rw [Declaration.layout]
  exact Layout.silent_lines (Layout.inert_glue hhead _) ((Layout.tame_text _).glue h)

/-! ### Functions -/

/-- The words under which a signature declares a function or an initializer. -/
def Signature.words (g : Signature) : String :=
  if g.name == "init" then "init" else "func " ++ g.name

/-- The first line of a function: its modifier and its words, followed by a bracket. -/
theorem first_function (g : Signature) (body : Option (List Block)) :
  ∃ bracket ∈ ["(", "<"], ∃ rest,
    (Declaration.function g body).layout.first = accessText g.access ++ g.words ++ bracket ++ rest
  := by
  have hbody : ∃ u, (Declaration.function g body).layout.first = g.layout.first ++ u := by
    cases body with
    | none => exact ⟨"", String.append_empty.symm⟩
    | some bs =>
        rw [Declaration.layout]
        split
        · exact Layout.first_glue _ _
        · exact Layout.first_glue _ _
  have hparameters : ∃ v, g.layout.first = g.head ++ ("(" ++ v) := by
    rw [Signature.layout]
    split
    · use ")" ++ g.tail
      have hbrackets : "()" = "(" ++ ")" := rfl
      simp only [Layout.text, hbrackets, String.append_assoc]
    · next p _ =>
        use p ++ ")" ++ g.tail
        simp only [Layout.text, String.append_assoc]
    · use ""
      rw [String.append_empty]
      rfl
  obtain ⟨u, hu⟩ := hbody
  obtain ⟨v, hv⟩ := hparameters
  have hhead : g.head = accessText g.access ++ g.words ++ (if g.generics.isEmpty then ""
      else "<" ++ String.intercalate ", " g.generics ++ ">") := rfl
  rw [hu, hv, hhead]
  split
  · exact ⟨"(", by decide, v ++ u, by simp only [String.append_assoc, String.empty_append]⟩
  · exact ⟨"<", by decide, _, by simp only [String.append_assoc]; rfl⟩

theorem opens_function (g : Signature) (body : Option (List Block)) :
  opens g.words (Declaration.function g body).layout.first
  := by
  obtain ⟨bracket, hbracket, rest, hfirst⟩ := first_function g body
  rw [hfirst]
  exact opens_append (opens_bracket _ _ hbracket) rest

theorem inert_function {g : Signature} (h : g.name ≠ "init") (body : Option (List Block)) :
  Inert (Declaration.function g body).layout.first
  := by
  obtain ⟨bracket, -, rest, hfirst⟩ := first_function g body
  rw [hfirst, Signature.words, if_neg (by simpa using h), ← String.append_assoc]
  exact (((inert_heading (by decide) g.access).append _).append _).append _

theorem inert_of_mem_commaEnded {ts : List String} (h : ∀ t ∈ ts, Inert t) :
  ∀ t ∈ commaEnded ts, Inert t
  := by
  fun_induction commaEnded ts with
  | case1 => exact h
  | case2 t => exact h
  | case3 t ts hne ih =>
      rw [List.forall_mem_cons] at h ⊢
      exact ⟨h.1.append ",", ih h.2⟩

/-- Only the lines of parameters and of the body stand below the first line of a function. -/
theorem tame_function {g : Signature} (hg : ∀ p ∈ g.parameters, Inert p.label)
    {body : Option (List Block)} (hbody : ∀ bs ∈ body, ∀ b ∈ bs, Silent b.layout.lines) :
  (Declaration.function g body).layout.Tame
  := by
  have hparameters : ∀ t ∈ g.parameters.map Parameter.text, Inert t := by
    rw [List.forall_mem_map]
    intro p hp
    rw [Parameter.text]
    split
    · exact ((hg p hp).append _).append _
    · exact ((((hg p hp).append _).append _).append _).append _
  have hclosing : Inert (")" ++ g.tail) := (inert_of_head? rfl).append _
  have hsignature : g.layout.Tame := by
    rw [Signature.layout]
    split
    · exact Layout.tame_text _
    · exact Layout.tame_text _
    · exact (Layout.tame_text _).enclosed (silent_level (inert_of_mem_commaEnded hparameters))
        hclosing
  cases body with
  | none => exact hsignature
  | some bs =>
      rw [Declaration.layout]
      split
      · exact hsignature.glue (Layout.tame_text _)
      · exact (hsignature.glue (Layout.tame_text _)).enclosed (silent_blockLines (hbody bs rfl))
          inert_brace

/-- A function with inert parameters and an inert body is written without an initializer, unless it
is one itself. -/
theorem initializers_function {g : Signature} (hg : ∀ p ∈ g.parameters, Inert p.label)
    {body : Option (List Block)} (hbody : ∀ bs ∈ body, ∀ b ∈ bs, Silent b.layout.lines) :
  (Declaration.function g body).initializers
    = if g.name = "init" then [(0, (Declaration.function g body).layout.first)] else []
  := by
  have htame := tame_function hg hbody
  split
  · next hinit =>
      have hopens := opens_function g body
      rw [Signature.words, if_pos (by simpa using hinit)] at hopens
      rw [Declaration.initializers, Layout.lines, initializers_cons_of_opens hopens,
        htame.initializers]
  · next hinit =>
      exact (Layout.silent_lines (inert_function hinit body) htame).initializers

/-! ### Headings in a file -/

/-- The lines of the code of a file, below its comment and its imports. -/
def File.code (f : File) : List DeepLine :=
  spacedLines f.blocks

theorem File.lines_eq (f : File) :
  f.lines = level (f.commentLines ++ f.importLines) ++ f.code
  := by
  simp [lines, code, level]

namespace Declaration

/-- The line of a declaration itself, behind the comments and attributes in front of it. -/
def heading (d : Declaration) : String :=
  d.bare.layout.first

/-- The members of a type or an extension. -/
def members (d : Declaration) : List Declaration :=
  match d.bare with
  | .enumeration _ _ ms => ms
  | .struct _ _ _ ms => ms
  | .protocol _ _ _ ms => ms
  | .extension _ _ _ ms => ms
  | _ => []

theorem lines_bare_subset (d : Declaration) :
  d.bare.layout.lines ⊆ d.layout.lines
  := by
  fun_induction bare d with
  | case1 c d ih =>
      rw [layout, Layout.lines_under]
      exact List.subset_append_of_subset_right _ ih
  | case2 a d ih =>
      rw [layout, Layout.lines_under]
      exact List.subset_append_of_subset_right _ ih
  | case3 d h h' => exact List.Subset.refl _

theorem heading_mem_memberLines {d : Declaration} {ms : List Declaration} (h : d ∈ ms)
    (apart : Bool) :
  (0, d.heading) ∈ memberLines apart ms
  := by
  induction ms with
  | nil => cases h
  | cons e ms ih =>
      rw [memberLines, List.mem_append, List.mem_append]
      obtain rfl | h := List.mem_cons.mp h
      · exact .inl (.inl (d.lines_bare_subset List.mem_cons_self))
      · exact .inr (ih h)

theorem heading_mem_membersLayout {d : Declaration} {ms : List Declaration} (h : d ∈ ms)
    (apart : Bool) (heading : String) :
  (1, d.heading) ∈ (bracedLayout heading (memberLines apart ms)).lines
  := by
  apply List.mem_cons_of_mem
  apply List.mem_append_right
  apply List.mem_append_left
  exact List.mem_map.mpr ⟨_, heading_mem_memberLines h apart, rfl⟩

/-- The headings of members stand one level deeper. -/
theorem heading_mem_lines {d e : Declaration} (h : e ∈ d.members) :
  (1, e.heading) ∈ d.layout.lines
  := by
  apply d.lines_bare_subset
  rw [members] at h
  have hne : ∀ ms : List Declaration, e ∈ ms → ¬ ms.isEmpty := by
    intro ms hms
    rw [List.isEmpty_iff]
    exact List.ne_nil_of_mem hms
  split at h
  · next heq =>
      rw [heq, layout, if_neg (hne _ h)]
      exact heading_mem_membersLayout h _ _
  · next heq =>
      rw [heq, layout, if_neg (hne _ h)]
      exact heading_mem_membersLayout h _ _
  · next heq =>
      rw [heq, layout, if_neg (hne _ h)]
      exact heading_mem_membersLayout h _ _
  · next heq =>
      rw [heq, layout]
      exact heading_mem_membersLayout h _ _
  · cases h

end Declaration

theorem heading_mem_spacedLines {bs : List Block} {d e : Declaration} (hd : d.block ∈ bs)
    (he : e ∈ d.members) :
  (1, e.heading) ∈ spacedLines bs
  := by
  induction bs with
  | nil => cases hd
  | cons b bs ih =>
      rw [spacedLines, List.mem_append, List.mem_append]
      obtain rfl | hd := List.mem_cons.mp hd
      · exact .inl (.inl (Declaration.heading_mem_lines he))
      · exact .inr (ih hd)

end SwiftStubs.Swift
