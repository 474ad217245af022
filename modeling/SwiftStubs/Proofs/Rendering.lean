import SwiftStubs.Proofs.Scripts

/-!
# Rendering places layouts

What steps of rendering do one after the other is said by `Runs`, and what follows for a whole tree
by one case for each kind of tree, in `places_declaration` and its companions. A tree that cannot
be rendered has a fault, the first ill-formed part in the order of rendering; any other is rendered
from every scope, and the lines that are added are those of its layout.
-/

namespace SwiftStubs.Swift

/-! ### Faults -/

mutual

/-- The first part of a declaration that cannot be rendered, in the order of rendering. -/
def Declaration.fault? : Declaration → Option Unrenderable
  | .commented _ d => d.fault?
  | .guarded _ d => d.fault?
  | .enumeration _ _ ms => membersFault? ms
  | .protocol _ _ _ ms => membersFault? ms
  | .struct _ _ _ ms => membersFault? ms
  | .extension _ _ _ ms => membersFault? ms
  | .typeAlias _ _ _ => none
  | .constant _ _ _ _ none => none
  | .constant _ _ _ _ (some value) => value.fault?
  | .function _ none => none
  | .function _ (some body) => blocksFault? body
  | .unspecified => some ⟨.declaration, "Declaration"⟩
  | .misplaced e => some ⟨.declaration, e.kind⟩

/-- The first fault of members. -/
def membersFault? : List Declaration → Option Unrenderable
  | [] => none
  | d :: ds => d.fault?.or (membersFault? ds)

/-- The first part of an expression that cannot be rendered, in the order of rendering. -/
def Expression.fault? : Expression → Option Unrenderable
  | .identifier _ => none
  | .stringLiteral _ => none
  | .keyword _ none => none
  | .keyword _ (some operand) => operand.fault?
  | .assignment left right => left.fault?.or right.fault?
  | .call callee args => callee.fault?.or (argumentsFault? args)
  | .arrayLiteral es => elementsFault? es
  | .closure _ body => blocksFault? body
  | .unspecified => some ⟨.expression, "Expression"⟩
  | .misplaced d => some ⟨.expression, d.kind⟩

/-- The first fault of arguments. -/
def argumentsFault? : List Argument → Option Unrenderable
  | [] => none
  | .mk _ value :: args => value.fault?.or (argumentsFault? args)

/-- The first fault of elements. -/
def elementsFault? : List Expression → Option Unrenderable
  | [] => none
  | e :: es => e.fault?.or (elementsFault? es)

/-- The first fault of a block of code. -/
def Block.fault? : Block → Option Unrenderable
  | .declaration d _ => d.fault?
  | .expression e _ => e.fault?

/-- The first fault of blocks of code. -/
def blocksFault? : List Block → Option Unrenderable
  | [] => none
  | b :: bs => b.fault?.or (blocksFault? bs)

end

/-! ### Steps -/

/-- From every scope with the property `P`, a step fails with its fault if there is one, and leads
to the scope that `after` says otherwise. -/
def Runs (P : Scope → Prop) (step : Render Unit) (fault : Option Unrenderable)
    (after : Scope → Scope) : Prop :=
  ∀ s, P s → match fault with
    | none => step s = .ok () (after s)
    | some e => ∃ t, step s = .error (.unrenderable e) t

namespace Scope

/-- There is room for any line. -/
def Free (s : Scope) : Prop :=
  s.room = .boundless

/-- There is room for any line, and nothing is to be glued. -/
def Ready (s : Scope) : Prop :=
  s.Free ∧ s.Settled

theorem Free.excess?_eq {s : Scope} (h : s.Free) :
  s.excess? = none
  := by
  rw [excess?]
  split
  · rfl
  · rw [h]
    rfl

theorem Free.added {s : Scope} (h : s.Free) (t : String) :
  (s.added t).Free
  := by
  rw [Scope.added]
  split
  · exact h
  · exact h

theorem Free.addedAll {s : Scope} (h : s.Free) (ts : List String) :
  (s.addedAll ts).Free
  := by
  induction ts generalizing s with
  | nil => exact h
  | cons t ts ih => exact ih (h.added t)

theorem Free.place {s : Scope} (h : s.Free) (l : Layout) :
  (s.place l).Free
  := h.added l.first

theorem Free.ready_place {s : Scope} (h : s.Free) (l : Layout) :
  (s.place l).Ready
  := ⟨h.place l, settled_place s l⟩

theorem Ready.put {s : Scope} (h : s.Ready) (ls : List DeepLine) :
  (s.put ls).Ready
  := h

end Scope

/-- A step that places a layout, whatever the scope. -/
def Places (step : Render Unit) (fault : Option Unrenderable) (l : Layout) : Prop :=
  Runs Scope.Free step fault (fun s => s.place l)

/-- A step that puts lines into a scope in which nothing is to be glued. -/
def Puts (step : Render Unit) (fault : Option Unrenderable) (ls : List DeepLine) : Prop :=
  Runs Scope.Ready step fault (fun s => s.put ls)

/-- Of two steps the second starts where the first has come to, and the first fault counts. -/
theorem Runs.bind {P Q : Scope → Prop} {a b : Render Unit} {f g : Option Unrenderable}
    {x y : Scope → Scope} (ha : Runs P a f x) (hx : ∀ s, P s → Q (x s)) (hb : Runs Q b g y) :
  Runs P (a >>= fun _ => b) (f.or g) (fun s => y (x s))
  := by
  intro s hs
  have ha := ha s hs
  cases f with
  | some e =>
      obtain ⟨t, ht⟩ := ha
      exact ⟨t, Render.then_of_error ht⟩
  | none =>
      have hb := hb (x s) (hx s hs)
      rw [Option.none_or, Render.then_of_ok ha]
      exact hb

theorem Runs.congr {P : Scope → Prop} {step : Render Unit} {f : Option Unrenderable}
    {x y : Scope → Scope} (h : Runs P step f x) (hxy : ∀ s, P s → x s = y s) :
  Runs P step f y
  := by
  intro s hs
  have h := h s hs
  rw [hxy s hs] at h
  exact h

theorem runs_refuse {P : Scope → Prop} (due : NodeSort) (kind : String) (x : Scope → Scope) :
  Runs P (Render.refuse due kind) (some ⟨due, kind⟩) x
  := by
  intro s _
  use s
  rfl

theorem puts_nil :
  Puts (pure ()) none []
  := by
  intro s _
  rfl

theorem places_text (t : String) :
  Places (Render.text t) none (.text t)
  := by
  intro s hs
  exact Render.text_of_none hs.excess?_eq t

theorem runs_texts (ts : List String) :
  Runs Scope.Free (Render.texts ts) none (fun s => s.addedAll ts)
  := by
  induction ts with
  | nil =>
      intro s _
      rfl
  | cons t ts ih => exact (places_text t).bind (fun s hs => hs.added t) ih

theorem puts_texts (ts : List String) :
  Puts (Render.texts ts) none (level ts)
  := by
  have h : Runs Scope.Ready (Render.texts ts) none (fun s => s.addedAll ts) :=
    fun s hs => runs_texts ts s hs.1
  apply h.congr
  intro s hs
  exact Scope.addedAll_eq_of_settled hs.2 ts

namespace Places

variable {a b : Render Unit} {f g : Option Unrenderable} {l l' : Layout} {ls : List DeepLine}

/-- A step after a request to glue. -/
theorem glue (ha : Places a f l) (hb : Places b g l') :
  Places (a >>= fun _ => Render.glueNext >>= fun _ => b) (f.or g) (l.glue l')
  := by
  have hglue : Runs Scope.Free (Render.glueNext >>= fun _ => b) g
      (fun s => s.glue.place l') := fun s hs => hb s.glue hs
  apply (ha.bind (fun s hs => hs.place l) hglue).congr
  intro s _
  apply Scope.place_glue

/-- A text glued behind a step. -/
theorem glued (ha : Places a f l) (t : String) :
  Places (a >>= fun _ => Render.glued t) f (l.glue (.text t))
  := by
  have h := ha.glue (places_text t)
  rwa [Option.or_none] at h

/-- Lines one level further in between a step and a last text. -/
theorem enclosed (ha : Places a f l) (hb : Puts b g ls) (closing : String) :
  Places (a >>= fun _ => Render.nested b >>= fun _ => Render.text closing) (f.or g)
    (Layout.enclosed l ls closing)
  := by
  have hnested : Runs Scope.Ready (Render.nested b) g (fun s => s.put (deeper ls)) := by
    intro s hs
    have hb := hb s.enter hs
    cases g with
    | some e =>
        obtain ⟨t, ht⟩ := hb
        use t.leave
        simp only [Render.nested, ht]
    | none =>
        simp only [Render.nested, hb, Scope.leave_put_enter]
  have hclosing : Runs Scope.Ready (Render.text closing) none (fun s => s.place (.text closing)) :=
    fun s hs => places_text closing s hs.1
  have hclosed := hnested.bind (fun _ hs => hs.put _) hclosing
  rw [Option.or_none] at hclosed
  apply (ha.bind (fun s hs => hs.ready_place l) hclosed).congr
  intro s hs
  have hsettled := ((hs.ready_place l).put (deeper ls)).2
  rw [Scope.place_eq_of_settled hsettled, Scope.put_put, Scope.place_extend]
  rfl

/-- Texts added above a step. -/
theorem under (hb : Places b g l) (ts : List String) :
  Places (Render.texts ts >>= fun _ => b) g (l.under ts)
  := by
  apply ((runs_texts ts).bind (fun s hs => hs.addedAll ts) hb).congr
  intro s _
  apply Scope.place_addedAll

/-- Where nothing is to be glued, a layout is put as lines, and further lines may follow. -/
theorem puts (ha : Places a f l) (hb : Puts b g ls) :
  Puts (a >>= fun _ => b) (f.or g) (l.lines ++ ls)
  := by
  have ha : Runs Scope.Ready a f (fun s => s.place l) := fun s hs => ha s hs.1
  apply (ha.bind (fun s hs => hs.1.ready_place l) hb).congr
  intro s hs
  rw [Scope.place_eq_of_settled hs.2, Scope.put_put]

end Places

/-! ### Steps for the parts of trees -/

theorem places_signature (f : Signature) :
  Places (Render.signature f) none f.layout
  := by
  rw [Render.signature, Signature.layout]
  generalize f.parameters.map Parameter.text = ps
  cases ps with
  | nil => exact places_text _
  | cons p ps =>
      cases ps with
      | nil => exact places_text _
      | cons q ps => exact (places_text (f.head ++ "(")).enclosed (puts_texts _) (")" ++ f.tail)

theorem places_braced (heading : String) {b : Render Unit} {g : Option Unrenderable}
    {ls : List DeepLine} (hb : Puts b g ls) :
  Places (Render.braced heading b) g (bracedLayout heading ls)
  := by
  have h := (places_text (heading ++ " \x7b")).enclosed hb "\x7d"
  rwa [Option.none_or] at h

theorem Places.labelled {b : Render Unit} {g : Option Unrenderable} {l : Layout}
    (hb : Places b g l) (label : Option String) :
  Places (Render.label label >>= fun _ => b) g (labelled label l)
  := by
  cases label with
  | none => exact hb
  | some t =>
      have h := (places_text (t ++ ": ")).glue hb
      rw [Option.none_or] at h
      rw [Render.label, bind_assoc]
      exact h

/-! ### Rendering places layouts -/

mutual

/-- Rendering a declaration places its layout, or fails with its fault. -/
theorem places_declaration :
    ∀ d : Declaration, Places (Render.declaration d) d.fault? d.layout
  | .commented comment d => (places_declaration d).under (commentTexts comment)
  | .guarded availability d => by
      have h := (places_declaration d).under [availability.text]
      rw [Render.texts, Render.texts, bind_assoc] at h
      exact h
  | .enumeration access name ms => by
      rw [Render.declaration, Declaration.fault?, Declaration.layout]
      cases ms with
      | nil => apply places_text _
      | cons d ds => apply places_braced _ (puts_members false (d :: ds))
  | .protocol access name conformances ms => by
      rw [Render.declaration, Declaration.fault?, Declaration.layout]
      cases ms with
      | nil => apply places_text _
      | cons d ds => apply places_braced _ (puts_members false (d :: ds))
  | .struct access name conformances ms => by
      rw [Render.declaration, Declaration.fault?, Declaration.layout]
      cases ms with
      | nil => apply places_text _
      | cons d ds => apply places_braced _ (puts_members true (d :: ds))
  | .extension access type conformances ms => places_braced _ (puts_members false ms)
  | .typeAlias access name target => places_text _
  | .constant access name isStatic type none => places_text _
  | .constant access name isStatic type (some value) => by
      have h := (places_text (Render.constantHead access name isStatic type ++ " = ")).glue
        (places_expression value)
      rwa [Option.none_or] at h
  | .function f none => places_signature f
  | .function f (some body) => by
      rw [Render.declaration, Declaration.fault?, Declaration.layout]
      cases body with
      | nil => apply (places_signature f).glued " \x7b\x7d"
      | cons b bs =>
          have h := ((places_signature f).glued " \x7b").enclosed
            (puts_blocks (b :: bs)) "\x7d"
          rw [Option.none_or, bind_assoc] at h
          exact h
  | .unspecified => runs_refuse _ _ _
  | .misplaced e => runs_refuse _ _ _

theorem puts_members (apart : Bool) :
    ∀ ds : List Declaration,
      Puts (Render.members apart ds) (membersFault? ds) (memberLines apart ds)
  | [] => puts_nil
  | d :: ds => by
      rw [Render.members, membersFault?, memberLines, List.append_assoc]
      apply (places_declaration d).puts
      dsimp only
      split
      · have h := (places_text "").puts (puts_members apart ds)
        rwa [Option.none_or] at h
      · apply puts_members apart ds

/-- Rendering an expression places its layout, or fails with its fault. -/
theorem places_expression :
    ∀ e : Expression, Places (Render.expression e) e.fault? e.layout
  | .identifier name => places_text _
  | .stringLiteral value => places_text _
  | .keyword word none => places_text _
  | .keyword word (some operand) => by
      have h := (places_text (word.text ++ " ")).glue (places_expression operand)
      rwa [Option.none_or] at h
  | .assignment left right => by
      have h := ((places_expression left).glued " = ").glue (places_expression right)
      rw [bind_assoc] at h
      exact h
  | .call callee args => by
      have hopening := (places_expression callee).glued "("
      rw [Render.expression, Expression.fault?, Expression.layout, ← bind_assoc]
      split
      · have h := (places_inlineArguments args hopening).glued ")"
        rw [bind_assoc] at h
        exact h
      · apply hopening.enclosed (puts_arguments args) ")"
  | .arrayLiteral es => by
      rw [Render.expression, Expression.fault?, Expression.layout]
      cases es with
      | nil => apply places_text _
      | cons e es =>
          have h := (places_text "[").enclosed (puts_elements (e :: es)) "]"
          rwa [Option.none_or] at h
  | .closure parameters body => by
      have h := (places_text (Render.closureHead parameters)).enclosed (puts_blocks body) "\x7d"
      rwa [Option.none_or] at h
  | .unspecified => runs_refuse _ _ _
  | .misplaced d => runs_refuse _ _ _

theorem places_inlineArguments :
    ∀ (args : List Argument) {a : Render Unit} {f : Option Unrenderable} {l : Layout},
      Places a f l →
      Places (a >>= fun _ => Render.inlineArguments args) (f.or (argumentsFault? args))
        (glueArguments l args)
  | [], a, f, l, ha => by
      exact ha.bind (fun s hs => hs.place l) (runs_texts [])
  | .mk label value :: args, a, f, l, ha => by
      have h := places_inlineArguments args (ha.glue ((places_expression value).labelled label))
      rw [Render.inlineArguments, argumentsFault?, glueArguments, ← Option.or_assoc]
      simp only [bind_assoc] at h
      exact h

theorem puts_arguments :
    ∀ args : List Argument,
      Puts (Render.arguments args) (argumentsFault? args) (argumentLines args)
  | [] => puts_nil
  | .mk label value :: args => by
      have hvalue := (places_expression value).labelled label
      rw [Render.arguments, argumentsFault?, argumentLines, ← bind_assoc]
      dsimp only
      split
      · apply hvalue.puts (puts_arguments args)
      · rw [← bind_assoc]
        apply (hvalue.glued ",").puts (puts_arguments args)

theorem puts_elements :
    ∀ es : List Expression,
      Puts (Render.elements es) (elementsFault? es) (elementLines es)
  | [] => puts_nil
  | e :: es => by
      have he := places_expression e
      rw [Render.elements, elementsFault?, elementLines]
      split
      · apply he.puts (puts_elements es)
      · rw [← bind_assoc]
        apply (he.glued ",").puts (puts_elements es)

/-- Rendering a block places its layout, or fails with its fault. -/
theorem places_block :
    ∀ b : Block, Places (Render.block b) b.fault? b.layout
  | .declaration d comment => (places_declaration d).under (commentTexts comment)
  | .expression e comment => (places_expression e).under (commentTexts comment)

theorem puts_blocks :
    ∀ bs : List Block, Puts (Render.blocks bs) (blocksFault? bs) (blockLines bs)
  | [] => puts_nil
  | b :: bs => (places_block b).puts (puts_blocks bs)

end

/-! ### Layouts in a room -/

namespace Scope

/-- The numbers of spaces in front of deep lines. -/
def spaces (s : Scope) (ls : List DeepLine) : List Int :=
  ls.map (fun l => s.width * (s.level + l.1))

/-- The lines of a layout that are started where it is placed. If its first text is glued, these
are the lines below it. -/
def begun (s : Scope) (l : Layout) : List DeepLine :=
  if s.glues && !s.newest.isEmpty then l.below else l.lines

theorem started_put (s : Scope) (ls : List DeepLine) (hs : s.Free) :
  s.Started (s.put ls) (s.spaces ls)
  := by
  refine ⟨hs, ?_⟩
  simp [put, indents, spaces, indented, Function.comp_def]

theorem started_place (s : Scope) (l : Layout) (hs : s.Free) :
  s.Started (s.place l) (s.spaces (s.begun l))
  := by
  refine ⟨hs.place l, ?_⟩
  rw [place, (started_put _ l.below (hs.added _)).indents]
  obtain ⟨room, width, lvl, newest, glues⟩ := s
  cases glues with
  | false => simp [added, begun, indents, spaces, Layout.lines, indent]
  | true =>
      cases newest with
      | nil => simp [added, begun, indents, spaces, Layout.lines, indent]
      | cons line older => simp [added, begun, indents, spaces]

theorem within_place (s : Scope) (room : Room) (l : Layout) :
  (s.within room).place l = (s.place l).within room
  := by
  have hadded : (s.within room).added l.first = (s.added l.first).within room := by
    obtain ⟨room', width, lvl, newest, glues⟩ := s
    cases glues with
    | false => rfl
    | true =>
        cases newest with
        | nil => rfl
        | cons line older => rfl
  rw [place, hadded]
  rfl

end Scope

namespace Places

variable {step : Render Unit} {l : Layout} {p q : Bool} {s : Scope}

theorem started_eq (h : Places step none l) (s : Scope) :
  Render.started step s = s.spaces (s.begun l)
  := by
  apply Scope.Started.started_eq
  have hfree : step (s.within .boundless) = .ok () ((s.within .boundless).place l) := h _ rfl
  rw [hfree]
  exact Scope.started_place _ l rfl

/-- A step places its layout where there is room for the lines that it starts. -/
theorem of_room (h : Places step none l) (hscript : Script p step q)
    (hroom : (s.spaces (s.begun l)).findSome? s.room.excess? = none) :
  step s = .ok () (s.place l)
  := by
  rw [← h.started_eq] at hroom
  have hfree : step (s.within .boundless) = .ok () ((s.within .boundless).place l) := h _ rfl
  rw [hscript.eq_moved hroom, hfree, Render.moved, ← Scope.within_place]
  rfl

/-- A step fails where there is no room for some of the lines that it starts. -/
theorem fails (h : Places step none l) (hscript : Script p step q) {cause : Excess}
    (hroom : (s.spaces (s.begun l)).findSome? s.room.excess? = some cause) :
  ∃ t, step s = .error (.excess cause) t
  := by
  rw [← h.started_eq] at hroom
  exact hscript.fails hroom

end Places

/-! ### Rendered lines -/

/-- So many spaces can be written: their number is below 2⁶³, and they fit in memory. -/
def Memory.Holds (m : Memory) (n : Int) : Prop :=
  n < 0x8000000000000000 ∧ n ≤ m.spaces

instance (m : Memory) (n : Int) : Decidable (m.Holds n) :=
  inferInstanceAs (Decidable (_ ∧ _))

theorem Memory.excess?_eq_none_iff (m : Memory) (n : Int) :
  m.room.excess? n = none ↔ -0x8000000000000000 ≤ n ∧ m.Holds n
  := by
  simp only [room, Holds]
  split
  · constructor
    · rintro ⟨⟩
    · omega
  · split
    · constructor
      · rintro ⟨⟩
      · omega
    · constructor
      · omega
      · intro _
        rfl

theorem Memory.excess?_eq_none_iff_of_nonneg (m : Memory) {n : Int} (h : 0 ≤ n) :
  m.room.excess? n = none ↔ m.Holds n
  := by
  rw [m.excess?_eq_none_iff]
  constructor
  · rintro ⟨-, hn⟩
    exact hn
  · intro hn
    exact ⟨by omega, hn⟩

/-- A step that succeeds from some scope. -/
def Renderable (step : Render Unit) : Prop :=
  ∃ s t, step s = .ok () t

/-- A deep line as it is written at a level, with the given width of a level. -/
def DeepLine.written (width level : Nat) (l : DeepLine) : String :=
  String.ofList (List.replicate (width * (level + l.1)) ' ') ++ l.2

/-- From a scope, a step comes to the given lines, with the level of the scope and nothing to be
glued. -/
def ComesTo (step : Render Unit) (s : Scope) (lines : List String) : Prop :=
  ∃ t, step s = .ok () t ∧ t.lines = lines ∧ t.level = s.level ∧ t.glues = false

/-- From a scope, a step fails since a line is indented too far. -/
def Overruns (step : Render Unit) (s : Scope) : Prop :=
  ∃ cause t, step s = .error (.excess cause) t

/-- A step adds the lines of a layout, whatever the width, the level and the lines before, if the
spaces in front of the lines can be written. -/
structure LaidOut (step : Render Unit) (l : Layout) : Prop where
  /-- Without a request to glue, all lines are new. -/
  fresh : ∀ (m : Memory) (n L : Nat) (P : List Line),
    (∀ d ∈ l.lines, m.Holds (n * (L + d.1) : Nat)) →
    ComesTo step ⟨m.room, n, L, P.reverse, false⟩
      (P.map Line.written ++ l.lines.map (DeepLine.written n L))
  /-- With a request to glue, the first text goes behind the last line before. -/
  glued : ∀ (m : Memory) (n L : Nat) (P : List Line) (p : Line),
    (∀ d ∈ l.below, m.Holds (n * (L + d.1) : Nat)) →
    ComesTo step ⟨m.room, n, L, (P ++ [p]).reverse, true⟩
      (P.map Line.written ++ (p.written ++ l.first) :: l.below.map (DeepLine.written n L))
  /-- Two widths give as many lines, with the same texts at the same depths. -/
  widths : ∀ (m m' : Memory) (n n' L : Nat) (P : List Line) (s s' : Scope),
    step ⟨m.room, n, L, P.reverse, false⟩ = .ok () s →
    step ⟨m'.room, n', L, P.reverse, false⟩ = .ok () s' →
    s.lines.length = s'.lines.length
      ∧ ∃ ls : List DeepLine, s.lines = P.map Line.written ++ ls.map (DeepLine.written n L)
        ∧ s'.lines = P.map Line.written ++ ls.map (DeepLine.written n' L)
  /-- A line with too many spaces ends the step. -/
  fresh_overruns : ∀ (m : Memory) (n L : Nat) (P : List Line),
    (¬ ∀ d ∈ l.lines, m.Holds (n * (L + d.1) : Nat)) →
    Overruns step ⟨m.room, n, L, P.reverse, false⟩
  /-- A line with too many spaces ends the step also if the first text is glued. -/
  glued_overruns : ∀ (m : Memory) (n L : Nat) (P : List Line) (p : Line),
    (¬ ∀ d ∈ l.below, m.Holds (n * (L + d.1) : Nat)) →
    Overruns step ⟨m.room, n, L, (P ++ [p]).reverse, true⟩

theorem written_indented (m : Memory) (n L : Nat) (newest : List Line) (glues : Bool)
    (l : DeepLine) :
  (Scope.indented ⟨m.room, n, L, newest, glues⟩ l).written = DeepLine.written n L l
  := by
  have hindent : ((n : Int) * ((L : Int) + (l.1 : Int))).toNat = n * (L + l.1) := by
    rw [← Int.natCast_add, ← Int.natCast_mul, Int.toNat_natCast]
  rw [Scope.indented, Line.written, hindent, DeepLine.written]

theorem lines_put (m : Memory) (n L : Nat) (newest : List Line) (glues : Bool)
    (ls : List DeepLine) :
  (Scope.put ⟨m.room, n, L, newest, glues⟩ ls).lines
    = newest.reverse.map Line.written ++ ls.map (DeepLine.written n L)
  := by
  simp only [Scope.put, Scope.lines, List.reverse_append, List.reverse_reverse, List.map_append,
    List.map_map]
  rw [List.append_cancel_left_eq]
  apply List.map_congr_left
  intro l _
  apply written_indented

/-- There is room for lines if the spaces in front of each of them can be written. -/
theorem findSome?_spaces_eq_none_iff (m : Memory) (n L : Nat) (newest : List Line) (glues : Bool)
    (ls : List DeepLine) :
  (Scope.spaces ⟨m.room, n, L, newest, glues⟩ ls).findSome? m.room.excess? = none
    ↔ ∀ d ∈ ls, m.Holds (n * (L + d.1) : Nat)
  := by
  rw [List.findSome?_eq_none_iff, Scope.spaces, List.forall_mem_map]
  have hcast : ∀ d : DeepLine, (n : Int) * ((L : Int) + (d.1 : Int)) = (n * (L + d.1) : Nat) := by
    intro d
    rw [Int.natCast_mul, Int.natCast_add]
  simp only [hcast, m.excess?_eq_none_iff_of_nonneg (Int.natCast_nonneg _)]

/-- Behind a request to glue, a layout begins the lines below its first text. -/
theorem begun_glued (m : Memory) (n L : Nat) (P : List Line) (line : Line) (l : Layout) :
  Scope.begun ⟨m.room, n, L, (P ++ [line]).reverse, true⟩ l = l.below
  := by
  rw [List.reverse_append]
  rfl

theorem place_glued (m : Memory) (n L : Nat) (P : List Line) (line : Line) (l : Layout) :
  Scope.place ⟨m.room, n, L, (P ++ [line]).reverse, true⟩ l
    = Scope.put ⟨m.room, n, L, ⟨line.indent, line.text ++ l.first⟩ :: P.reverse, false⟩ l.below
  := by
  rw [List.reverse_append]
  rfl

namespace Places

variable {step : Render Unit} {l : Layout} {p q : Bool}

theorem comesTo (h : Places step none l) (hscript : Script p step q) {s : Scope}
    (hroom : (s.spaces (s.begun l)).findSome? s.room.excess? = none) {lines : List String}
    (hlines : (s.place l).lines = lines) (hlevel : (s.place l).level = s.level) :
  ComesTo step s lines
  := ⟨s.place l, h.of_room hscript hroom, hlines, hlevel, s.settled_place l⟩

theorem overruns (h : Places step none l) (hscript : Script p step q) {s : Scope}
    (hroom : ¬ (s.spaces (s.begun l)).findSome? s.room.excess? = none) :
  Overruns step s
  := by
  obtain ⟨cause, hcause⟩ := Option.ne_none_iff_exists'.mp hroom
  exact ⟨cause, h.fails hscript hcause⟩

section Fresh

variable (h : Places step none l) (hscript : Script p step q) (m : Memory) (n L : Nat)
  (P : List Line)

include h hscript

theorem comesTo_fresh (hholds : ∀ d ∈ l.lines, m.Holds (n * (L + d.1) : Nat)) :
  ComesTo step ⟨m.room, n, L, P.reverse, false⟩
    (P.map Line.written ++ l.lines.map (DeepLine.written n L))
  := by
  have hplace := Scope.place_eq_of_settled (s := ⟨m.room, n, L, P.reverse, false⟩) rfl l
  apply h.comesTo hscript
  · exact (findSome?_spaces_eq_none_iff ..).mpr hholds
  · rw [hplace, lines_put, List.reverse_reverse]
  · rw [hplace]
    rfl

theorem overruns_fresh (hholds : ¬ ∀ d ∈ l.lines, m.Holds (n * (L + d.1) : Nat)) :
  Overruns step ⟨m.room, n, L, P.reverse, false⟩
  := by
  apply h.overruns hscript
  intro hnone
  apply hholds
  exact (findSome?_spaces_eq_none_iff ..).mp hnone

/-- A step that succeeds has added the lines of its layout. -/
theorem lines_of_fresh {s : Scope} (hs : step ⟨m.room, n, L, P.reverse, false⟩ = .ok () s) :
  s.lines = P.map Line.written ++ l.lines.map (DeepLine.written n L)
  := by
  by_cases hholds : ∀ d ∈ l.lines, m.Holds (n * (L + d.1) : Nat)
  · obtain ⟨t, ht, hlines, -⟩ := h.comesTo_fresh hscript m n L P hholds
    rw [hs] at ht
    cases ht
    exact hlines
  · obtain ⟨cause, t, ht⟩ := h.overruns_fresh hscript m n L P hholds
    rw [hs] at ht
    cases ht

end Fresh

section Glued

variable (h : Places step none l) (hscript : Script p step q) (m : Memory) (n L : Nat)
  (P : List Line) (line : Line)

include h hscript

theorem comesTo_glued (hholds : ∀ d ∈ l.below, m.Holds (n * (L + d.1) : Nat)) :
  ComesTo step ⟨m.room, n, L, (P ++ [line]).reverse, true⟩
    (P.map Line.written ++ (line.written ++ l.first) :: l.below.map (DeepLine.written n L))
  := by
  apply h.comesTo hscript
  · rw [begun_glued]
    exact (findSome?_spaces_eq_none_iff ..).mpr hholds
  · rw [place_glued, lines_put]
    simp [Line.written, String.append_assoc]
  · rw [place_glued]
    rfl

theorem overruns_glued (hholds : ¬ ∀ d ∈ l.below, m.Holds (n * (L + d.1) : Nat)) :
  Overruns step ⟨m.room, n, L, (P ++ [line]).reverse, true⟩
  := by
  apply h.overruns hscript
  rw [begun_glued]
  intro hnone
  apply hholds
  exact (findSome?_spaces_eq_none_iff ..).mp hnone

end Glued

theorem laidOut (h : Places step none l) (hscript : Script p step q) :
  LaidOut step l
  := by
  constructor
  · apply h.comesTo_fresh hscript
  · apply h.comesTo_glued hscript
  · intro m m' n n' L P s s' hs hs'
    have hlines := h.lines_of_fresh hscript m n L P hs
    have hlines' := h.lines_of_fresh hscript m' n' L P hs'
    constructor
    · simp only [hlines, hlines', List.length_append, List.length_map]
    · exact ⟨l.lines, hlines, hlines'⟩
  · apply h.overruns_fresh hscript
  · apply h.overruns_glued hscript

/-- A step that succeeds somewhere has no fault, and is laid out everywhere. -/
theorem laidOut_of_renderable {f : Option Unrenderable} (h : Places step f l)
    (hscript : Script p step q) (hstep : Renderable step) :
  LaidOut step l
  := by
  cases f with
  | none => exact h.laidOut hscript
  | some e =>
      obtain ⟨s, t, hst⟩ := hstep
      obtain ⟨u, hu⟩ := hscript.exists_ok_boundless hst
      obtain ⟨v, hv⟩ := h (s.within .boundless) rfl
      rw [hu] at hv
      cases hv

/-- A step without a fault succeeds where there is room for any line. -/
theorem renderable (h : Places step none l) :
  Renderable step
  := ⟨{ room := .boundless, width := 0 }, _, h _ rfl⟩

end Places

/-- Rendering is laying out: every declaration, expression or block that can be rendered has a
layout, which depends on the tree alone, and rendering adds its lines if the spaces in front of
them can be written. -/
theorem rendering_adds_layout :
  (∀ d : Declaration, Renderable (Render.declaration d) →
      LaidOut (Render.declaration d) d.layout)
    ∧ (∀ e : Expression, Renderable (Render.expression e) →
      LaidOut (Render.expression e) e.layout)
    ∧ (∀ b : Block, Renderable (Render.block b) → LaidOut (Render.block b) b.layout)
  := by
  refine ⟨?_, ?_, ?_⟩
  · intro d h
    exact (places_declaration d).laidOut_of_renderable (script_declaration d false) h
  · intro e h
    exact (places_expression e).laidOut_of_renderable (script_expression e false) h
  · intro b h
    exact (places_block b).laidOut_of_renderable (script_block b false) h

/-- A call with a closure among its arguments, as the value of a constant in a function. -/
def nestedSample : Declaration :=
  .commented (some ⟨.doc, "Starts.\n\nTwice."⟩)
    (.function { name := "start", parameters := [⟨"with", "Router", some "router"⟩] }
      (some [.declaration (.constant none "handler" false none
        (some (.call (.identifier "router.register")
          [.mk (some "name") (.stringLiteral "ping"),
            .mk (some "handler") (.closure ["request"]
              [.expression (.keyword .returnValue (some (.arrayLiteral
                [.identifier "request", .identifier "self"]))) none])]))) none]))

theorem nestedSample_laidOut :
  Renderable (Render.declaration nestedSample)
    ∧ LaidOut (Render.declaration nestedSample) nestedSample.layout
  := by
  have h : Renderable (Render.declaration nestedSample) :=
    (places_declaration nestedSample).renderable
  exact ⟨h, rendering_adds_layout.1 nestedSample h⟩

/-- An enum with one alias. -/
def aliasEnum : Declaration :=
  .enumeration none "A" [.typeAlias none "B" "C"]

/-- With a level of 2⁶³ spaces, an enum that can be rendered is not, whatever the memory. -/
theorem aliasEnum_overruns :
  Renderable (Render.declaration aliasEnum)
    ∧ ∀ m : Memory, ¬ ∃ t, Render.declaration aliasEnum
      { room := m.room, width := 0x8000000000000000 } = .ok () t
  := by
  have hplaces : Places (Render.declaration aliasEnum) none aliasEnum.layout :=
    places_declaration aliasEnum
  refine ⟨hplaces.renderable, ?_⟩
  rintro m ⟨t, ht⟩
  have hlayout := hplaces.laidOut (script_declaration aliasEnum false)
  obtain ⟨cause, u, hu⟩ := hlayout.fresh_overruns m 0x8000000000000000 0 [] (by
    intro h
    have halias : ((1, "typealias B = C") : DeepLine) ∈ aliasEnum.layout.lines := by decide
    exact absurd (h _ halias).1 (by decide))
  cases ht.symm.trans hu

end SwiftStubs.Swift
