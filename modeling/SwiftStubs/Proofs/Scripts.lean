import SwiftStubs.Proofs.Layout

/-!
# What rendering is made of

However a tree is rendered, it comes down to a few things: a text is added, the next one is asked
to be glued, a part is refused, one thing follows another, or it is done one level further in.
Gluing is asked for, and a level is gone into, only behind a text. `Script` says so of a step, and
`script_declaration` and its companions say it of trees. What holds of all scripts needs no
further look at trees.

How much room there is for lines decides only how far a script comes. With enough of it a script
does what it does in a boundless room (`Script.eq_moved`), and else it fails at the first line that
has no room (`Script.fails`).
-/

namespace SwiftStubs.Swift

/-! ### Scripts -/

/-- A step of rendering that is made of texts, requests to glue and refusals. The first flag says
that a text has been added before the step, and the second that one has been after it. -/
inductive Script : Bool → Render Unit → Bool → Prop where
  | done (p : Bool) : Script p (pure ()) p
  | text (p : Bool) (t : String) : Script p (Render.text t) true
  | glueNext : Script true Render.glueNext true
  | refuse (p q : Bool) (due : NodeSort) (kind : String) : Script p (Render.refuse due kind) q
  | next {p q r : Bool} {a b : Render Unit} (ha : Script p a q) (hb : Script q b r) :
    Script p (a >>= fun _ => b) r
  | nested {a : Render Unit} (ha : Script true a true) : Script true (Render.nested a) true
  | forget {p : Bool} {a : Render Unit} (ha : Script p a true) : Script p a false

namespace Script

variable {p : Bool} {a b : Render Unit}

theorem of_begun (ha : Script p a true) (q : Bool) :
  Script p a q
  := by
  cases q with
  | false => exact ha.forget
  | true => exact ha

theorem glued (t : String) :
  Script true (Render.glued t) true
  := .next .glueNext (.text true t)

theorem texts (ts : List String) (p : Bool) :
  Script p (Render.texts ts) p
  := by
  induction ts generalizing p with
  | nil => exact .done p
  | cons t ts ih => exact (Script.next (.text p t) (ih true)).of_begun p

theorem braced (heading : String) (hb : Script true b true) (p : Bool) :
  Script p (Render.braced heading b) true
  := .next (.text p _) (.next hb.nested (.text true _))

theorem label (l : Option String) (p : Bool) :
  Script p (Render.label l) p
  := by
  cases l with
  | none => exact .done p
  | some l => exact (Script.next (.text p _) .glueNext).of_begun p

theorem signature (f : Signature) (p : Bool) :
  Script p (Render.signature f) true
  := by
  rw [Render.signature]
  split
  · exact .text p _
  · exact .text p _
  · exact .next (.text p _) (.next (texts _ true).nested (.text true _))

end Script

/-! ### Trees are scripts -/

mutual

theorem script_declaration :
    ∀ (d : Declaration) (p : Bool), Script p (Render.declaration d) true
  | .commented _ d, p => .next (.texts _ p) (script_declaration d p)
  | .guarded availability d, p => .next (.text p _) (script_declaration d true)
  | .enumeration access name ms, p => by
      rw [Render.declaration]
      split
      · exact .text p _
      · exact .braced _ (script_members false ms) p
  | .protocol access name conformances ms, p => by
      rw [Render.declaration]
      split
      · exact .text p _
      · exact .braced _ (script_members false ms) p
  | .struct access name conformances ms, p => by
      rw [Render.declaration]
      split
      · exact .text p _
      · exact .braced _ (script_members true ms) p
  | .extension access type conformances ms, p => .braced _ (script_members false ms) p
  | .typeAlias access name target, p => .text p _
  | .constant access name isStatic type none, p => .text p _
  | .constant access name isStatic type (some value), p =>
      .next (.text p _) (.next .glueNext (script_expression value true))
  | .function f none, p => .signature f p
  | .function f (some body), p => by
      rw [Render.declaration]
      apply Script.next (.signature f p)
      split
      · exact .glued _
      · exact .next (.glued _) (.next (script_blocks body true).nested (.text true _))
  | .unspecified, p => .refuse p true _ _
  | .misplaced e, p => .refuse p true _ _

theorem script_members (apart : Bool) :
    ∀ ds : List Declaration, Script true (Render.members apart ds) true
  | [] => .done true
  | d :: ds => by
      rw [Render.members]
      apply Script.next (script_declaration d true)
      split
      · exact .next (.text true _) (script_members apart ds)
      · exact script_members apart ds

theorem script_expression :
    ∀ (e : Expression) (p : Bool), Script p (Render.expression e) true
  | .identifier name, p => .text p _
  | .stringLiteral value, p => .text p _
  | .keyword word none, p => .text p _
  | .keyword word (some operand), p =>
      .next (.text p _) (.next .glueNext (script_expression operand true))
  | .assignment left right, p =>
      .next (script_expression left p)
        (.next (.glued _) (.next .glueNext (script_expression right true)))
  | .call callee args, p => by
      rw [Render.expression]
      apply Script.next (script_expression callee p)
      apply Script.next (.glued _)
      split
      · exact .next (script_inlineArguments args) (.glued _)
      · exact .next (script_arguments args).nested (.text true _)
  | .arrayLiteral es, p => by
      rw [Render.expression]
      split
      · exact .text p _
      · exact .next (.text p _) (.next (script_elements es).nested (.text true _))
  | .closure parameters body, p =>
      .next (.text p _) (.next (script_blocks body true).nested (.text true _))
  | .unspecified, p => .refuse p true _ _
  | .misplaced d, p => .refuse p true _ _

theorem script_inlineArguments :
    ∀ args : List Argument, Script true (Render.inlineArguments args) true
  | [] => .done true
  | .mk l value :: args =>
      .next .glueNext (.next (.label l true)
        (.next (script_expression value true) (script_inlineArguments args)))

theorem script_arguments :
    ∀ args : List Argument, Script true (Render.arguments args) true
  | [] => .done true
  | .mk l value :: args => by
      rw [Render.arguments]
      apply Script.next (.label l true)
      apply Script.next (script_expression value true)
      split
      · exact script_arguments args
      · exact .next (.glued _) (script_arguments args)

theorem script_elements :
    ∀ es : List Expression, Script true (Render.elements es) true
  | [] => .done true
  | e :: es => by
      rw [Render.elements]
      apply Script.next (script_expression e true)
      split
      · exact script_elements es
      · exact .next (.glued _) (script_elements es)

theorem script_block :
    ∀ (b : Block) (p : Bool), Script p (Render.block b) true
  | .declaration d _, p => .next (.texts _ p) (script_declaration d p)
  | .expression e _, p => .next (.texts _ p) (script_expression e p)

theorem script_blocks :
    ∀ (bs : List Block) (p : Bool), Script p (Render.blocks bs) p
  | [], p => .done p
  | b :: bs, p => (Script.next (script_block b p) (script_blocks bs true)).of_begun p

end

theorem script_spacedBlocks (bs : List Block) (p : Bool) :
  Script p (Render.spacedBlocks bs) p
  := by
  induction bs generalizing p with
  | nil => exact .done p
  | cons b bs ih =>
      rw [Render.spacedBlocks]
      apply Script.of_begun
      apply Script.next (script_block b p)
      split
      · exact ih true
      · exact .next (.text true _) (ih true)

theorem script_file (f : File) (p : Bool) :
  Script p (Render.file f) p
  := by
  have himports : ∀ p, Script p (if f.imports.isEmpty then Render.spacedBlocks f.blocks
      else Render.texts (f.imports.flatMap Import.lines) >>= fun _ => Render.text "" >>= fun _ =>
        Render.spacedBlocks f.blocks) p := by
    intro p
    split
    · exact script_spacedBlocks f.blocks p
    · apply Script.of_begun
      exact .next (.texts _ p) (.next (.text p _) (script_spacedBlocks f.blocks true))
  unfold Render.file
  cases f.topComment with
  | none => exact himports p
  | some c =>
      apply Script.of_begun
      exact .next (.texts _ p) (.next (.text p _) (himports true))

/-! ### Scripts in a room -/

/-- Room for any number of spaces. -/
def Room.boundless : Room where
  excess? _ := none

namespace Scope

/-- A scope with another room. -/
def within (s : Scope) (room : Room) : Scope :=
  { s with room := room }

/-- The numbers of spaces in front of the lines, the newest first. -/
def indents (s : Scope) : List Int :=
  s.newest.map Line.indent

/-- A scope that has come from another one, in a boundless room, by starting lines with the given
numbers of spaces. -/
structure Started (s t : Scope) (new : List Int) : Prop where
  boundless : t.room = .boundless
  indents : t.indents = new.reverse ++ s.indents

theorem Started.trans {s t u : Scope} {new new' : List Int} (hst : s.Started t new)
    (htu : t.Started u new') :
  s.Started u (new ++ new')
  := by
  refine ⟨htu.boundless, ?_⟩
  rw [htu.indents, hst.indents, List.reverse_append, List.append_assoc]

end Scope

namespace Render

/-- What a step results in. -/
abbrev Result := EStateM.Result RenderError Scope Unit

/-- The scope that a result leaves. -/
def left : Result → Scope
  | .ok _ t => t
  | .error _ t => t

/-- A result in another room. -/
def moved (room : Room) : Result → Result
  | .ok a t => .ok a (t.within room)
  | .error e t => .error e (t.within room)

/-- The numbers of spaces in front of the lines that a step starts from a scope, in their order, as
far as the step comes in a boundless room. -/
def started (step : Render Unit) (s : Scope) : List Int :=
  let after := left (step (s.within .boundless))
  (after.indents.take (after.indents.length - s.indents.length)).reverse

end Render

/-- From a scope in a boundless room, a step starts lines with the given numbers of spaces. In any
other room it does the same, or fails at the first line that has no room. -/
structure Starts (step : Render Unit) (s : Scope) (new : List Int) : Prop where
  started : s.Started (Render.left (step s)) new
  moved : ∀ room : Room, new.findSome? room.excess? = none →
    step (s.within room) = Render.moved room (step s)
  fails : ∀ (room : Room) (cause : Excess), new.findSome? room.excess? = some cause →
    ∃ t, step (s.within room) = .error (.excess cause) t

theorem Render.text_of_none {s : Scope} (h : s.excess? = none) (t : String) :
  Render.text t s = .ok () (s.added t)
  := by
  rw [Render.text, Scope.add, h]

theorem Render.text_of_some {s : Scope} {cause : Excess} (h : s.excess? = some cause) (t : String) :
  Render.text t s = .error (.excess cause) s
  := by
  rw [Render.text, Scope.add, h]

/-- A text that starts a line needs room for the spaces in front of it. -/
theorem starts_text {s : Scope} (hs : s.room = .boundless) (hnew : s.glues = true → s.newest = [])
    (t : String) :
  Starts (Render.text t) s [s.indent]
  := by
  obtain ⟨room, width, level, newest, glues⟩ := s
  obtain rfl : room = .boundless := hs
  have hexcess : ∀ room, Scope.excess? ⟨room, width, level, newest, glues⟩
      = room.excess? (width * level) := by
    intro room
    rw [Scope.excess?]
    grind [Scope.indent]
  have hadded : ∀ room, Scope.added ⟨room, width, level, newest, glues⟩ t
      = ⟨room, width, level, ⟨width * level, t⟩ :: newest, false⟩ := by
    intro room
    rw [Scope.added]
    grind [Scope.indent]
  have htext := Render.text_of_none (hexcess .boundless) t
  refine ⟨?_, ?_, ?_⟩
  · rw [htext, hadded]
    exact ⟨rfl, rfl⟩
  · intro room hnone
    have hroom : room.excess? (width * level) = none := by simpa [Scope.indent] using hnone
    rw [htext, hadded, Scope.within, Render.text_of_none ((hexcess room).trans hroom), hadded]
    rfl
  · intro room cause hsome
    have hroom : room.excess? (width * level) = some cause := by simpa [Scope.indent] using hsome
    exact ⟨_, Render.text_of_some ((hexcess room).trans hroom) t⟩

theorem exists_starts_text {s : Scope} (hs : s.room = .boundless) (t : String) :
  ∃ new, Starts (Render.text t) s new
  := by
  by_cases hnew : s.glues = true → s.newest = []
  · exact ⟨_, starts_text hs hnew t⟩
  · obtain ⟨room, width, level, newest, glues⟩ := s
    obtain ⟨rfl, hnewest⟩ : glues = true ∧ ¬ newest = [] := by simpa using hnew
    cases newest with
    | nil => exact absurd rfl hnewest
    | cons line older => exact ⟨[], ⟨hs, rfl⟩, fun _ _ => rfl, nofun⟩

theorem Render.then_of_ok {a b : Render Unit} {s t : Scope} (h : a s = .ok () t) :
  (a >>= fun _ => b) s = b t
  := by
  simp only [Bind.bind, EStateM.bind, h]

theorem Render.then_of_error {a b : Render Unit} {s t : Scope} {e : RenderError}
    (h : a s = .error e t) :
  (a >>= fun _ => b) s = .error e t
  := by
  simp only [Bind.bind, EStateM.bind, h]

namespace Starts

variable {a b : Render Unit} {s t : Scope} {new new' : List Int}

/-- The lines of a step that follows another one come behind those of the other one. -/
theorem next (ha : Starts a s new) (h : a s = .ok () t) (hb : Starts b t new') :
  Starts (a >>= fun _ => b) s (new ++ new')
  := by
  have hmoved : ∀ room, new.findSome? room.excess? = none →
      a (s.within room) = .ok () (t.within room) := by
    intro room hnew
    rw [ha.moved room hnew, h]
    rfl
  refine ⟨?_, ?_, ?_⟩
  · have hst := ha.started
    rw [h] at hst
    rw [Render.then_of_ok h]
    exact hst.trans hb.started
  · intro room hnone
    rw [List.findSome?_append, Option.or_eq_none_iff] at hnone
    rw [Render.then_of_ok (hmoved room hnone.1), Render.then_of_ok h, hb.moved room hnone.2]
  · intro room cause hsome
    rw [List.findSome?_append, Option.or_eq_some_iff] at hsome
    obtain hnew | ⟨hnew, hnew'⟩ := hsome
    · obtain ⟨u, hu⟩ := ha.fails room cause hnew
      exact ⟨u, Render.then_of_error hu⟩
    · obtain ⟨u, hu⟩ := hb.fails room cause hnew'
      use u
      rw [Render.then_of_ok (hmoved room hnew), hu]

/-- Behind a step that fails no line is started. -/
theorem failed {e : RenderError} (ha : Starts a s new) (h : a s = .error e t) :
  Starts (a >>= fun _ => b) s new
  := by
  refine ⟨?_, ?_, ?_⟩
  · have hst := ha.started
    rw [h] at hst
    rwa [Render.then_of_error h]
  · intro room hnew
    have hroom := ha.moved room hnew
    rw [h] at hroom
    rw [Render.then_of_error hroom, Render.then_of_error h]
    rfl
  · intro room cause hnew
    obtain ⟨u, hu⟩ := ha.fails room cause hnew
    exact ⟨u, Render.then_of_error hu⟩

theorem nested (ha : Starts a s.enter new) :
  Starts (Render.nested a) s new
  := by
  have hmoved : ∀ room, (s.within room).enter = s.enter.within room := fun _ => rfl
  refine ⟨?_, ?_, ?_⟩
  · have hst := ha.started
    rw [Render.nested]
    cases h : a s.enter with
    | ok _ t =>
        rw [h] at hst
        exact ⟨hst.boundless, hst.indents⟩
    | error e t =>
        rw [h] at hst
        exact ⟨hst.boundless, hst.indents⟩
  · intro room hnew
    rw [Render.nested, hmoved, ha.moved room hnew, Render.nested]
    cases a s.enter with
    | ok _ t => rfl
    | error e t => rfl
  · intro room cause hnew
    obtain ⟨u, hu⟩ := ha.fails room cause hnew
    use u.leave
    rw [Render.nested, hmoved, hu]

end Starts

theorem Script.exists_starts {p q : Bool} {a : Render Unit} (h : Script p a q) {s : Scope}
    (hs : s.room = .boundless) :
  ∃ new, Starts a s new
  := by
  induction h generalizing s with
  | done p => exact ⟨[], ⟨hs, rfl⟩, fun _ _ => rfl, nofun⟩
  | text p t => exact exists_starts_text hs t
  | glueNext => exact ⟨[], ⟨hs, rfl⟩, fun _ _ => rfl, nofun⟩
  | refuse p q due kind => exact ⟨[], ⟨hs, rfl⟩, fun _ _ => rfl, nofun⟩
  | @next p q r a b ha hb iha ihb =>
      obtain ⟨new, ha⟩ := iha hs
      cases h : a s with
      | error e t => exact ⟨new, ha.failed h⟩
      | ok _ t =>
          have hst := ha.started
          rw [h] at hst
          obtain ⟨new', hb⟩ := ihb hst.boundless
          exact ⟨new ++ new', ha.next h hb⟩
  | nested ha ih =>
      obtain ⟨new, ha⟩ := ih (s := s.enter) hs
      exact ⟨new, ha.nested⟩
  | forget ha ih => exact ih hs

theorem Scope.Started.started_eq {step : Render Unit} {s : Scope} {new : List Int}
    (h : (s.within .boundless).Started (Render.left (step (s.within .boundless))) new) :
  Render.started step s = new
  := by
  have hindents : (Render.left (step (s.within .boundless))).indents = new.reverse ++ s.indents :=
    h.indents
  simp only [Render.started, hindents]
  rw [List.length_append, Nat.add_sub_cancel, List.take_left, List.reverse_reverse]

namespace Script

variable {p q : Bool} {step : Render Unit} {s : Scope}

theorem starts (h : Script p step q) (s : Scope) :
  Starts step (s.within .boundless) (Render.started step s)
  := by
  obtain ⟨new, hnew⟩ := h.exists_starts (s := s.within .boundless) rfl
  rwa [hnew.started.started_eq]

/-- If there is room for the lines, a script does what it does in a boundless room. -/
theorem eq_moved (h : Script p step q)
    (hroom : (Render.started step s).findSome? s.room.excess? = none) :
  step s = Render.moved s.room (step (s.within .boundless))
  := (h.starts s).moved s.room hroom

/-- If there is no room for some of the lines, a script fails at the first of these. -/
theorem fails (h : Script p step q) {cause : Excess}
    (hroom : (Render.started step s).findSome? s.room.excess? = some cause) :
  ∃ t, step s = .error (.excess cause) t
  := (h.starts s).fails s.room cause hroom

/-- What succeeds in some room succeeds in a boundless one. -/
theorem exists_ok_boundless (h : Script p step q) {t : Scope} (hs : step s = .ok () t) :
  ∃ u, step (s.within .boundless) = .ok () u
  := by
  cases hroom : (Render.started step s).findSome? s.room.excess? with
  | some cause =>
      obtain ⟨u, hu⟩ := h.fails hroom
      rw [hs] at hu
      cases hu
  | none =>
      have hmoved := h.eq_moved hroom
      rw [hs] at hmoved
      cases hfree : step (s.within .boundless) with
      | ok _ u => exact ⟨u, rfl⟩
      | error e u =>
          rw [hfree] at hmoved
          cases hmoved

end Script

end SwiftStubs.Swift
