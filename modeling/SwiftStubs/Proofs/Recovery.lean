import SwiftStubs.Proofs.Nodes

/-!
# Rendering that fails

Rendering can fail anywhere in a tree, at any depth and with a text about to be glued: at an
ill-sorted node, or at a line that has no room. Wherever it ends, the scope is the one from before
or has a layout placed in it (`Scope.Comes`): a level that was gone into has been left, and lines
from before are touched only where gluing was asked for. This holds of all scripts. What a renderer
is asked for next starts from scratch.
-/

namespace SwiftStubs.Swift

/-! ### Scopes that rendering comes to -/

namespace Scope

/-- A scope some levels further in than another one, behind a layout that has been placed in the
other one. -/
def Begins (s : Scope) (depth : Nat) (t : Scope) : Prop :=
  ∃ (l : Layout) (glues : Bool), t = { s.place l with level := s.level + depth, glues := glues }

/-- A scope that a script comes to from another one. It may still be the other one, unless a text
has been added. -/
def Comes (s : Scope) (begun : Bool) (depth : Nat) (t : Scope) : Prop :=
  s.Begins depth t ∨ (begun = false ∧ depth = 0 ∧ t = s)

variable {s t : Scope} {begun : Bool} {depth : Nat}

/-- A layout leaves a line that a text can be glued to. -/
theorem exists_newest_place (s : Scope) (l : Layout) :
  ∃ line older, (s.place l).newest = line :: older
  := by
  obtain ⟨indent, start, older, hadded⟩ := s.added_eq_amend
  rw [place, hadded]
  apply List.exists_cons_of_ne_nil
  simp [put, amend]

theorem level_place (s : Scope) (l : Layout) :
  (s.place l).level = s.level
  := by
  obtain ⟨indent, start, older, hadded⟩ := s.added_eq_amend
  rw [place, hadded]
  rfl

/-- A text is glued to the newest line at whatever level. -/
theorem added_of_newest {line : Line} {older : List Line} (h : s.newest = line :: older)
    (level : Int) (text : String) :
  added { s with level := level, glues := true } text
    = { s.glue.place (.text text) with level := level, glues := false }
  := by
  obtain ⟨room, width, level', newest, glues⟩ := s
  obtain rfl : newest = line :: older := h
  rfl

/-- A text that is not glued becomes a line at the level of the scope. -/
theorem added_of_level (s : Scope) (depth : Nat) (text : String) :
  added { s with level := s.level + depth, glues := false } text
    = { s.put [(depth, text)] with level := s.level + depth, glues := false }
  := rfl

theorem Begins.added (h : s.Begins depth t) (text : String) :
  s.Begins depth (t.added text)
  := by
  obtain ⟨l, glues, rfl⟩ := h
  cases glues with
  | true =>
      obtain ⟨line, older, hnewest⟩ := s.exists_newest_place l
      refine ⟨l.glue (.text text), false, ?_⟩
      rw [added_of_newest hnewest, place_glue]
  | false =>
      refine ⟨l.extend [(depth, text)], false, ?_⟩
      rw [← place_extend, ← level_place s l, added_of_level]

theorem Begins.enter (h : s.Begins depth t) :
  s.Begins (depth + 1) t.enter
  := by
  obtain ⟨l, glues, rfl⟩ := h
  refine ⟨l, glues, ?_⟩
  rw [Scope.enter, Int.natCast_add, ← Int.add_assoc]
  rfl

theorem Begins.leave (h : s.Begins (depth + 1) t) :
  s.Begins depth t.leave
  := by
  obtain ⟨l, glues, rfl⟩ := h
  refine ⟨l, glues, ?_⟩
  have hlevel : s.level + ((depth + 1 : Nat) : Int) - 1 = s.level + depth := by omega
  rw [Scope.leave, hlevel]

theorem Comes.begins (h : s.Comes true depth t) :
  s.Begins depth t
  := by
  obtain h | ⟨⟨⟩, -⟩ := h
  exact h

theorem Comes.forget (h : s.Comes begun depth t) :
  s.Comes false depth t
  := by
  obtain h | ⟨-, hdepth, rfl⟩ := h
  · exact .inl h
  · exact .inr ⟨rfl, hdepth, rfl⟩

theorem Comes.added (h : s.Comes begun depth t) (text : String) :
  s.Begins depth (t.added text)
  := by
  obtain h | ⟨-, rfl, rfl⟩ := h
  · exact h.added text
  · refine ⟨.text text, false, ?_⟩
    have hlevel := level_place t (.text text)
    have hsettled := settled_place t (.text text)
    show t.place (.text text) = _
    generalize t.place (.text text) = u at hlevel hsettled
    obtain ⟨room, width, level, newest, glues⟩ := u
    obtain rfl : glues = false := hsettled
    obtain rfl : level = t.level := hlevel
    simp

end Scope

/-- Wherever a script ends, it has come to a scope behind those it started from. -/
theorem Script.comes {p q : Bool} {a : Render Unit} (h : Script p a q) {s t : Scope} {depth : Nat}
    (ht : s.Comes p depth t) :
  (∀ u, a t = .ok () u → s.Comes q depth u) ∧ ∀ e u, a t = .error e u → s.Comes false depth u
  := by
  induction h generalizing t depth with
  | done p =>
      constructor
      · rintro u ⟨⟩
        exact ht
      · rintro e u ⟨⟩
  | text p text =>
      cases hexcess : t.excess? with
      | none =>
          rw [Render.text_of_none hexcess]
          constructor
          · rintro u ⟨⟩
            exact .inl (ht.added text)
          · rintro e u ⟨⟩
      | some cause =>
          rw [Render.text_of_some hexcess]
          constructor
          · rintro u ⟨⟩
          · rintro e u ⟨⟩
            exact ht.forget
  | glueNext =>
      constructor
      · rintro u ⟨⟩
        obtain ⟨l, glues, rfl⟩ := ht.begins
        exact .inl ⟨l, true, rfl⟩
      · rintro e u ⟨⟩
  | refuse p q due kind =>
      constructor
      · rintro u ⟨⟩
      · rintro e u ⟨⟩
        exact ht.forget
  | @next p q r a b ha hb iha ihb =>
      obtain ⟨hok, herror⟩ := iha ht
      cases h : a t with
      | ok _ u =>
          rw [Render.then_of_ok h]
          exact ihb (hok u h)
      | error e u =>
          rw [Render.then_of_error h]
          constructor
          · rintro u ⟨⟩
          · rintro e u ⟨⟩
            exact herror _ _ h
  | @nested a ha ih =>
      obtain ⟨hok, herror⟩ := ih (.inl ht.begins.enter)
      rw [Render.nested]
      cases h : a t.enter with
      | ok _ u =>
          constructor
          · rintro u ⟨⟩
            exact .inl (hok _ h).begins.leave
          · rintro e u ⟨⟩
      | error e u =>
          constructor
          · rintro u ⟨⟩
          · rintro e u ⟨⟩
            obtain h | ⟨-, ⟨⟩, -⟩ := herror _ _ h
            exact .inl h.leave
  | forget ha ih =>
      obtain ⟨hok, herror⟩ := ih ht
      exact ⟨fun u hu => (hok u hu).forget, herror⟩

/-! ### What is kept -/

/-- The lines of a scope are still there in another one of the same room, width and level, the last
one with more text if it was asked to glue. -/
structure Scope.Keeps (s t : Scope) : Prop where
  room : t.room = s.room
  width : t.width = s.width
  level : t.level = s.level
  lines : s.glues = false → ∃ new, t.lines = s.lines ++ new
  glued : s.glues = true → ∀ older last, s.lines = older ++ [last] →
    ∃ more new, t.lines = older ++ (last ++ more) :: new

theorem Scope.lines_put (s : Scope) (ls : List DeepLine) :
  (s.put ls).lines = s.lines ++ ls.map (fun l => (s.indented l).written)
  := by
  simp [put, lines, Function.comp_def]

/-- A text that is glued goes behind the last line. -/
theorem Scope.lines_place_of_glues {s : Scope} (h : s.glues = true) {older : List String}
    {last : String} (hlines : s.lines = older ++ [last]) (l : Layout) :
  ∃ new, (s.place l).lines = older ++ (last ++ l.first) :: new
  := by
  obtain ⟨room, width, level, newest, glues⟩ := s
  obtain rfl : glues = true := h
  cases newest with
  | nil =>
      have hlength := congrArg List.length hlines
      simp [lines] at hlength
  | cons line rest =>
      rw [lines, List.reverse_cons, List.map_append] at hlines
      obtain ⟨holder, hlast⟩ := List.append_inj' hlines rfl
      obtain rfl : line.written = last := by simpa using hlast
      use l.below.map (fun d => (Scope.indented ⟨room, width, level, [], false⟩ d).written)
      rw [place, lines_put, ← holder]
      simp [added, lines, Line.written, String.append_assoc, indented]

theorem Scope.Comes.keeps {s t : Scope} (h : s.Comes false 0 t) :
  s.Keeps t
  := by
  obtain ⟨l, glues, rfl⟩ | ⟨-, -, rfl⟩ := h
  · obtain ⟨indent, start, older, hadded⟩ := s.added_eq_amend
    have hplace : s.place l = (s.amend ⟨indent, start ++ l.first⟩ older).put l.below := by
      rw [place, hadded]
    refine ⟨by rw [hplace]; rfl, by rw [hplace]; rfl, Int.add_zero _, ?_, ?_⟩
    · intro hs
      have hlines := lines_put s l.lines
      rw [← place_eq_of_settled hs] at hlines
      exact ⟨_, hlines⟩
    · intro hs older last hlines
      exact ⟨l.first, lines_place_of_glues hs hlines l⟩
  · refine ⟨rfl, rfl, rfl, fun _ => ⟨[], (List.append_nil _).symm⟩, ?_⟩
    intro _ older last hlines
    exact ⟨"", [], by rw [String.append_empty, hlines]⟩

/-! ### Faults -/

/-- From every scope in a boundless room, a step fails with its fault, if there is one, and with
nothing else. -/
def Ends (step : Render Unit) (fault : Option Unrenderable) : Prop :=
  ∃ after : Scope → Scope, Runs Scope.Free step fault after ∧ ∀ s, s.Free → (after s).Free

namespace Ends

variable {a b : Render Unit} {f g : Option Unrenderable}

theorem of_places {l : Layout} (ha : Places a f l) :
  Ends a f
  := ⟨fun s => s.place l, ha, fun _ hs => hs.place l⟩

theorem texts (ts : List String) :
  Ends (Render.texts ts) none
  := ⟨fun s => s.addedAll ts, runs_texts ts, fun _ hs => hs.addedAll ts⟩

/-- Of two steps the second starts where the first has come to, and the first fault counts. -/
theorem bind (ha : Ends a f) (hb : Ends b g) :
  Ends (a >>= fun _ => b) (f.or g)
  := by
  obtain ⟨x, hax, hx⟩ := ha
  obtain ⟨y, hby, hy⟩ := hb
  exact ⟨fun s => y (x s), hax.bind hx hby, fun s hs => hy _ (hx s hs)⟩

/-- Texts and an empty line above a step have no fault. -/
theorem below (hb : Ends b g) (ts : List String) :
  Ends (Render.texts ts >>= fun _ => Render.text "" >>= fun _ => b) g
  := by
  have h := (texts ts).bind ((of_places (places_text "")).bind hb)
  rwa [Option.none_or, Option.none_or] at h

end Ends

theorem ends_blocks (bs : List Block) :
  Ends (Render.blocks bs) (blocksFault? bs)
  := by
  induction bs with
  | nil => exact .texts []
  | cons b bs ih => exact (Ends.of_places (places_block b)).bind ih

theorem ends_spacedBlocks (bs : List Block) :
  Ends (Render.spacedBlocks bs) (blocksFault? bs)
  := by
  induction bs with
  | nil => exact .texts []
  | cons b bs ih =>
      rw [Render.spacedBlocks, blocksFault?]
      apply (Ends.of_places (places_block b)).bind
      split
      · exact ih
      · have h := (Ends.of_places (places_text "")).bind ih
        rwa [Option.none_or] at h

/-- Rendering a file ends with the first fault of its blocks, from every scope. -/
theorem ends_file (f : File) :
  Ends (Render.file f) (blocksFault? f.blocks)
  := by
  have himports : Ends (if f.imports.isEmpty then Render.spacedBlocks f.blocks
      else Render.texts (f.imports.flatMap Import.lines) >>= fun _ => Render.text "" >>= fun _ =>
        Render.spacedBlocks f.blocks) (blocksFault? f.blocks) := by
    split
    · exact ends_spacedBlocks f.blocks
    · exact (ends_spacedBlocks f.blocks).below _
  unfold Render.file
  cases f.topComment with
  | none => exact himports
  | some c => exact himports.below c.texts

/-- Rendering a tree ends with the first fault of its nodes, from every scope. -/
theorem Tree.ends_render (tree : Tree) :
  Ends tree.render (firstFault? tree.nodes)
  := by
  cases tree with
  | declaration d =>
      rw [nodes, ← d.fault?_eq]
      exact .of_places (places_declaration d)
  | expression e =>
      rw [nodes, ← e.fault?_eq]
      exact .of_places (places_expression e)
  | block b =>
      rw [nodes, ← b.fault?_eq]
      exact .of_places (places_block b)
  | blocks bs =>
      rw [nodes, ← blocksFault?_eq bs]
      exact ends_blocks bs
  | file f =>
      rw [nodes, ← f.blocksFault?_eq]
      exact ends_file f

/-! ### Failing and starting over -/

/-- The result of a step that ends in a scope, with a failure if there is one. -/
def Render.ending (failure : Option RenderError) (t : Scope) : Result :=
  match failure with
  | none => .ok () t
  | some e => .error e t

/-- Why rendering a tree from a scope fails, if it does: the first line that has no room says, and
else the first ill-sorted node. -/
def Tree.failure? (tree : Tree) (s : Scope) : Option RenderError :=
  match (Render.started tree.render s).findSome? s.room.excess? with
  | some cause => some (.excess cause)
  | none => (firstFault? tree.nodes).map .unrenderable

theorem Tree.render_eq (tree : Tree) (s : Scope) :
  ∃ t, tree.render s = Render.ending (tree.failure? s) t
  := by
  rw [failure?]
  cases hroom : (Render.started tree.render s).findSome? s.room.excess? with
  | some cause => exact tree.script_render.fails hroom
  | none =>
      obtain ⟨after, hafter, -⟩ := tree.ends_render
      have hfree := hafter (s.within .boundless) rfl
      rw [tree.script_render.eq_moved hroom]
      cases hfault : firstFault? tree.nodes with
      | none =>
          rw [hfault] at hfree
          exact ⟨_, congrArg (Render.moved s.room) hfree⟩
      | some e =>
          rw [hfault] at hfree
          obtain ⟨t, ht⟩ := hfree
          exact ⟨_, congrArg (Render.moved s.room) ht⟩

theorem Tree.keeps_of_render {tree : Tree} {s t : Scope} {failure : Option RenderError}
    (h : tree.render s = Render.ending failure t) :
  s.Keeps t
  := by
  obtain ⟨hok, herror⟩ := tree.script_render.comes (s := s) (t := s) (.inr ⟨rfl, rfl, rfl⟩)
  cases failure with
  | none => exact (hok t h).keeps
  | some e => exact (herror e t h).keeps

/-- Rendering a tree from a scope ends in another one, with a failure if there is one. -/
structure Tree.EndsIn (tree : Tree) (s : Scope) (failure : Option RenderError) (t : Scope) :
    Prop where
  /-- A line that cannot be written ends the rendering: the number of the spaces in front of it is
  no signed number of 64 bits, or they do not fit in memory. -/
  overruns_iff : ∀ m : Memory, s.room = m.room →
    ((∃ cause, failure = some (.excess cause))
      ↔ ∃ n ∈ Render.started tree.render s, ¬ (-0x8000000000000000 ≤ n ∧ m.Holds n))
  /-- If the lines can be written, rendering fails exactly if some node is ill-sorted. -/
  fails_iff : ∀ m : Memory, s.room = m.room →
    (∀ n ∈ Render.started tree.render s, -0x8000000000000000 ≤ n ∧ m.Holds n) →
    ((∃ e, failure = some (.unrenderable e)) ↔ ∃ n ∈ tree.nodes, n.IllSorted)
  /-- This failure is about the first ill-sorted node, in the order of rendering. -/
  first : ∀ e, failure = some (.unrenderable e) →
    ∃ before n behind, tree.nodes = before ++ n :: behind ∧ (∀ m ∈ before, ¬ m.IllSorted)
      ∧ n.IllSorted ∧ e.message = n.complaint
  /-- The level is the same again, and lines from before are still there. -/
  keeps : s.Keeps t
  /-- A file is rendered next as in an empty scope of the same width. -/
  fresh : ∀ f, Render.fresh f t = Render.fresh f { room := s.room, width := s.width }

/-- Rendering a tree fails exactly at its first ill-sorted node, unless a line before cannot be
written. However it ends, the scope is as before with lines added, and fit for rendering a file. -/
theorem Tree.render_recovers (tree : Tree) (s : Scope) :
  ∃ t, tree.render s = Render.ending (tree.failure? s) t ∧ tree.EndsIn s (tree.failure? s) t
  := by
  obtain ⟨t, ht⟩ := tree.render_eq s
  have hkeeps := tree.keeps_of_render ht
  have hroom : ∀ m : Memory, s.room = m.room →
      ((Render.started tree.render s).findSome? s.room.excess? = none
        ↔ ∀ n ∈ Render.started tree.render s, -0x8000000000000000 ≤ n ∧ m.Holds n) := by
    intro m hm
    rw [List.findSome?_eq_none_iff, hm]
    simp only [m.excess?_eq_none_iff]
  refine ⟨t, ht, ?_, ?_, ?_, hkeeps, ?_⟩
  · intro m hm
    have hsome : (Render.started tree.render s).findSome? s.room.excess? ≠ none
        ↔ ∃ n ∈ Render.started tree.render s, ¬ (-0x8000000000000000 ≤ n ∧ m.Holds n) := by
      rw [ne_eq, hroom m hm]
      simp only [not_forall, exists_prop]
    rw [← hsome, failure?]
    cases (Render.started tree.render s).findSome? s.room.excess? with
    | some cause => simp
    | none =>
        cases firstFault? tree.nodes <;> simp
  · intro m hm hholds
    rw [failure?, (hroom m hm).mpr hholds, ← firstFault?_ne_none_iff, Option.ne_none_iff_exists']
    simp
  · intro e he
    rw [failure?] at he
    split at he
    · cases he
    · obtain ⟨fault, hfault, ⟨⟩⟩ := Option.map_eq_some_iff.mp he
      exact exists_of_firstFault? hfault
  · intro f
    show Render.fresh f { room := t.room, width := t.width } = _
    rw [hkeeps.room, hkeeps.width]

/-- An enum with an alias and a member that was left out. -/
def gappedEnum : Declaration :=
  .enumeration none "A" [.typeAlias none "B" "C", .unspecified]

/-- With a level of 2⁶³ spaces, the alias cannot be written, and the missing member is not reported
although it is ill-sorted. -/
theorem gappedEnum_unreported :
  (∃ n ∈ (Tree.declaration gappedEnum).nodes, n.IllSorted)
    ∧ ∀ m : Memory, ¬ ∃ e t, (Tree.declaration gappedEnum).render
      { room := m.room, width := 0x8000000000000000 } = .error (.unrenderable e) t
  := by
  constructor
  · rw [← firstFault?_ne_none_iff]
    decide
  · rintro m ⟨e, t, ht⟩
    have hfailure : (Tree.declaration gappedEnum).failure?
        { room := m.room, width := 0x8000000000000000 } = some (.excess .word) := rfl
    obtain ⟨u, hu⟩ := (Tree.declaration gappedEnum).render_eq
      { room := m.room, width := 0x8000000000000000 }
    rw [hfailure, ht] at hu
    cases hu

end SwiftStubs.Swift
