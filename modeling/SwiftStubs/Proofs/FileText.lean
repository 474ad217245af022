import SwiftStubs.Proofs.Rendering

/-!
# The text of a file

A file is rendered from an empty scope: its comment on top, its imports and its blocks become lines,
each with a depth. Whether there is a text in the end depends on two things only: no block has a
fault, and no line is indented by more spaces than can be written (`File.render_eq_ok_iff`). The
text is then that of the lines (`File.render_eq`).
-/

namespace SwiftStubs.Swift

/-! ### Steps that put lines -/

namespace Puts

variable {a b : Render Unit} {f g : Option Unrenderable} {ls ls' : List DeepLine}

/-- Of two steps that put lines, the second puts its lines below. -/
theorem append (ha : Puts a f ls) (hb : Puts b g ls') :
  Puts (a >>= fun _ => b) (f.or g) (ls ++ ls')
  := by
  apply (ha.bind (fun _ hs => hs.put ls) hb).congr
  intro s _
  apply Scope.put_put

/-- Texts and an empty line can be put above what another step puts. -/
theorem below (hb : Puts b g ls') (ts : List String) :
  Puts (Render.texts ts >>= fun _ => Render.text "" >>= fun _ => b) g
    (level (ts ++ [""]) ++ ls')
  := by
  have h := (puts_texts ts).append ((places_text "").puts hb)
  rw [Option.none_or, Option.none_or, ← List.append_assoc] at h
  rw [level, List.map_append]
  exact h

variable {step : Render Unit} {p q : Bool} {s : Scope}

theorem started_eq (h : Puts step none ls) (hs : s.Settled) :
  Render.started step s = s.spaces ls
  := by
  apply Scope.Started.started_eq
  have hfree : step (s.within .boundless) = .ok () ((s.within .boundless).put ls) := h _ ⟨rfl, hs⟩
  rw [hfree]
  exact Scope.started_put _ ls rfl

/-- A step puts its lines where there is room for them. -/
theorem of_room (h : Puts step none ls) (hscript : Script p step q) (hs : s.Settled)
    (hroom : (s.spaces ls).findSome? s.room.excess? = none) :
  step s = .ok () (s.put ls)
  := by
  rw [← h.started_eq hs] at hroom
  have hfree : step (s.within .boundless) = .ok () ((s.within .boundless).put ls) := h _ ⟨rfl, hs⟩
  rw [hscript.eq_moved hroom, hfree]
  rfl

/-- A step fails where there is no room for some of its lines. -/
theorem fails (h : Puts step none ls) (hscript : Script p step q) (hs : s.Settled)
    {cause : Excess} (hroom : (s.spaces ls).findSome? s.room.excess? = some cause) :
  ∃ t, step s = .error (.excess cause) t
  := by
  rw [← h.started_eq hs] at hroom
  exact hscript.fails hroom

end Puts

/-! ### The lines of a file -/

/-- The lines of blocks of code, with a blank one between any two blocks. -/
def spacedLines : List Block → List DeepLine
  | [] => []
  | b :: bs => b.layout.lines ++ (if bs.isEmpty then [] else [(0, "")]) ++ spacedLines bs

/-- The lines of the comment on top of a file. -/
def File.commentLines (f : File) : List String :=
  match f.topComment with
  | none => []
  | some c => c.texts ++ [""]

/-- The lines of the imports of a file. -/
def File.importLines (f : File) : List String :=
  if f.imports.isEmpty then [] else f.imports.flatMap Import.lines ++ [""]

/-- All lines of a file. -/
def File.lines (f : File) : List DeepLine :=
  level f.commentLines ++ (level f.importLines ++ spacedLines f.blocks)

theorem puts_spacedBlocks (bs : List Block) :
  Puts (Render.spacedBlocks bs) (blocksFault? bs) (spacedLines bs)
  := by
  induction bs with
  | nil => exact puts_nil
  | cons b bs ih =>
      rw [Render.spacedBlocks, blocksFault?, spacedLines, List.append_assoc]
      apply (places_block b).puts
      split
      · exact ih
      · have h := (places_text "").puts ih
        rwa [Option.none_or] at h

theorem puts_imports (f : File) :
  Puts (if f.imports.isEmpty then Render.spacedBlocks f.blocks
      else Render.texts (f.imports.flatMap Import.lines) >>= fun _ => Render.text "" >>= fun _ =>
        Render.spacedBlocks f.blocks)
    (blocksFault? f.blocks) (level f.importLines ++ spacedLines f.blocks)
  := by
  have hblocks := puts_spacedBlocks f.blocks
  rw [File.importLines]
  split
  · exact hblocks
  · exact hblocks.below _

/-- Rendering a file puts its lines, or fails with the first fault of its blocks. -/
theorem puts_file (f : File) :
  Puts (Render.file f) (blocksFault? f.blocks) f.lines
  := by
  have himports := puts_imports f
  rw [File.lines, File.commentLines]
  unfold Render.file
  cases f.topComment with
  | none => exact himports
  | some c => exact himports.below c.texts

/-! ### Spaces -/

/-- No line is indented by more spaces than can be written. -/
def Fits (m : Memory) (width : Int) (ls : List DeepLine) : Prop :=
  ∀ l ∈ ls, m.Holds (width * l.1)

/-- Why the first line that is indented too far cannot be written, if there is one. -/
def firstExcess? (m : Memory) (width : Int) (ls : List DeepLine) : Option Excess :=
  ls.findSome? (fun l => m.room.excess? (width * l.1))

/-- With a width that is not negative, lines can be written if none is indented too far. -/
theorem firstExcess?_eq_none_iff (m : Memory) {width : Int} (h : 0 ≤ width) (ls : List DeepLine) :
  firstExcess? m width ls = none ↔ Fits m width ls
  := by
  have hline : ∀ l : DeepLine, m.room.excess? (width * l.1) = none ↔ m.Holds (width * l.1) := by
    intro l
    apply m.excess?_eq_none_iff_of_nonneg
    exact Int.mul_nonneg h (Int.natCast_nonneg _)
  rw [firstExcess?, List.findSome?_eq_none_iff, Fits]
  simp only [hline]

/-- The lines above the blocks of a file are not indented. -/
theorem fits_lines_iff (m : Memory) (width : Int) (f : File) :
  Fits m width f.lines ↔ Fits m width (spacedLines f.blocks)
  := by
  have hlevel : ∀ ts, Fits m width (level ts) := by
    intro ts
    rw [Fits, level, List.forall_mem_map]
    intro t _
    simp [Memory.Holds]
  rw [File.lines, Fits, List.forall_mem_append, List.forall_mem_append]
  constructor
  · rintro ⟨-, -, h⟩
    exact h
  · intro h
    exact ⟨hlevel _, hlevel _, h⟩

/-! ### Texts of files -/

/-- A line of a file as it is written, with the given width of a level. -/
def DeepLine.text (width : Int) (l : DeepLine) : String :=
  Line.written ⟨width * l.1, l.2⟩

/-- A line at the outermost level is written as it stands. -/
theorem DeepLine.text_zero (width : Int) (t : String) :
  DeepLine.text width (0, t) = t
  := by
  simp [text, Line.written]

theorem map_text_level (width : Int) (ts : List String) :
  (level ts).map (DeepLine.text width) = ts
  := by
  simp [level, Function.comp_def, DeepLine.text_zero]

/-- The text of some lines, or why it cannot be written. -/
def textOf (m : Memory) (width : Int) (ls : List DeepLine) : Except RenderError String :=
  match firstExcess? m width ls with
  | some cause => .error (.excess cause)
  | none => .ok (String.intercalate "\n" (ls.map (DeepLine.text width)))

theorem textOf_eq_ok_iff (m : Memory) (width : Int) (ls : List DeepLine) (t : String) :
  textOf m width ls = .ok t
    ↔ firstExcess? m width ls = none
      ∧ t = String.intercalate "\n" (ls.map (DeepLine.text width))
  := by
  rw [textOf]
  cases firstExcess? m width ls with
  | none => simp [eq_comm]
  | some cause => simp

theorem contents_put (room : Room) (width : Int) (ls : List DeepLine) :
  (Scope.put { room := room, width := width } ls).contents
    = String.intercalate "\n" (ls.map (DeepLine.text width))
  := by
  have hline : ∀ l, (Scope.indented { room := room, width := width } l).written
      = DeepLine.text width l := by
    intro l
    simp [Scope.indented, DeepLine.text]
  simp [Scope.contents, Scope.lines, Scope.put, Function.comp_def, hline]

theorem findSome?_spaces (m : Memory) (room : Room) (width : Int) (ls : List DeepLine) :
  (Scope.spaces { room := room, width := width } ls).findSome? m.room.excess?
    = firstExcess? m width ls
  := by
  simp [Scope.spaces, firstExcess?, List.findSome?_map, Function.comp_def]

/-- A step that puts lines into an empty scope gives their text. -/
theorem Puts.written_eq {step : Render Unit} {ls : List DeepLine} {p q : Bool}
    (h : Puts step none ls) (hscript : Script p step q) (m : Memory) (width : Int) :
  Render.written m width step = textOf m width ls
  := by
  have hspaces := findSome?_spaces m m.room width ls
  rw [textOf]
  cases hexcess : firstExcess? m width ls with
  | none =>
      rw [Render.written, h.of_room hscript (s := { room := m.room, width := width }) rfl
        (hspaces.trans hexcess)]
      exact congrArg Except.ok (contents_put m.room width ls)
  | some cause =>
      obtain ⟨t, ht⟩ := h.fails hscript (s := { room := m.room, width := width }) rfl
        (hspaces.trans hexcess)
      rw [Render.written, ht]

/-- A file without a fault is rendered as the text of its lines. -/
theorem File.render_eq (m : Memory) (width : Int) {f : File} (h : blocksFault? f.blocks = none) :
  f.render m width = textOf m width f.lines
  := by
  have hputs := puts_file f
  rw [h] at hputs
  exact hputs.written_eq (script_file f false) m width

/-- A file has a text if its blocks can be rendered and no line is indented too far. -/
theorem File.render_eq_ok_iff (m : Memory) {width : Int} (h : 0 ≤ width) (f : File) :
  (∃ t, f.render m width = .ok t) ↔ blocksFault? f.blocks = none ∧ Fits m width f.lines
  := by
  rw [← firstExcess?_eq_none_iff m h]
  cases hfault : blocksFault? f.blocks with
  | none =>
      rw [File.render_eq m width hfault]
      simp [textOf_eq_ok_iff]
  | some e =>
      constructor
      · rintro ⟨t, ht⟩
        obtain ⟨u, hu⟩ : ∃ u, Render.fresh f { room := m.room, width := width } = .ok () u := by
          rw [File.render, Render.written] at ht
          split at ht
          · next hu => exact ⟨_, hu⟩
          · cases ht
        obtain ⟨v, hv⟩ := (script_file f false).exists_ok_boundless
          (s := { room := m.room, width := width }) hu
        have hputs := puts_file f { room := .boundless, width := width } ⟨rfl, rfl⟩
        rw [hfault] at hputs
        obtain ⟨w, hw⟩ := hputs
        cases hv.symm.trans hw
      · rintro ⟨⟨⟩, -⟩

end SwiftStubs.Swift
