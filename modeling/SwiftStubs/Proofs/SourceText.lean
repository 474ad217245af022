import SwiftStubs.Proofs.Acceptance
import SwiftStubs.Proofs.Depth

/-!
# The text generated for a request

The file for a request has no fault, so that its text is that of its lines, unless a line is
indented by more spaces than can be written. What is generated for a request is thereby a matter of
three things: whether its file exists, the lines of the file, and the width of a level.
-/

namespace SwiftStubs

open Swift Stub

/-- Five levels of indentation can be written. Lines of stubs are never deeper. -/
def Configuration.Moderate (m : Memory) (c : Configuration) : Prop :=
  m.Holds (5 * c.indentation)

instance (m : Memory) (c : Configuration) : Decidable (c.Moderate m) :=
  inferInstanceAs (Decidable (m.Holds _))

/-! ### Files of requests -/

namespace Request

theorem file_eq_ok_iff (c : Configuration) (r : Request) (f : NamedFile) :
  r.file c = .ok f
    ↔ r.check = .ok () ∧ ∃ is, importsOf r.dependencies = .ok is
      ∧ f = ⟨stripExtension r.fileName, topComment r, is, sections c.style c.sides r⟩
  := by
  rw [file, then_eq_ok_iff, bind_eq_ok_iff]
  simp [eq_comm]

/-- The file for a request is rendered as the text of its lines. -/
theorem render_file (m : Memory) {c : Configuration} {r : Request} {f : NamedFile}
    (h : r.file c = .ok f) :
  f.contents.render m c.indentation = textOf m c.indentation f.contents.lines
  := by
  obtain ⟨-, is, -, rfl⟩ := (file_eq_ok_iff c r f).mp h
  apply File.render_eq
  apply blocksFault?_sections

/-- What is generated for a request is the text of the lines of its file. -/
theorem generate_eq (m : Memory) (c : Configuration) (r : Request) :
  r.generate m c = (do
    let f ← mapError RequestError.failure ((r.withExtraImports c).file c)
    let t ← mapError (fun e => .breakdown (.render e)) (textOf m c.indentation f.contents.lines)
    .ok ⟨f.name, t⟩)
  := by
  rw [generate]
  cases hf : (r.withExtraImports c).file c with
  | error e => rfl
  | ok f =>
      show (do
        let t ← mapError (fun e => Failure.breakdown (.render e))
          (f.contents.render m c.indentation)
        .ok (SourceFile.mk f.name t)) = _
      rw [render_file m hf]
      rfl

theorem generate_eq_ok_iff (m : Memory) (c : Configuration) (r : Request) (s : SourceFile) :
  r.generate m c = .ok s
    ↔ ∃ f, (r.withExtraImports c).file c = .ok f ∧ s.name = f.name
      ∧ textOf m c.indentation f.contents.lines = .ok s.contents
  := by
  simp only [generate_eq, bind_eq_ok_iff, mapError_eq_ok_iff]
  constructor
  · rintro ⟨f, hf, t, ht, ⟨⟩⟩
    exact ⟨f, hf, rfl, ht⟩
  · rintro ⟨f, hf, hname, ht⟩
    obtain ⟨name, contents⟩ := s
    obtain rfl : name = f.name := hname
    exact ⟨f, hf, contents, ht, rfl⟩

/-- The text of a request goes under the name of its file, without extension. -/
theorem name_of_generate {m : Memory} {c : Configuration} {r : Request} {s : SourceFile}
    (h : r.generate m c = .ok s) :
  s.name = stripExtension r.fileName
  := by
  obtain ⟨f, hf, hname, -⟩ := (generate_eq_ok_iff m c r s).mp h
  obtain ⟨-, is, -, rfl⟩ := (file_eq_ok_iff c _ f).mp hf
  exact hname

/-! ### Requests that have a text -/

/-- No line of the file for a request is indented by more spaces than can be written. -/
def Writable (m : Memory) (c : Configuration) (r : Request) : Prop :=
  Fits m c.indentation (spacedLines (sections c.style c.sides r))

/-- Only huge indentations are a problem. -/
theorem writable_of_moderate {m : Memory} {c : Configuration} (h : c.Moderate m) (r : Request) :
  r.Writable m c
  := by
  intro l hl
  have hdepth := within_spacedLines (neat_sections c.style c.sides r) l hl
  have hle : c.indentation * (l.1 : Int) ≤ 5 * c.indentation := by
    rw [Int.mul_comm 5]
    apply Int.mul_le_mul_of_nonneg_left
    · omega
    · have hpos := c.indentation_pos
      omega
  exact ⟨Int.lt_of_le_of_lt hle h.1, Int.le_trans hle h.2⟩

theorem sections_withExtraImports (c : Configuration) (r : Request) (style : Style)
    (sides : Sides) :
  sections style sides (r.withExtraImports c) = sections style sides r
  := rfl

/-- Extra imports are imports of whole modules, about which there is nothing to check. -/
theorem acceptable_withExtraImports_iff (c : Configuration) (r : Request) :
  (r.withExtraImports c).Acceptable ↔ r.Acceptable
  := by
  constructor
  · rintro ⟨hkinds, hwire, hlone, hservices, hmethods⟩
    refine ⟨?_, hwire, hlone, hservices, hmethods⟩
    intro d hd
    apply hkinds d (List.mem_append_left _ hd)
  · rintro ⟨hkinds, hwire, hlone, hservices, hmethods⟩
    refine ⟨?_, hwire, hlone, hservices, hmethods⟩
    intro d hd
    obtain hd | hd := List.mem_append.mp hd
    · apply hkinds d hd
    · obtain ⟨m, -, rfl⟩ := List.mem_map.mp hd
      intro item hitem
      cases hitem

/-- A request has a text if it is acceptable and no line is indented too far. -/
theorem exists_generate_eq_ok_iff (m : Memory) (c : Configuration) (r : Request) :
  (∃ s, r.generate m c = .ok s) ↔ r.Acceptable ∧ r.Writable m c
  := by
  have hpos : 0 ≤ c.indentation := Int.le_trans (by decide) c.indentation_pos
  have hcheck := (r.withExtraImports c).check_eq_ok_iff
  rw [acceptable_withExtraImports_iff] at hcheck
  have hfits : ∀ f : NamedFile, f.contents.blocks = sections c.style c.sides r →
      (firstExcess? m c.indentation f.contents.lines = none ↔ r.Writable m c) := by
    intro f hblocks
    rw [firstExcess?_eq_none_iff m hpos, fits_lines_iff, hblocks, Writable]
  constructor
  · rintro ⟨s, hs⟩
    obtain ⟨f, hf, -, ht⟩ := (generate_eq_ok_iff m c r s).mp hs
    obtain ⟨hchecked, is, -, rfl⟩ := (file_eq_ok_iff c _ f).mp hf
    obtain ⟨hexcess, -⟩ := (textOf_eq_ok_iff _ _ _ _).mp ht
    exact ⟨hcheck.mp hchecked, (hfits _ rfl).mp hexcess⟩
  · rintro ⟨hacceptable, hwritable⟩
    obtain ⟨f, hf, hblocks⟩ := file_eq_ok c (hcheck.mpr hacceptable)
    have hexcess := (hfits f hblocks).mpr hwritable
    use ⟨f.name, String.intercalate "\n" (f.contents.lines.map (DeepLine.text c.indentation))⟩
    rw [generate_eq_ok_iff]
    exact ⟨f, hf, rfl, (textOf_eq_ok_iff _ _ _ _).mpr ⟨hexcess, rfl⟩⟩

end Request

end SwiftStubs
