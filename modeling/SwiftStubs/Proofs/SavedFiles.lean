import SwiftStubs.Command.Run
import SwiftStubs.Proofs.Acceptance

/-!
# Saved files

Where a path leads is a matter of its parts alone, since a disk has no links: `Path.place` follows
the parts, and a disk can only refuse to go there. A run saves one file after the other. After it,
every path that was saved to leads to its place, and a place holds what was saved there last
(`holds_saveAll`). Everything else on the disk is as before. Next to other files, a file with a
plain name can always be saved.
-/

namespace SwiftStubs

/-! ### Places -/

namespace Path

/-- Where one part of a path leads from a location. -/
def follow (here : Location) (part : String) : Location :=
  if part == ".." then here.dropLast else here ++ [part]

/-- Where a path leads from a working directory. -/
def place (working : Location) (p : Path) : Location :=
  p.parts.foldl follow (if p.isAbsolute then [] else working)

end Path

namespace Disk

variable {d e f : Disk}

/-- A part of a path is followed from directories only. -/
theorem step_eq_ok {here there : Location} {part : String} (h : d.step here part = .ok there) :
  d.node? here = some .directory ∧ there = Path.follow here part
  := by
  rw [step] at h
  split at h
  · cases h
  · cases h
  · next hnode =>
      refine ⟨hnode, ?_⟩
      rw [Path.follow]
      split at h
      · next hup => rw [if_pos hup, ← Except.ok.inj h]
      · next hdown =>
          rw [if_neg hdown]
          split at h
          · cases h
          · exact (Except.ok.inj h).symm

theorem foldlM_step_eq_ok {parts : List String} {here there : Location}
    (h : parts.foldlM d.step here = .ok there) :
  there = parts.foldl Path.follow here
  := by
  induction parts generalizing here with
  | nil =>
      cases h
      rfl
  | cons part parts ih =>
      rw [List.foldlM_cons, bind_eq_ok_iff] at h
      obtain ⟨next, hnext, h⟩ := h
      rw [List.foldl_cons, ← (step_eq_ok hnext).2]
      exact ih h

/-- If a path leads anywhere, it leads to its place. -/
theorem locate_eq_ok {p : Path} {l : Location} (h : d.locate p = .ok l) :
  l = p.place d.working
  := by
  rw [locate] at h
  split at h
  · cases h
  · exact foldlM_step_eq_ok h

/-- One disk has the directories of another, and the same working directory. -/
structure HasDirectories (d e : Disk) : Prop where
  working : e.working = d.working
  directories : ∀ l, d.node? l = some .directory → e.node? l = some .directory

theorem HasDirectories.step {here there : Location} {part : String} (hde : d.HasDirectories e)
    (h : d.step here part = .ok there) :
  e.step here part = .ok there
  := by
  have hnode := (step_eq_ok h).1
  rw [Disk.step, hnode] at h
  rw [Disk.step, hde.directories here hnode]
  exact h

/-- With its directories, what a path leads to stays. -/
theorem HasDirectories.locate {p : Path} {l : Location} (hde : d.HasDirectories e)
    (h : d.locate p = .ok l) :
  e.locate p = .ok l
  := by
  have hparts : ∀ (parts : List String) (here : Location),
      parts.foldlM d.step here = .ok l → parts.foldlM e.step here = .ok l := by
    intro parts
    induction parts with
    | nil => exact fun _ h => h
    | cons part parts ih =>
        intro here h
        rw [List.foldlM_cons, bind_eq_ok_iff] at h ⊢
        obtain ⟨next, hnext, h⟩ := h
        exact ⟨next, hde.step hnext, ih next h⟩
  rw [Disk.locate] at h ⊢
  rw [hde.working]
  split at h
  · cases h
  · next hlength =>
      rw [if_neg hlength]
      exact hparts _ _ h

/-! ### One change -/

/-- Something is put at one location. The root stays a directory. -/
theorem node?_put {l : Location} (hl : l ≠ []) (node : DiskNode) (l' : Location) :
  (d.put l node).node? l' = if l' = l then some node else d.node? l'
  := by
  cases l' with
  | nil => rw [if_neg hl.symm, node?, node?]
  | cons part parts =>
      show (d.nodes.insert l node).get? (part :: parts) = _
      rw [Dictionary.get?_insert]
      rfl

theorem ne_root_of_node? {l : Location} (h : d.node? l ≠ some .directory) :
  l ≠ []
  := by
  rintro rfl
  exact h rfl

/-- What is on one disk is on another. -/
structure Keeps (d e : Disk) : Prop where
  working : e.working = d.working
  nodes : ∀ l node, d.node? l = some node → e.node? l = some node

theorem Keeps.refl (d : Disk) :
  d.Keeps d
  := ⟨rfl, fun _ _ h => h⟩

theorem Keeps.trans (hde : d.Keeps e) (hef : e.Keeps f) :
  d.Keeps f
  := ⟨hef.working.trans hde.working, fun l node h => hef.nodes l node (hde.nodes l node h)⟩

theorem keeps_makeDirectory {p : Path} (h : d.makeDirectory p = .ok e) :
  d.Keeps e
  := by
  obtain ⟨l, -, h⟩ := bind_eq_ok_iff.mp h
  split at h
  · cases h
  · next hnone =>
      have hfree : d.node? l ≠ some .directory := by
        simp [hnone]
      cases h
      refine ⟨rfl, ?_⟩
      intro l' node hnode
      rw [node?_put (ne_root_of_node? hfree)]
      split
      · next heq =>
          rw [heq, hnone] at hnode
          cases hnode
      · exact hnode

theorem keeps_unlessThere {p : Path} {result : Except DiskError Disk}
    (h : d.unlessThere p result = .ok e) (hresult : result = .ok e → d.Keeps e) :
  d.Keeps e
  := by
  cases result with
  | ok e' => exact hresult h
  | error cause =>
      rw [unlessThere] at h
      split at h
      · cases h
        apply Keeps.refl
      · cases h

/-- Making directories takes nothing away. -/
theorem keeps_makeDirectories {p : Path} (h : d.makeDirectories p = .ok e) :
  d.Keeps e
  := by
  fun_induction makeDirectories d p generalizing e with
  | case1 p hmissing hparts => cases h
  | case2 p hmissing hparts ih =>
      obtain ⟨above, habove, h⟩ := bind_eq_ok_iff.mp h
      apply (ih habove).trans
      exact keeps_unlessThere h keeps_makeDirectory
  | case3 p hresult => exact keeps_unlessThere h keeps_makeDirectory

/-- Writing puts the bytes at the place of the path, where no directory is. -/
theorem write_eq_ok {p : Path} {bytes : List UInt8} (h : d.write p bytes = .ok e) :
  d.locate p = .ok (p.place d.working)
    ∧ d.node? (p.place d.working) ≠ some .directory
    ∧ e = d.put (p.place d.working) (.file bytes)
  := by
  obtain ⟨l, hl, h⟩ := bind_eq_ok_iff.mp h
  obtain rfl := locate_eq_ok hl
  refine ⟨hl, ?_⟩
  split at h
  · cases h
  · next hfree => exact ⟨hfree, (Except.ok.inj h).symm⟩

/-! ### Several files -/

/-- What is saved last at a location, among files with their contents. -/
def lastAt (working : Location) (saves : List (Path × String)) (l : Location) :
    Option (Path × String) :=
  saves.reverse.find? (fun s => s.1.place working == l)

theorem lastAt_append (working : Location) (saves saves' : List (Path × String)) (l : Location) :
  lastAt working (saves ++ saves') l = (lastAt working saves' l).or (lastAt working saves l)
  := by
  rw [lastAt, List.reverse_append, List.find?_append]
  rfl

theorem exists_lastAt {saves : List (Path × String)} {s : Path × String} (h : s ∈ saves)
    (working : Location) :
  ∃ last, lastAt working saves (s.1.place working) = some last
  := by
  rw [← Option.isSome_iff_exists, lastAt, List.find?_isSome]
  exact ⟨s, List.mem_reverse.mpr h, by simp⟩

/-- One disk becomes another when files are saved one after the other. -/
structure Holds (d e : Disk) (saves : List (Path × String)) : Prop
    extends d.HasDirectories e where
  /-- The paths lead to their places. -/
  leads : ∀ s ∈ saves, e.locate s.1 = .ok (s.1.place d.working)
  /-- A place holds what is saved there last. -/
  written : ∀ l s, lastAt d.working saves l = some s →
    e.node? l = some (.file s.2.toUTF8.toList)
  /-- Where nothing is saved, everything stays. -/
  others : ∀ l node, lastAt d.working saves l = none → d.node? l = some node →
    e.node? l = some node

namespace Holds

/-- As long as nothing is taken away, nothing has to be saved. -/
theorem of_keeps (h : d.Keeps e) :
  d.Holds e []
  where
  working := h.working
  directories l hl := h.nodes l _ hl
  leads _ hs := by cases hs
  written _ _ hs := by cases hs
  others l node _ hnode := h.nodes l node hnode

theorem of_write {p : Path} {contents : String} (h : d.write p contents.toUTF8.toList = .ok e) :
  d.Holds e [(p, contents)]
  := by
  obtain ⟨hlocate, hfree, rfl⟩ := write_eq_ok h
  have hput := node?_put (ne_root_of_node? hfree) (.file contents.toUTF8.toList) (d := d)
  have hdirectories : d.HasDirectories
      (d.put (p.place d.working) (.file contents.toUTF8.toList)) := by
    refine ⟨rfl, ?_⟩
    intro l hl
    rw [hput, if_neg, hl]
    rintro rfl
    exact hfree hl
  refine { hdirectories with leads := ?_, written := ?_, others := ?_ }
  · rw [List.forall_mem_singleton]
    exact hdirectories.locate hlocate
  · intro l s hs
    have hmem := List.mem_of_find?_eq_some hs
    have hplace := List.find?_some hs
    obtain rfl := List.mem_singleton.mp hmem
    rw [hput, if_pos (beq_iff_eq.mp hplace).symm]
  · intro l node hnone hnode
    rw [lastAt, List.find?_eq_none] at hnone
    have hplace : l ≠ p.place d.working := by
      rintro rfl
      simpa using hnone (p, contents)
    rw [hput, if_neg hplace, hnode]

/-- Saving some files and then others is saving all of them. -/
theorem append {saves saves' : List (Path × String)} (hde : d.Holds e saves)
    (hef : e.Holds f saves') :
  d.Holds f (saves ++ saves')
  where
  working := hef.working.trans hde.working
  directories l h := hef.directories l (hde.directories l h)
  leads s hs := by
    obtain hs | hs := List.mem_append.mp hs
    · exact hef.toHasDirectories.locate (hde.leads s hs)
    · rw [← hde.working]
      exact hef.leads s hs
  written l s h := by
    rw [lastAt_append, Option.or_eq_some_iff] at h
    obtain h | ⟨hnone, h⟩ := h
    · apply hef.written l s
      rwa [hde.working]
    · apply hef.others l
      · rwa [hde.working]
      · exact hde.written l s h
  others l node h hnode := by
    rw [lastAt_append, Option.or_eq_none_iff] at h
    apply hef.others l
    · rw [hde.working]
      exact h.1
    · exact hde.others l node h.2 hnode

end Holds

end Disk

/-! ### Runs -/

namespace Command

variable {d e : Disk}

/-- Saving one file makes directories, and then writes the file. -/
theorem holds_saveFile {p : Path} {contents : String} (h : saveFile d p contents = .ok e) :
  d.Holds e [(p, contents)]
  := by
  rw [saveFile] at h
  split at h
  · cases h
  · obtain ⟨above, habove, h⟩ := bind_eq_ok_iff.mp h
    split at h
    · cases h
    · rw [mapError_eq_ok_iff] at habove h
      exact (Disk.Holds.of_keeps (Disk.keeps_makeDirectories habove)).append (.of_write h)

/-- The file that a step saves, if it saves one. -/
def Step.saved? : Step → Option (Path × String)
  | .tell _ => none
  | .save path contents => some (path, contents)

/-- Saves files one after the other. -/
def saveAll (d : Disk) (saves : List (Path × String)) : Except Breakdown Disk :=
  saves.foldlM (fun d s => saveFile d s.1 s.2) d

/-- To carry out steps to the end is to save their files. -/
theorem perform_iff_saveAll (d e : Disk) (steps : List Step) :
  (∃ told, Run.perform d steps = (e, told, none))
    ↔ saveAll d (steps.filterMap Step.saved?) = .ok e
  := by
  induction steps generalizing d with
  | nil =>
      constructor
      · rintro ⟨_, ⟨⟩⟩
        rfl
      · rintro ⟨⟩
        exact ⟨"", rfl⟩
  | cons step steps ih =>
      cases step with
      | tell text =>
          have hsaved : (Step.tell text :: steps).filterMap Step.saved?
              = steps.filterMap Step.saved? := rfl
          rw [hsaved, ← ih, Run.perform]
          rcases Run.perform d steps with ⟨e', told', cause⟩
          simp
      | save path contents =>
          have hsaved : (Step.save path contents :: steps).filterMap Step.saved?
              = (path, contents) :: steps.filterMap Step.saved? := rfl
          rw [hsaved, saveAll, List.foldlM_cons, bind_eq_ok_iff, Run.perform]
          cases saveFile d path contents with
          | error cause => simp
          | ok d' =>
              simp only [Except.ok.injEq, exists_eq_left']
              exact ih d'

theorem holds_saveAll {saves : List (Path × String)} (h : saveAll d saves = .ok e) :
  d.Holds e saves
  := by
  induction saves generalizing d with
  | nil =>
      cases h
      exact .of_keeps (.refl _)
  | cons s saves ih =>
      rw [saveAll, List.foldlM_cons, bind_eq_ok_iff] at h
      obtain ⟨d', hsave, h⟩ := h
      exact (holds_saveFile hsave).append (ih h)

/-- A run that ends as it should has carried out all its steps. -/
theorem holds_outcome {r : Run} {code : Nat} (h : (r.outcome d).ending = .exit code) :
  d.Holds (r.outcome d).disk (r.steps.filterMap Step.saved?)
  := by
  rw [Run.outcome] at h ⊢
  split at h
  · next told hperform => exact holds_saveAll ((perform_iff_saveAll d _ _).mp ⟨told, hperform⟩)
  · cases h

/-! ### Disks without directories -/

/-- A disk with nothing but files in its root, from where paths start. -/
structure Flat (d : Disk) : Prop where
  working : d.working = []
  files : ∀ name, d.node? [name] ≠ some .directory

/-- A name that can be given to a file. -/
def PlainName (name : String) : Prop :=
  name ≠ ".." ∧ name.utf8ByteSize ≤ Disk.maxName ∧ Char.ofNat 0 ∉ name.toList

instance (name : String) : Decidable (PlainName name) :=
  inferInstanceAs (Decidable (_ ∧ _ ∧ _))

theorem Flat.makeDirectories {d : Disk} (h : Flat d) :
  d.makeDirectories ⟨"", []⟩ = .ok d
  := by
  have hlocate : d.locate ⟨"", []⟩ = .ok [] := congrArg Except.ok h.working
  have hmake : d.makeDirectory ⟨"", []⟩ = .error .alreadyThere := by
    rw [Disk.makeDirectory, hlocate]
    rfl
  have hthere : d.isDirectory ⟨"", []⟩ = true := by
    rw [Disk.isDirectory, hlocate]
    rfl
  rw [Disk.makeDirectories, hmake]
  exact if_pos hthere

/-- A file with a plain name can be saved. -/
theorem Flat.saveFile {d : Disk} (h : Flat d) {name : String} (hname : PlainName name)
    (contents : String) :
  ∃ e, saveFile d ⟨"", [name]⟩ contents = .ok e ∧ Flat e
  := by
  obtain ⟨hup, hsize, hnul⟩ := hname
  have htext : (Path.mk "" [name]).text = name := by
    simp [Path.text]
  have hstep : d.step [] name = .ok [name] := by
    show (if name == ".." then _ else if Disk.maxName < name.utf8ByteSize then _ else _) = _
    rw [if_neg (by simpa using hup), if_neg (Nat.not_lt.mpr hsize)]
    rfl
  have hlocate : d.locate ⟨"", [name]⟩ = .ok [name] := by
    have hshort : ¬ Disk.maxPath < name.utf8ByteSize :=
      Nat.not_lt.mpr (Nat.le_trans hsize (by decide))
    rw [Disk.locate, htext, if_neg hshort]
    show [name].foldlM d.step d.working = _
    rw [h.working, List.foldlM_cons, hstep]
    rfl
  have hwrite : d.write ⟨"", [name]⟩ contents.toUTF8.toList
      = .ok (d.put [name] (.file contents.toUTF8.toList)) := by
    apply bind_eq_ok_iff.mpr
    refine ⟨_, hlocate, ?_⟩
    split
    · next heq => exact absurd heq (h.files name)
    · rfl
  have hclear : (Path.mk "" [name]).hasNul = false := by
    simpa [Path.hasNul] using hnul
  refine ⟨d.put [name] (.file contents.toUTF8.toList), ?_, h.working, ?_⟩
  · have hparent : (Path.mk "" [name]).parent = ⟨"", []⟩ := rfl
    rw [Command.saveFile, hparent, h.makeDirectories, hclear]
    show mapError Breakdown.disk (d.write ⟨"", [name]⟩ contents.toUTF8.toList) = _
    rw [hwrite]
    rfl
  · intro other
    rw [Disk.node?_put (List.cons_ne_nil _ _)]
    split
    · simp
    · exact h.files other

/-- Files with plain names can be saved one after the other. -/
theorem Flat.saveAll {d : Disk} (h : Flat d) {saves : List (Path × String)}
    (hsaves : ∀ s ∈ saves, ∃ name, s.1 = ⟨"", [name]⟩ ∧ PlainName name) :
  ∃ e, saveAll d saves = .ok e
  := by
  induction saves generalizing d with
  | nil => exact ⟨d, rfl⟩
  | cons s saves ih =>
      obtain ⟨⟨name, hs, hname⟩, hsaves⟩ := List.forall_mem_cons.mp hsaves
      obtain ⟨d', hsave, hd'⟩ := h.saveFile hname s.2
      obtain ⟨e, he⟩ := ih hd' hsaves
      use e
      rw [Command.saveAll, List.foldlM_cons, hs, hsave]
      exact he

end Command

/-- After files are saved, a path reads what was saved last at its place. -/
theorem Disk.Holds.read {d e : Disk} {saves : List (Path × String)} (h : d.Holds e saves)
    {s : Path × String} (hs : s ∈ saves) :
  ∃ last, lastAt d.working saves (s.1.place d.working) = some last
    ∧ e.read s.1 = .ok last.2.toUTF8.toList
  := by
  obtain ⟨last, hlast⟩ := exists_lastAt hs d.working
  refine ⟨last, hlast, ?_⟩
  apply bind_eq_ok_iff.mpr
  refine ⟨_, h.leads s hs, ?_⟩
  rw [h.written _ last hlast]

end SwiftStubs
