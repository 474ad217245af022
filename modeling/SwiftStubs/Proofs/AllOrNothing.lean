import SwiftStubs.Command
import SwiftStubs.Proofs.Parsing
import SwiftStubs.Proofs.SourceText

/-!
# Batches have all their outputs or none

A batch goes through the names it is given, and ends with the first failure at any of several
stages. Whether it fails is a matter of each file by itself and of the names of the outputs:
`Batch.Sound` and `Batch.Writable` list the conditions, and what is generated for a file does not
depend on the files before it. The plugin and the command pass this on: an answer holds all outputs
or an error, and a failed command leaves the disk alone.
-/

namespace SwiftStubs

open Swift Stub

/-- Two steps that tell something succeed if the first does and the second does from there. -/
theorem Logged.result_bind_eq_ok_iff {α β : Type} {x : Logged α} {f : α → Logged β} {b : β} :
  (x >>= f).result = .ok b ↔ ∃ a, x.result = .ok a ∧ (f a).result = .ok b
  := by
  rw [Logged.result_bind]
  exact bind_eq_ok_iff

/-! ### One schema file -/

namespace Batch

open Schema (latest)

/-- The name of the output for a schema file. -/
def outputName (c : Configuration) (f : Schema.File) : String :=
  c.fileNaming.outputName (stripExtension f.name.shown)

/-- What is generated for a schema file among others. -/
def Generates (m : Memory) (c : Configuration) (files : List Schema.File) (f : Schema.File)
    (o : Output) : Prop :=
  ∃ s, source m c files f = .ok s ∧ output c f s = .ok o

theorem source_eq_ok_iff (m : Memory) (c : Configuration) (files : List Schema.File)
    (f : Schema.File) (s : SourceFile) :
  source m c files f = .ok s
    ↔ ∃ r, Schema.request c.moduleMap files f = .ok r ∧ r.generate m c = .ok s
  := bind_eq_ok_iff

theorem output_eq_ok_iff (c : Configuration) (f : Schema.File) (s : SourceFile) (o : Output) :
  output c f s = .ok o
    ↔ f.name.Readable ∧ o = ⟨c.fileNaming.outputName s.name, s.contents⟩
  := by
  show (do let _ ← f.name.readable; Except.ok _) = .ok o ↔ _
  rw [bind_eq_ok_iff, ← RawText.exists_readable_eq_ok_iff]
  constructor
  · rintro ⟨name, hname, ⟨⟩⟩
    exact ⟨⟨name, hname⟩, rfl⟩
  · rintro ⟨⟨name, hname⟩, rfl⟩
    exact ⟨name, hname, rfl⟩

theorem name_of_generates {m : Memory} {c : Configuration} {files : List Schema.File}
    {f : Schema.File} {o : Output} (h : Generates m c files f o) :
  o.name = outputName c f
  := by
  obtain ⟨s, hs, ho⟩ := h
  obtain ⟨r, hr, hs⟩ := (source_eq_ok_iff m c files f s).mp hs
  obtain ⟨-, rfl⟩ := (output_eq_ok_iff c f s o).mp ho
  show c.fileNaming.outputName s.name = _
  rw [Request.name_of_generate hs, Schema.fileName_of_request hr]
  rfl

/-- Something is generated for a file if it can be described, its request is acceptable, and no line
is indented too far. -/
theorem exists_generates_iff (m : Memory) (c : Configuration) {files : List Schema.File}
    {f : Schema.File} (h : latest files f.name = some f) :
  (∃ o, Generates m c files f o)
    ↔ f.Parses files
      ∧ ∀ r, Schema.request c.moduleMap files f = .ok r → r.Acceptable ∧ r.Writable m c
  := by
  rw [Schema.parses_iff c.moduleMap h]
  simp only [Generates, source_eq_ok_iff, output_eq_ok_iff, ← Request.exists_generate_eq_ok_iff]
  constructor
  · rintro ⟨o, s, ⟨r, hr, hs⟩, hname, -⟩
    refine ⟨⟨hname, r, hr⟩, ?_⟩
    intro r' hr'
    rw [hr] at hr'
    cases hr'
    exact ⟨s, hs⟩
  · rintro ⟨⟨hname, r, hr⟩, hgenerate⟩
    obtain ⟨s, hs⟩ := hgenerate r hr
    exact ⟨_, s, ⟨r, hr, hs⟩, hname, rfl⟩

/-! ### One name after the other -/

theorem descriptor_eq_ok_iff (files : List Schema.File) (name : RawText) (f : Schema.File) :
  descriptor files name = .ok f ↔ latest files name = some f
  := by
  rw [descriptor, Schema.get?_byName]
  cases latest files name with
  | none => simp
  | some g => simp

theorem add_eq_ok_iff (done : List Output) (o : Output) (os : List Output) :
  add done o = .ok os ↔ o.name ∉ done.map Output.name ∧ os = done ++ [o]
  := by
  have hany : done.any (fun d => d.name == o.name) = true ↔ o.name ∈ done.map Output.name := by
    simp
  rw [add, ← hany]
  split
  · next h => simp [h]
  · next h => simp [h, eq_comm]

/-- One step: a file without services adds nothing, any other what is generated for it, under a new
name. -/
theorem step_eq_ok_iff (m : Memory) (c : Configuration) (files : List Schema.File)
    (done : List Output) (name : RawText) (os : List Output) :
  (step m c files done name).result = .ok os
    ↔ ∃ f, latest files name = some f
      ∧ ((f.services = [] ∧ os = done)
        ∨ (f.services ≠ [] ∧ ∃ o, Generates m c files f o ∧ o.name ∉ done.map Output.name
          ∧ os = done ++ [o]))
  := by
  rw [step, Logged.result_bind_eq_ok_iff]
  simp only [Logged.result_ofExcept, mapError_eq_ok_iff, descriptor_eq_ok_iff]
  apply exists_congr
  intro f
  apply and_congr_right
  intro _
  split
  · next h =>
      rw [List.isEmpty_iff] at h
      have hskipped : (Logged.tell .info .batch (skipped name)
          >>= fun _ => pure done).result = .ok os ↔ os = done := by
        constructor
        · rintro ⟨⟩
          rfl
        · rintro rfl
          rfl
      rw [hskipped]
      simp [h]
  · next h =>
      rw [List.isEmpty_iff] at h
      simp only [Logged.result_bind_eq_ok_iff, Logged.result_ofExcept, Logged.result_tell,
        mapError_eq_ok_iff, add_eq_ok_iff, h, ne_eq, not_false_eq_true, false_and, true_and,
        false_or, Generates]
      constructor
      · rintro ⟨s, hs, _, o, ho, hname, rfl⟩
        exact ⟨o, ⟨s, hs, ho⟩, hname, rfl⟩
      · rintro ⟨o, ⟨s, hs, ho⟩, hname, rfl⟩
        exact ⟨s, hs, (), o, ho, hname, rfl⟩

/-- The schema files with services among those that are asked for, in order. -/
def listed (files : List Schema.File) (names : List RawText) : List Schema.File :=
  (names.filterMap (latest files)).filter (fun f => !f.services.isEmpty)

theorem listed_cons_of_empty {files : List Schema.File} {name : RawText} {f : Schema.File}
    (h : latest files name = some f) (hservices : f.services = []) (names : List RawText) :
  listed files (name :: names) = listed files names
  := by
  simp [listed, h, hservices]

theorem listed_cons {files : List Schema.File} {name : RawText} {f : Schema.File}
    (h : latest files name = some f) (hservices : f.services ≠ []) (names : List RawText) :
  listed files (name :: names) = f :: listed files names
  := by
  simp [listed, h, hservices]

/-- Outputs that can be added to others: their names are distinct, and new. -/
def Fresh (done added : List Output) : Prop :=
  (added.map Output.name).Nodup ∧ ∀ o ∈ added, o.name ∉ done.map Output.name

/-- Outputs can be added if the first can, and then the others. -/
theorem fresh_cons_iff (done : List Output) (o : Output) (added : List Output) :
  Fresh done (o :: added) ↔ o.name ∉ done.map Output.name ∧ Fresh (done ++ [o]) added
  := by
  have hnew : o.name ∉ added.map Output.name ↔ ∀ p ∈ added, p.name ≠ o.name := by
    simp
  have hboth : (∀ p ∈ added, p.name ∉ (done ++ [o]).map Output.name)
      ↔ (∀ p ∈ added, p.name ∉ done.map Output.name) ∧ ∀ p ∈ added, p.name ≠ o.name := by
    simp only [List.map_append, List.map_cons, List.map_nil, List.mem_append, List.mem_singleton,
      not_or, forall_and]
  rw [Fresh, Fresh, List.map_cons, List.nodup_cons, List.forall_mem_cons, hboth, hnew]
  tauto

/-- A batch from some outputs on: all names are known, and what is generated for the files with
services can be added. -/
theorem foldlM_eq_ok_iff (m : Memory) (c : Configuration) (files : List Schema.File)
    (names : List RawText) (done os : List Output) :
  (names.foldlM (step m c files) done).result = .ok os
    ↔ (∀ name ∈ names, ∃ f, latest files name = some f)
      ∧ ∃ added, List.Forall₂ (Generates m c files) (listed files names) added
        ∧ Fresh done added ∧ os = done ++ added
  := by
  induction names generalizing done with
  | nil => simp [listed, Fresh, eq_comm]
  | cons name names ih =>
      rw [List.foldlM_cons, Logged.result_bind_eq_ok_iff]
      simp only [step_eq_ok_iff, ih, List.forall_mem_cons]
      constructor
      · rintro ⟨done', ⟨f, hf, ⟨hservices, rfl⟩ | ⟨hservices, o, ho, hname, rfl⟩⟩, hknown, added,
          hadded, hfresh, rfl⟩
        · rw [listed_cons_of_empty hf hservices]
          exact ⟨⟨⟨f, hf⟩, hknown⟩, added, hadded, hfresh, rfl⟩
        · rw [listed_cons hf hservices]
          refine ⟨⟨⟨f, hf⟩, hknown⟩, o :: added, hadded.cons ho, ?_, by simp⟩
          rw [fresh_cons_iff]
          exact ⟨hname, hfresh⟩
      · rintro ⟨⟨⟨f, hf⟩, hknown⟩, added, hadded, hfresh, rfl⟩
        by_cases hservices : f.services = []
        · rw [listed_cons_of_empty hf hservices] at hadded
          exact ⟨done, ⟨f, hf, .inl ⟨hservices, rfl⟩⟩, hknown, added, hadded, hfresh, rfl⟩
        · rw [listed_cons hf hservices] at hadded
          obtain ⟨o, rest, ho, hrest, rfl⟩ := List.forall₂_cons_left_iff.mp hadded
          obtain ⟨hname, hfresh⟩ := (fresh_cons_iff done o rest).mp hfresh
          exact ⟨done ++ [o], ⟨f, hf, .inr ⟨hservices, o, ho, hname, rfl⟩⟩, hknown, rest, hrest,
            hfresh, by simp⟩

/-! ### Whole batches -/

section Run

variable (m : Memory) (c : Configuration) (files : List Schema.File) (names : List RawText)

/-- The conditions on the files of a batch: every name is known, every file with services can be
described and has an acceptable request, and the outputs have distinct names. -/
structure Sound : Prop where
  known : ∀ name ∈ names, ∃ f ∈ files, f.name = name
  parses : ∀ f ∈ listed files names, f.Parses files
  accepted : ∀ f ∈ listed files names, ∀ r, Schema.request c.moduleMap files f = .ok r →
    r.Acceptable
  distinct : ((listed files names).map (outputName c)).Nodup

/-- No line of an output is indented by more spaces than can be written. -/
def Writable : Prop :=
  ∀ f ∈ listed files names, ∀ r, Schema.request c.moduleMap files f = .ok r → r.Writable m c

/-- The output for a file: it has the name for the file, and a batch with this file alone generates
it. -/
structure IsOutput (f : Schema.File) (o : Output) : Prop where
  name : o.name = outputName c f
  alone : (run m c files [f.name]).result = .ok [o]

variable {m c files names}

theorem mem_listed {f : Schema.File} (h : f ∈ listed files names) :
  latest files f.name = some f ∧ f.services ≠ []
  := by
  obtain ⟨hmem, hservices⟩ := List.mem_filter.mp h
  obtain ⟨name, -, hf⟩ := List.mem_filterMap.mp hmem
  constructor
  · rw [Schema.name_of_latest hf, hf]
  · simpa using hservices

theorem run_eq_ok_iff (os : List Output) :
  (run m c files names).result = .ok os
    ↔ (∀ name ∈ names, ∃ f, latest files name = some f)
      ∧ List.Forall₂ (Generates m c files) (listed files names) os
      ∧ (os.map Output.name).Nodup
  := by
  rw [run, foldlM_eq_ok_iff]
  simp [Fresh]

/-- What a file gets in a batch is what it gets alone. -/
theorem isOutput_of_generates {f : Schema.File} {o : Output} (hf : f ∈ listed files names)
    (h : Generates m c files f o) :
  IsOutput m c files f o
  := by
  obtain ⟨hlatest, hservices⟩ := mem_listed hf
  refine ⟨name_of_generates h, ?_⟩
  rw [run_eq_ok_iff, listed_cons hlatest hservices]
  refine ⟨?_, .cons h .nil, List.nodup_singleton _⟩
  rw [List.forall_mem_singleton]
  exact ⟨f, hlatest⟩

theorem map_name_of_generates {fs : List Schema.File} {os : List Output}
    (h : List.Forall₂ (Generates m c files) fs os) :
  os.map Output.name = fs.map (outputName c)
  := by
  induction h with
  | nil => rfl
  | cons ho _ ih => rw [List.map_cons, List.map_cons, name_of_generates ho, ih]

theorem exists_latest_iff (name : RawText) :
  (∃ f, latest files name = some f) ↔ ∃ f ∈ files, f.name = name
  := by
  rw [← Option.isSome_iff_exists, latest, List.find?_isSome]
  simp

/-- A batch succeeds if its files are sound and no line is indented too far. -/
theorem exists_run_eq_ok_iff :
  (∃ os, (run m c files names).result = .ok os) ↔ Sound c files names ∧ Writable m c files names
  := by
  have hfiles : (∃ os, List.Forall₂ (Generates m c files) (listed files names) os)
      ↔ ∀ f ∈ listed files names, f.Parses files
        ∧ ∀ r, Schema.request c.moduleMap files f = .ok r → r.Acceptable ∧ r.Writable m c := by
    rw [exists_forall₂_iff]
    apply forall₂_congr
    intro f hf
    apply exists_generates_iff m c (mem_listed hf).1
  simp only [run_eq_ok_iff, exists_latest_iff]
  constructor
  · rintro ⟨os, hknown, hos, hdistinct⟩
    rw [map_name_of_generates hos] at hdistinct
    have h := hfiles.mp ⟨os, hos⟩
    constructor
    · exact {
        known := hknown
        parses := fun f hf => (h f hf).1
        accepted := fun f hf r hr => ((h f hf).2 r hr).1
        distinct := hdistinct }
    · exact fun f hf r hr => ((h f hf).2 r hr).2
  · rintro ⟨hsound, hwritable⟩
    obtain ⟨os, hos⟩ := hfiles.mpr (fun f hf =>
      ⟨hsound.parses f hf, fun r hr => ⟨hsound.accepted f hf r hr, hwritable f hf r hr⟩⟩)
    refine ⟨os, hsound.known, hos, ?_⟩
    rw [map_name_of_generates hos]
    exact hsound.distinct

/-- The outputs of a batch are those of its files, in order. -/
theorem isOutput_of_run {os : List Output} (h : (run m c files names).result = .ok os) :
  List.Forall₂ (IsOutput m c files) (listed files names) os
  := by
  obtain ⟨-, hos, -⟩ := (run_eq_ok_iff os).mp h
  have hboth := (List.forall₂_and_left _ os).mpr ⟨fun f hf => hf, hos⟩
  apply hboth.imp
  rintro f o ⟨hf, ho⟩
  apply isOutput_of_generates hf ho

end Run

end Batch

/-! ### The plugin -/

namespace Plugin

theorem outputs_eq_ok_iff (m : Memory) (read : FileReader) (base : Configuration) (q : Query)
    (os : List Output) :
  (outputs m read base q).result = .ok os
    ↔ ∃ (parameter : String) (c : Configuration), q.parameter = parameter
      ∧ base.withParameter read parameter = .ok c ∧ (Batch.run m c q.files q.names).result = .ok os
  := by
  rw [outputs]
  simp only [Logged.result_bind_eq_ok_iff, Logged.result_ofExcept,
    RawText.readable_eq_ok_iff,
    Settings.withParameter, bind_eq_ok_iff]
  constructor
  · rintro ⟨parameter, hparameter, _, ⟨c, hc, ⟨⟩⟩, hos⟩
    exact ⟨parameter, c, hparameter, hc, hos⟩
  · rintro ⟨parameter, c, hparameter, hc, hos⟩
    exact ⟨parameter, hparameter, c, ⟨c, hc, rfl⟩, hos⟩

/-- An answer that is all or nothing: either it holds the message of a problem and no output, or it
holds no error and exactly the outputs of the batch that was asked for. -/
inductive Answer.AllOrNothing (m : Memory) (read : FileReader) (base : Configuration) (q : Query) :
    Answer → Prop where
  | nothing {p : Problem} :
      (Plugin.outputs m read base q).result = .error (.problem p) →
      AllOrNothing m read base q { error := some p.message, outputs := [] }
  | all {parameter : String} {c : Configuration} {os : List Output} :
      q.parameter = parameter →
      base.withParameter read parameter = .ok c →
      (Batch.run m c q.files q.names).result = .ok os →
      AllOrNothing m read base q { error := none, outputs := os }

/-- The answers are the ones that are all or nothing. -/
theorem answer_eq_ok_iff (m : Memory) (read : FileReader) (base : Configuration) (q : Query)
    (a : Answer) :
  (answer m read base q).result = .ok a ↔ a.AllOrNothing m read base q
  := by
  rw [answer]
  constructor
  · intro h
    split at h
    · next os hos =>
        obtain ⟨parameter, c, hparameter, hc, hos⟩ := (outputs_eq_ok_iff m read base q os).mp hos
        cases h
        exact .all hparameter hc hos
    · next p hp =>
        cases h
        exact .nothing hp
    · cases h
  · rintro (⟨hp⟩ | ⟨hparameter, hc, hos⟩)
    · rw [hp]
    · rw [(outputs_eq_ok_iff m read base q _).mpr ⟨_, _, hparameter, hc, hos⟩]

end Plugin

/-! ### The command -/

namespace Command

/-- Telling something does nothing to a disk. -/
theorem perform_logSteps (d : Disk) (least : LogLevel) (log : List LogLine) :
  ∃ told, Run.perform d (logSteps least log) = (d, told, none)
  := by
  rw [logSteps]
  generalize log.filter (LogLine.shownFrom least) = lines
  induction lines with
  | nil => exact ⟨"", rfl⟩
  | cons l lines ih =>
      obtain ⟨told, htold⟩ := ih
      use l.text ++ told
      rw [List.map_cons, Run.perform, htold]

/-- A run that failed leaves the disk as it is. -/
theorem disk_outcome_failedRun (d : Disk) (log : List LogLine) (e : Failure) :
  ((failedRun log e).outcome d).disk = d
  := by
  cases e with
  | problem p =>
      obtain ⟨told, htold⟩ := perform_logSteps d .info (log ++ [⟨.error, .command, p.message⟩])
      rw [Run.outcome, failedRun, htold]
  | breakdown b =>
      obtain ⟨told, htold⟩ := perform_logSteps d .info log
      rw [Run.outcome, failedRun, htold]

theorem disk_of_outputs_error {m : Memory} {read : FileReader} {s : Settings} {a : Arguments}
    {e : Failure} (h : (outputs m read s a).result = .error e) (d : Disk) :
  ((descriptorRun m read s a).outcome d).disk = d
  := by
  rw [descriptorRun, h]
  apply disk_outcome_failedRun

end Command

/-! ### All or nothing -/

/-- A batch succeeds exactly if its files are sound and no line is indented too far, and its outputs
are then those of its files, each as it is generated alone. Only a huge indentation is too far: five
levels of it have to be written at most. An answer of the plugin holds these outputs or an error. A
command that fails to generate them leaves the disk as it was. -/
theorem Batch.all_or_nothing (m : Memory) :
  (∀ (c : Configuration) (files : List Schema.File) (names : List RawText),
      ((∃ os, (run m c files names).result = .ok os)
        ↔ Sound c files names ∧ Writable m c files names)
      ∧ (∀ os, (run m c files names).result = .ok os →
        List.Forall₂ (IsOutput m c files) (listed files names) os)
      ∧ (c.Moderate m → Writable m c files names))
    ∧ (∀ (read : FileReader) (base : Configuration) (q : Plugin.Query) (a : Plugin.Answer),
      (Plugin.answer m read base q).result = .ok a ↔ a.AllOrNothing m read base q)
    ∧ (∀ (read : FileReader) (s : Settings) (a : Command.Arguments) (e : Failure) (d : Disk),
      (Command.outputs m read s a).result = .error e →
      ((Command.descriptorRun m read s a).outcome d).disk = d)
  := by
  refine ⟨?_, ?_, ?_⟩
  · intro c files names
    refine ⟨exists_run_eq_ok_iff, fun os => isOutput_of_run, ?_⟩
    intro h f _ r _
    apply r.writable_of_moderate h
  · intro read base q a
    apply Plugin.answer_eq_ok_iff
  · intro read s a e d h
    apply Command.disk_of_outputs_error h

/-! ### Two batches -/

namespace Batch

/-- A batch with one file to generate is sound if the file has an acceptable request. -/
theorem sound_of_request {c : Configuration} {files : List Schema.File} {names : List RawText}
    {f : Schema.File} {r : Request} (hknown : ∀ name ∈ names, ∃ f ∈ files, f.name = name)
    (hlisted : listed files names = [f]) (hname : f.name.Readable)
    (hr : Schema.request c.moduleMap files f = .ok r) (hcheck : r.check = .ok ()) :
  Sound c files names
  := by
  have hf : f ∈ listed files names := by
    rw [hlisted]
    apply List.mem_singleton_self
  constructor
  · exact hknown
  · rw [hlisted, List.forall_mem_singleton, Schema.parses_iff c.moduleMap (mem_listed hf).1]
    exact ⟨hname, r, hr⟩
  · rw [hlisted, List.forall_mem_singleton, hr]
    rintro _ ⟨⟩
    exact r.check_eq_ok_iff.mp hcheck
  · rw [hlisted]
    apply List.nodup_singleton

/-- A file with one service and no method. -/
def greeterFile : Schema.File where
  name := "hello.proto"
  services := [{ name := "Greeter" }]

/-- The request of this file. -/
def greeterRequest : Request where
  fileName := "hello.proto"
  leadingTrivia := Schema.banner "hello.proto"
  dependencies := [{ moduleName := Schema.protobufModule }]
  services := [{ name := Name.ofIdentifier "Greeter", ns := greeterFile.namespaceName }]

/-- A configuration with 2⁶³ spaces for a level. -/
def vast : Configuration :=
  { Configuration.standard with
    indentation := 0x8000000000000000
    indentation_pos := by decide }

theorem request_greeterFile :
  Schema.request vast.moduleMap [greeterFile] greeterFile = .ok greeterRequest
  := by
  have hneeded : Schema.neededModules vast.moduleMap (Schema.byName [greeterFile]) greeterFile
      = .ok [] := by
    apply Schema.neededModules_alone rfl
  rw [Schema.request, Schema.knownFiles_eq rfl, hneeded]
  rfl

theorem not_writable_greeterRequest (m : Memory) :
  ¬ greeterRequest.Writable m vast
  := by
  intro h
  have hline : ∃ l ∈ spacedLines (sections vast.style vast.sides greeterRequest), l.1 = 1 := by
    rw [sections, aliasSection, byNamespace, greeterRequest, List.mergeSort_singleton]
    exact ⟨_, .tail _ (.head _), rfl⟩
  obtain ⟨l, hl, hdepth⟩ := hline
  have hfits := (h l hl).1
  rw [hdepth] at hfits
  exact absurd hfits (by decide)

/-- Everything is right about the file, and yet there is no output, whatever the memory, since the
lines inside braces cannot be written. -/
theorem vast_indentation_fails :
  Sound vast [greeterFile] ["hello.proto"]
    ∧ ∀ m os, (run m vast [greeterFile] ["hello.proto"]).result ≠ .ok os
  := by
  have hlisted : listed [greeterFile] ["hello.proto"] = [greeterFile] := rfl
  constructor
  · apply sound_of_request _ hlisted ⟨_, rfl⟩ request_greeterFile rfl
    simp [greeterFile]
  · intro m os hos
    obtain ⟨-, hwritable⟩ := exists_run_eq_ok_iff.mp ⟨os, hos⟩
    apply not_writable_greeterRequest m
    apply hwritable greeterFile _ greeterRequest request_greeterFile
    rw [hlisted]
    apply List.mem_singleton_self

/-- A file with a service that uses messages of another file. -/
def chatFile : Schema.File where
  name := "rooms/chat.proto"
  package := "chat"
  imports := ["all.proto"]
  services := [
    { name := "Room"
      methods := [
        { name := "Talk"
          inputType := ".chat.Line"
          outputType := "chat.Line.Part"
          clientStreaming := true }] }]

/-- A file with messages, one that makes the messages of others public, and the one with the
service. -/
def chatFiles : List Schema.File :=
  [{ name := "lines.proto"
     package := "chat"
     messages := [.mk "Line" [.mk "Part" []]] },
    { name := "all.proto"
      imports := ["lines.proto", "missing.proto"]
      publicImports := [0, -1] },
    chatFile]

/-- The request of the file with the service. -/
def chatRequest : Request where
  fileName := "rooms/chat.proto"
  leadingTrivia := Schema.banner "rooms/chat.proto"
  dependencies := [{ moduleName := Schema.protobufModule }]
  services := [
    { name := Name.ofIdentifier "Room"
      ns := chatFile.namespaceName
      methods := [
        { name := Name.ofIdentifier "Talk"
          inputStreaming := true
          inputType := "Chat_Line"
          outputType := "Chat_Line.Part" }] }]

theorem importsInRange_chatFiles :
  ∀ f ∈ chatFiles, f.ImportsInRange
  := by
  rw [chatFiles, List.forall_mem_cons, List.forall_mem_cons, List.forall_mem_singleton]
  simp only [Schema.File.ImportsInRange, List.forall_mem_cons]
  refine ⟨?_, ⟨⟨_, rfl⟩, ⟨_, rfl⟩, ?_⟩, ?_⟩
  · intro i hi
    cases hi
  · intro i hi
    cases hi
  · intro i hi
    cases hi

theorem request_chatFile :
  Schema.request Configuration.standard.moduleMap chatFiles chatFile = .ok chatRequest
  := by
  have hneeded : Schema.neededModules Configuration.standard.moduleMap (Schema.byName chatFiles)
      chatFile = .ok [] := by
    apply Schema.neededModules_empty importsInRange_chatFiles
  rw [Schema.request, Schema.knownFiles_eq rfl, hneeded]
  rfl

/-- A disk on which nothing can be read. -/
def noFiles : FileReader := fun _ => .error .missing

/-- Of two names that are asked for one has a service, for which there is an output. The plugin
answers with it. A command whose descriptors cannot be read leaves the disk alone. -/
theorem chat_all_or_nothing :
  (Sound .standard chatFiles ["rooms/chat.proto", "all.proto"]
      ∧ ∃ os, (run .ample Configuration.standard chatFiles ["rooms/chat.proto", "all.proto"]).result
          = .ok os
        ∧ List.Forall₂ (IsOutput .ample .standard chatFiles) [chatFile] os
        ∧ (Plugin.answer .ample noFiles Configuration.standard
          { names := ["rooms/chat.proto", "all.proto"], files := chatFiles }).result
            = .ok { outputs := os })
    ∧ ((Command.outputs .ample noFiles Configuration.standard { descriptorSet := "all.pb" }).result
        = .error (OptionError.unreadableDescriptors "all.pb" .missing).failure
      ∧ ∀ d, ((Command.descriptorRun .ample noFiles Configuration.standard
        { descriptorSet := "all.pb" }).outcome d).disk = d)
  := by
  have hsound : Sound .standard chatFiles ["rooms/chat.proto", "all.proto"] := by
    apply sound_of_request _ rfl ⟨_, rfl⟩ request_chatFile rfl
    simp [chatFiles, chatFile]
  obtain ⟨hrun, houtputs, hwritable⟩ := (all_or_nothing .ample).1 .standard chatFiles
    ["rooms/chat.proto", "all.proto"]
  obtain ⟨os, hos⟩ := hrun.mpr ⟨hsound, hwritable (by decide)⟩
  have hread : (Command.outputs .ample noFiles Configuration.standard
        { descriptorSet := "all.pb" }).result
      = .error (OptionError.unreadableDescriptors "all.pb" .missing).failure := rfl
  refine ⟨⟨hsound, os, hos, houtputs os hos, ?_⟩, hread, ?_⟩
  · apply ((all_or_nothing .ample).2.1 noFiles .standard _ _).mpr
    exact .all rfl rfl hos
  · intro d
    apply (all_or_nothing .ample).2.2 noFiles _ _ _ d hread

end Batch

end SwiftStubs
