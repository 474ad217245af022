import SwiftStubs.Proofs.FileOrder
import SwiftStubs.Proofs.Header
import SwiftStubs.Proofs.SavedFiles
import Mathlib

/-!
# Where outputs are saved

The outputs of a batch have distinct names, and each is saved at the path that its name writes,
behind the output directory. Distinct names need not write distinct paths, since empty parts, dots
and parts that go up do not count as they stand. `Command.Apart` says that no two outputs meet, and
this is exactly when all of them are found on the disk afterwards. Names of which no part stands out
never meet, and only naming by the full path of a schema file has other names.
-/

namespace SwiftStubs

/-! ### Names and paths -/

/-- A name whose parts all count: none is empty, stays where it is or goes up. -/
def Canonical (name : String) : Prop :=
  ∀ part ∈ Text.pieces '/' name, part ≠ "" ∧ part ≠ "." ∧ part ≠ ".."

/-- A name that leads from where it starts to something below. -/
structure Downward (name : String) : Prop where
  relative : (Path.ofText name).isAbsolute = false
  noUp : ".." ∉ (Path.ofText name).parts

theorem pieces_injective {separator : Char} {s t : String}
    (h : Text.pieces separator s = Text.pieces separator t) :
  s = t
  := by
  have hsplit : s.toList.splitOn separator = t.toList.splitOn separator := by
    exact List.map_injective_iff.mpr (fun _ _ => String.ofList_injective) h
  have hjoined := congrArg [separator].intercalate hsplit
  rw [List.intercalate_splitOn, List.intercalate_splitOn] at hjoined
  exact String.toList_injective hjoined

/-- All parts of a canonical name are parts of its path. -/
theorem Canonical.parts_eq {name : String} (h : Canonical name) :
  (Path.ofText name).parts = Text.pieces '/' name
  := by
  apply List.filter_eq_self.mpr
  intro part hpart
  obtain ⟨hempty, hdot, -⟩ := h part hpart
  simp [hempty, hdot]

theorem Canonical.downward {name : String} (h : Canonical name) :
  Downward name
  := by
  constructor
  · have hhead : name.toList.takeWhile (· == '/') = [] := by
      cases hname : name.toList with
      | nil => rfl
      | cons c cs =>
          have hc : c ≠ '/' := by
            rintro rfl
            apply (h "" _).1 rfl
            rw [Text.pieces, hname, List.splitOn_cons_eq_if_modifyHead]
            simp
          simp [hc]
    simp [Path.ofText, Path.isAbsolute, hhead]
  · rw [h.parts_eq]
    intro hup
    exact (h ".." hup).2.2 rfl

/-- A name without slashes that is no dots is canonical. -/
theorem canonical_of_noSlash {name : String} (h : '/' ∉ name.toList)
    (hname : name ≠ "" ∧ name ≠ "." ∧ name ≠ "..") :
  Canonical name
  := by
  have hpieces : Text.pieces '/' name = [name] := by
    rw [Text.pieces, List.splitOn_eq_singleton h]
    simp
  rw [Canonical, hpieces, List.forall_mem_singleton]
  exact hname

theorem slash_notMem_behindLast (cs : List Char) :
  '/' ∉ behindLast '/' cs
  := by
  rw [behindLast, List.mem_reverse]
  intro h
  have hne := List.mem_takeWhile_imp h
  simp at hne

/-- Unless full paths are used, the name of an output is canonical. -/
theorem FileNaming.canonical_outputName {naming : FileNaming} (h : naming ≠ .fullPath)
    (name : String) :
  Canonical (naming.outputName name)
  := by
  have hbase : ∃ base, naming.outputName name = base ++ ending ∧ '/' ∉ base.toList := by
    cases naming with
    | fullPath => cases h rfl
    | pathToUnderscores =>
        refine ⟨_, rfl, ?_⟩
        simp only [String.toList_ofList, List.mem_map, beq_iff_eq, not_exists, not_and]
        intro c _
        split
        · decide
        · assumption
    | dropPath =>
        refine ⟨_, rfl, ?_⟩
        simp [baseName, slash_notMem_behindLast]
  obtain ⟨base, hname, hslash⟩ := hbase
  have hlength : 2 < (naming.outputName name).length := by
    have hending : ending.length = 11 := rfl
    rw [hname, String.length_append, hending]
    omega
  apply canonical_of_noSlash
  · rw [hname, String.toList_append, List.mem_append, not_or]
    exact ⟨hslash, by decide⟩
  · refine ⟨?_, ?_, ?_⟩
    all_goals
      intro heq
      rw [heq] at hlength
      revert hlength
      decide

/-! ### Places of outputs -/

namespace Command

/-- Where an output is saved, from a working directory. -/
def outputPlace (working : Location) (directory : String) (o : Output) : Location :=
  (outputPath directory o).place working

/-- No two outputs are saved at one place. -/
def Apart (working : Location) (directory : String) (os : List Output) : Prop :=
  (os.map (outputPlace working directory)).Nodup

/-- All outputs are found on a disk, in files of their own and with their own contents. -/
structure Kept (after : Disk) (directory : String) (os : List Output) : Prop where
  distinct : (os.map (fun o => after.locate (outputPath directory o))).Nodup
  contents : ∀ o ∈ os, after.read (outputPath directory o) = .ok o.contents.toUTF8.toList

/-- The last output that is saved at the place of another. -/
def lastOutput (working : Location) (directory : String) (os : List Output) (o : Output) :
    Option Output :=
  os.reverse.find?
    (fun other => outputPlace working directory other == outputPlace working directory o)

theorem foldl_follow {parts : List String} (h : ".." ∉ parts) (here : Location) :
  parts.foldl Path.follow here = here ++ parts
  := by
  induction parts generalizing here with
  | nil => simp
  | cons part parts ih =>
      rw [List.mem_cons, not_or] at h
      have hpart : (part == "..") = false := by simpa using Ne.symm h.1
      rw [List.foldl_cons, ih h.2, Path.follow, hpart]
      simp

/-- An output whose name leads down is saved below the output directory. -/
theorem outputPlace_eq {o : Output} (h : Downward o.name) (working : Location)
    (directory : String) :
  outputPlace working directory o
    = (Path.ofText directory).place working ++ (Path.ofText o.name).parts
  := by
  rw [outputPlace, outputPath, Path.join, h.relative, if_neg Bool.false_ne_true, Path.place,
    List.foldl_append, foldl_follow h.noUp]
  rfl

/-- Outputs whose names lead down meet where their names have the same parts, but for the empty ones
and dots. -/
theorem apart_iff_of_downward {os : List Output} (h : ∀ o ∈ os, Downward o.name)
    (working : Location) (directory : String) :
  Apart working directory os ↔ (os.map (fun o => (Path.ofText o.name).parts)).Nodup
  := by
  have hplaces : os.map (outputPlace working directory)
      = (os.map (fun o => (Path.ofText o.name).parts)).map
        ((Path.ofText directory).place working ++ ·) := by
    rw [List.map_map]
    apply List.map_congr_left
    intro o ho
    exact outputPlace_eq (h o ho) working directory
  rw [Apart, hplaces, List.nodup_map_iff]
  exact List.append_right_injective _

/-- Outputs with distinct canonical names do not meet. -/
theorem apart_of_canonical {os : List Output} (hnames : (os.map Output.name).Nodup)
    (h : ∀ o ∈ os, Canonical o.name) (working : Location) (directory : String) :
  Apart working directory os
  := by
  rw [apart_iff_of_downward (fun o ho => (h o ho).downward)]
  apply List.pairwise_map.mpr
  apply (List.pairwise_map.mp hnames).imp_of_mem
  intro o o' ho ho' hne heq
  rw [(h o ho).parts_eq, (h o' ho').parts_eq] at heq
  exact hne (pieces_injective heq)

/-! ### The run -/

/-- The outputs of a command are those of a batch. -/
theorem exists_run_of_outputs {m : Swift.Memory} {read : FileReader} {c : Configuration}
    {a : Arguments} {os : List Output} (h : (outputs m read c a).result = .ok os) :
  ∃ files names, (Batch.run m c files names).result = .ok os
  := by
  rw [outputs, Logged.result_bind_eq_ok_iff] at h
  obtain ⟨files, -, h⟩ := h
  exact ⟨files, _, h⟩

theorem saved?_logSteps (least : LogLevel) (log : List LogLine) :
  (logSteps least log).filterMap Step.saved? = []
  := by
  rw [logSteps, List.filterMap_map]
  apply List.filterMap_eq_nil_iff.mpr
  intro l _
  rfl

theorem saved?_saveSteps (directory : String) (os : List Output) :
  (saveSteps directory os).filterMap Step.saved?
    = os.map (fun o => (outputPath directory o, o.contents))
  := by
  induction os with
  | nil => rfl
  | cons o os ih =>
      rw [saveSteps] at ih
      rw [saveSteps, List.flatMap_cons, List.filterMap_append, ih]
      rfl

section DescriptorRun

variable {d : Disk} {m : Swift.Memory} {read : FileReader} {c : Settings} {a : Arguments}
  {directory : String} {os : List Output} (hos : (outputs m read c a).result = .ok os)
  (hdirectory : a.outputDir = some directory)

include hos hdirectory

theorem saved?_descriptorRun :
  (descriptorRun m read c a).steps.filterMap Step.saved?
    = os.map (fun o => (outputPath directory o, o.contents))
  := by
  rw [descriptorRun, hos, hdirectory]
  show (_ ++ _ ++ [_]).filterMap Step.saved? = _
  rw [List.filterMap_append, List.filterMap_append, saved?_logSteps, saved?_saveSteps]
  simp [Step.saved?]

/-- A command that ends as it should has saved its outputs one after the other. -/
theorem holds_descriptorRun {code : Nat}
    (hend : ((descriptorRun m read c a).outcome d).ending = .exit code) :
  d.Holds ((descriptorRun m read c a).outcome d).disk
    (os.map (fun o => (outputPath directory o, o.contents)))
  := by
  rw [← saved?_descriptorRun hos hdirectory]
  exact holds_outcome hend

/-- A command ends as it should if its outputs can be saved. -/
theorem ending_descriptorRun {e : Disk}
    (h : saveAll d (os.map (fun o => (outputPath directory o, o.contents))) = .ok e) :
  ((descriptorRun m read c a).outcome d).ending = .exit 0
  := by
  rw [← saved?_descriptorRun hos hdirectory, ← perform_iff_saveAll] at h
  obtain ⟨told, hperform⟩ := h
  rw [Run.outcome, hperform, descriptorRun, hos, hdirectory]
  rfl

end DescriptorRun

section Holds

variable {d e : Disk} {directory : String} {os : List Output}
  (h : d.Holds e (os.map (fun o => (outputPath directory o, o.contents))))

include h

/-- The path of an output reads what was saved last at its place. -/
theorem read_of_holds {o : Output} (ho : o ∈ os) :
  ∃ last, lastOutput d.working directory os o = some last
    ∧ e.read (outputPath directory o) = .ok last.contents.toUTF8.toList
  := by
  obtain ⟨_, hlast, hread⟩ := h.read (List.mem_map_of_mem ho)
  rw [Disk.lastAt, ← List.map_reverse, List.find?_map, Option.map_eq_some_iff] at hlast
  obtain ⟨last, hlast, rfl⟩ := hlast
  use last
  constructor
  · rw [lastOutput, ← hlast]
    simp only [outputPlace, Function.comp_def]
  · simpa only using hread

/-- All outputs are kept if and only if no two of them meet. -/
theorem kept_iff_apart :
  Kept e directory os ↔ Apart d.working directory os
  := by
  have hleads : os.map (fun o => e.locate (outputPath directory o))
      = (os.map (outputPlace d.working directory)).map .ok := by
    rw [List.map_map]
    apply List.map_congr_left
    intro o ho
    have hlead := h.leads (outputPath directory o, o.contents) (List.mem_map_of_mem ho)
    rw [hlead, Function.comp_apply, outputPlace]
  have hdistinct : (os.map (fun o => e.locate (outputPath directory o))).Nodup
      ↔ Apart d.working directory os := by
    rw [hleads, List.nodup_map_iff (fun _ _ => Except.ok.inj), Apart]
  constructor
  · intro hkept
    exact hdistinct.mp hkept.distinct
  · intro hapart
    refine ⟨hdistinct.mpr hapart, ?_⟩
    intro o ho
    obtain ⟨last, hlast, hread⟩ := read_of_holds h ho
    have hmem : last ∈ os := List.mem_reverse.mp (List.mem_of_find?_eq_some hlast)
    have hplace : outputPlace d.working directory last = outputPlace d.working directory o := by
      simpa using List.find?_some hlast
    have hsame : last = o := List.inj_on_of_nodup_map hapart hmem ho hplace
    rw [hread, hsame]

end Holds

/-- No output is lost unless two outputs meet. When a command has saved all its outputs, the path of
each reads the output that was saved last at its place. All outputs are found, in files of their own
and with their own contents, if and only if no two of them were saved at one place. They do not meet
unless files are named by full paths, and not if their names are canonical either; names that lead
down meet if and only if they have the same parts but for empty ones and dots. -/
theorem outputs_kept_unless_meeting (m : Swift.Memory) (d : Disk) (c : Configuration)
    (a : Arguments) {directory : String} {os : List Output}
    (hos : (outputs m d.read c a).result = .ok os)
    (hdirectory : a.outputDir = some directory)
    (hend : ((descriptorRun m d.read c a).outcome d).ending = .exit 0) :
  (∀ o ∈ os, ∃ last, lastOutput d.working directory os o = some last
      ∧ ((descriptorRun m d.read c a).outcome d).disk.read (outputPath directory o)
        = .ok last.contents.toUTF8.toList)
    ∧ (Kept ((descriptorRun m d.read c a).outcome d).disk directory os
      ↔ Apart d.working directory os)
    ∧ (c.fileNaming ≠ .fullPath → Apart d.working directory os)
    ∧ ((∀ o ∈ os, Canonical o.name) → Apart d.working directory os)
    ∧ ((∀ o ∈ os, Downward o.name) →
      (Apart d.working directory os ↔ (os.map (fun o => (Path.ofText o.name).parts)).Nodup))
  := by
  have hholds := holds_descriptorRun hos hdirectory hend
  obtain ⟨files, names, hrun⟩ := exists_run_of_outputs hos
  obtain ⟨-, hgenerates, hnames⟩ := (Batch.run_eq_ok_iff os).mp hrun
  refine ⟨fun o => read_of_holds hholds, kept_iff_apart hholds, ?_, ?_, ?_⟩
  · intro hnaming
    apply apart_of_canonical hnames
    intro o ho
    have hname : o.name ∈ os.map Output.name := List.mem_map_of_mem ho
    rw [Batch.map_name_of_generates hgenerates] at hname
    obtain ⟨f, -, hf⟩ := List.mem_map.mp hname
    rw [← hf]
    exact c.fileNaming.canonical_outputName hnaming _
  · intro hcanonical
    exact apart_of_canonical hnames hcanonical d.working directory
  · intro hdownward
    exact apart_iff_of_downward hdownward d.working directory

end Command

/-! ### Two commands -/

namespace Batch

/-- A file with one service and no method, of which only the name is left open. -/
def serviceFile (name : String) : Schema.File where
  name := name
  services := [{ name := "Greeter" }]

/-- The request of such a file. -/
def serviceRequest (name : String) : Request where
  fileName := name
  leadingTrivia := Schema.banner name
  dependencies := [{ moduleName := Schema.protobufModule }]
  services := [{ name := Name.ofIdentifier "Greeter", ns := Name.absent }]

theorem request_serviceFile {files : List Schema.File} {name : String}
    (hfiles : ∀ f ∈ files, ∃ other, f = serviceFile other)
    (h : Schema.latest files name = some (serviceFile name)) :
  Schema.request Dictionary.empty files (serviceFile name) = .ok (serviceRequest name)
  := by
  have hpackages : (Schema.byName files).values.forM Schema.File.checkPackage = .ok () := by
    rw [Schema.forM_checkPackage_eq_ok_iff]
    intro g hg _
    obtain ⟨other, rfl⟩ := hfiles g (Schema.mem_of_latest hg)
    exact ⟨"", rfl⟩
  have hneeded : Schema.neededModules Dictionary.empty (Schema.byName files) (serviceFile name)
      = .ok [] := by
    apply Schema.neededModules_empty
    intro g hg
    obtain ⟨other, rfl⟩ := hfiles g hg
    intro i hi
    cases hi
  rw [Schema.request, Schema.knownFiles_eq h, hpackages, hneeded]
  rfl

/-- Something is generated for such a file, as long as no line is indented too far. -/
theorem exists_generates_serviceFile {m : Swift.Memory} {c : Configuration}
    (hmodules : c.moduleMap = Dictionary.empty) (hmoderate : c.Moderate m)
    {files : List Schema.File} {name : String}
    (hfiles : ∀ f ∈ files, ∃ other, f = serviceFile other)
    (h : Schema.latest files name = some (serviceFile name)) :
  ∃ o, Generates m c files (serviceFile name) o
  := by
  have hrequest : Schema.request c.moduleMap files (serviceFile name)
      = .ok (serviceRequest name) := by
    rw [hmodules]
    exact request_serviceFile hfiles h
  apply (exists_generates_iff m c h).mpr
  constructor
  · apply (Schema.parses_iff c.moduleMap h).mpr
    exact ⟨⟨name, rfl⟩, _, hrequest⟩
  · rw [hrequest]
    rintro _ ⟨⟩
    exact ⟨(Request.check_eq_ok_iff _).mp rfl, Request.writable_of_moderate hmoderate _⟩

/-- What is generated for such a file starts with a banner that names it. -/
theorem contents_of_generates {m : Swift.Memory} {c : Configuration} {files : List Schema.File}
    {name : String} {o : Output} (h : Generates m c files (serviceFile name) o) :
  ∃ below, o.contents = String.intercalate "\n" (Text.lines (Schema.banner name) ++ below)
  := by
  obtain ⟨s, hs, ho⟩ := h
  obtain ⟨r, hr, hs⟩ := (source_eq_ok_iff m c files _ s).mp hs
  obtain ⟨-, rfl⟩ := (output_eq_ok_iff c _ s o).mp ho
  have htrivia : r.leadingTrivia = Schema.banner name := by
    have hheader := Schema.leadingTrivia_of_request hr
    exact (Except.ok.inj hheader).symm
  rw [← htrivia]
  exact Request.contents_of_generate hs

/-- So the outputs for two such files are not the same. -/
theorem contents_ne_of_generates {m : Swift.Memory} {c : Configuration} {files : List Schema.File}
    {name name' : String} {o o' : Output} (ho : Generates m c files (serviceFile name) o)
    (ho' : Generates m c files (serviceFile name') o') (hname : Text.Unbroken name.toList)
    (hname' : Text.Unbroken name'.toList) (hne : name ≠ name') :
  o.contents ≠ o'.contents
  := by
  obtain ⟨below, hcontents⟩ := contents_of_generates ho
  obtain ⟨below', hcontents'⟩ := contents_of_generates ho'
  rw [hcontents, hcontents']
  intro heq
  exact hne (Schema.source_eq_of_banner hname hname' heq)

end Batch

namespace Command

open Batch

/-- The descriptor of such a file, as an entry of a set. -/
def serviceBytes (name : String) : List UInt8 :=
  Wire.writeBytesField 1
    (Wire.writeTextField 1 name ++ Wire.writeBytesField 6 (Wire.writeTextField 1 "Greeter"))

/-- A disk with the descriptors of two such files. -/
def twoServices (first second : String) : Disk where
  nodes := .ofList [(["set.pb"], .file (serviceBytes first ++ serviceBytes second))]
  working := []

/-- The arguments for a command that uses these descriptors. -/
def setArguments : Arguments :=
  { descriptorSet := "set.pb" }

/-- What the command leaves behind. -/
def serviceOutcome (c : Configuration) (first second : String) : Outcome :=
  (descriptorRun .ample (twoServices first second).read c setArguments).outcome
    (twoServices first second)

theorem flat_twoServices (first second : String) :
  Flat (twoServices first second)
  := by
  refine ⟨rfl, ?_⟩
  intro name h
  have hmem := Dictionary.mem_of_get?_ofList h
  simp at hmem

section TwoServices

variable (c : Configuration) (first second : String)

theorem descriptors_twoServices
    (h : (Wire.read .fileSet (serviceBytes first ++ serviceBytes second)).map
        (fun m => (m.messages 1).map Schema.File.ofWire)
      = some [serviceFile first, serviceFile second]) :
  descriptors (twoServices first second).read "set.pb"
    = .ok [serviceFile first, serviceFile second]
  := by
  obtain ⟨m, hm, hfiles⟩ := Option.map_eq_some_iff.mp h
  apply bind_eq_ok_iff.mpr
  refine ⟨serviceBytes first ++ serviceBytes second, rfl, ?_⟩
  rw [hm, ← hfiles]

/-- The command has an output for each of the two files. -/
theorem exists_outputs_twoServices (hmodules : c.moduleMap = Dictionary.empty)
    (hmoderate : c.Moderate .ample)
    (hread : descriptors (twoServices first second).read "set.pb"
      = .ok [serviceFile first, serviceFile second])
    (hfiles : first ≠ second)
    (hnames : outputName c (serviceFile first) ≠ outputName c (serviceFile second)) :
  ∃ o o', (outputs .ample (twoServices first second).read c setArguments).result = .ok [o, o']
    ∧ Generates .ample c [serviceFile first, serviceFile second] (serviceFile first) o
    ∧ Generates .ample c [serviceFile first, serviceFile second] (serviceFile second) o'
  := by
  have hnodup : ([serviceFile first, serviceFile second].map Schema.File.name).Nodup := by
    simpa [serviceFile] using hfiles
  have hfirst := (Schema.latest_eq_some_iff hnodup first (serviceFile first)).mpr
    ⟨List.mem_cons_self, rfl⟩
  have hsecond := (Schema.latest_eq_some_iff hnodup second (serviceFile second)).mpr
    ⟨by simp, rfl⟩
  have hservices : ∀ f ∈ [serviceFile first, serviceFile second],
      ∃ other, f = serviceFile other := by
    simp
  obtain ⟨o, ho⟩ := exists_generates_serviceFile hmodules hmoderate hservices hfirst
  obtain ⟨o', ho'⟩ := exists_generates_serviceFile hmodules hmoderate hservices hsecond
  refine ⟨o, o', ?_, ho, ho'⟩
  rw [outputs, Logged.result_bind_eq_ok_iff]
  refine ⟨_, hread, ?_⟩
  apply (run_eq_ok_iff [o, o']).mpr
  show (∀ name ∈ [RawText.text first, RawText.text second], _)
    ∧ List.Forall₂ _ (listed _ [RawText.text first, RawText.text second]) _ ∧ _
  refine ⟨?_, ?_, ?_⟩
  · rw [List.forall_mem_cons, List.forall_mem_singleton]
    exact ⟨⟨_, hfirst⟩, ⟨_, hsecond⟩⟩
  · rw [listed_cons hfirst (List.cons_ne_nil _ _), listed_cons hsecond (List.cons_ne_nil _ _)]
    exact .cons ho (.cons ho' .nil)
  · simpa [name_of_generates ho, name_of_generates ho'] using hnames

/-- Outputs with plain names can be saved next to the descriptors. -/
theorem ending_serviceOutcome {os : List Output}
    (hos : (outputs .ample (twoServices first second).read c setArguments).result = .ok os)
    (h : ∀ o ∈ os, ∃ name, outputPath "." o = ⟨"", [name]⟩ ∧ PlainName name) :
  (serviceOutcome c first second).ending = .exit 0
  := by
  have hsaves : ∀ s ∈ os.map (fun o => (outputPath "." o, o.contents)),
      ∃ name, s.1 = ⟨"", [name]⟩ ∧ PlainName name := by
    intro s hs
    obtain ⟨o, ho, rfl⟩ := List.mem_map.mp hs
    apply h o ho
  obtain ⟨e, he⟩ := (flat_twoServices first second).saveAll hsaves
  exact ending_descriptorRun hos rfl he

end TwoServices

/-- A configuration in which outputs are named by the last parts of paths. -/
def droppingPaths : Configuration :=
  { Configuration.standard with fileNaming := .dropPath }

/-- Without their directories, two files have outputs that do not meet, and both are found. -/
theorem dropped_paths_outputs_kept :
  ∃ o o',
    (outputs .ample (twoServices "x/a.proto" "y/b.proto").read droppingPaths setArguments).result
        = .ok [o, o']
      ∧ o.name = "a.grpc.swift" ∧ o'.name = "b.grpc.swift"
      ∧ (serviceOutcome droppingPaths "x/a.proto" "y/b.proto").ending = .exit 0
      ∧ Kept (serviceOutcome droppingPaths "x/a.proto" "y/b.proto").disk "." [o, o']
  := by
  have hread := descriptors_twoServices "x/a.proto" "y/b.proto" (by cbv)
  obtain ⟨o, o', hos, ho, ho'⟩ := exists_outputs_twoServices droppingPaths _ _ rfl (by decide)
    hread (by decide) (by decide)
  have hname : o.name = "a.grpc.swift" := name_of_generates ho
  have hname' : o'.name = "b.grpc.swift" := name_of_generates ho'
  have hend : (serviceOutcome droppingPaths "x/a.proto" "y/b.proto").ending = .exit 0 := by
    apply ending_serviceOutcome _ _ _ hos
    rw [List.forall_mem_cons, List.forall_mem_singleton, outputPath, outputPath, hname, hname']
    exact ⟨⟨"a.grpc.swift", by decide⟩, ⟨"b.grpc.swift", by decide⟩⟩
  obtain ⟨-, hkept, hapart, -⟩ := outputs_kept_unless_meeting .ample _ droppingPaths setArguments
    hos rfl hend
  exact ⟨o, o', hos, hname, hname', hend, hkept.mpr (hapart (by decide))⟩

/-- Two files whose paths are the same but for a dot have outputs of different names. Both are saved
to one file, where the first is lost, and the command ends as if all were well. -/
theorem twin_output_lost :
  ∃ o o',
    (outputs .ample (twoServices "a.proto" "./a.proto").read Configuration.standard
        setArguments).result = .ok [o, o']
      ∧ o.name = "a.grpc.swift" ∧ o'.name = "./a.grpc.swift"
      ∧ (serviceOutcome .standard "a.proto" "./a.proto").ending = .exit 0
      ∧ outputPath "." o = outputPath "." o'
      ∧ (serviceOutcome .standard "a.proto" "./a.proto").disk.read (outputPath "." o)
        = .ok o'.contents.toUTF8.toList
      ∧ o.contents ≠ o'.contents
  := by
  have hread := descriptors_twoServices "a.proto" "./a.proto" (by cbv)
  obtain ⟨o, o', hos, ho, ho'⟩ := exists_outputs_twoServices .standard _ _ rfl (by decide) hread
    (by decide) (by decide)
  have hname : o.name = "a.grpc.swift" := name_of_generates ho
  have hname' : o'.name = "./a.grpc.swift" := name_of_generates ho'
  have hpath : outputPath "." o = ⟨"", ["a.grpc.swift"]⟩ := by
    rw [outputPath, hname]
    rfl
  have hpath' : outputPath "." o' = ⟨"", ["a.grpc.swift"]⟩ := by
    rw [outputPath, hname']
    rfl
  have hend : (serviceOutcome .standard "a.proto" "./a.proto").ending = .exit 0 := by
    apply ending_serviceOutcome _ _ _ hos
    rw [List.forall_mem_cons, List.forall_mem_singleton, hpath, hpath']
    exact ⟨⟨"a.grpc.swift", by decide⟩, ⟨"a.grpc.swift", by decide⟩⟩
  obtain ⟨last, hlast, hfound⟩ := read_of_holds (holds_descriptorRun hos rfl hend)
    List.mem_cons_self
  have hsecond : last = o' := by
    simpa [lastOutput, outputPlace, hpath, hpath', eq_comm] using hlast
  rw [hsecond] at hfound
  exact ⟨o, o', hos, hname, hname', hend, hpath.trans hpath'.symm, hfound,
    contents_ne_of_generates ho ho' (by decide) (by decide) (by decide)⟩

end Command

end SwiftStubs
