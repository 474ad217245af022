import SwiftStubs.Proofs.AllOrNothing
import SwiftStubs.Proofs.Rejection
import SwiftStubs.Proofs.Requirements

/-!
# What the plugin requires

What each stage of the plugin requires, in the order in which it is looked at: the parameter, the
module map that it names, the schema files, the requests made of them and the lines that are
written. `Plugin.requirements` puts them together, so that the plugin fails exactly as the first
requirement that does not hold says (`Plugin.requires_outputs`).
-/

namespace SwiftStubs

open Swift Stub

/-! ### Schema files -/

/-- A text that has to be read. -/
def RawText.required (t : RawText) : Requirement :=
  ⟨t.Readable, .breakdown .garbledField⟩

theorem RawText.requires_readable (t : RawText) :
  Requires t.readable [t.required]
  := by
  apply requires_single t.exists_readable_eq_ok_iff
  intro e he
  cases t with
  | text s => cases he
  | garbled bytes =>
      cases he
      rfl

namespace Schema

section File

variable (files : List File) (f : File)

/-- A type that has to be read and known. -/
def typeRequirements (type : RawText) : List Requirement :=
  [type.required,
    ⟨Resolves files type,
      OptionError.failure (.unknownMessage (SymbolTable.withDot type.shown))⟩]

/-- What is required of a method: its comment, its name and its types, in this order. -/
def File.methodRequirements (service index : Nat) (m : Method) : List Requirement :=
  (f.comments.leading (methodPath service index)).map RawText.required
    ++ (m.name.required :: (typeRequirements files m.inputType
      ++ typeRequirements files m.outputType))

/-- What is required of a service: its methods, its comment and its name. -/
def File.serviceRequirements (index : Nat) (s : Service) : List Requirement :=
  s.methods.zipIdx.flatMap (fun (m, i) => f.methodRequirements files index i m)
    ++ ((f.comments.leading (servicePath index)).map RawText.required ++ [s.name.required])

/-- What is required to describe a file: the packages from which prefixes come, the public imports
that are followed, its own prefix, its services and the comments on top of it. -/
def File.requirements : List Requirement :=
  ⟨∀ g, latest files g.name = some g → g.swiftPrefix = none → g.package.Readable,
      .breakdown .garbledField⟩
    :: ⟨∀ name g, Seen (latest files) f.imports name → latest files name = some g →
      g.ImportsInRange, .breakdown .importIndex⟩
    :: (f.swiftPrefix.toList.map RawText.required
      ++ (f.services.zipIdx.flatMap (fun (s, i) => f.serviceRequirements files i s)
        ++ f.comments.detached.map RawText.required))

end File

theorem requires_mapM_readable (ts : List RawText) :
  Requires (ts.mapM RawText.readable) (ts.map RawText.required)
  := by
  rw [List.map_eq_flatMap]
  apply Requires.mapM
  intro t _
  apply t.requires_readable

theorem requires_documentation (comments : Comments) (path : List Int) :
  Requires (comments.documentation path) ((comments.leading path).map RawText.required)
  := by
  rw [Comments.documentation, Comments.leading]
  cases Dictionary.get? comments path with
  | none => apply requires_ok
  | some l => apply (l.leading.requires_readable).bind_ok documented

theorem requires_messageName (files : List File) (f : File) (type : RawText) :
  Requires ((f.context files).messageName type) (typeRequirements files type)
  := by
  apply type.requires_readable.bind
  intro name hname
  rw [RawText.readable_eq_ok_iff] at hname
  subst hname
  apply requires_single
  · simp only [mapError_eq_ok_iff]
    apply (exists_resolve_eq_ok_iff files name).trans
    simp [Resolves]
  · intro e he
    simp only [SymbolTable.resolve] at he
    split at he
    · cases he
      rfl
    · cases he

theorem requires_method (files : List File) (f : File) (service index : Nat) (m : Method) :
  Requires ((f.context files).method service index m) (f.methodRequirements files service index m)
  := by
  apply (requires_documentation _ _).bind
  intro _ _
  apply m.name.requires_readable.bind
  intro _ _
  apply (requires_messageName files f m.inputType).bind
  intro _ _
  apply (requires_messageName files f m.outputType).bind_ok

theorem requires_service (files : List File) (f : File) (index : Nat) (s : Service) :
  Requires ((f.context files).service index s) (f.serviceRequirements files index s)
  := by
  have hmethods : Requires
      (s.methods.zipIdx.mapM (fun (m, i) => (f.context files).method index i m))
      (s.methods.zipIdx.flatMap (fun (m, i) => f.methodRequirements files index i m)) := by
    apply Requires.mapM
    rintro ⟨m, i⟩ _
    apply requires_method
  apply hmethods.bind
  intro _ _
  apply (requires_documentation _ _).bind
  intro _ _
  apply s.name.requires_readable.bind_ok

theorem requires_leadingTrivia (f : File) :
  Requires f.leadingTrivia (f.comments.detached.map RawText.required)
  := by
  have hheader : Requires f.comments.header (f.comments.detached.map RawText.required) := by
    rw [Comments.header, Comments.detached]
    cases (Dictionary.get? f.comments versionPath).or (Dictionary.get? f.comments packagePath) with
    | none => apply requires_ok
    | some l => apply (requires_mapM_readable l.detached).bind_ok
  apply hheader.bind_ok

theorem requires_checkPrefix (f : File) :
  Requires f.checkPrefix (f.swiftPrefix.toList.map RawText.required)
  := by
  rw [File.checkPrefix]
  cases f.swiftPrefix with
  | none => apply requires_ok
  | some p => apply p.requires_readable.bind_ok

theorem requires_checkPackage (files : List File) :
  Requires ((byName files).values.forM File.checkPackage)
    [⟨∀ g, latest files g.name = some g → g.swiftPrefix = none → g.package.Readable,
      .breakdown .garbledField⟩]
  := by
  apply requires_single
  · rw [← forM_checkPackage_eq_ok_iff]
    exact ⟨fun ⟨_, h⟩ => h, fun h => ⟨(), h⟩⟩
  · intro e he
    obtain ⟨g, -, hg⟩ := exists_of_forM_eq_error he
    rw [File.checkPackage] at hg
    split at hg
    · cases hg
    · obtain hg | ⟨_, -, ⟨⟩⟩ := bind_eq_error_iff.mp hg
      obtain ⟨-, -⟩ | ⟨-, ⟨⟩⟩ := (g.package.requires_readable e).mp hg
      rfl

/-- The walk over public imports fails for one that is out of range only. -/
theorem eq_importIndex_of_reach {known : List (RawText × File)} {pending : List RawText}
    {b : Breakdown} (h : reach known pending = .error b) :
  b = .importIndex
  := by
  fun_induction reach known pending with
  | case1 known => cases h
  | case2 known name pending _ ih =>
      obtain h | ⟨_, -, ⟨⟩⟩ := bind_eq_error_iff.mp h
      exact ih h
  | case3 known name pending f _ ih =>
      obtain h | ⟨next, hnext, h⟩ := bind_eq_error_iff.mp h
      · obtain ⟨i, -, hi⟩ := exists_of_mapM_eq_error h
        split at hi
        · cases hi
          rfl
        · cases hi
      · obtain h | ⟨_, -, ⟨⟩⟩ := bind_eq_error_iff.mp h
        exact ih next h

theorem requires_neededModules (modules : ModuleMap) (files : List File) (f : File) :
  Requires (mapError Failure.breakdown (neededModules modules (byName files) f))
    [⟨∀ name g, Seen (latest files) f.imports name → latest files name = some g →
      g.ImportsInRange, .breakdown .importIndex⟩]
  := by
  apply requires_single
  · simp only [mapError_eq_ok_iff]
    apply exists_neededModules_eq_ok_iff
  · intro e he
    cases hneeded : neededModules modules (byName files) f with
    | ok ms =>
        rw [hneeded] at he
        cases he
    | error b =>
        rw [hneeded] at he
        cases he
        obtain hreach | ⟨_, -, ⟨⟩⟩ := bind_eq_error_iff.mp hneeded
        rw [eq_importIndex_of_reach hreach]

/-- A file is described unless something that is required of it does not hold. -/
theorem requires_request (modules : ModuleMap) {files : List File} {f : File}
    (h : latest files f.name = some f) :
  Requires (request modules files f) (f.requirements files)
  := by
  have hservices : Requires
      (f.services.zipIdx.mapM (fun (s, i) => (f.context files).service i s))
      (f.services.zipIdx.flatMap (fun (s, i) => f.serviceRequirements files i s)) := by
    apply Requires.mapM
    rintro ⟨s, i⟩ _
    apply requires_service
  rw [request, knownFiles_eq h]
  apply (requires_checkPackage files).bind
  intro _ _
  apply (requires_neededModules modules files f).bind
  intro _ _
  apply (requires_checkPrefix f).bind
  intro _ _
  apply hservices.bind
  intro _ _
  apply (requires_leadingTrivia f).bind_ok

end Schema

/-! ### Requests -/

/-- A line that has to be indented by no more spaces than can be written. -/
def lineRequirement (m : Memory) (width : Int) (l : DeepLine) : Requirement :=
  ⟨m.Holds (width * l.1), .breakdown (.render (.excess
    (if 0x8000000000000000 ≤ width * l.1 then .word else .memory)))⟩

/-- What is required to generate the file for a request: that it passes its check, and the spaces in
front of every line. -/
def Request.requirements (m : Memory) (c : Configuration) (r : Request) : List Requirement :=
  succeeds (mapError RequestError.failure r.check)
    ++ (spacedLines (sections c.style c.sides r)).map (lineRequirement m c.indentation)

theorem Swift.Memory.excess?_eq (m : Memory) {n : Int} (h : 0 ≤ n) :
  m.room.excess? n
    = if m.Holds n then none
      else some (if 0x8000000000000000 ≤ n then .word else .memory)
  := by
  by_cases hholds : m.Holds n
  · rw [if_pos hholds, m.excess?_eq_none_iff_of_nonneg h]
    exact hholds
  · rw [if_neg hholds, Memory.room]
    dsimp only
    rw [Memory.Holds] at hholds
    by_cases hword : 0x8000000000000000 ≤ n
    · rw [if_pos (Or.inr hword), if_pos hword]
    · rw [if_neg (by omega), if_pos (by omega), if_neg hword]

theorem firstBroken_lines_iff (m : Memory) {width : Int} (h : 0 ≤ width) (ls : List DeepLine)
    (e : Failure) :
  FirstBroken (ls.map (lineRequirement m width)) e
    ↔ ∃ cause, firstExcess? m width ls = some cause ∧ e = .breakdown (.render (.excess cause))
  := by
  rw [firstExcess?]
  induction ls with
  | nil => simp [not_firstBroken_nil]
  | cons l ls ih =>
      rw [List.map_cons, List.findSome?_cons,
        m.excess?_eq (Int.mul_nonneg h (Int.natCast_nonneg l.1))]
      by_cases hholds : m.Holds (width * l.1)
      · rw [firstBroken_cons_of_holds hholds, if_pos hholds, ih]
      · rw [firstBroken_cons_of_not_holds hholds, if_neg hholds]
        simp [lineRequirement]

theorem requires_textOf (m : Memory) {width : Int} (h : 0 ≤ width) (ls : List DeepLine) :
  Requires (mapError (fun e => .breakdown (.render e)) (textOf m width ls))
    (ls.map (lineRequirement m width))
  := by
  intro e
  rw [firstBroken_lines_iff m h, textOf]
  cases firstExcess? m width ls with
  | none => simp [mapError]
  | some cause => simp [mapError, eq_comm]

/-- Elements that pass a check need not be looked at behind others. -/
theorem forM_append_of_ok {α ε : Type} {f : α → Except ε Unit} {ys : List α}
    (h : ∀ y ∈ ys, f y = .ok ()) (xs : List α) :
  (xs ++ ys).forM f = xs.forM f
  := by
  induction xs with
  | nil => exact forM_eq_ok_iff.mpr h
  | cons x xs ih => rw [List.cons_append, List.forM, List.forM, ih]

/-- Extra imports change nothing about the check of a request. -/
theorem Request.check_withExtraImports (c : Configuration) (r : Request) :
  (r.withExtraImports c).check = r.check
  := by
  have hdependencies : checkDependencies (r.withExtraImports c).dependencies
      = checkDependencies r.dependencies := by
    apply forM_append_of_ok
    rw [List.forall_mem_map]
    intro m _
    rfl
  rw [check, hdependencies]
  rfl

theorem Request.requires_file (c : Configuration) (r : Request) :
  Requires (mapError RequestError.failure ((r.withExtraImports c).file c))
    (succeeds (mapError RequestError.failure r.check))
  := by
  cases hcheck : r.check with
  | error e =>
      have hfile : (r.withExtraImports c).file c = .error e := by
        rw [file, check_withExtraImports, hcheck]
        rfl
      rw [hfile]
      apply requires_succeeds
  | ok _ =>
      have hchecked : (r.withExtraImports c).check = .ok () := by
        rw [check_withExtraImports, hcheck]
      obtain ⟨f, hf, -⟩ := file_eq_ok c hchecked
      rw [hf]
      apply requires_ok

theorem Request.requires_generate (m : Memory) (c : Configuration) (r : Request) :
  Requires (r.generate m c) (r.requirements m c)
  := by
  have hpos : 0 ≤ c.indentation := Int.le_trans (by decide) c.indentation_pos
  rw [generate_eq]
  apply (requires_file c r).bind
  intro f hf
  rw [mapError_eq_ok_iff] at hf
  obtain ⟨-, is, -, rfl⟩ := (file_eq_ok_iff c _ f).mp hf
  have hlevel : ∀ ts, ∀ q ∈ (level ts).map (lineRequirement m c.indentation), q.holds := by
    simp [level, lineRequirement, Memory.Holds]
  apply Requires.bind_ok
  apply (requires_textOf m hpos _).congr
  intro e
  rw [File.lines, List.map_append, List.map_append, firstBroken_append_of_holds (hlevel _),
    firstBroken_append_of_holds (hlevel _), sections_withExtraImports]

/-! ### Batches -/

namespace Batch

open Schema (latest)

section Requirements

variable (m : Memory) (c : Configuration) (files : List Schema.File)

/-- What is required of a schema file with services, after some outputs: that it can be described,
that its request has a text, that its own name can be read, and that its output is new. -/
def fileRequirements (done : List String) (f : Schema.File) : List Requirement :=
  f.requirements files
    ++ (behind (Schema.request c.moduleMap files f) (Request.requirements m c)
      ++ [f.name.required,
        ⟨outputName c f ∉ done, OptionError.failure (.outputClash (outputName c f))⟩])

/-- What is required for a name that is asked for, after some outputs. -/
def nameRequirements (done : List String) (name : RawText) : List Requirement :=
  match latest files name with
  | none => [⟨False, OptionError.failure (.noDescriptor name.shown)⟩]
  | some f => if f.services.isEmpty then [] else fileRequirements m c files done f

/-- What is required for names that are asked for, one after the other. -/
def requirements (done : List String) : List RawText → List Requirement
  | [] => []
  | name :: names =>
    nameRequirements m c files done name
      ++ requirements (done ++ (listed files [name]).map (outputName c)) names

end Requirements

theorem requires_source (m : Memory) (c : Configuration) {files : List Schema.File}
    {f : Schema.File} (h : latest files f.name = some f) :
  Requires (source m c files f)
    (f.requirements files ++ behind (Schema.request c.moduleMap files f) (Request.requirements m c))
  := (Schema.requires_request c.moduleMap h).bind_behind (Request.requires_generate m c)

theorem requires_add (done : List Output) (o : Output) :
  Requires (mapError OptionError.failure (add done o))
    [⟨o.name ∉ done.map Output.name, OptionError.failure (.outputClash o.name)⟩]
  := by
  apply requires_single
  · simp [mapError_eq_ok_iff, add_eq_ok_iff]
  · intro e he
    rw [add] at he
    split at he
    · cases he
      rfl
    · cases he

theorem requires_step (m : Memory) (c : Configuration) (files : List Schema.File)
    (done : List Output) (name : RawText) :
  Requires (step m c files done name).result
    (nameRequirements m c files (done.map Output.name) name)
  := by
  rw [step, Logged.result_bind, Logged.result_ofExcept, descriptor, Schema.get?_byName,
    nameRequirements]
  cases hf : latest files name with
  | none => apply requires_succeeds (Except.error _)
  | some f =>
      show Requires (if f.services.isEmpty then _ else _ : Logged (List Output)).result _
      dsimp only
      split
      · apply requires_ok
      · have hlatest : latest files f.name = some f := by
          rw [Schema.name_of_latest hf, hf]
        simp only [Logged.result_bind, Logged.result_ofExcept, Logged.result_tell]
        rw [fileRequirements, ← List.append_assoc]
        apply (requires_source m c hlatest).bind
        intro s hs
        apply (f.name.requires_readable.bind_ok _ : Requires (output c f s) _).bind
        intro o ho
        rw [← name_of_generates ⟨s, hs, ho⟩]
        apply requires_add

theorem requires_foldlM (m : Memory) (c : Configuration) (files : List Schema.File)
    (names : List RawText) (done : List Output) :
  Requires (names.foldlM (step m c files) done).result
    (requirements m c files (done.map Output.name) names)
  := by
  induction names generalizing done with
  | nil => apply requires_ok
  | cons name names ih =>
      rw [List.foldlM_cons, Logged.result_bind, requirements]
      apply (requires_step m c files done name).bind
      intro os hos
      have hnames : os.map Output.name
          = done.map Output.name ++ (listed files [name]).map (outputName c) := by
        obtain ⟨f, hf, ⟨hservices, rfl⟩ | ⟨hservices, o, ho, -, rfl⟩⟩ :=
          (step_eq_ok_iff m c files done name os).mp hos
        · rw [listed_cons_of_empty hf hservices]
          simp [listed]
        · rw [listed_cons hf hservices, List.map_append, List.map_singleton, List.map_cons,
            name_of_generates ho]
          rfl
      rw [← hnames]
      apply ih

end Batch

/-! ### Parameters -/

/-- What is required to read a file: a path that a file can have, and a file that can be read. -/
def FileReader.requirements (read : FileReader) (path : String) (error : DiskError → OptionError) :
    List Requirement :=
  ⟨¬ (Path.ofText path).hasNul, .breakdown .invalidPath⟩
    :: succeeds (mapError (fun e => (error e).failure) (read (.ofText path)))

/-- What is required to load a module map: a file that can be read, in UTF-8, whose text writes a
module map. -/
def ModuleMap.requirements (read : FileReader) (path : String) : List Requirement :=
  read.requirements path (.unreadableMappings path)
    ++ behind (read.open path (.unreadableMappings path)) (fun bytes =>
      ⟨(RawText.ofBytes bytes).Readable, .breakdown .invalidText⟩
        :: behind (fileText bytes) (fun s => succeeds
          (mapError OptionError.failure (ofText (String.ofList (Text.normalizeBreaks s.toList))))))

/-- What is required to finish a draft: the module map, if there is one, and the indentation. -/
def Draft.requirements (read : FileReader) (d : Draft) : List Requirement :=
  (if d.mapPath.isEmpty then [] else ModuleMap.requirements read d.mapPath)
    ++ [⟨1 ≤ d.indentation, OptionError.failure (.indentation d.indentation)⟩]

/-- What is required of a parameter: that its options can be carried out, and then what the draft
requires. -/
def Configuration.requirements (base : Configuration) (read : FileReader) (parameter : String) :
    List Requirement :=
  let draft := mapError OptionError.failure (Draft.ofParameter base parameter)
  succeeds draft ++ behind draft (Draft.requirements read)

theorem requires_fileText (bytes : List UInt8) :
  Requires (fileText bytes) [⟨(RawText.ofBytes bytes).Readable, .breakdown .invalidText⟩]
  := by
  rw [fileText]
  cases RawText.ofBytes bytes with
  | text s =>
      apply requires_single
      · simp [RawText.Readable]
      · rintro e ⟨⟩
  | garbled bytes =>
      apply requires_single
      · simp [RawText.Readable]
      · rintro e ⟨⟩
        rfl

theorem FileReader.requires_open (read : FileReader) (path : String)
    (error : DiskError → OptionError) :
  Requires (read.open path error) (read.requirements path error)
  := requires_guard _ (requires_succeeds _)

theorem ModuleMap.requires_load (read : FileReader) (path : String) :
  Requires (load read path) (requirements read path)
  := by
  apply (read.requires_open path _).bind_behind
  intro bytes
  apply (requires_fileText bytes).bind_behind
  intro s
  apply requires_succeeds

theorem Draft.requires_finish (read : FileReader) (d : Draft) :
  Requires (d.finish read) (d.requirements read)
  := by
  have hload : Requires (d.loadMap read)
      (if d.mapPath.isEmpty then [] else ModuleMap.requirements read d.mapPath) := by
    rw [Draft.loadMap]
    split
    · apply requires_ok
    · apply (ModuleMap.requires_load read d.mapPath).bind_ok
  apply hload.bind
  intro c _
  rw [Configuration.withIndentation]
  by_cases h : 1 ≤ d.indentation
  · rw [dif_pos h]
    apply requires_single
    · simp [mapError, h]
    · rintro e ⟨⟩
  · rw [dif_neg h]
    apply requires_single
    · simp [mapError, h]
    · rintro e ⟨⟩
      rfl

theorem Configuration.requires_withParameter (base : Configuration) (read : FileReader)
    (parameter : String) :
  Requires (base.withParameter read parameter) (base.requirements read parameter)
  := (requires_succeeds _).bind_behind (Draft.requires_finish read)

/-! ### Answers -/

namespace Plugin

/-- What is required for a query to have outputs. -/
def requirements (m : Memory) (read : FileReader) (base : Configuration) (q : Query) :
    List Requirement :=
  [q.parameter.required]
    ++ behind q.parameter.readable (fun parameter => base.requirements read parameter
      ++ behind (base.withParameter read parameter)
        (fun c => Batch.requirements m c q.files [] q.names))

theorem requires_outputs (m : Memory) (read : FileReader) (base : Configuration) (q : Query) :
  Requires (outputs m read base q).result (requirements m read base q)
  := by
  have hresult : (outputs m read base q).result
      = (do
        let parameter ← q.parameter.readable
        let c ← base.withParameter read parameter
        (Batch.run m c q.files q.names).result) := by
    rw [outputs, Logged.result_bind, Logged.result_ofExcept]
    cases q.parameter.readable with
    | error e => rfl
    | ok parameter =>
        show (Logged.ofExcept ((base : Settings).withParameter read parameter) >>= _).result
          = (base.withParameter read parameter >>= _)
        rw [Logged.result_bind, Logged.result_ofExcept, Settings.withParameter]
        cases base.withParameter read parameter with
        | error e => rfl
        | ok c => rfl
  rw [hresult]
  apply q.parameter.requires_readable.bind_behind
  intro parameter
  apply (base.requires_withParameter read parameter).bind_behind
  intro c
  apply Batch.requires_foldlM m c q.files _ []

end Plugin

end SwiftStubs
