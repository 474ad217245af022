import SwiftStubs.Proofs.PublicImports
import SwiftStubs.Schema.Request
import Mathlib.Data.List.Induction

/-!
# Files that can be described

Describing a schema file by a request reads texts of the file, looks up the types of its methods
and follows public imports, all in one pass that ends with the first failure.
`Schema.File.Parses` says what has to be right, part by part: texts can be read, types are names of
known messages, and public imports are in range. Exactly such files have a request
(`parses_iff`).
-/

namespace SwiftStubs

/-! ### Dictionaries -/

namespace Dictionary

variable {α β : Type} [DecidableEq α]

/-- Of several pairs with one key the last gives the value. -/
theorem get?_ofList (es : List (α × β)) (k : α) :
  (ofList es).get? k = es.reverse.lookup k
  := by
  induction es using List.reverseRecOn with
  | nil => rfl
  | append_singleton es e ih =>
      obtain ⟨l, v⟩ := e
      have hlast : ofList (es ++ [(l, v)]) = (ofList es).insert l v := by
        simp [ofList, insertMany]
      rw [hlast, get?_insert, ih, List.reverse_append, List.reverse_singleton,
        List.singleton_append, List.lookup_cons]
      by_cases hk : k = l
      · simp [hk]
      · have hbeq : (k == l) = false := by simpa using hk
        rw [if_neg hk, hbeq]

theorem mem_of_get?_ofList {es : List (α × β)} {k : α} {v : β} (h : (ofList es).get? k = some v) :
  (k, v) ∈ es
  := by
  rw [get?_ofList] at h
  obtain ⟨xs, ys, heq, -⟩ := List.lookup_eq_some_iff.mp h
  rw [← List.mem_reverse, heq]
  simp

/-- The values are those of the keys. -/
theorem mem_values_iff (d : Dictionary α β) (v : β) :
  v ∈ d.values ↔ ∃ k, d.get? k = some v
  := by
  obtain ⟨es, hes⟩ := d
  simp only [values, get?]
  induction es with
  | nil => simp
  | cons e es ih =>
      obtain ⟨l, w⟩ := e
      rw [List.map_cons, List.nodup_cons] at hes
      rw [List.map_cons, List.mem_cons, ih hes.2]
      constructor
      · rintro (rfl | ⟨k, hk⟩)
        · exact ⟨l, List.lookup_cons_self⟩
        · use k
          have hkl : (k == l) = false := by
            rw [beq_eq_false_iff_ne]
            rintro rfl
            obtain ⟨xs, ys, rfl, -⟩ := List.lookup_eq_some_iff.mp hk
            apply hes.1
            simp
          rw [List.lookup_cons, hkl]
          exact hk
      · rintro ⟨k, hk⟩
        rw [List.lookup_cons] at hk
        cases hkl : k == l with
        | true =>
            rw [hkl] at hk
            exact .inl (Option.some.inj hk).symm
        | false =>
            rw [hkl] at hk
            exact .inr ⟨k, hk⟩

end Dictionary

/-! ### Readable texts -/

/-- A text that can be read. -/
def RawText.Readable (t : RawText) : Prop :=
  ∃ s, t = .text s

theorem RawText.readable_eq_ok_iff {t : RawText} {s : String} :
  t.readable = .ok s ↔ t = .text s
  := by
  cases t with
  | text s => simp [readable]
  | garbled bytes => simp [readable]

theorem RawText.exists_readable_eq_ok_iff (t : RawText) :
  (∃ s, t.readable = .ok s) ↔ t.Readable
  := by
  simp only [readable_eq_ok_iff, Readable]

namespace Schema

/-! ### Known files -/

/-- The file with a name. Of several files with one name the last counts. -/
def latest (files : List File) (name : RawText) : Option File :=
  files.reverse.find? (fun f => f.name == name)

theorem lookup_map_name (files : List File) (name : RawText) :
  (files.map (fun f => (f.name, f))).lookup name = files.find? (fun f => f.name == name)
  := by
  induction files with
  | nil => rfl
  | cons f files ih =>
      rw [List.map_cons, List.lookup_cons, List.find?_cons, ih, BEq.comm]

theorem get?_byName (files : List File) (name : RawText) :
  (byName files).get? name = latest files name
  := by
  rw [byName, Dictionary.get?_ofList, ← List.map_reverse, lookup_map_name, latest]

theorem name_of_latest {files : List File} {name : RawText} {f : File}
    (h : latest files name = some f) :
  f.name = name
  := by
  have hname := List.find?_some h
  simpa using hname

theorem mem_of_latest {files : List File} {name : RawText} {f : File}
    (h : latest files name = some f) :
  f ∈ files
  := by
  rw [← List.mem_reverse]
  exact List.mem_of_find?_eq_some h

theorem mem_values_byName (files : List File) (f : File) :
  f ∈ (byName files).values ↔ latest files f.name = some f
  := by
  simp only [Dictionary.mem_values_iff, get?_byName]
  constructor
  · rintro ⟨name, h⟩
    rw [name_of_latest h]
    exact h
  · intro h
    exact ⟨f.name, h⟩

theorem knownFiles_eq {files : List File} {f : File} (h : latest files f.name = some f) :
  knownFiles files f = byName files
  := by
  rw [knownFiles, Dictionary.contains, get?_byName, h]
  rfl

/-! ### What has to be right about a file -/

/-- The comment in front of a part of a file, if there is one. -/
def Comments.leading (comments : Comments) (path : List Int) : List RawText :=
  ((Dictionary.get? comments path).map Location.leading).toList

/-- The comments on top of a file. -/
def Comments.detached (comments : Comments) : List RawText :=
  match (Dictionary.get? comments versionPath).or (Dictionary.get? comments packagePath) with
  | none => []
  | some l => l.detached

/-- The texts that are read of a method, apart from its types. -/
def File.methodTexts (f : File) (service index : Nat) (m : Method) : List RawText :=
  m.name :: f.comments.leading (methodPath service index)

/-- The texts that are read of a service and its methods, apart from types. -/
def File.serviceTexts (f : File) (index : Nat) (s : Service) : List RawText :=
  s.name :: f.comments.leading (servicePath index)
    ++ s.methods.zipIdx.flatMap (fun (m, i) => f.methodTexts index i m)

/-- The texts that are read of a file, apart from its package and the types of its methods. -/
def File.texts (f : File) : List RawText :=
  f.name :: f.swiftPrefix.toList ++ f.comments.detached
    ++ f.services.zipIdx.flatMap (fun (s, i) => f.serviceTexts i s)

/-- A type that is the full name of a message of a known file, with or without the dot in front. -/
def Resolves (files : List File) (type : RawText) : Prop :=
  ∃ name, type = .text name
    ∧ ∃ g, latest files g.name = some g
      ∧ SymbolTable.withDot name ∈ g.symbols.map Prod.fst

/-- A file that can be described among some files. -/
structure File.Parses (files : List File) (f : File) : Prop where
  /-- The packages from which prefixes come can be read. -/
  packages : ∀ g, latest files g.name = some g → g.swiftPrefix = none → g.package.Readable
  /-- The texts that are read can be read. -/
  texts : ∀ t ∈ f.texts, t.Readable
  /-- The types of methods are known. -/
  types : ∀ s ∈ f.services, ∀ m ∈ s.methods,
    Resolves files m.inputType ∧ Resolves files m.outputType
  /-- The public imports that are followed are in range. -/
  imports : ∀ name g, Seen (latest files) f.imports name → latest files name = some g →
    g.ImportsInRange

/-! ### Parts of a request -/

/-- A text that is read and not looked at has to be readable still. -/
theorem discarded_eq_ok_iff (t : RawText) :
  (do let _ ← t.readable) = .ok () ↔ t.Readable
  := by
  cases t with
  | text s =>
      constructor
      · intro _
        exact ⟨s, rfl⟩
      · intro _
        rfl
  | garbled bytes =>
      constructor
      · rintro ⟨⟩
      · rintro ⟨s, ⟨⟩⟩

theorem checkPackage_eq_ok_iff (f : File) :
  f.checkPackage = .ok () ↔ (f.swiftPrefix = none → f.package.Readable)
  := by
  rw [File.checkPackage]
  cases f.swiftPrefix with
  | some p => simp
  | none =>
      dsimp only
      rw [discarded_eq_ok_iff]
      simp

theorem forM_checkPackage_eq_ok_iff (files : List File) :
  (byName files).values.forM File.checkPackage = .ok ()
    ↔ ∀ g, latest files g.name = some g → g.swiftPrefix = none → g.package.Readable
  := by
  simp only [forM_eq_ok_iff, mem_values_byName, checkPackage_eq_ok_iff]

theorem checkPrefix_eq_ok_iff (f : File) :
  f.checkPrefix = .ok () ↔ ∀ p ∈ f.swiftPrefix.toList, p.Readable
  := by
  rw [File.checkPrefix]
  cases f.swiftPrefix with
  | none => simp
  | some p =>
      dsimp only
      rw [discarded_eq_ok_iff, Option.toList_some, List.forall_mem_singleton]

theorem exists_documentation_eq_ok_iff (comments : Comments) (path : List Int) :
  (∃ s, comments.documentation path = .ok s) ↔ ∀ t ∈ comments.leading path, t.Readable
  := by
  rw [Comments.documentation, Comments.leading]
  cases Dictionary.get? comments path with
  | none => simp
  | some l =>
      simp only [Option.map_some, Option.toList_some, List.forall_mem_singleton]
      rw [← RawText.exists_readable_eq_ok_iff]
      cases l.leading.readable with
      | error e => simp [Except.map]
      | ok s => simp [Except.map]

theorem exists_leadingTrivia_eq_ok_iff (f : File) :
  (∃ s, f.leadingTrivia = .ok s) ↔ ∀ t ∈ f.comments.detached, t.Readable
  := by
  simp only [File.leadingTrivia, exists_bind_eq_ok_iff, Comments.header, Comments.detached]
  cases (Dictionary.get? f.comments versionPath).or (Dictionary.get? f.comments packagePath) with
  | none => simp
  | some l =>
      have htexts : (∃ ss, l.detached.mapM RawText.readable = .ok ss)
          ↔ ∀ t ∈ l.detached, t.Readable := by
        simp only [exists_mapM_eq_ok_iff, RawText.exists_readable_eq_ok_iff]
      rw [← htexts]
      simp [bind_eq_ok_iff]

theorem exists_neededModules_eq_ok_iff (modules : ModuleMap) (files : List File) (f : File) :
  (∃ ms, neededModules modules (byName files) f = .ok ms)
    ↔ ∀ name g, Seen (latest files) f.imports name → latest files name = some g →
      g.ImportsInRange
  := by
  have hlookup : ∀ name, (byName files).entries.lookup name = latest files name :=
    get?_byName files
  have hreach := exists_reach_eq_ok_iff (byName files).entries f.imports
  simp only [hlookup] at hreach
  rw [neededModules, exists_bind_eq_ok_iff, ← hreach]
  simp

/-- Without a module map no module is needed. -/
theorem neededModules_empty {files : List File} (h : ∀ g ∈ files, g.ImportsInRange) (f : File) :
  neededModules Dictionary.empty (byName files) f = .ok []
  := by
  have hmodule : ∀ name, moduleOf Dictionary.empty name = none := by
    intro name
    cases name with
    | text s => rfl
    | garbled bytes => rfl
  have hneeded : ∃ ms, neededModules Dictionary.empty (byName files) f = .ok ms := by
    rw [exists_neededModules_eq_ok_iff]
    intro name g _ hg
    apply h g (mem_of_latest hg)
  obtain ⟨ms, hms⟩ := hneeded
  rw [hms]
  obtain ⟨names, -, ⟨⟩⟩ := bind_eq_ok_iff.mp hms
  simp [hmodule]

/-- Neither is one for a file that is alone and passes no imports on. -/
theorem neededModules_alone {f : File} (h : f.publicImports = []) :
  neededModules Dictionary.empty (byName [f]) f = .ok []
  := by
  apply neededModules_empty
  rw [List.forall_mem_singleton, File.ImportsInRange, h]
  exact List.forall_mem_nil _

/-! ### Services and methods -/

/-- The context in which the services of a file are described. -/
def File.context (files : List File) (f : File) : Context :=
  ⟨.ofFiles (byName files).values, f.comments, f.namespaceName⟩

theorem exists_resolve_eq_ok_iff (files : List File) (name : String) :
  (∃ s, (SymbolTable.ofFiles (byName files).values).resolve name = .ok s)
    ↔ ∃ g, latest files g.name = some g ∧ SymbolTable.withDot name ∈ g.symbols.map Prod.fst
  := by
  have hmem : (∃ g, latest files g.name = some g
        ∧ SymbolTable.withDot name ∈ g.symbols.map Prod.fst)
      ↔ SymbolTable.withDot name ∈ ((byName files).values.flatMap File.symbols).map Prod.fst := by
    simp only [List.map_flatMap, List.mem_flatMap, mem_values_byName]
  rw [hmem, SymbolTable.resolve, SymbolTable.ofFiles, Dictionary.get?_ofList]
  cases hlookup : List.lookup (SymbolTable.withDot name)
      ((byName files).values.flatMap File.symbols).reverse with
  | some swift =>
      obtain ⟨xs, ys, heq, -⟩ := List.lookup_eq_some_iff.mp hlookup
      constructor
      · intro _
        rw [← List.mem_reverse, ← List.map_reverse, heq]
        simp
      · intro _
        exact ⟨swift, rfl⟩
  | none =>
      rw [List.lookup_eq_none_iff] at hlookup
      constructor
      · rintro ⟨s, ⟨⟩⟩
      · intro hname
        obtain ⟨e, he, heq⟩ := List.mem_map.mp hname
        have hne := hlookup e (List.mem_reverse.mpr he)
        rw [heq] at hne
        simp at hne

theorem exists_messageName_eq_ok_iff (files : List File) (f : File) (type : RawText) :
  (∃ s, (f.context files).messageName type = .ok s) ↔ Resolves files type
  := by
  rw [Context.messageName, exists_bind_eq_ok_iff, Resolves]
  simp only [mapError_eq_ok_iff, ← exists_resolve_eq_ok_iff]
  cases type with
  | text name => simp [RawText.readable, File.context]
  | garbled bytes => simp [RawText.readable]

/-- A method can be described if its texts can be read and its types are known. -/
theorem exists_method_eq_ok_iff (files : List File) (f : File) (service index : Nat) (m : Method) :
  (∃ n, (f.context files).method service index m = .ok n)
    ↔ (∀ t ∈ f.methodTexts service index m, t.Readable)
      ∧ Resolves files m.inputType ∧ Resolves files m.outputType
  := by
  have hdocumentation :=
    exists_documentation_eq_ok_iff (f.context files).comments (methodPath service index)
  have hcomments : (f.context files).comments = f.comments := rfl
  rw [File.methodTexts, List.forall_mem_cons, ← hcomments, ← hdocumentation,
    ← RawText.exists_readable_eq_ok_iff, ← exists_messageName_eq_ok_iff files f,
    ← exists_messageName_eq_ok_iff files f, Context.method]
  simp only [exists_bind_eq_ok_iff]
  constructor
  · rintro ⟨d, hd, n, hn, i, hi, o, ho, -⟩
    exact ⟨⟨⟨n, hn⟩, ⟨d, hd⟩⟩, ⟨i, hi⟩, ⟨o, ho⟩⟩
  · rintro ⟨⟨⟨n, hn⟩, ⟨d, hd⟩⟩, ⟨i, hi⟩, ⟨o, ho⟩⟩
    exact ⟨d, hd, n, hn, i, hi, o, ho, _, rfl⟩

/-- What holds of the elements of a list holds of them with their indexes. -/
theorem forall_mem_zipIdx_iff {α : Type} {P : α → Prop} (xs : List α) :
  (∀ p ∈ xs.zipIdx, P p.1) ↔ ∀ x ∈ xs, P x
  := by
  nth_rewrite 2 [← List.zipIdx_map_fst 0 xs]
  rw [List.forall_mem_map]

/-- A service can be described if its texts can be read and the types of its methods are known. -/
theorem exists_service_eq_ok_iff (files : List File) (f : File) (index : Nat) (s : Service) :
  (∃ n, (f.context files).service index s = .ok n)
    ↔ (∀ t ∈ f.serviceTexts index s, t.Readable)
      ∧ ∀ m ∈ s.methods, Resolves files m.inputType ∧ Resolves files m.outputType
  := by
  have hmethods : (∃ ms, s.methods.zipIdx.mapM
        (fun (m, i) => (f.context files).method index i m) = .ok ms)
      ↔ (∀ p ∈ s.methods.zipIdx, ∀ t ∈ f.methodTexts index p.2 p.1, t.Readable)
        ∧ ∀ m ∈ s.methods, Resolves files m.inputType ∧ Resolves files m.outputType := by
    simp only [exists_mapM_eq_ok_iff, exists_method_eq_ok_iff, forall_and]
    simp only [← forall_mem_zipIdx_iff s.methods]
  have hdocumentation :=
    exists_documentation_eq_ok_iff (f.context files).comments (servicePath index)
  have hcomments : (f.context files).comments = f.comments := rfl
  rw [File.serviceTexts, List.forall_mem_append, List.forall_mem_cons, List.forall_mem_flatMap,
    and_assoc, ← hmethods, ← hcomments, ← hdocumentation, ← RawText.exists_readable_eq_ok_iff,
    Context.service]
  simp only [exists_bind_eq_ok_iff]
  constructor
  · rintro ⟨ms, hms, d, hd, n, hn, -⟩
    exact ⟨⟨⟨n, hn⟩, ⟨d, hd⟩⟩, ⟨ms, hms⟩⟩
  · rintro ⟨⟨⟨n, hn⟩, ⟨d, hd⟩⟩, ⟨ms, hms⟩⟩
    exact ⟨ms, hms, d, hd, n, hn, _, rfl⟩

/-! ### The whole request -/

/-- A file can be described if its name can be read and it has a request. -/
theorem parses_iff (modules : ModuleMap) {files : List File} {f : File}
    (h : latest files f.name = some f) :
  f.Parses files ↔ f.name.Readable ∧ ∃ r, request modules files f = .ok r
  := by
  have hpackages := forM_checkPackage_eq_ok_iff files
  have hservices : (∃ ss, f.services.zipIdx.mapM
        (fun (s, i) => (f.context files).service i s) = .ok ss)
      ↔ (∀ p ∈ f.services.zipIdx, ∀ t ∈ f.serviceTexts p.2 p.1, t.Readable)
        ∧ ∀ s ∈ f.services, ∀ m ∈ s.methods,
          Resolves files m.inputType ∧ Resolves files m.outputType := by
    simp only [exists_mapM_eq_ok_iff, exists_service_eq_ok_iff, forall_and]
    simp only [← forall_mem_zipIdx_iff f.services]
  have himports := exists_neededModules_eq_ok_iff modules files f
  have htrivia := exists_leadingTrivia_eq_ok_iff f
  have hprefix := checkPrefix_eq_ok_iff f
  have htexts : (∀ t ∈ f.texts, t.Readable) ↔ f.name.Readable
      ∧ (∀ p ∈ f.swiftPrefix.toList, p.Readable) ∧ (∀ t ∈ f.comments.detached, t.Readable)
      ∧ ∀ p ∈ f.services.zipIdx, ∀ t ∈ f.serviceTexts p.2 p.1, t.Readable := by
    simp only [File.texts, List.forall_mem_append, List.forall_mem_cons, List.forall_mem_flatMap,
      and_assoc]
  simp only [request, knownFiles_eq h, exists_bind_eq_ok_iff, mapError_eq_ok_iff]
  constructor
  · rintro ⟨hpackage, htext, htype, himport⟩
    obtain ⟨hname, hown, hdetached, hservice⟩ := htexts.mp htext
    obtain ⟨ms, hms⟩ := himports.mpr himport
    obtain ⟨ss, hss⟩ := hservices.mpr ⟨hservice, htype⟩
    obtain ⟨t, ht⟩ := htrivia.mpr hdetached
    exact ⟨hname, (), hpackages.mpr hpackage, ms, hms, (), hprefix.mpr hown, ss, hss, t, ht, _, rfl⟩
  · rintro ⟨hname, _, hpackage, ms, hms, _, hown, ss, hss, t, ht, -⟩
    obtain ⟨hservice, htype⟩ := hservices.mp ⟨ss, hss⟩
    constructor
    · exact hpackages.mp hpackage
    · exact htexts.mpr ⟨hname, hprefix.mp hown, htrivia.mp ⟨t, ht⟩, hservice⟩
    · exact htype
    · exact himports.mp ⟨ms, hms⟩

/-- The request of a file is named after it. -/
theorem fileName_of_request {modules : ModuleMap} {files : List File} {f : File} {r : Request}
    (h : request modules files f = .ok r) :
  r.fileName = f.name.shown
  := by
  simp only [request, bind_eq_ok_iff] at h
  obtain ⟨_, -, _, -, _, -, _, -, _, -, ⟨⟩⟩ := h
  rfl

end Schema

end SwiftStubs
