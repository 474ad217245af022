import SwiftStubs.Proofs.NeededModules

/-!
# The order of schema files

Schema files are kept in tables by name, and their messages in one table by full name. If file names
and full names are distinct, such a table says what stands in which file and nothing about the order
in which the files came (`latest_eq_some_iff`, `get?_ofFiles_eq_some_iff`). All that is made of the
files goes through these tables, so a batch does the same for the files in any order.
-/

namespace SwiftStubs

/-- If the pairs with a key agree on its value, they give the value of the key. -/
theorem Dictionary.get?_ofList_eq_some_iff {α β : Type} [DecidableEq α] {es : List (α × β)} {k : α}
    (h : ∀ v w, (k, v) ∈ es → (k, w) ∈ es → v = w) (v : β) :
  (ofList es).get? k = some v ↔ (k, v) ∈ es
  := by
  constructor
  · exact mem_of_get?_ofList
  · intro hv
    cases hget : (ofList es).get? k with
    | none =>
        rw [get?_ofList, List.lookup_eq_none_iff] at hget
        have hne := hget _ (List.mem_reverse.mpr hv)
        simp at hne
    | some w => rw [h v w hv (mem_of_get?_ofList hget)]

/-- A check with given requirements has no other way to go. -/
theorem Requires.unit_eq {x y : Except Failure Unit} {reqs : List Requirement}
    (hx : Requires x reqs) (hy : Requires y reqs) :
  x = y
  := by
  cases x with
  | error e =>
      symm
      exact (hy e).mpr ((hx e).mp rfl)
  | ok _ =>
      cases y with
      | error e => cases (hx e).mpr ((hy e).mp rfl)
      | ok _ => rfl

namespace Schema

/-! ### Tables of files -/

/-- If the names of files are distinct, the file with a name is the one that has it. -/
theorem latest_eq_some_iff {files : List File} (hnames : (files.map File.name).Nodup)
    (name : RawText) (f : File) :
  latest files name = some f ↔ f ∈ files ∧ f.name = name
  := by
  constructor
  · intro h
    exact ⟨mem_of_latest h, name_of_latest h⟩
  · rintro ⟨hf, rfl⟩
    obtain ⟨g, hg⟩ := (Batch.exists_latest_iff f.name).mpr ⟨f, hf, rfl⟩
    rw [hg, List.inj_on_of_nodup_map hnames (mem_of_latest hg) hf (name_of_latest hg)]

theorem latest_eq_of_perm {files files' : List File} (hperm : files.Perm files')
    (hnames : (files.map File.name).Nodup) :
  latest files = latest files'
  := by
  have hnames' : (files'.map File.name).Nodup := (hperm.map File.name).nodup_iff.mp hnames
  funext name
  apply Option.ext
  intro f
  rw [latest_eq_some_iff hnames, latest_eq_some_iff hnames', hperm.mem_iff]

/-! ### Tables of messages -/

/-- The full names of the messages of some files. -/
def fullNames (files : List File) : List String :=
  (files.flatMap File.symbols).map Prod.fst

/-- If full names are distinct, the table of messages says what stands in some file. -/
theorem get?_ofFiles_eq_some_iff {files : List File} (hmessages : (fullNames files).Nodup)
    (full swift : String) :
  Dictionary.get? (SymbolTable.ofFiles (byName files).values) full = some swift
    ↔ ∃ f, latest files f.name = some f ∧ (full, swift) ∈ f.symbols
  := by
  have hsymbols : ∀ s, (full, s) ∈ (byName files).values.flatMap File.symbols
      ↔ ∃ f, latest files f.name = some f ∧ (full, s) ∈ f.symbols := by
    simp only [List.mem_flatMap, mem_values_byName, implies_true]
  rw [SymbolTable.ofFiles, Dictionary.get?_ofList_eq_some_iff, hsymbols]
  intro v w hv hw
  have hmem : ∀ s, (full, s) ∈ (byName files).values.flatMap File.symbols →
      (full, s) ∈ files.flatMap File.symbols := by
    intro s hs
    obtain ⟨f, hf, hs⟩ := (hsymbols s).mp hs
    exact List.mem_flatMap.mpr ⟨f, mem_of_latest hf, hs⟩
  have heq := List.inj_on_of_nodup_map hmessages (hmem v hv) (hmem w hw) rfl
  exact (Prod.mk.inj heq).2

section Perm

variable {files files' : List File} (hperm : files.Perm files')
  (hnames : (files.map File.name).Nodup) (hmessages : (fullNames files).Nodup)

include hperm hnames hmessages

theorem get?_ofFiles_of_perm (full : String) :
  Dictionary.get? (SymbolTable.ofFiles (byName files).values) full
    = Dictionary.get? (SymbolTable.ofFiles (byName files').values) full
  := by
  have hmessages' : (fullNames files').Nodup :=
    ((hperm.flatMap_right File.symbols).map Prod.fst).nodup_iff.mp hmessages
  apply Option.ext
  intro swift
  rw [get?_ofFiles_eq_some_iff hmessages, get?_ofFiles_eq_some_iff hmessages',
    latest_eq_of_perm hperm hnames]

/-! ### The request of a file -/

theorem messageName_of_perm (f : File) (type : RawText) :
  (f.context files).messageName type = (f.context files').messageName type
  := by
  simp only [Context.messageName, SymbolTable.resolve, File.context,
    get?_ofFiles_of_perm hperm hnames hmessages]

theorem service_of_perm (f : File) :
  (f.context files).service = (f.context files').service
  := by
  funext index s
  simp only [Context.service, Context.method, messageName_of_perm hperm hnames hmessages]
  rfl

/-- The request of a file does not depend on the order of the files. -/
theorem request_of_perm (modules : ModuleMap) {f : File} (h : latest files f.name = some f) :
  request modules files f = request modules files' f
  := by
  have hlatest := latest_eq_of_perm hperm hnames
  have hpackages : (byName files).values.forM File.checkPackage
      = (byName files').values.forM File.checkPackage := by
    apply (requires_checkPackage files).unit_eq
    rw [hlatest]
    apply requires_checkPackage
  have hneeded : neededModules modules (byName files) f
      = neededModules modules (byName files') f := by
    apply neededModules_congr _ rfl (fun _ => Iff.rfl)
    have hget : (byName files).get? = (byName files').get? := by
      funext name
      rw [get?_byName, get?_byName, hlatest]
    rw [hget]
    apply KnownAlike.refl
  have hservice := service_of_perm hperm hnames hmessages f
  rw [request, request, knownFiles_eq h, knownFiles_eq (hlatest ▸ h), hpackages, hneeded]
  simp only [File.context] at hservice
  simp only [hservice]

end Perm

end Schema

/-! ### Batches -/

/-- What follows a step matters for the results of the step alone. -/
theorem Logged.bind_congr {α β : Type} {x : Logged α} {f g : α → Logged β}
    (h : ∀ a, x.result = .ok a → f a = g a) :
  x >>= f = x >>= g
  := by
  show x.andThen f = x.andThen g
  unfold andThen
  cases hx : x.result with
  | error e => rfl
  | ok a => simp only [h a hx]

namespace Batch

open Schema (latest_eq_of_perm request_of_perm fullNames)

section Perm

variable {files files' : List Schema.File} (hperm : files.Perm files')
  (hnames : (files.map Schema.File.name).Nodup)

include hperm hnames

theorem descriptor_of_perm (name : RawText) :
  descriptor files name = descriptor files' name
  := by
  rw [descriptor, descriptor, Schema.get?_byName, Schema.get?_byName,
    latest_eq_of_perm hperm hnames]

/-- One step of a batch is the same for the files in any order. -/
theorem step_of_perm (hmessages : (fullNames files).Nodup) (m : Swift.Memory) (c : Settings)
    (done : List Output) (name : RawText) :
  step m c files done name = step m c files' done name
  := by
  rw [step, step, ← descriptor_of_perm hperm hnames name]
  apply Logged.bind_congr
  intro f hf
  rw [Logged.result_ofExcept, mapError_eq_ok_iff, descriptor_eq_ok_iff] at hf
  have hlatest : Schema.latest files f.name = some f := by
    rw [Schema.name_of_latest hf, hf]
  have hsource : source m c files f = source m c files' f := by
    rw [source, source, request_of_perm hperm hnames hmessages _ hlatest]
  rw [hsource]

end Perm

/-- If the names of files and the full names of messages are distinct, a batch has the same outputs,
or the same failure, and tells the same for the files in any order. -/
theorem run_order_independent {files files' : List Schema.File} (hperm : files.Perm files')
    (hnames : (files.map Schema.File.name).Nodup) (hmessages : (fullNames files).Nodup)
    (m : Swift.Memory) (c : Settings) (names : List RawText) :
  run m c files names = run m c files' names
  := by
  have hstep : step m c files = step m c files' := by
    funext done name
    exact step_of_perm hperm hnames hmessages m c done name
  rw [run, run, hstep]

/-- The files with a chat can come in the opposite order, and there are outputs. -/
theorem chat_order_independent :
  chatFiles.Perm chatFiles.reverse
    ∧ (chatFiles.map Schema.File.name).Nodup
    ∧ (fullNames chatFiles).Nodup
    ∧ run .ample Configuration.standard chatFiles ["rooms/chat.proto", "all.proto"]
      = run .ample Configuration.standard chatFiles.reverse ["rooms/chat.proto", "all.proto"]
    ∧ ∃ os, (run .ample Configuration.standard chatFiles.reverse
        ["rooms/chat.proto", "all.proto"]).result = .ok os
  := by
  have hnames : (chatFiles.map Schema.File.name).Nodup := by decide
  have hmessages : (fullNames chatFiles).Nodup := by decide
  have hsame := run_order_independent chatFiles.reverse_perm.symm hnames hmessages
    .ample Configuration.standard ["rooms/chat.proto", "all.proto"]
  have hsound : Sound .standard chatFiles ["rooms/chat.proto", "all.proto"] := by
    apply sound_of_request _ rfl ⟨_, rfl⟩ request_chatFile rfl
    simp [chatFiles, chatFile]
  have hwritable : Writable .ample .standard chatFiles ["rooms/chat.proto", "all.proto"] := by
    intro f _ r _
    apply r.writable_of_moderate
    decide
  refine ⟨chatFiles.reverse_perm.symm, hnames, hmessages, hsame, ?_⟩
  rw [← hsame]
  exact exists_run_eq_ok_iff.mpr ⟨hsound, hwritable⟩

end Batch

end SwiftStubs
