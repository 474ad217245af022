import SwiftStubs.Proofs.PluginRequirements

/-!
# Reported failures

The plugin puts the message of a problem into its answer. A breakdown is not answered. Which of the
two it is, is decided by the first requirement that does not hold: `Plugin.answer_reports_problems`.
A query is orderly if no requirement can fail whose failure is a breakdown.
-/

namespace SwiftStubs

/-! ### Orderly inputs -/

namespace Schema

/-- The texts of a schema file that may have to be read. -/
def File.allTexts (f : File) : List RawText :=
  f.name :: f.package :: f.swiftPrefix.toList
    ++ f.services.flatMap (fun s =>
      s.name :: s.methods.flatMap (fun m => [m.name, m.inputType, m.outputType]))
    ++ f.locations.flatMap (fun l => l.leading :: l.detached)

/-- A schema file whose texts can be read and whose public imports are in range. -/
structure File.Orderly (f : File) : Prop where
  texts : ∀ t ∈ f.allTexts, t.Readable
  imports : f.ImportsInRange

theorem onlyProblems_required {t : RawText} (h : t.Readable) :
  OnlyProblems [t.required]
  := .cons (fun _ _ => h) .nil

theorem onlyProblems_map_required {ts : List RawText} (h : ∀ t ∈ ts, t.Readable) :
  OnlyProblems (ts.map RawText.required)
  := by
  rw [OnlyProblems, List.forall_mem_map]
  exact fun t ht _ _ => h t ht

theorem onlyProblems_typeRequirements (files : List File) {type : RawText} (h : type.Readable) :
  OnlyProblems (typeRequirements files type)
  := by
  apply (onlyProblems_required h).append
  apply OnlyProblems.cons _ .nil
  rintro b ⟨⟩

theorem mem_locations_of_get? {f : File} {path : List Int} {l : Location}
    (h : Dictionary.get? f.comments path = some l) :
  l ∈ f.locations
  := by
  obtain ⟨l', hl', heq⟩ := List.mem_map.mp (Dictionary.mem_of_get?_ofList h)
  cases heq
  exact hl'

namespace File.Orderly

variable {f : File}

theorem location (h : f.Orderly) {path : List Int} {l : Location}
    (hl : Dictionary.get? f.comments path = some l) :
  l.leading.Readable ∧ ∀ t ∈ l.detached, t.Readable
  := by
  have htexts : ∀ t ∈ l.leading :: l.detached, t.Readable := by
    intro t ht
    apply h.texts
    apply List.mem_append_right
    exact List.mem_flatMap_of_mem (mem_locations_of_get? hl) ht
  exact List.forall_mem_cons.mp htexts

theorem leading (h : f.Orderly) (path : List Int) :
  ∀ t ∈ f.comments.leading path, t.Readable
  := by
  intro t ht
  rw [Comments.leading] at ht
  cases hl : Dictionary.get? f.comments path with
  | none => simp [hl] at ht
  | some l =>
      rw [hl] at ht
      rw [List.mem_singleton.mp ht]
      exact (h.location hl).1

theorem detached (h : f.Orderly) :
  ∀ t ∈ f.comments.detached, t.Readable
  := by
  rw [Comments.detached]
  cases hversion : Dictionary.get? f.comments versionPath with
  | some l => exact (h.location hversion).2
  | none =>
      cases hpackage : Dictionary.get? f.comments packagePath with
      | some l => exact (h.location hpackage).2
      | none => simp

theorem service (h : f.Orderly) {s : Service} (hs : s ∈ f.services) :
  s.name.Readable ∧ ∀ m ∈ s.methods,
    m.name.Readable ∧ m.inputType.Readable ∧ m.outputType.Readable
  := by
  have htexts : ∀ t ∈ s.name :: s.methods.flatMap (fun m => [m.name, m.inputType, m.outputType]),
      t.Readable := by
    intro t ht
    apply h.texts
    apply List.mem_append_left
    apply List.mem_append_right
    exact List.mem_flatMap_of_mem hs ht
  simpa only [List.forall_mem_cons, List.forall_mem_flatMap, List.not_mem_nil, false_imp_iff,
    implies_true, and_true] using htexts

theorem onlyProblems_service (h : f.Orderly) (files : List File) (index : Nat) {s : Service}
    (hs : s ∈ f.services) :
  OnlyProblems (f.serviceRequirements files index s)
  := by
  obtain ⟨hname, hmethods⟩ := h.service hs
  apply OnlyProblems.append
  · apply OnlyProblems.flatMap
    rintro ⟨m, i⟩ hm
    obtain ⟨hmethod, hinput, houtput⟩ := (forall_mem_zipIdx_iff s.methods).mpr hmethods (m, i) hm
    apply (onlyProblems_map_required (h.leading _)).append
    apply (onlyProblems_required hmethod).append
    exact (onlyProblems_typeRequirements files hinput).append
      (onlyProblems_typeRequirements files houtput)
  · exact (onlyProblems_map_required (h.leading _)).append (onlyProblems_required hname)

/-- Among orderly files, a file is described unless there is a problem. -/
theorem onlyProblems {files : List File} (hfiles : ∀ g ∈ files, g.Orderly) (hf : f ∈ files) :
  OnlyProblems (f.requirements files)
  := by
  have h := hfiles f hf
  have hservices : ∀ s ∈ f.services, ∀ i, OnlyProblems (f.serviceRequirements files i s) :=
    fun s hs i => h.onlyProblems_service files i hs
  refine .cons ?_ (.cons ?_ ?_)
  · intro _ _ g hg _
    apply (hfiles g (mem_of_latest hg)).texts
    simp [File.allTexts]
  · intro _ _ name g _ hg
    exact (hfiles g (mem_of_latest hg)).imports
  · apply OnlyProblems.append
    · apply onlyProblems_map_required
      intro t ht
      apply h.texts
      simp [File.allTexts, ht]
    · apply OnlyProblems.append
      · apply OnlyProblems.flatMap
        rintro ⟨s, i⟩ hs
        apply (forall_mem_zipIdx_iff f.services).mpr hservices (s, i) hs
      · apply onlyProblems_map_required h.detached

end File.Orderly

end Schema

theorem Request.onlyProblems {m : Swift.Memory} {c : Configuration} (h : c.Moderate m)
    (r : Request) :
  OnlyProblems (r.requirements m c)
  := by
  apply OnlyProblems.append
  · apply OnlyProblems.succeeds
    rintro e b ⟨⟩
  · rw [OnlyProblems, List.forall_mem_map]
    exact fun l hl _ _ => writable_of_moderate h r l hl

theorem Batch.onlyProblems {m : Swift.Memory} {c : Configuration} (h : c.Moderate m)
    {files : List Schema.File} (hfiles : ∀ f ∈ files, f.Orderly) (names : List RawText)
    (done : List String) :
  OnlyProblems (requirements m c files done names)
  := by
  induction names generalizing done with
  | nil => exact .nil
  | cons name names ih =>
      rw [requirements]
      apply OnlyProblems.append _ (ih _)
      rw [nameRequirements]
      cases hf : Schema.latest files name with
      | none =>
          apply OnlyProblems.cons _ .nil
          rintro b ⟨⟩
      | some f =>
          have hmem : f ∈ files := Schema.mem_of_latest hf
          dsimp only
          split
          · exact .nil
          · apply (Schema.File.Orderly.onlyProblems hfiles hmem).append
            apply OnlyProblems.append
            · exact .behind (fun r _ => r.onlyProblems h)
            · have hname : f.name.Readable := by
                apply (hfiles f hmem).texts
                simp [Schema.File.allTexts]
              apply (Schema.onlyProblems_required hname).append
              apply OnlyProblems.cons _ .nil
              rintro b ⟨⟩

theorem failure_ne_breakdown (e : OptionError) (b : Breakdown) :
  e.failure ≠ .breakdown b
  := by
  rintro ⟨⟩

theorem ModuleMap.onlyProblems {read : FileReader} {path : String}
    (hpath : ¬ (Path.ofText path).hasNul)
    (h : ∀ bytes, read (.ofText path) = .ok bytes → (RawText.ofBytes bytes).Readable) :
  OnlyProblems (requirements read path)
  := by
  apply OnlyProblems.append
  · apply OnlyProblems.cons (fun _ _ => hpath)
    apply OnlyProblems.succeeds
    intro e
    apply failure_ne_breakdown
  · apply OnlyProblems.behind
    intro bytes hbytes
    rw [FileReader.open, if_neg hpath, mapError_eq_ok_iff] at hbytes
    apply OnlyProblems.cons (fun _ _ => h bytes hbytes)
    apply OnlyProblems.behind
    intro s _
    apply OnlyProblems.succeeds failure_ne_breakdown

/-- The indentation of a configuration is that of its draft. -/
theorem exists_draft_of_withParameter {base c : Configuration} {read : FileReader}
    {parameter : String} (h : base.withParameter read parameter = .ok c) :
  ∃ d, Draft.ofParameter base parameter = .ok d ∧ c.indentation = d.indentation
  := by
  obtain ⟨d, hd, hfinish⟩ := bind_eq_ok_iff.mp h
  obtain ⟨c', -, hc⟩ := bind_eq_ok_iff.mp hfinish
  rw [mapError_eq_ok_iff] at hd hc
  rw [Configuration.withIndentation] at hc
  split at hc
  · cases hc
    exact ⟨d, hd, rfl⟩
  · cases hc

namespace Plugin

/-- A query to which there is an answer in any case: its parameter can be read, the path of its
module map can be the path of a file, the module map is UTF-8 if there is one, five levels of an
indentation can be written, and its files are orderly. -/
structure Orderly (m : Swift.Memory) (read : FileReader) (base : Configuration) (q : Query) :
    Prop where
  parameter : q.parameter.Readable
  path : ∀ (p : String) d, q.parameter = p → Draft.ofParameter base p = .ok d →
    ¬ (Path.ofText d.mapPath).hasNul
  map : ∀ (p : String) d, q.parameter = p → Draft.ofParameter base p = .ok d →
    ¬ d.mapPath.isEmpty →
    ∀ bytes, read (.ofText d.mapPath) = .ok bytes → (RawText.ofBytes bytes).Readable
  indentation : ∀ (p : String) d, q.parameter = p → Draft.ofParameter base p = .ok d →
    m.Holds (5 * d.indentation)
  files : ∀ f ∈ q.files, f.Orderly

theorem Orderly.onlyProblems {m : Swift.Memory} {read : FileReader} {base : Configuration}
    {q : Query} (h : Orderly m read base q) :
  OnlyProblems (requirements m read base q)
  := by
  apply (Schema.onlyProblems_required h.parameter).append
  apply OnlyProblems.behind
  intro p hp
  rw [RawText.readable_eq_ok_iff] at hp
  apply OnlyProblems.append
  · apply (OnlyProblems.succeeds failure_ne_breakdown _).append
    apply OnlyProblems.behind
    intro d hd
    rw [mapError_eq_ok_iff] at hd
    apply OnlyProblems.append
    · split
      · exact .nil
      · next hmap => exact ModuleMap.onlyProblems (h.path p d hp hd) (h.map p d hp hd hmap)
    · apply OnlyProblems.cons _ .nil
      rintro b ⟨⟩
  · apply OnlyProblems.behind
    intro c hc
    apply Batch.onlyProblems _ h.files
    obtain ⟨d, hd, hindentation⟩ := exists_draft_of_withParameter hc
    rw [Configuration.Moderate, hindentation]
    exact h.indentation p d hp hd

theorem answer_eq_breakdown_iff (m : Swift.Memory) (read : FileReader) (base : Configuration)
    (q : Query) (b : Breakdown) :
  (answer m read base q).result = .error (.breakdown b)
    ↔ (outputs m read base q).result = .error (.breakdown b)
  := by
  rw [answer]
  cases (outputs m read base q).result with
  | ok os => simp
  | error e =>
      cases e with
      | problem p => simp
      | breakdown b' => simp

/-- There is an answer unless there is a breakdown. -/
theorem exists_answer_iff (m : Swift.Memory) (read : FileReader) (base : Configuration)
    (q : Query) :
  (∃ a, (answer m read base q).result = .ok a)
    ↔ ∀ b, (outputs m read base q).result ≠ .error (.breakdown b)
  := by
  rw [answer]
  cases (outputs m read base q).result with
  | ok os => simp
  | error e =>
      cases e with
      | problem p => simp
      | breakdown b => simp

/-- Problems are reported. The plugin fails exactly if the first requirement that does not hold
stands for a breakdown, and with this breakdown. If it stands for a problem, the answer holds the
message of the problem. If everything that is required holds, the answer holds outputs and no error.
To an orderly query there is always an answer. -/
theorem answer_reports_problems (m : Swift.Memory) (read : FileReader) (base : Configuration)
    (q : Query) :
  (∀ b, (answer m read base q).result = .error (.breakdown b)
      ↔ FirstBroken (requirements m read base q) (.breakdown b))
    ∧ (∀ p, FirstBroken (requirements m read base q) (.problem p) →
      (answer m read base q).result = .ok { error := some p.message })
    ∧ ((∀ r ∈ requirements m read base q, r.holds) →
      ∃ os, (answer m read base q).result = .ok { outputs := os })
    ∧ (Orderly m read base q → ∃ a, (answer m read base q).result = .ok a)
  := by
  have hrequires := requires_outputs m read base q
  refine ⟨?_, ?_, ?_, ?_⟩
  · intro b
    rw [answer_eq_breakdown_iff, hrequires]
  · intro p hp
    apply (answer_eq_ok_iff m read base q _).mpr
    exact .nothing ((hrequires _).mpr hp)
  · intro hall
    obtain ⟨os, hos⟩ := hrequires.exists_eq_ok_iff.mpr hall
    obtain ⟨parameter, c, hparameter, hc, hrun⟩ := (outputs_eq_ok_iff m read base q os).mp hos
    use os
    apply (answer_eq_ok_iff m read base q _).mpr
    exact .all hparameter hc hrun
  · intro h
    rw [exists_answer_iff]
    intro b hb
    apply h.onlyProblems.not_firstBroken b ((hrequires _).mp hb)

/-- Bytes that are not UTF-8 in every file. -/
def garbledFiles : FileReader := fun _ => .ok [0xff]

/-- A module map that is not UTF-8 is not reported. -/
theorem garbled_map_unanswered :
  (answer .ample garbledFiles Configuration.standard
    { parameter := "ProtoPathModuleMappings=map.txt" }).result
    = .error (.breakdown .invalidText)
  := by
  rfl

open Batch

/-- A query for some of the chat files. -/
def chatQuery (names : List RawText) : Query where
  names := names
  files := chatFiles

theorem orderly_chatFiles :
  ∀ f ∈ chatFiles, f.Orderly
  := by
  have htexts : ∀ f ∈ chatFiles, ∀ t ∈ f.allTexts, t.Readable := by
    simp [chatFiles, chatFile, Schema.File.allTexts, RawText.Readable]
  exact fun f hf => ⟨htexts f hf, importsInRange_chatFiles f hf⟩

theorem orderly_chatQuery (names : List RawText) :
  Orderly .ample noFiles .standard (chatQuery names)
  := by
  constructor
  · exact ⟨_, rfl⟩
  · rintro _ d ⟨⟩ ⟨⟩
    decide
  · rintro _ d - - - bytes ⟨⟩
  · rintro _ d ⟨⟩ ⟨⟩
    decide
  · exact orderly_chatFiles

theorem holds_chatQuery :
  ∀ r ∈ requirements .ample noFiles .standard (chatQuery ["rooms/chat.proto"]), r.holds
  := by
  have hsound : Sound .standard chatFiles ["rooms/chat.proto"] := by
    apply sound_of_request _ rfl ⟨_, rfl⟩ request_chatFile rfl
    simp [chatFiles, chatFile]
  have hwritable : Writable .ample .standard chatFiles ["rooms/chat.proto"] :=
    fun f _ r _ => r.writable_of_moderate (by decide)
  obtain ⟨os, hos⟩ := exists_run_eq_ok_iff.mpr ⟨hsound, hwritable⟩
  rw [← (requires_outputs .ample noFiles .standard _).exists_eq_ok_iff]
  exact ⟨os, (outputs_eq_ok_iff .ample noFiles .standard _ os).mpr ⟨_, _, rfl, rfl, hos⟩⟩

theorem firstBroken_chatQuery :
  FirstBroken
    (requirements .ample noFiles .standard (chatQuery ["rooms/chat.proto", "gone.proto"]))
    (OptionError.failure (.noDescriptor "gone.proto"))
  := by
  have hrequirements : requirements .ample noFiles .standard
        (chatQuery ["rooms/chat.proto", "gone.proto"])
      = requirements .ample noFiles .standard (chatQuery ["rooms/chat.proto"])
        ++ [⟨False, OptionError.failure (.noDescriptor "gone.proto")⟩] := by
    have hquery : ∀ names, requirements .ample noFiles .standard (chatQuery names)
        = RawText.required "" :: (Configuration.standard.requirements noFiles ""
          ++ Batch.requirements .ample .standard chatFiles [] names) := fun _ => rfl
    simp only [hquery, Batch.requirements, List.cons_append, List.append_assoc, List.append_nil]
    rfl
  rw [hrequirements, firstBroken_append_of_holds holds_chatQuery]
  exact .here not_false _

/-- One of two files is not there, and the answer says so. The other is generated on its own. -/
theorem missing_chat_reported :
  (FirstBroken
        (requirements .ample noFiles .standard (chatQuery ["rooms/chat.proto", "gone.proto"]))
        (OptionError.failure (.noDescriptor "gone.proto"))
      ∧ (answer .ample noFiles Configuration.standard
        (chatQuery ["rooms/chat.proto", "gone.proto"])).result
        = .ok { error := some "No descriptor was given for 'gone.proto'." })
    ∧ ((∀ r ∈ requirements .ample noFiles .standard (chatQuery ["rooms/chat.proto"]), r.holds)
      ∧ ∃ os, (answer .ample noFiles Configuration.standard (chatQuery ["rooms/chat.proto"])).result
        = .ok { outputs := os })
    ∧ (Orderly .ample noFiles .standard (chatQuery ["all.proto"])
      ∧ ∃ a, (answer .ample noFiles Configuration.standard (chatQuery ["all.proto"])).result
        = .ok a)
  := by
  refine ⟨⟨firstBroken_chatQuery, ?_⟩, ⟨holds_chatQuery, ?_⟩, ⟨orderly_chatQuery _, ?_⟩⟩
  · apply (answer_reports_problems .ample noFiles .standard _).2.1 _ firstBroken_chatQuery
  · apply (answer_reports_problems .ample noFiles .standard _).2.2.1 holds_chatQuery
  · apply (answer_reports_problems .ample noFiles .standard _).2.2.2 (orderly_chatQuery _)

end Plugin

end SwiftStubs
