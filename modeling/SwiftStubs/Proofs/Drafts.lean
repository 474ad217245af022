import SwiftStubs.Proofs.Acceptance
import SwiftStubs.Proofs.Parameters

/-!
# What options change

An option asks for one change of a configuration in the making, and what it asks for does not depend
on that configuration. So the options of a parameter are a list of changes, unless one of them is
wrong, and the changes are made one after the other (`foldlM_set`). A later change of a setting
replaces an earlier one, and extra imports add up. The module map is looked at only when all changes
are made, and the indentation at the very end (`Draft.finish_eq`).
-/

namespace SwiftStubs

/-! ### Changes -/

/-- What an option asks for. -/
inductive Change where
  | accessLevel (a : Swift.AccessLevel)
  | server (b : Bool)
  | client (b : Bool)
  | indentation (n : Int)
  | extraImport (moduleName : String)
  | mapPath (path : String)
  | fileNaming (n : FileNaming)
deriving Repr, DecidableEq

/-- The change that an option asks for. -/
def ParameterOption.change (o : ParameterOption) : Except OptionError Change :=
  match Text.lower o.key with
  | "visibility" => do .ok (.accessLevel (← Swift.AccessLevel.ofOption o.value))
  | "server" => do .ok (.server (← o.boolean))
  | "client" => do .ok (.client (← o.boolean))
  | "indentation" => do .ok (.indentation (← o.integer))
  | "extramoduleimports" => .ok (.extraImport o.value)
  | "protopathmodulemappings" => .ok (.mapPath o.value)
  | "filenaming" => do .ok (.fileNaming (← FileNaming.ofOption o.value))
  | _ => .error (.unknownOption o.key)

namespace Draft

/-- Makes a change. -/
def apply (d : Draft) : Change → Draft
  | .accessLevel a => { d with base := { d.base with accessLevel := a } }
  | .server b => { d with base := { d.base with sides := { d.base.sides with server := b } } }
  | .client b => { d with base := { d.base with sides := { d.base.sides with client := b } } }
  | .indentation n => { d with indentation := n }
  | .extraImport m => { d with base := { d.base with extraImports := d.base.extraImports ++ [m] } }
  | .mapPath path => { d with mapPath := path }
  | .fileNaming n => { d with base := { d.base with fileNaming := n } }

/-- Carrying out an option makes the change that it asks for. -/
theorem set_eq (d : Draft) (o : ParameterOption) :
  d.set o = o.change >>= fun c => .ok (d.apply c)
  := by
  rw [set, ParameterOption.change]
  generalize Text.lower o.key = key
  split
  · cases Swift.AccessLevel.ofOption o.value <;> rfl
  · cases o.boolean <;> rfl
  · cases o.boolean <;> rfl
  · cases o.integer <;> rfl
  · rfl
  · rfl
  · cases FileNaming.ofOption o.value <;> rfl
  · simp only [Bind.bind, Except.bind]

/-- Carrying out options makes all the changes that they ask for, or none if one is wrong. -/
theorem foldlM_set (d : Draft) (os : List ParameterOption) :
  os.foldlM set d = os.mapM ParameterOption.change >>= fun cs => .ok (cs.foldl apply d)
  := by
  induction os generalizing d with
  | nil => rfl
  | cons o os ih =>
      rw [List.foldlM_cons, List.mapM_cons, set_eq]
      cases o.change with
      | error e => rfl
      | ok c =>
          apply (ih (d.apply c)).trans
          cases os.mapM ParameterOption.change with
          | error e => rfl
          | ok cs => rfl

theorem exists_changes_of_ofParameter {base : Configuration} {parameter : String} {d : Draft}
    (h : ofParameter base parameter = .ok d) :
  ∃ cs : List Change, d = cs.foldl apply (ofConfiguration base)
  := by
  rw [ofParameter, foldlM_set] at h
  obtain ⟨cs, -, ⟨⟩⟩ := bind_eq_ok_iff.mp h
  exact ⟨cs, rfl⟩

/-! ### Finishing a draft -/

/-- The module map of a draft, loaded if one is left to load. -/
def readMap (read : FileReader) (d : Draft) : Except Failure ModuleMap :=
  if d.mapPath.isEmpty then .ok d.base.moduleMap else ModuleMap.load read d.mapPath

theorem readMap_ofConfiguration (read : FileReader) (c : Configuration) :
  (ofConfiguration c).readMap read = .ok c.moduleMap
  := rfl

/-- A draft is finished by reading its module map and then checking its indentation. -/
theorem finish_eq (read : FileReader) (d : Draft) :
  d.finish read = d.readMap read >>= fun m =>
    mapError OptionError.failure
      (({ d.base with moduleMap := m } : Configuration).withIndentation d.indentation)
  := by
  rw [finish, loadMap, readMap]
  split
  · rfl
  · cases ModuleMap.load read d.mapPath with
    | error e => rfl
    | ok m => rfl

/-- Drafts that differ in their module maps at most, before they are finished. -/
structure Agrees (d d' : Draft) : Prop where
  accessLevel : d.base.accessLevel = d'.base.accessLevel
  sides : d.base.sides = d'.base.sides
  extraImports : d.base.extraImports = d'.base.extraImports
  availability : d.base.availability = d'.base.availability
  fileNaming : d.base.fileNaming = d'.base.fileNaming
  indentation : d.indentation = d'.indentation

namespace Agrees

variable {d d' : Draft}

theorem apply (h : d.Agrees d') (c : Change) :
  (d.apply c).Agrees (d'.apply c)
  := by
  obtain ⟨haccess, hsides, himports, havailability, hnaming, hindentation⟩ := h
  cases c with
  | accessLevel a => exact ⟨rfl, hsides, himports, havailability, hnaming, hindentation⟩
  | server b =>
      exact ⟨haccess, congrArg (fun s => { s with server := b }) hsides, himports, havailability,
        hnaming, hindentation⟩
  | client b =>
      exact ⟨haccess, congrArg (fun s => { s with client := b }) hsides, himports, havailability,
        hnaming, hindentation⟩
  | indentation n => exact ⟨haccess, hsides, himports, havailability, hnaming, rfl⟩
  | extraImport m =>
      exact ⟨haccess, hsides, congrArg (· ++ [m]) himports, havailability, hnaming, hindentation⟩
  | mapPath path => exact ⟨haccess, hsides, himports, havailability, hnaming, hindentation⟩
  | fileNaming n => exact ⟨haccess, hsides, himports, havailability, rfl, hindentation⟩

theorem foldl (h : d.Agrees d') (cs : List Change) :
  (cs.foldl Draft.apply d).Agrees (cs.foldl Draft.apply d')
  := by
  induction cs generalizing d d' with
  | nil => exact h
  | cons c cs ih => apply ih (h.apply c)

/-- Drafts that agree are finished alike if they have the same module map. -/
theorem finish_eq (h : d.Agrees d') {read : FileReader} (hmap : d.readMap read = d'.readMap read) :
  d.finish read = d'.finish read
  := by
  rw [Draft.finish_eq, Draft.finish_eq, hmap, h.indentation]
  simp only [Configuration.withIndentation, h.accessLevel, h.sides, h.extraImports, h.availability,
    h.fileNaming]

end Agrees

/-- A finished draft agrees with what was made of it. -/
theorem agrees_of_finish {read : FileReader} {d : Draft} {c : Configuration}
    (h : d.finish read = .ok c) :
  d.readMap read = .ok c.moduleMap ∧ d.Agrees (ofConfiguration c)
  := by
  rw [finish_eq] at h
  obtain ⟨m, hm, hc⟩ := bind_eq_ok_iff.mp h
  rw [mapError_eq_ok_iff, Configuration.withIndentation] at hc
  split at hc
  · cases hc
    exact ⟨hm, rfl, rfl, rfl, rfl, rfl, rfl⟩
  · cases hc

/-! ### Paths of module maps -/

end Draft

/-- The path of a module map that a change gives. -/
def Change.path? : Change → Option String
  | .mapPath path => some path
  | _ => none

/-- The path of a module map that an option gives. -/
def ParameterOption.path? (o : ParameterOption) : Option String :=
  if Text.lower o.key = "protopathmodulemappings" then some o.value else none

/-- The path of a module map that the last such option of a parameter gives. -/
def lastPath? (parameter : String) : Option String :=
  ((ParameterOption.ofParameter parameter).filterMap ParameterOption.path?).getLast?

theorem ParameterOption.path?_of_change {o : ParameterOption} {c : Change} (h : o.change = .ok c) :
  c.path? = o.path?
  := by
  rw [change] at h
  rw [path?]
  generalize Text.lower o.key = key at h
  split at h
  · obtain ⟨a, -, ⟨⟩⟩ := bind_eq_ok_iff.mp h
    rfl
  · obtain ⟨b, -, ⟨⟩⟩ := bind_eq_ok_iff.mp h
    rfl
  · obtain ⟨b, -, ⟨⟩⟩ := bind_eq_ok_iff.mp h
    rfl
  · obtain ⟨n, -, ⟨⟩⟩ := bind_eq_ok_iff.mp h
    rfl
  · cases h
    rfl
  · cases h
    rfl
  · obtain ⟨n, -, ⟨⟩⟩ := bind_eq_ok_iff.mp h
    rfl
  · cases h

namespace Draft

theorem moduleMap_foldl (d : Draft) (cs : List Change) :
  (cs.foldl apply d).base.moduleMap = d.base.moduleMap
  := by
  induction cs generalizing d with
  | nil => rfl
  | cons c cs ih =>
      apply (ih (d.apply c)).trans
      cases c with
      | _ => rfl

theorem mapPath_foldl (d : Draft) (cs : List Change) :
  (cs.foldl apply d).mapPath = (cs.filterMap Change.path?).getLast?.getD d.mapPath
  := by
  induction cs generalizing d with
  | nil => rfl
  | cons c cs ih =>
      apply (ih (d.apply c)).trans
      cases c with
      | mapPath path =>
          have hpath : Change.path? (.mapPath path) = some path := rfl
          rw [List.filterMap_cons_some hpath, List.getLast?_cons]
          rfl
      | _ =>
          rw [List.filterMap_cons_none rfl]
          rfl

/-- The last path that changes give counts. If it is empty, nothing is loaded. -/
theorem readMap_foldl (read : FileReader) (d : Draft) (cs : List Change) :
  (cs.foldl apply d).readMap read
    = match (cs.filterMap Change.path?).getLast? with
      | none => d.readMap read
      | some path => if path.isEmpty then .ok d.base.moduleMap else ModuleMap.load read path
  := by
  rw [readMap, mapPath_foldl, moduleMap_foldl]
  cases (cs.filterMap Change.path?).getLast? with
  | none => rfl
  | some path => rfl

end Draft

theorem filterMap_path?_of_mapM {os : List ParameterOption} {cs : List Change}
    (h : os.mapM ParameterOption.change = .ok cs) :
  cs.filterMap Change.path? = os.filterMap ParameterOption.path?
  := by
  rw [mapM_eq_ok_iff] at h
  induction h with
  | nil => rfl
  | cons ho _ ih =>
      rw [List.filterMap_cons, List.filterMap_cons, ParameterOption.path?_of_change ho, ih]

/-! ### Parameters behind each other -/

namespace Configuration

/-- Two parameters, one behind the other, do what the second does after the first. Only if the
second takes the path of the module map back, the first one's map is not loaded either. -/
theorem withParameter_append {base c : Configuration} {read : FileReader} {p : String}
    (h : base.withParameter read p = .ok c) (q : String) :
  base.withParameter read (p ++ "," ++ q)
    = ({ c with moduleMap := if lastPath? q = some "" then base.moduleMap else c.moduleMap } :
        Configuration).withParameter read q
  := by
  obtain ⟨d, hd, hfinish⟩ := bind_eq_ok_iff.mp h
  rw [mapError_eq_ok_iff] at hd
  obtain ⟨cs, hcs⟩ := Draft.exists_changes_of_ofParameter hd
  obtain ⟨hmap, hagrees⟩ := Draft.agrees_of_finish hfinish
  have hbase : d.base.moduleMap = base.moduleMap := by
    rw [hcs, Draft.moduleMap_foldl]
    rfl
  have hdraft : Draft.ofParameter base (p ++ "," ++ q)
      = (ParameterOption.ofParameter q).foldlM Draft.set d := by
    rw [Draft.ofParameter, ParameterOption.ofParameter_append, List.foldlM_append]
    rw [Draft.ofParameter] at hd
    rw [hd]
    rfl
  rw [withParameter, withParameter, hdraft, Draft.ofParameter, Draft.foldlM_set, Draft.foldlM_set]
  cases hq : (ParameterOption.ofParameter q).mapM ParameterOption.change with
  | error e => rfl
  | ok changes =>
      apply Draft.Agrees.finish_eq
      · apply Draft.Agrees.foldl
        exact ⟨hagrees.accessLevel, hagrees.sides, hagrees.extraImports, hagrees.availability,
          hagrees.fileNaming, hagrees.indentation⟩
      · rw [Draft.readMap_foldl, Draft.readMap_foldl, lastPath?, ← filterMap_path?_of_mapM hq]
        cases (changes.filterMap Change.path?).getLast? with
        | none => simpa [Draft.readMap_ofConfiguration] using hmap
        | some path =>
            by_cases hpath : path = ""
            · simp [hpath, hbase, Draft.ofConfiguration]
            · simp [hpath]

/-- A parameter that does not end with taking the path of the module map back can be given behind
another one or after it: either way there is the same configuration, or the same failure. -/
theorem parameters_compose {base c : Configuration} {read : FileReader} {p q : String}
    (hp : base.withParameter read p = .ok c) (hq : ∀ path, lastPath? q = some path → path ≠ "") :
  base.withParameter read (p ++ "," ++ q) = c.withParameter read q
  := by
  have hlast : lastPath? q ≠ some "" := fun h => hq "" h rfl
  rw [withParameter_append hp, if_neg hlast]

/-- A module map without entries in every file. -/
def blankMaps : FileReader := fun _ => .ok []

theorem parameters_compose_blankMaps :
  ∃ c, standard.withParameter blankMaps "ExtraModuleImports=A, visibility = PUBLIC" = .ok c
    ∧ lastPath? "ProtoPathModuleMappings=b.map,Indentation=2" = some "b.map"
    ∧ standard.withParameter blankMaps
        ("ExtraModuleImports=A, visibility = PUBLIC" ++ ","
          ++ "ProtoPathModuleMappings=b.map,Indentation=2")
      = c.withParameter blankMaps "ProtoPathModuleMappings=b.map,Indentation=2"
  := by
  have hp : standard.withParameter blankMaps "ExtraModuleImports=A, visibility = PUBLIC"
      = .ok { standard with accessLevel := .exported, extraImports := ["A"] } := rfl
  have hq : lastPath? "ProtoPathModuleMappings=b.map,Indentation=2" = some "b.map" := rfl
  refine ⟨_, hp, hq, parameters_compose hp ?_⟩
  rw [hq]
  rintro path ⟨⟩
  decide

end Configuration

end SwiftStubs
