import SwiftStubs.Proofs.Occurrences
import SwiftStubs.Proofs.Recasting
import SwiftStubs.Proofs.SourceText

/-!
# The access level of stubs

The access level of a configuration is written in front of declarations and decides about nothing
else. Another level gives the same file with the one modifier exchanged for the other, wherever it
stands. Besides it there is one modifier only: the property of the struct of a service is hidden.
Extensions, requirements and local constants have no modifier, and everything else has the one of
the configuration (`Request.access_level_relabels`).
-/

namespace SwiftStubs

open Swift Stub

/-! ### Exchanging a modifier -/

/-- Exchanges one modifier for another, wherever it stands. -/
def Swift.relabelling (a b : AccessModifier) : Recasting where
  access := fun m => if m = a then b else m
  guard := .guarded

/-- A configuration with another access level. -/
def Configuration.withAccess (c : Configuration) (a : AccessLevel) : Configuration :=
  { c with accessLevel := a }

theorem restyles_relabelling (c : Configuration) (a b : AccessLevel) :
  Restyles (relabelling (.level a) (.level b)) (c.withAccess a).style (c.withAccess b).style
  where
  access := if_pos rfl
  hidden := rfl
  available := by
    intro d
    show _ = (d.recast _).available (c.withAccess a).style.availability
    cases (c.withAccess a).style.availability with
    | none => rfl
    | some availability =>
        rw [Declaration.available, Declaration.recast]
        rfl

/-! ### Where there is which modifier -/

/-- The place of the modifier of a declaration, and what it holds. -/
def Swift.Declaration.access? : Declaration → Option (Option AccessModifier)
  | .enumeration access _ _ => some access
  | .struct access _ _ _ => some access
  | .protocol access _ _ _ => some access
  | .extension access _ _ _ => some access
  | .typeAlias access _ _ => some access
  | .constant access _ _ _ _ => some access
  | .function signature _ => some signature.access
  | _ => none

namespace Swift.Occurrence

def access? (o : Occurrence) : Option (Option AccessModifier) :=
  o.declaration.access?

@[simp]
def IsExtension (o : Occurrence) : Prop :=
  ∃ access type conformances ms, o.declaration = .extension access type conformances ms

/-- A function that a protocol requires. -/
@[simp]
def IsRequirement (o : Occurrence) : Prop :=
  ∃ name signature body, o.within = [.protocol name] ∧ o.declaration = .function signature body

/-- The constant `response` in a function of the extension that adapts methods. -/
@[simp]
def IsResponse (services : List Service) (o : Occurrence) : Prop :=
  ∃ s ∈ services, ∃ signature access type value,
    o.within = [.body signature, .extension (s.path ++ ".ServiceProtocol")]
      ∧ o.declaration = .constant access "response" false type (some value)

/-- The property `client` of the struct of a service. -/
@[simp]
def IsStoredClient (services : List Service) (o : Occurrence) : Prop :=
  ∃ s ∈ services, ∃ access type, o.within = [.struct (s.typeName ++ "Client")]
    ∧ o.declaration = .constant access "client" false type none

/-- What has no modifier: extensions, requirements and the responses of adapters. -/
@[simp]
def IsUnmarked (services : List Service) (o : Occurrence) : Prop :=
  o.IsExtension ∨ o.IsRequirement ∨ o.IsResponse services

/-- A declaration has the modifier that is due to it: none, the hiding one, or that of a level. -/
structure DulyMarked (level : AccessLevel) (services : List Service) (o : Occurrence) : Prop where
  modifiers : o.access? = some none ∨ o.access? = some (some .hidden)
    ∨ o.access? = some (some (.level level))
  none_iff : o.access? = some none ↔ o.IsUnmarked services
  hidden_iff : o.access? = some (some .hidden) ↔ o.IsStoredClient services

namespace DulyMarked

variable {level : AccessLevel} {services : List Service} {o : Occurrence}

theorem of_none (h : o.access? = some none) (hunmarked : o.IsUnmarked services)
    (hstored : ¬ o.IsStoredClient services) :
  o.DulyMarked level services
  := by
  constructor
  · exact .inl h
  · exact iff_of_true h hunmarked
  · apply iff_of_false _ hstored
    rw [h]
    nofun

theorem of_hidden (h : o.access? = some (some .hidden)) (hunmarked : ¬ o.IsUnmarked services)
    (hstored : o.IsStoredClient services) :
  o.DulyMarked level services
  := by
  constructor
  · exact .inr (.inl h)
  · apply iff_of_false _ hunmarked
    rw [h]
    nofun
  · exact iff_of_true h hstored

theorem of_level (h : o.access? = some (some (.level level))) (hunmarked : ¬ o.IsUnmarked services)
    (hstored : ¬ o.IsStoredClient services) :
  o.DulyMarked level services
  := by
  constructor
  · exact .inr (.inr h)
  · apply iff_of_false _ hunmarked
    rw [h]
    nofun
  · apply iff_of_false _ hstored
    rw [h]
    nofun

end DulyMarked

end Swift.Occurrence

section

variable {style : Style} {level : AccessLevel} {services : List Service} {o : Occurrence}

/-- Everything in the alias section has the modifier of the style. -/
theorem access?_of_alias (h : AliasOccurrence style services o) :
  o.access? = some (some style.access)
  := by
  cases h <;> rfl

theorem dulyMarked_of_alias (hstyle : style.access = .level level)
    (h : AliasOccurrence style services o) :
  o.DulyMarked level services
  := by
  have hlevel := access?_of_alias h
  rw [hstyle] at hlevel
  cases h with
  | enumeration holders name ms => exact .of_level hlevel (by simp) (by simp)
  | message s m name target => exact .of_level hlevel (by simp) (by simp)
  | descriptor holder outer name type value => exact .of_level hlevel (by simp) (by simp)
  | role hs role => exact .of_level hlevel (by simp) (by simp)

/-- Everything in the server and the client section but the properties of structs has the modifier
of the style or none. -/
theorem dulyMarked_of_side (hstyle : style.access = .level level)
    (h : SideOccurrence style services o) :
  o.DulyMarked level services
  := by
  have hlevel : some (some style.access) = some (some (.level level)) := by rw [hstyle]
  cases h with
  | protocol documentation name conformances ms => exact .of_level hlevel (by simp) (by simp)
  | struct documentation name conformances ms => exact .of_level hlevel (by simp) (by simp)
  | extension documentation type ms => exact .of_none rfl (.inl ⟨_, _, _, _, rfl⟩) (by simp)
  | requirement documentation name hg =>
      exact .of_none (congrArg some hg) (.inr (.inl ⟨_, _, _, rfl, rfl⟩)) (by simp)
  | registrar hs hname hg body =>
      exact .of_level ((congrArg some hg).trans hlevel) (by simp) (by simp)
  | implementation s hrole hg body =>
      exact .of_level ((congrArg some hg).trans hlevel) (by simp) (by simp)
  | response hs g value =>
      exact .of_none rfl (.inr (.inr ⟨_, hs, _, _, _, _, rfl, rfl⟩)) (by simp)
  | structFunction documentation name hg body =>
      exact .of_level ((congrArg some hg).trans hlevel) (by simp) (by simp)

theorem dulyMarked_storedClient {s : Service} (hs : s ∈ services) :
  (storedClient s).DulyMarked level services
  := by
  apply Occurrence.DulyMarked.of_hidden rfl
  · simp [storedClient, clientProperty]
  · exact ⟨s, hs, _, _, rfl, rfl⟩

end

/-! ### What is hidden -/

def Swift.Occurrence.isHidden (o : Occurrence) : Bool :=
  o.access? == some (some .hidden)

section

variable {style : Style} (h : style.access ≠ .hidden)
include h

theorem isHidden_of_alias {services : List Service} {o : Occurrence}
    (ho : AliasOccurrence style services o) :
  ¬ o.isHidden
  := by
  rw [Occurrence.isHidden, access?_of_alias ho]
  simpa using h

theorem isHidden_of_side {services : List Service} {o : Occurrence}
    (ho : SideOccurrence style services o) :
  ¬ o.isHidden
  := by
  cases ho <;> simp_all [Occurrence.isHidden, Occurrence.access?, Declaration.access?]

/-- The property of its struct is all that is hidden of a service. -/
theorem filter_isHidden_clientDeclarations (r : Request) (s : Service) :
  ((clientDeclarations style r s).flatMap (Declaration.occurrences [] [])).filter
    Occurrence.isHidden = [storedClient s]
  := by
  obtain ⟨before, after, heq, hkinds⟩ := sideOccurrence_clientDeclarations style r r.services s
  rw [List.forall_mem_append] at hkinds
  have hbefore : before.filter Occurrence.isHidden = [] := by
    rw [List.filter_eq_nil_iff]
    intro o ho
    exact isHidden_of_side h (hkinds.1 o ho)
  have hafter : after.filter Occurrence.isHidden = [] := by
    rw [List.filter_eq_nil_iff]
    intro o ho
    exact isHidden_of_side h (hkinds.2 o ho)
  have hclient : (storedClient s).isHidden = true := rfl
  rw [heq, List.filter_append, hbefore, List.filter_cons_of_pos hclient, hafter, List.nil_append]

/-- What is hidden in a file is the property of the struct of each service. -/
theorem filter_isHidden_sections (sides : Sides) (r : Request) :
  (blockOccurrences [] (sections style sides r)).filter Occurrence.isHidden
    = if sides.client then r.services.map storedClient else []
  := by
  have halias : (blockOccurrences [] (aliasSection style sides r.services)).filter
      Occurrence.isHidden = [] := by
    rw [List.filter_eq_nil_iff]
    intro o ho
    exact isHidden_of_alias h (aliasOccurrence_of_mem ho)
  have hserver : ((if sides.server then r.services.flatMap (serverDeclarations style r) else
      []).flatMap (Declaration.occurrences [] [])).filter Occurrence.isHidden = [] := by
    rw [List.filter_eq_nil_iff]
    intro o ho
    obtain ⟨d, hd, ho⟩ := List.mem_flatMap.mp ho
    rw [List.mem_ite_nil_right, List.mem_flatMap] at hd
    obtain ⟨-, s, hs, hd⟩ := hd
    exact isHidden_of_side h (sideOccurrence_serverDeclarations style r hs d hd o ho)
  have hclient : ((r.services.flatMap (clientDeclarations style r)).flatMap
      (Declaration.occurrences [] [])).filter Occurrence.isHidden
        = r.services.map storedClient := by
    rw [List.flatMap_assoc, List.filter_flatMap, List.map_eq_flatMap]
    apply List.flatMap_congr
    intro s _
    exact filter_isHidden_clientDeclarations h r s
  rw [sections_eq_append, blockOccurrences_append, List.filter_append, halias, List.nil_append,
    blockOccurrences_sidedBlocks, sided, List.flatMap_append, List.filter_append, hserver,
    List.nil_append]
  split
  · exact hclient
  · rfl

end

/-! ### Files -/

/-- The access level of a configuration is a label. Another level relabels the file for a request.
The declarations of the file have the modifier that is due to them, and the hidden ones are the
properties of the structs of the services. -/
theorem Request.access_level_relabels (c : Configuration) (r : Request) (a b : AccessLevel) :
  (r.file (c.withAccess a)).map (NamedFile.recast (relabelling (.level a) (.level b)))
      = r.file (c.withAccess b)
    ∧ (r.check = .ok () → ∃ f, r.file c = .ok f
      ∧ (∀ o ∈ f.contents.occurrences, o.DulyMarked c.accessLevel r.services)
      ∧ f.contents.occurrences.filter Occurrence.isHidden
        = if c.sides.client then r.services.map storedClient else [])
  := by
  have hsides : (c.withAccess b).sides = (c.withAccess a).sides := rfl
  refine ⟨file_recast hsides (restyles_relabelling c a b) r, ?_⟩
  intro h
  obtain ⟨f, hf, hblocks⟩ := file_eq_ok c h
  refine ⟨f, hf, ?_⟩
  rw [File.occurrences, hblocks]
  constructor
  · intro o ho
    rw [sections_eq_append, blockOccurrences_append, List.mem_append] at ho
    obtain ho | ho := ho
    · exact dulyMarked_of_alias rfl (aliasOccurrence_of_mem ho)
    · obtain ho | ⟨s, hs, rfl⟩ := sideOccurrence_of_mem ho
      · exact dulyMarked_of_side rfl ho
      · exact dulyMarked_storedClient hs
  · have hlevel : c.style.access ≠ .hidden := AccessModifier.noConfusion
    exact filter_isHidden_sections hlevel c.sides r

theorem Request.greetings_access_level_relabels :
  greetings.check = .ok ()
    ∧ (greetings.file (Configuration.standard.withAccess .internal)).map
        (NamedFile.recast (relabelling (.level .internal) (.level .exported)))
      = greetings.file (Configuration.standard.withAccess .exported)
    ∧ ∃ f, greetings.file .standard = .ok f
      ∧ (f.contents.occurrences.filter Occurrence.isHidden).map Occurrence.within
        = [[.struct "Hello_World_GreeterClient"], [.struct "EchoClient"]]
  := by
  obtain ⟨hrelabelled, hmarked⟩ := access_level_relabels .standard greetings .internal .exported
  obtain ⟨f, hf, -, hhidden⟩ := hmarked check_greetings
  refine ⟨check_greetings, hrelabelled, f, hf, ?_⟩
  rw [hhidden]
  rfl

end SwiftStubs
