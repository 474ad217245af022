import SwiftStubs.Proofs.Occurrences
import SwiftStubs.Proofs.Recasting
import SwiftStubs.Proofs.TypeNames

/-!
# The availability of stubs

The availability of a configuration decorates stubs. Without its guards the file for a request is
the file for a configuration that says nothing about availability. The guards are where they have to
be: at all blocks of the server and the client section, at the aliases of their types, and at the
functions that register methods, which are members of extensions. There is one at each of these,
behind the documentation, with all versions, and there is none elsewhere
(`Request.availability_decorates`).
-/

namespace SwiftStubs

open Swift Stub

/-! ### Taking guards away -/

/-- Takes all guards away. -/
def Swift.unguarding : Recasting where
  access := id
  guard := fun _ d => d

/-- A configuration that says nothing about availability. -/
def Configuration.withoutAvailability (c : Configuration) : Configuration :=
  { c with availability := [] }

theorem restyles_unguarding (c : Configuration) :
  Restyles unguarding c.style c.withoutAvailability.style
  where
  access := rfl
  hidden := rfl
  available := by
    intro d
    show _ = d.recast unguarding
    cases c.style.availability with
    | none => rfl
    | some availability =>
        rw [Declaration.available, Declaration.recast]
        rfl

/-! ### Where there are guards -/

namespace Swift.Occurrence

/-- There is one guard in front of a declaration, and it stands right before it. Comments may come
first. -/
def Guarded (a : Availability) (o : Occurrence) : Prop :=
  ∃ comments : List (Option Comment), o.front = comments.map .comment ++ [.guard a]

/-- There is no guard in front of a declaration. -/
def Unguarded (o : Occurrence) : Prop :=
  ∃ comments : List (Option Comment), o.front = comments.map .comment

/-- A declaration is guarded under a condition and has no guard otherwise. -/
structure GuardedIff (p : Prop) (a : Availability) (o : Occurrence) : Prop where
  guarded : p → o.Guarded a
  unguarded : ¬ p → o.Unguarded

/-- An alias in the enum of a service. -/
@[simp]
def IsRoleAlias (services : List Service) (o : Occurrence) : Prop :=
  ∃ s ∈ services, ∃ access name target,
    o.within = serviceHolders s ∧ o.declaration = .typeAlias access name target

/-- The function `registerMethods` in the extension of the streaming protocol of a service. -/
@[simp]
def IsRegistrar (services : List Service) (o : Occurrence) : Prop :=
  ∃ s ∈ services, ∃ signature body,
    o.within = [.extension (s.path ++ ".StreamingServiceProtocol")]
      ∧ o.declaration = .function signature body ∧ signature.name = "registerMethods"

variable {p : Prop} {a : Availability} {o : Occurrence}

theorem GuardedIff.of_guarded (h : p) (hguarded : o.Guarded a) :
  o.GuardedIff p a
  where
  guarded := fun _ => hguarded
  unguarded := absurd h

theorem GuardedIff.of_unguarded (h : ¬ p) (hunguarded : o.Unguarded) :
  o.GuardedIff p a
  where
  guarded := fun hp => absurd hp h
  unguarded := fun _ => hunguarded

end Swift.Occurrence

/-- Documentation is a comment or nothing. -/
theorem docFront_eq (documentation : String) :
  ∃ comments : List (Option Comment), docFront documentation = comments.map .comment
  := by
  rw [docFront]
  split
  · exact ⟨[], rfl⟩
  · exact ⟨[some ⟨.doc, documentation⟩], rfl⟩

/-- The members of the enum of a method stand deeper than those of the enum of a service. -/
theorem serviceHolders_ne (s t : Service) (holder holder' : Holder) :
  holder :: holder' :: serviceHolders s ≠ serviceHolders t
  := by
  have hlength : (serviceHolders t).length ≤ 2 := by
    rw [serviceHolders, spaceNames]
    split
    · exact Nat.le_succ 1
    · exact Nat.le_refl 2
  intro h
  rw [← h, serviceHolders] at hlength
  simp only [List.map_cons, List.length_cons] at hlength
  omega

/-- No other extension is that of a streaming protocol. -/
theorem append_role_ne_streaming {role : String}
    (h : role ∈ [".ServiceProtocol", ".ClientProtocol"]) (path path' : String) :
  path ++ role ≠ path' ++ ".StreamingServiceProtocol"
  := by
  intro heq
  have hsuffix := suffix_or_suffix_of_append_eq heq
  simp only [List.mem_cons, List.not_mem_nil, or_false] at h
  obtain rfl | rfl := h
  · exact absurd hsuffix (by decide)
  · exact absurd hsuffix (by decide)

section

variable {style : Style} {services : List Service} {a : Availability} {o : Occurrence}

theorem guardedIff_of_alias (hstyle : style.availability = some a)
    (h : AliasOccurrence style services o) :
  o.GuardedIff (o.IsRoleAlias services) a
  := by
  cases h with
  | enumeration holders name ms => exact .of_unguarded (by simp) ⟨[], rfl⟩
  | message s m name target =>
      apply Occurrence.GuardedIff.of_unguarded _ ⟨[], rfl⟩
      rintro ⟨t, -, -, -, -, hwithin, -⟩
      exact serviceHolders_ne s t _ _ hwithin
  | descriptor holder outer name type value => exact .of_unguarded (by simp) ⟨[], rfl⟩
  | role hs role =>
      rw [hstyle]
      exact .of_guarded ⟨_, hs, _, _, _, rfl, rfl⟩ ⟨[], rfl⟩

theorem guarded_documented (hstyle : style.availability = some a) (within : List Holder)
    (documentation : String) (d : Declaration) :
  Occurrence.Guarded a ⟨within, docFront documentation ++ guardFront style.availability, d⟩
  := by
  obtain ⟨comments, hcomments⟩ := docFront_eq documentation
  use comments
  rw [hcomments, hstyle, guardFront]

theorem guardedIff_of_side (hstyle : style.availability = some a)
    (h : SideOccurrence style services o) :
  o.GuardedIff (o.within = [] ∨ o.IsRegistrar services) a
  := by
  cases h with
  | protocol documentation name conformances ms =>
      exact .of_guarded (.inl rfl) (guarded_documented hstyle _ _ _)
  | struct documentation name conformances ms =>
      exact .of_guarded (.inl rfl) (guarded_documented hstyle _ _ _)
  | extension documentation type ms =>
      exact .of_guarded (.inl rfl) (guarded_documented hstyle _ _ _)
  | requirement documentation name hg => exact .of_unguarded (by simp) (docFront_eq documentation)
  | registrar hs hname hg body =>
      rw [hstyle]
      exact .of_guarded (.inr ⟨_, hs, _, _, rfl, rfl, hname⟩) ⟨[], rfl⟩
  | implementation s hrole hg body =>
      apply Occurrence.GuardedIff.of_unguarded _ ⟨[], rfl⟩
      rintro (hwithin | ⟨t, -, _, _, hwithin, -⟩)
      · cases hwithin
      · simp only [List.cons.injEq, Holder.extension.injEq, and_true] at hwithin
        exact append_role_ne_streaming hrole _ _ hwithin
  | response hs g value => exact .of_unguarded (by simp) ⟨[], rfl⟩
  | structFunction documentation name hg body =>
      exact .of_unguarded (by simp) (docFront_eq documentation)

end

/-! ### Files -/

/-- The availability of a configuration is a decoration. Without guards the file for a request is
the file without availability. The guarded declarations are, of the alias section, the aliases in
the enums of services, and of the server and the client section, all blocks and the functions that
register methods. -/
theorem Request.availability_decorates {c : Configuration} (h : c.availability ≠ []) (r : Request) :
  (r.file c).map (NamedFile.recast unguarding) = r.file c.withoutAvailability
    ∧ (r.check = .ok () → ∃ f, r.file c = .ok f
      ∧ f.contents.blocks
        = aliasSection c.style c.sides r.services ++ sidedBlocks c.style c.sides r
      ∧ (∀ o ∈ blockOccurrences [] (aliasSection c.style c.sides r.services),
        o.GuardedIff (o.IsRoleAlias r.services) ⟨c.availability.map PlatformVersion.text⟩)
      ∧ ∀ o ∈ blockOccurrences [] (sidedBlocks c.style c.sides r),
        o.GuardedIff (o.within = [] ∨ o.IsRegistrar r.services)
          ⟨c.availability.map PlatformVersion.text⟩)
  := by
  have hsides : c.withoutAvailability.sides = c.sides := rfl
  have hstyle : c.style.availability = some ⟨c.availability.map PlatformVersion.text⟩ := by
    rw [Configuration.style, if_neg]
    simpa using h
  refine ⟨file_recast hsides (restyles_unguarding c) r, ?_⟩
  intro hcheck
  obtain ⟨f, hf, hblocks⟩ := file_eq_ok c hcheck
  rw [sections_eq_append] at hblocks
  refine ⟨f, hf, hblocks, ?_, ?_⟩
  · intro o ho
    exact guardedIff_of_alias hstyle (aliasOccurrence_of_mem ho)
  · intro o ho
    obtain ho | ⟨s, -, rfl⟩ := sideOccurrence_of_mem ho
    · exact guardedIff_of_side hstyle ho
    · exact .of_unguarded (by simp [storedClient]) ⟨[], rfl⟩

theorem Request.greetings_availability_decorates :
  Configuration.standard.availability ≠ [] ∧ greetings.check = .ok ()
    ∧ (greetings.file .standard).map (NamedFile.recast unguarding)
      = greetings.file Configuration.standard.withoutAvailability
    ∧ ∃ f, greetings.file .standard = .ok f
      ∧ f.contents.blocks = aliasSection Configuration.standard.style {} greetings.services
        ++ sidedBlocks Configuration.standard.style {} greetings
      ∧ ∀ o ∈ blockOccurrences [] (sidedBlocks Configuration.standard.style {} greetings),
        o.GuardedIff (o.within = [] ∨ o.IsRegistrar greetings.services)
          ⟨["macOS 13.0", "iOS 16.0", "watchOS 9.0", "tvOS 16.0"]⟩
  := by
  have havailability : Configuration.standard.availability ≠ [] := List.cons_ne_nil _ _
  obtain ⟨hunguarded, hguards⟩ := availability_decorates havailability greetings
  obtain ⟨f, hf, hblocks, -, hsided⟩ := hguards check_greetings
  exact ⟨havailability, check_greetings, hunguarded, f, hf, hblocks, hsided⟩

end SwiftStubs
