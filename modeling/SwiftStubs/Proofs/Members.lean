import SwiftStubs.Proofs.Lookup

/-!
# Members of protocols, extensions and structs

What a protocol requires and what an extension or a struct implements, read from the tree. A
protocol is read if all its members are requirements and an extension if all its members are
functions with a body, so that nothing in them is overlooked. The types in signatures are texts; of
the generic ones it can be told which they are.
-/

namespace SwiftStubs

open Swift Stub

/-! ### Functions -/

/-- A function with its body. -/
structure Swift.Function where
  signature : Signature
  body : List Block

namespace Swift.Declaration

/-- The signature that a member requires. -/
def requirement? (d : Declaration) : Option Signature :=
  match d.bare with
  | .function g none => some g
  | _ => none

/-- The function that a member implements. -/
def function? (d : Declaration) : Option Function :=
  match d.bare with
  | .function g (some body) => some ⟨g, body⟩
  | _ => none

/-- The name and the requirements of a protocol. -/
def protocol? (d : Declaration) : Option (String × List Signature) :=
  match d.bare with
  | .protocol _ name _ ms => (ms.mapM requirement?).map (fun gs => (name, gs))
  | _ => none

/-- The type that is extended and the functions of the extension. -/
def extension? (d : Declaration) : Option (String × List Function) :=
  match d.bare with
  | .extension _ type _ ms => (ms.mapM function?).map (fun fs => (type, fs))
  | _ => none

/-- The name and the functions of a struct, which may have properties as well. -/
def struct? (d : Declaration) : Option (String × List Function) :=
  match d.bare with
  | .struct _ name _ ms => some (name, ms.filterMap function?)
  | _ => none

end Swift.Declaration

/-- The requirements of the protocols with a name. -/
def protocolsNamed (name : String) (ds : List Declaration) : List (List Signature) :=
  belonging name (ds.filterMap Declaration.protocol?)

/-- The functions of the extensions of a type. -/
def extensionsOf (type : String) (ds : List Declaration) : List (List Function) :=
  belonging type (ds.filterMap Declaration.extension?)

/-- The functions of the structs with a name. -/
def structsNamed (name : String) (ds : List Declaration) : List (List Function) :=
  belonging name (ds.filterMap Declaration.struct?)

/-- The name that a parameter has in the body of its function. -/
def Swift.Parameter.inner (p : Parameter) : String :=
  p.name.getD p.label

/-! ### Reading all members -/

/-- If every element of a list is read, so is the list. -/
theorem mapM_map_eq_some {α β γ : Type} {f : α → β} {g : β → Option γ} {h : α → γ} (xs : List α)
    (hread : ∀ x, g (f x) = some (h x)) :
  (xs.map f).mapM g = some (xs.map h)
  := by
  induction xs with
  | nil => rfl
  | cons x xs ih =>
      rw [List.map_cons, List.mapM_cons, hread, ih]
      rfl

section

variable {α : Type} {style : Style} {documentation : String} {access : Option AccessModifier}
  {name type : String} {conformances : List String} {member : α → Declaration}

theorem protocol?_present {signature : α → Signature} (xs : List α)
    (h : ∀ x, (member x).requirement? = some (signature x)) :
  (style.present documentation (.protocol access name conformances (xs.map member))).protocol?
    = some (name, xs.map signature)
  := by
  rw [Declaration.protocol?, Style.bare_present]
  show ((xs.map member).mapM Declaration.requirement?).map _ = _
  rw [mapM_map_eq_some xs h]
  rfl

theorem extension?_present {function : α → Function} (xs : List α)
    (h : ∀ x, (member x).function? = some (function x)) :
  (style.present documentation (.extension access type conformances (xs.map member))).extension?
    = some (type, xs.map function)
  := by
  rw [Declaration.extension?, Style.bare_present]
  show ((xs.map member).mapM Declaration.function?).map _ = _
  rw [mapM_map_eq_some xs h]
  rfl

end

/-! ### Generic types -/

theorem genericType_eq (wrapper type : String) :
  genericType wrapper [some type] = wrapper ++ "<" ++ type ++ ">"
  := by
  rw [genericType, joined]
  by_cases h : type = ""
  · rw [h]
    rfl
  · simp [h]

/-- Generic types with names of one length have the same name and the same argument if they are the
same. -/
theorem genericType_inj {wrapper wrapper' type type' : String}
    (hlength : wrapper.length = wrapper'.length)
    (h : genericType wrapper [some type] = genericType wrapper' [some type']) :
  wrapper = wrapper' ∧ type = type'
  := by
  rw [genericType_eq, genericType_eq, String.append_left_inj, ← String.toList_inj] at h
  simp only [String.toList_append] at h
  rw [List.append_assoc, List.append_assoc] at h
  rw [← String.length_toList, ← String.length_toList] at hlength
  obtain ⟨hwrapper, htype⟩ := List.append_inj h hlength
  rw [List.append_cancel_left_eq] at htype
  exact ⟨String.toList_inj.mp hwrapper, String.toList_inj.mp htype⟩

/-- A choice between two generic types can be read from the type that is made. -/
theorem genericType_choice_inj {wrapper wrapper' : String}
    (hlength : wrapper.length = wrapper'.length) (hne : wrapper ≠ wrapper') {b b' : Bool}
    {type type' : String}
    (h : genericType (if b then wrapper else wrapper') [some type]
      = genericType (if b' then wrapper else wrapper') [some type']) :
  b = b' ∧ type = type'
  := by
  cases b with
  | true =>
      cases b' with
      | true => exact ⟨rfl, (genericType_inj rfl h).2⟩
      | false => exact absurd (genericType_inj hlength h).1 hne
  | false =>
      cases b' with
      | true => exact absurd (genericType_inj hlength.symm h).1 hne.symm
      | false => exact ⟨rfl, (genericType_inj rfl h).2⟩

end SwiftStubs
