import SwiftStubs.Stub.Alias

/-!
# The parts of a tree

The parts of a tree are the types that are named in it and the expressions that occur in it, at any
depth and in the order in which they are written. They are what a statement about a whole file is
about that does not mind where in the file something stands.
-/

namespace SwiftStubs.Swift

/-- A type that is named in a tree, or an expression that occurs in it. -/
inductive Part where
  | type (text : String)
  | expression (e : Expression)

/-- The types that a signature names. -/
def Signature.parts (g : Signature) : List Part :=
  (g.parameters.map Parameter.type ++ g.returnType.toList ++ g.conditions).map Part.type

mutual

/-- The parts of a declaration. -/
def Declaration.parts : Declaration → List Part
  | .commented _ d => d.parts
  | .guarded _ d => d.parts
  | .enumeration _ _ ms => memberParts ms
  | .struct _ _ conformances ms => conformances.map .type ++ memberParts ms
  | .protocol _ _ conformances ms => conformances.map .type ++ memberParts ms
  | .extension _ type conformances ms => .type type :: conformances.map .type ++ memberParts ms
  | .typeAlias _ _ target => [.type target]
  | .constant _ _ _ type none => type.toList.map .type
  | .constant _ _ _ type (some value) => type.toList.map .type ++ value.parts
  | .function signature none => signature.parts
  | .function signature (some body) => signature.parts ++ blockParts body
  | .unspecified => []
  | .misplaced e => e.parts

/-- The parts of members. -/
def memberParts : List Declaration → List Part
  | [] => []
  | d :: ds => d.parts ++ memberParts ds

/-- The parts of an expression, of which it is the first. -/
def Expression.parts : Expression → List Part
  | .identifier name => [.expression (.identifier name)]
  | .stringLiteral value => [.expression (.stringLiteral value)]
  | .arrayLiteral es => .expression (.arrayLiteral es) :: elementParts es
  | .call callee args => .expression (.call callee args) :: callee.parts ++ argumentParts args
  | .closure parameters body => .expression (.closure parameters body) :: blockParts body
  | .keyword word none => [.expression (.keyword word none)]
  | .keyword word (some operand) => .expression (.keyword word (some operand)) :: operand.parts
  | .assignment left right => .expression (.assignment left right) :: left.parts ++ right.parts
  | .unspecified => [.expression .unspecified]
  | .misplaced d => .expression (.misplaced d) :: d.parts

/-- The parts of elements. -/
def elementParts : List Expression → List Part
  | [] => []
  | e :: es => e.parts ++ elementParts es

/-- The parts of arguments. -/
def argumentParts : List Argument → List Part
  | [] => []
  | .mk _ value :: args => value.parts ++ argumentParts args

/-- The parts of a block of code. -/
def Block.parts : Block → List Part
  | .declaration d _ => d.parts
  | .expression e _ => e.parts

/-- The parts of blocks. -/
def blockParts : List Block → List Part
  | [] => []
  | b :: bs => b.parts ++ blockParts bs

end

attribute [local simp] Declaration.parts

/-! ### Lists -/

@[simp]
theorem memberParts_eq (ds : List Declaration) :
  memberParts ds = ds.flatMap Declaration.parts
  := by
  induction ds with
  | nil => rfl
  | cons d ds ih => rw [memberParts, ih, List.flatMap_cons]

@[simp]
theorem elementParts_eq (es : List Expression) :
  elementParts es = es.flatMap Expression.parts
  := by
  induction es with
  | nil => rfl
  | cons e es ih => rw [elementParts, ih, List.flatMap_cons]

@[simp]
theorem blockParts_eq (bs : List Block) :
  blockParts bs = bs.flatMap Block.parts
  := by
  induction bs with
  | nil => rfl
  | cons b bs ih => rw [blockParts, ih, List.flatMap_cons]

/-! ### What is put in front of a declaration -/

@[simp]
theorem Declaration.parts_documented (documentation : String) (d : Declaration) :
  (d.documented documentation).parts = d.parts
  := by
  rw [documented]
  split
  · rfl
  · simp

@[simp]
theorem Declaration.parts_available (availability : Option Availability) (d : Declaration) :
  (d.available availability).parts = d.parts
  := by
  cases availability with
  | none => rfl
  | some a => simp [available]

/-! ### Reading parts -/

/-- What a reader gets from the parts of a declaration. -/
def Declaration.read {α : Type} (g : Part → Option α) (d : Declaration) : List α :=
  d.parts.filterMap g

/-- What a reader gets from the parts of an expression. -/
def Expression.read {α : Type} (g : Part → Option α) (e : Expression) : List α :=
  e.parts.filterMap g

section

variable {α : Type} (g : Part → Option α)

@[simp]
theorem Declaration.read_documented (documentation : String) (d : Declaration) :
  (d.documented documentation).read g = d.read g
  := by
  rw [read, parts_documented, ← read]

@[simp]
theorem Declaration.read_available (availability : Option Availability) (d : Declaration) :
  (d.available availability).read g = d.read g
  := by
  rw [read, parts_available, ← read]

@[simp]
theorem Declaration.read_present (style : Stub.Style) (documentation : String) (d : Declaration) :
  (style.present documentation d).read g = d.read g
  := by
  rw [Stub.Style.present, read_documented, read_available]

@[simp]
theorem Declaration.read_enumeration (access : Option AccessModifier) (name : String)
    (ms : List Declaration) :
  (enumeration access name ms).read g = ms.flatMap (read g)
  := by
  rw [read, parts, memberParts_eq, List.filterMap_flatMap]
  rfl

@[simp]
theorem Declaration.read_protocol (access : Option AccessModifier) (name : String)
    (conformances : List String) (ms : List Declaration) :
  (protocol access name conformances ms).read g
    = (conformances.map Part.type).filterMap g ++ ms.flatMap (read g)
  := by
  rw [read, parts, memberParts_eq, List.filterMap_append, List.filterMap_flatMap]
  rfl

@[simp]
theorem Declaration.read_struct (access : Option AccessModifier) (name : String)
    (conformances : List String) (ms : List Declaration) :
  (struct access name conformances ms).read g
    = (conformances.map Part.type).filterMap g ++ ms.flatMap (read g)
  := by
  rw [read, parts, memberParts_eq, List.filterMap_append, List.filterMap_flatMap]
  rfl

@[simp]
theorem Declaration.read_extension (access : Option AccessModifier) (type : String)
    (conformances : List String) (ms : List Declaration) :
  (extension access type conformances ms).read g
    = (Part.type type :: conformances.map Part.type).filterMap g ++ ms.flatMap (read g)
  := by
  rw [read, parts, memberParts_eq, List.filterMap_append, List.filterMap_flatMap]
  rfl

/-- A body is read expression by expression. -/
theorem Declaration.read_function {β : Type} (signature : Signature) (xs : List β)
    (e : β → Expression) :
  (function signature (some (xs.map (fun x => (e x).block)))).read g
    = signature.parts.filterMap g ++ xs.flatMap (fun x => (e x).read g)
  := by
  rw [read, parts, blockParts_eq, List.filterMap_append, List.filterMap_flatMap,
    List.flatMap_map]
  rfl

/-! ### What holds of all that is read -/

/-- All that a reader gets from a declaration has a property. -/
def Declaration.Reads (P : α → Prop) (d : Declaration) : Prop :=
  ∀ x ∈ d.read g, P x

variable {g} {P : α → Prop} {style : Stub.Style} {documentation : String}
  {access : Option AccessModifier} {name : String} {conformances : List String}
  {ms : List Declaration}

theorem forall_mem_types {types : List String} (h : ∀ t ∈ types, ∀ x ∈ g (.type t), P x) :
  ∀ x ∈ (types.map Part.type).filterMap g, P x
  := by
  intro x hx
  obtain ⟨p, hp, hx⟩ := List.mem_filterMap.mp hx
  obtain ⟨t, ht, rfl⟩ := List.mem_map.mp hp
  apply h t ht x hx

theorem Declaration.reads_documented {d : Declaration} (h : d.Reads g P) :
  (d.documented documentation).Reads g P
  := by
  rw [Reads, read_documented]
  exact h

theorem Declaration.reads_available {availability : Option Availability} {d : Declaration}
    (h : d.Reads g P) :
  (d.available availability).Reads g P
  := by
  rw [Reads, read_available]
  exact h

theorem Declaration.reads_protocol
    (hconformances : ∀ t ∈ conformances, ∀ x ∈ g (.type t), P x)
    (hms : ∀ d ∈ ms, d.Reads g P) :
  (style.present documentation (protocol access name conformances ms)).Reads g P
  := by
  rw [Reads, read_present, read_protocol, List.forall_mem_append, List.forall_mem_flatMap]
  exact ⟨forall_mem_types hconformances, hms⟩

theorem Declaration.reads_struct
    (hconformances : ∀ t ∈ conformances, ∀ x ∈ g (.type t), P x)
    (hms : ∀ d ∈ ms, d.Reads g P) :
  (style.present documentation (struct access name conformances ms)).Reads g P
  := by
  rw [Reads, read_present, read_struct, List.forall_mem_append, List.forall_mem_flatMap]
  exact ⟨forall_mem_types hconformances, hms⟩

theorem Declaration.reads_extension {type : String} (htype : ∀ x ∈ g (.type type), P x)
    (hms : ∀ d ∈ ms, d.Reads g P) :
  (style.present documentation (extension access type [] ms)).Reads g P
  := by
  rw [Reads, read_present, read_extension, ← List.map_cons, List.forall_mem_append,
    List.forall_mem_flatMap]
  exact ⟨forall_mem_types (List.forall_mem_singleton.mpr htype), hms⟩

/-- A function whose body is a list of expressions is read expression by expression. -/
theorem Declaration.reads_function {β : Type} {signature : Signature} {xs : List β}
    {e : β → Expression} (hsignature : ∀ x ∈ signature.parts.filterMap g, P x)
    (he : ∀ y ∈ xs, ∀ x ∈ (e y).read g, P x) :
  (function signature (some (xs.map (fun x => (e x).block)))).Reads g P
  := by
  rw [Reads, read_function, List.forall_mem_append, List.forall_mem_flatMap]
  exact ⟨hsignature, he⟩

end

/-- The type or the name that a part is, unless it is a literal or an expression with parts of its
own. -/
def Part.text? : Part → Option String
  | .type text => some text
  | .expression (.identifier name) => some name
  | _ => none

/-- The types and names in a declaration. -/
def Declaration.texts (d : Declaration) : List String :=
  d.read Part.text?

/-- The types and names in an expression. -/
def Expression.texts (e : Expression) : List String :=
  e.read Part.text?

end SwiftStubs.Swift
