import SwiftStubs.Proofs.Grouping

/-!
# Trees with other modifiers and guards

Recasting goes through a whole tree, replaces the access modifiers and the guards, and leaves
everything else as it is. A recasting that turns one style into another turns the stubs of the one
style into the stubs of the other, block by block (`recast_sections`): whatever a style decides
about a file, it decides by its modifier and its guards alone.
-/

namespace SwiftStubs.Swift

/-! ### Recasting trees -/

/-- What becomes of a modifier, and of a declaration with a guard in front. -/
structure Recasting where
  access : AccessModifier → AccessModifier
  guard : Availability → Declaration → Declaration

/-- A signature with another modifier. -/
def Signature.recast (ρ : Recasting) (g : Signature) : Signature :=
  { g with access := g.access.map ρ.access }

mutual

/-- A declaration with other modifiers and guards. -/
def Declaration.recast (ρ : Recasting) : Declaration → Declaration
  | .commented comment d => .commented comment (d.recast ρ)
  | .guarded availability d => ρ.guard availability (d.recast ρ)
  | .enumeration access name ms => .enumeration (access.map ρ.access) name (recastMembers ρ ms)
  | .struct access name conformances ms =>
    .struct (access.map ρ.access) name conformances (recastMembers ρ ms)
  | .protocol access name conformances ms =>
    .protocol (access.map ρ.access) name conformances (recastMembers ρ ms)
  | .extension access type conformances ms =>
    .extension (access.map ρ.access) type conformances (recastMembers ρ ms)
  | .typeAlias access name target => .typeAlias (access.map ρ.access) name target
  | .constant access name isStatic type none =>
    .constant (access.map ρ.access) name isStatic type none
  | .constant access name isStatic type (some value) =>
    .constant (access.map ρ.access) name isStatic type (some (value.recast ρ))
  | .function signature none => .function (signature.recast ρ) none
  | .function signature (some body) => .function (signature.recast ρ) (some (recastBlocks ρ body))
  | .unspecified => .unspecified
  | .misplaced e => .misplaced (e.recast ρ)

/-- Members with other modifiers and guards. -/
def recastMembers (ρ : Recasting) : List Declaration → List Declaration
  | [] => []
  | d :: ds => d.recast ρ :: recastMembers ρ ds

/-- An expression with other modifiers and guards in its closures. -/
def Expression.recast (ρ : Recasting) : Expression → Expression
  | .identifier name => .identifier name
  | .stringLiteral value => .stringLiteral value
  | .arrayLiteral es => .arrayLiteral (recastElements ρ es)
  | .call callee args => .call (callee.recast ρ) (recastArguments ρ args)
  | .closure parameters body => .closure parameters (recastBlocks ρ body)
  | .keyword word none => .keyword word none
  | .keyword word (some operand) => .keyword word (some (operand.recast ρ))
  | .assignment left right => .assignment (left.recast ρ) (right.recast ρ)
  | .unspecified => .unspecified
  | .misplaced d => .misplaced (d.recast ρ)

/-- Elements with other modifiers and guards. -/
def recastElements (ρ : Recasting) : List Expression → List Expression
  | [] => []
  | e :: es => e.recast ρ :: recastElements ρ es

/-- Arguments with other modifiers and guards. -/
def recastArguments (ρ : Recasting) : List Argument → List Argument
  | [] => []
  | .mk label value :: args => .mk label (value.recast ρ) :: recastArguments ρ args

/-- A block of code with other modifiers and guards. -/
def Block.recast (ρ : Recasting) : Block → Block
  | .declaration d comment => .declaration (d.recast ρ) comment
  | .expression e comment => .expression (e.recast ρ) comment

/-- Blocks of code with other modifiers and guards. -/
def recastBlocks (ρ : Recasting) : List Block → List Block
  | [] => []
  | b :: bs => b.recast ρ :: recastBlocks ρ bs

end

/-- A file with other modifiers and guards. -/
def NamedFile.recast (ρ : Recasting) (f : NamedFile) : NamedFile :=
  { f with contents := { f.contents with blocks := recastBlocks ρ f.contents.blocks } }

section

variable (ρ : Recasting)

attribute [local simp] Declaration.recast Expression.recast Block.recast recastArguments

@[simp]
theorem recastMembers_eq (ds : List Declaration) :
  recastMembers ρ ds = ds.map (Declaration.recast ρ)
  := by
  induction ds with
  | nil => rfl
  | cons d ds ih => rw [recastMembers, ih, List.map_cons]

@[simp]
theorem recastElements_eq (es : List Expression) :
  recastElements ρ es = es.map (Expression.recast ρ)
  := by
  induction es with
  | nil => rfl
  | cons e es ih => rw [recastElements, ih, List.map_cons]

@[simp]
theorem recastBlocks_eq (bs : List Block) :
  recastBlocks ρ bs = bs.map (Block.recast ρ)
  := by
  induction bs with
  | nil => rfl
  | cons b bs ih => rw [recastBlocks, ih, List.map_cons]

/-- Declarations that are recast one by one. -/
theorem map_recast_map {α : Type} {f f' : α → Declaration} (h : ∀ x, (f x).recast ρ = f' x)
    (xs : List α) :
  (xs.map f).map (Declaration.recast ρ) = xs.map f'
  := by
  rw [List.map_map]
  apply List.map_congr_left
  intro x _
  apply h

/-- Documentation stays where it is. -/
@[simp]
theorem Declaration.recast_documented (documentation : String) (d : Declaration) :
  (d.documented documentation).recast ρ = (d.recast ρ).documented documentation
  := by
  rw [documented, documented]
  split
  · rfl
  · simp

@[simp]
theorem Declaration.recast_block (d : Declaration) :
  d.block.recast ρ = (d.recast ρ).block
  := by
  simp [block]

theorem map_recast_block (ds : List Declaration) :
  (ds.map Declaration.block).map (Block.recast ρ)
    = (ds.map (Declaration.recast ρ)).map Declaration.block
  := by
  rw [List.map_map, List.map_map]
  apply List.map_congr_left
  intro d _
  apply Declaration.recast_block

@[simp]
theorem Expression.recast_block (e : Expression) :
  e.block.recast ρ = (e.recast ρ).block
  := by
  simp [block]

@[simp]
theorem Expression.recast_tryAwait (e : Expression) :
  e.tryAwait.recast ρ = (e.recast ρ).tryAwait
  := by
  simp [tryAwait]

end

end SwiftStubs.Swift

namespace SwiftStubs.Stub

open Swift

/-! ### Expressions of stubs -/

section

variable (ρ : Recasting) (r : Request) (s : Service) (m : Method)

@[simp]
theorem recast_descriptorCall :
  (descriptorCall s m).recast ρ = descriptorCall s m
  := by
  simp only [descriptorCall, Expression.recast, recastArguments]

@[simp]
theorem recast_registerCall :
  (registerCall r s m).recast ρ = registerCall r s m
  := by
  simp [registerCall, Expression.recast, recastArguments]

@[simp]
theorem recast_adaptedRequest :
  (adaptedRequest m).recast ρ = adaptedRequest m
  := by
  rw [adaptedRequest]
  split
  · rw [Expression.recast]
  · simp only [Expression.recast, recastArguments]

@[simp]
theorem recast_adaptedResponse :
  (adaptedResponse m).recast ρ = adaptedResponse m
  := by
  rw [adaptedResponse]
  split
  · rw [Expression.recast]
  · simp only [Expression.recast, recastArguments]

@[simp]
theorem recast_overloadCall :
  (overloadCall r s m).recast ρ = overloadCall r s m
  := by
  simp only [overloadCall, Expression.recast, recastArguments]

@[simp]
theorem recast_forwardedCall :
  (forwardedCall s m).recast ρ = forwardedCall s m
  := by
  simp only [forwardedCall, Expression.recast, recastArguments]

end

/-! ### Declarations of stubs -/

/-- A section with declarations for each service is recast service by service. -/
theorem recast_flatMap_block {ρ : Recasting} {f f' : Service → List Declaration}
    (hf : ∀ s, (f s).map (Declaration.recast ρ) = f' s) (services : List Service) :
  (services.flatMap (fun s => (f s).map Declaration.block)).map (Block.recast ρ)
    = services.flatMap (fun s => (f' s).map Declaration.block)
  := by
  rw [List.map_flatMap]
  apply List.flatMap_congr
  intro s _
  rw [map_recast_block, hf]

/-- A recasting turns one style into another: the modifier of the one into that of the other, and
the guards of the one into those of the other. Hidden things stay hidden. -/
structure Restyles (ρ : Recasting) (style style' : Style) : Prop where
  access : ρ.access style.access = style'.access
  hidden : ρ.access .hidden = .hidden
  available : ∀ d : Declaration, (d.available style.availability).recast ρ
    = (d.recast ρ).available style'.availability

namespace Restyles

variable {ρ : Recasting} {style style' : Style} (h : Restyles ρ style style')
include h

theorem recast_present (documentation : String) (d : Declaration) :
  (style.present documentation d).recast ρ = style'.present documentation (d.recast ρ)
  := by
  rw [Style.present, Declaration.recast_documented, h.available, Style.present]

theorem map_access :
  (some style.access).map ρ.access = some style'.access
  := by
  rw [Option.map_some, h.access]

/-! #### The alias section -/

theorem recast_methodEnum (s : Service) (m : Method) :
  (methodEnum style s m).recast ρ = methodEnum style' s m
  := by
  simp [methodEnum, Declaration.recast, h.access]

theorem recast_methodsEnum (s : Service) :
  (methodsEnum style s).recast ρ = methodsEnum style' s
  := by
  have hlist : (descriptorList style s).recast ρ = descriptorList style' s := by
    simp [descriptorList, Declaration.recast, Expression.recast, h.access, Function.comp_def]
  rw [methodsEnum, Declaration.recast, recastMembers_eq, List.map_append, h.map_access,
    map_recast_map ρ (h.recast_methodEnum s), List.map_singleton, hlist, methodsEnum]

theorem recast_serviceEnum (sides : Sides) (s : Service) :
  (serviceEnum style sides s).recast ρ = serviceEnum style' sides s
  := by
  have hrole : ∀ role, (roleAlias style s role).recast ρ = roleAlias style' s role := by
    intro role
    rw [roleAlias, h.available, Declaration.recast, h.map_access, roleAlias]
  rw [serviceEnum, Declaration.recast, recastMembers_eq, List.map_cons, h.map_access,
    h.recast_methodsEnum, map_recast_map ρ hrole, serviceEnum]

theorem recast_namespaceBlocks (sides : Sides) (services : List Service) :
  (namespaceBlocks style sides services).map (Block.recast ρ)
    = namespaceBlocks style' sides services
  := by
  cases services with
  | nil => rfl
  | cons s services =>
      have henums := map_recast_map ρ (h.recast_serviceEnum sides) (s :: services)
      rw [namespaceBlocks, namespaceBlocks]
      split
      · rw [map_recast_block, henums]
      · rw [List.map_singleton, Declaration.recast_block, Declaration.recast, recastMembers_eq,
          henums, h.map_access]

theorem recast_aliasSection (sides : Sides) (services : List Service) :
  (aliasSection style sides services).map (Block.recast ρ)
    = aliasSection style' sides services
  := by
  rw [aliasSection, List.map_flatMap, aliasSection]
  apply List.flatMap_congr
  intro group _
  apply h.recast_namespaceBlocks

/-! #### The server section -/

/-- A protocol of requirements for methods, which have no modifier. -/
theorem recast_requirements (documentation name : String) (conformances : List String)
    (signature : Method → Signature) (hbare : ∀ m, (signature m).access = none)
    (methods : List Method) :
  (style.present documentation (.protocol (some style.access) name conformances
      (methods.map (fun m => (Declaration.function (signature m) none).documented
        m.documentation)))).recast ρ
    = style'.present documentation (.protocol (some style'.access) name conformances
      (methods.map (fun m => (Declaration.function (signature m) none).documented
        m.documentation)))
  := by
  have hmember : ∀ m : Method,
      ((Declaration.function (signature m) none).documented m.documentation).recast ρ
        = (Declaration.function (signature m) none).documented m.documentation := by
    intro m
    have hsignature : (signature m).recast ρ = signature m := by
      rw [Signature.recast, hbare, Option.map_none, ← hbare m]
    rw [Declaration.recast_documented, Declaration.recast, hsignature]
  rw [h.recast_present, Declaration.recast, recastMembers_eq, map_recast_map ρ hmember,
    h.map_access]

theorem recast_registration (r : Request) (s : Service) :
  (registration style r s).recast ρ = registration style' r s
  := by
  have hfunction : (registerMethods style r s).recast ρ = registerMethods style' r s := by
    rw [registerMethods, h.available, Declaration.recast, Signature.recast, recastBlocks_eq,
      List.map_map, h.map_access, registerMethods]
    simp [Function.comp_def]
  rw [registration, h.recast_present, Declaration.recast, recastMembers_eq, List.map_singleton,
    hfunction, Option.map_none, registration]

theorem recast_adapter (s : Service) :
  (adapter style s).recast ρ = adapter style' s
  := by
  have hfunction : ∀ m, (adapterMethod style s m).recast ρ = adapterMethod style' s m := by
    intro m
    simp [adapterMethod, streamingSignature, serverSignature, Declaration.recast,
      Signature.recast, Expression.recast, recastArguments, h.access]
  rw [adapter, h.recast_present, Declaration.recast, recastMembers_eq, map_recast_map ρ hfunction,
    Option.map_none, adapter]

theorem recast_serverDeclarations (r : Request) (s : Service) :
  (serverDeclarations style r s).map (Declaration.recast ρ)
    = serverDeclarations style' r s
  := by
  have hstreaming : (streamingProtocol style s).recast ρ = streamingProtocol style' s :=
    h.recast_requirements _ _ _ _ (fun _ => rfl) _
  have hown : (serviceProtocol style s).recast ρ = serviceProtocol style' s :=
    h.recast_requirements _ _ _ _ (fun _ => rfl) _
  simp only [serverDeclarations, List.map_cons, List.map_nil, hstreaming, hown,
    h.recast_registration, h.recast_adapter]

/-! #### The client section -/

theorem recast_overloads (r : Request) (s : Service) :
  (overloads style r s).recast ρ = overloads style' r s
  := by
  have hfunction : ∀ m, (overload style r s m).recast ρ = overload style' r s m := by
    intro m
    simp [overload, shortSignature, callSignature, Declaration.recast, Signature.recast, h.access]
  rw [overloads, h.recast_present, Declaration.recast, recastMembers_eq, map_recast_map ρ hfunction,
    Option.map_none, overloads]

theorem recast_clientStruct (s : Service) :
  (clientStruct style s).recast ρ = clientStruct style' s
  := by
  have hproperty : clientProperty.recast ρ = clientProperty := by
    rw [clientProperty, Declaration.recast, Option.map_some, h.hidden]
  have hinitializer : (clientInitializer style).recast ρ = clientInitializer style' := by
    simp [clientInitializer, Declaration.recast, Signature.recast, Expression.recast, h.access]
  have hfunction : ∀ m : Method, ((clientMethod style s m).documented m.documentation).recast ρ
      = (clientMethod style' s m).documented m.documentation := by
    intro m
    simp [clientMethod, fullSignature, callSignature, Declaration.recast, Signature.recast,
      h.access]
  rw [clientStruct, h.recast_present, Declaration.recast, recastMembers_eq, List.map_cons,
    List.map_cons, hproperty, hinitializer, map_recast_map ρ hfunction, h.map_access,
    clientStruct]

theorem recast_clientDeclarations (r : Request) (s : Service) :
  (clientDeclarations style r s).map (Declaration.recast ρ)
    = clientDeclarations style' r s
  := by
  have hprotocol : (clientProtocol style s).recast ρ = clientProtocol style' s :=
    h.recast_requirements _ _ _ _ (fun _ => rfl) _
  simp only [clientDeclarations, List.map_cons, List.map_nil, hprotocol, h.recast_overloads,
    h.recast_clientStruct]

/-! #### The file -/

/-- The stubs of one style are recast to the stubs of the other. -/
theorem recast_sections (sides : Sides) (r : Request) :
  recastBlocks ρ (sections style sides r) = sections style' sides r
  := by
  rw [recastBlocks_eq, sections, List.map_append, List.map_append, h.recast_aliasSection,
    sections]
  congr 1
  · congr 1
    split
    · apply recast_flatMap_block (h.recast_serverDeclarations r)
    · rfl
  · split
    · apply recast_flatMap_block (h.recast_clientDeclarations r)
    · rfl

end Restyles

end SwiftStubs.Stub

namespace SwiftStubs

open Swift

/-- Of two configurations that differ in style alone, the one has the file of the other, recast. A
request that is rejected is so for one reason under both. -/
theorem Request.file_recast {ρ : Recasting} {c c' : Configuration} (hsides : c'.sides = c.sides)
    (h : Stub.Restyles ρ c.style c'.style) (r : Request) :
  (r.file c).map (NamedFile.recast ρ) = r.file c'
  := by
  rw [file, file, ← h.recast_sections, hsides]
  cases r.check with
  | error e => rfl
  | ok _ =>
      show Except.map _ (importsOf r.dependencies >>= _) = (importsOf r.dependencies >>= _)
      cases importsOf r.dependencies with
      | error e => rfl
      | ok is => rfl

end SwiftStubs
