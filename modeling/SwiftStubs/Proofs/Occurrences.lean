import SwiftStubs.Proofs.Lookup

/-!
# The declarations in a file

A file holds declarations in types, in the bodies of functions and in closures. An occurrence is one
of them, together with what it stands in and with the comments and guards in front of it. What
occurs in stubs is computed once for each kind of declaration, and sorted into a few kinds of
occurrences by `AliasOccurrence` for the alias section and by `SideOccurrence` for the server and
the client section.
-/

namespace SwiftStubs.Swift

/-! ### Occurrences -/

/-- What a declaration can stand in. -/
inductive Holder where
  | enumeration (name : String)
  | struct (name : String)
  | protocol (name : String)
  | extension (type : String)
  /-- The body of a function. -/
  | body (signature : Signature)
  | closure (parameters : List String)
deriving DecidableEq

/-- What can stand in front of a declaration. -/
inductive Front where
  | comment (comment : Option Comment)
  | guard (availability : Availability)
deriving DecidableEq

/-- A declaration somewhere in a file. -/
structure Occurrence where
  /-- What the declaration stands in, from the inside to the outside. -/
  within : List Holder
  /-- What stands in front of the declaration, from the first to the one right before it. -/
  front : List Front
  /-- The declaration without what stands in front of it. -/
  declaration : Declaration

mutual

/-- The occurrences of declarations in a declaration, of which it is the first. -/
def Declaration.occurrences :
    List Holder → List Front → Declaration → List Occurrence
  | within, front, .commented comment d => d.occurrences within (front ++ [.comment comment])
  | within, front, .guarded availability d => d.occurrences within (front ++ [.guard availability])
  | within, front, .enumeration access name ms =>
    ⟨within, front, .enumeration access name ms⟩
      :: memberOccurrences (.enumeration name :: within) ms
  | within, front, .struct access name conformances ms =>
    ⟨within, front, .struct access name conformances ms⟩
      :: memberOccurrences (.struct name :: within) ms
  | within, front, .protocol access name conformances ms =>
    ⟨within, front, .protocol access name conformances ms⟩
      :: memberOccurrences (.protocol name :: within) ms
  | within, front, .extension access type conformances ms =>
    ⟨within, front, .extension access type conformances ms⟩
      :: memberOccurrences (.extension type :: within) ms
  | within, front, .typeAlias access name target =>
    [⟨within, front, .typeAlias access name target⟩]
  | within, front, .constant access name isStatic type none =>
    [⟨within, front, .constant access name isStatic type none⟩]
  | within, front, .constant access name isStatic type (some value) =>
    ⟨within, front, .constant access name isStatic type (some value)⟩ :: value.occurrences within
  | within, front, .function signature none => [⟨within, front, .function signature none⟩]
  | within, front, .function signature (some body) =>
    ⟨within, front, .function signature (some body)⟩
      :: blockOccurrences (.body signature :: within) body
  | within, front, .unspecified => [⟨within, front, .unspecified⟩]
  | within, front, .misplaced e => ⟨within, front, .misplaced e⟩ :: e.occurrences within

/-- The occurrences of declarations in members. -/
def memberOccurrences : List Holder → List Declaration → List Occurrence
  | _, [] => []
  | within, d :: ds => d.occurrences within [] ++ memberOccurrences within ds

/-- The occurrences of declarations in an expression. -/
def Expression.occurrences : List Holder → Expression → List Occurrence
  | _, .identifier _ => []
  | _, .stringLiteral _ => []
  | within, .arrayLiteral es => elementOccurrences within es
  | within, .call callee args => callee.occurrences within ++ argumentOccurrences within args
  | within, .closure parameters body => blockOccurrences (.closure parameters :: within) body
  | _, .keyword _ none => []
  | within, .keyword _ (some operand) => operand.occurrences within
  | within, .assignment left right => left.occurrences within ++ right.occurrences within
  | _, .unspecified => []
  | within, .misplaced d => d.occurrences within []

/-- The occurrences of declarations in elements. -/
def elementOccurrences : List Holder → List Expression → List Occurrence
  | _, [] => []
  | within, e :: es => e.occurrences within ++ elementOccurrences within es

/-- The occurrences of declarations in arguments. -/
def argumentOccurrences : List Holder → List Argument → List Occurrence
  | _, [] => []
  | within, .mk _ value :: args => value.occurrences within ++ argumentOccurrences within args

/-- The occurrences of declarations in a block of code. -/
def Block.occurrences : List Holder → Block → List Occurrence
  | within, .declaration d none => d.occurrences within []
  | within, .declaration d (some comment) => d.occurrences within [.comment (some comment)]
  | within, .expression e _ => e.occurrences within

/-- The occurrences of declarations in blocks of code. -/
def blockOccurrences : List Holder → List Block → List Occurrence
  | _, [] => []
  | within, b :: bs => b.occurrences within ++ blockOccurrences within bs

end

/-- The occurrences of declarations in a file. -/
def File.occurrences (f : File) : List Occurrence :=
  blockOccurrences [] f.blocks

section

variable (within : List Holder)

attribute [local simp] Declaration.occurrences Expression.occurrences Block.occurrences

@[simp]
theorem memberOccurrences_eq (ds : List Declaration) :
  memberOccurrences within ds = ds.flatMap (Declaration.occurrences within [])
  := by
  induction ds with
  | nil => rfl
  | cons d ds ih => rw [memberOccurrences, ih, List.flatMap_cons]

@[simp]
theorem elementOccurrences_eq (es : List Expression) :
  elementOccurrences within es = es.flatMap (Expression.occurrences within)
  := by
  induction es with
  | nil => rfl
  | cons e es ih => rw [elementOccurrences, ih, List.flatMap_cons]

@[simp]
theorem blockOccurrences_eq (bs : List Block) :
  blockOccurrences within bs = bs.flatMap (Block.occurrences within)
  := by
  induction bs with
  | nil => rfl
  | cons b bs ih => rw [blockOccurrences, ih, List.flatMap_cons]

theorem blockOccurrences_append (bs bs' : List Block) :
  blockOccurrences within (bs ++ bs') = blockOccurrences within bs ++ blockOccurrences within bs'
  := by
  simp

@[simp]
theorem Declaration.occurrences_block (d : Declaration) :
  d.block.occurrences within = d.occurrences within []
  := by
  simp [block]

@[simp]
theorem Expression.occurrences_block (e : Expression) :
  e.block.occurrences within = e.occurrences within
  := by
  simp [block]

@[simp]
theorem Expression.occurrences_tryAwait (e : Expression) :
  e.tryAwait.occurrences within = e.occurrences within
  := by
  simp [tryAwait]

/-- Members that hold no other declarations occur one by one. -/
theorem memberOccurrences_map {α : Type} {f : α → Declaration} {g : α → Occurrence}
    (h : ∀ x, (f x).occurrences within [] = [g x]) (xs : List α) :
  memberOccurrences within (xs.map f) = xs.map g
  := by
  rw [memberOccurrences_eq, List.flatMap_map, List.map_eq_flatMap]
  apply List.flatMap_congr
  intro x _
  apply h

end

/-! ### What stands in front -/

/-- What documentation puts in front of a declaration. -/
def docFront (documentation : String) : List Front :=
  if documentation.isEmpty then [] else [.comment (some ⟨.doc, documentation⟩)]

/-- What an availability puts in front of a declaration. -/
def guardFront : Option Availability → List Front
  | none => []
  | some a => [.guard a]

section

variable (within : List Holder) (front : List Front)

@[simp]
theorem Declaration.occurrences_documented (documentation : String) (d : Declaration) :
  (d.documented documentation).occurrences within front
    = d.occurrences within (front ++ docFront documentation)
  := by
  rw [documented, docFront]
  split
  · rw [List.append_nil]
  · rw [occurrences]

@[simp]
theorem Declaration.occurrences_available (availability : Option Availability) (d : Declaration) :
  (d.available availability).occurrences within front
    = d.occurrences within (front ++ guardFront availability)
  := by
  cases availability with
  | none => rw [available, guardFront, List.append_nil]
  | some a => rw [available, occurrences, guardFront]

@[simp]
theorem Declaration.occurrences_present (style : Stub.Style) (documentation : String)
    (d : Declaration) :
  (style.present documentation d).occurrences within front
    = d.occurrences within (front ++ docFront documentation ++ guardFront style.availability)
  := by
  rw [Stub.Style.present, occurrences_documented, occurrences_available]

end

end SwiftStubs.Swift

namespace SwiftStubs.Stub

open Swift

/-! ### Occurrences in the alias section -/

section

variable (style : Style) (sides : Sides) (within : List Holder)

theorem occurrences_methodEnum (s : Service) (m : Method) :
  (methodEnum style s m).occurrences within []
    = [⟨within, [], methodEnum style s m⟩,
      ⟨.enumeration m.name.upper :: within, [], .typeAlias (some style.access) "Input" m.inputType⟩,
      ⟨.enumeration m.name.upper :: within, [],
        .typeAlias (some style.access) "Output" m.outputType⟩,
      ⟨.enumeration m.name.upper :: within, [],
        .constant (some style.access) "descriptor" true none (some (descriptorCall s m))⟩]
  := rfl

theorem occurrences_methodsEnum (s : Service) :
  (methodsEnum style s).occurrences within []
    = ⟨within, [], methodsEnum style s⟩
      :: (s.methods.flatMap (fun m =>
          (methodEnum style s m).occurrences (.enumeration "Method" :: within) [])
        ++ [⟨.enumeration "Method" :: within, [], descriptorList style s⟩])
  := by
  have hlist : (descriptorList style s).occurrences (.enumeration "Method" :: within) []
      = [⟨.enumeration "Method" :: within, [], descriptorList style s⟩] := by
    simp [descriptorList, Declaration.occurrences, Expression.occurrences, List.flatMap_map]
  rw [methodsEnum, Declaration.occurrences, memberOccurrences_eq, List.flatMap_append,
    List.flatMap_map, List.flatMap_singleton, hlist]

theorem occurrences_serviceEnum (s : Service) :
  (serviceEnum style sides s).occurrences within []
    = ⟨within, [], serviceEnum style sides s⟩
      :: ((methodsEnum style s).occurrences (.enumeration s.name.upper :: within) []
        ++ (roles sides).map (fun role =>
          ⟨.enumeration s.name.upper :: within, guardFront style.availability,
            .typeAlias (some style.access) role (s.typeName ++ role)⟩))
  := by
  have hroles : memberOccurrences (.enumeration s.name.upper :: within)
      ((roles sides).map (roleAlias style s))
      = (roles sides).map (fun role =>
        ⟨.enumeration s.name.upper :: within, guardFront style.availability,
          .typeAlias (some style.access) role (s.typeName ++ role)⟩) := by
    apply memberOccurrences_map
    intro role
    rw [roleAlias, Declaration.occurrences_available, Declaration.occurrences, List.nil_append]
  rw [serviceEnum, Declaration.occurrences, memberOccurrences, hroles]

end

/-! ### Kinds of occurrences in the alias section -/

/-- The names of the enums around the enums of the services of a namespace. -/
def spaceNames (ns : String) : List String :=
  if ns.isEmpty then [] else [ns]

/-- The enums that the members of the enum of a service stand in. -/
def serviceHolders (s : Service) : List Holder :=
  (s.name.upper :: spaceNames s.ns.upper).map .enumeration

/-- The kinds of declarations in the alias section. -/
inductive AliasOccurrence (style : Style) (services : List Service) : Occurrence → Prop
  /-- An enum, which stands at the top level or in another enum. -/
  | enumeration (holders : List String) (name : String) (ms : List Declaration) :
      AliasOccurrence style services
        ⟨holders.map .enumeration, [], .enumeration (some style.access) name ms⟩
  /-- An alias of a message, which stands in the enum of a method. -/
  | message (s : Service) (m : Method) (name target : String) :
      AliasOccurrence style services
        ⟨.enumeration m.name.upper :: .enumeration "Method" :: serviceHolders s, [],
          .typeAlias (some style.access) name target⟩
  /-- A descriptor or a list of descriptors. -/
  | descriptor (holder : String) (outer : List Holder) (name : String) (type : Option String)
      (value : Expression) :
      AliasOccurrence style services
        ⟨.enumeration holder :: outer, [],
          .constant (some style.access) name true type (some value)⟩
  /-- An alias of a protocol or struct, which stands in the enum of a service. -/
  | role {s : Service} (hs : s ∈ services) (role : String) :
      AliasOccurrence style services
        ⟨serviceHolders s, guardFront style.availability,
          .typeAlias (some style.access) role (s.typeName ++ role)⟩

theorem aliasOccurrence_methodsEnum (style : Style) (services : List Service) (s : Service) :
  ∀ o ∈ (methodsEnum style s).occurrences (serviceHolders s) [], AliasOccurrence style services o
  := by
  simp only [occurrences_methodsEnum, occurrences_methodEnum, List.forall_mem_cons,
    List.forall_mem_append, List.forall_mem_flatMap]
  refine ⟨.enumeration _ _ _, ?_, .descriptor _ _ _ _ _, List.forall_mem_nil _⟩
  intro m _
  exact ⟨.enumeration ("Method" :: s.name.upper :: spaceNames s.ns.upper) _ _,
    .message s m _ _, .message s m _ _, .descriptor _ _ _ _ _, List.forall_mem_nil _⟩

theorem aliasOccurrence_serviceEnum (style : Style) (sides : Sides) {services : List Service}
    {s : Service} (hs : s ∈ services) :
  ∀ o ∈ (serviceEnum style sides s).occurrences ((spaceNames s.ns.upper).map .enumeration) [],
    AliasOccurrence style services o
  := by
  rw [occurrences_serviceEnum, List.forall_mem_cons, List.forall_mem_append, List.forall_mem_map]
  refine ⟨.enumeration _ _ _, aliasOccurrence_methodsEnum style services s, ?_⟩
  intro role _
  exact .role hs role

/-- Every declaration in the alias section is of one of its kinds. -/
theorem aliasOccurrence_of_mem {style : Style} {sides : Sides} {services : List Service}
    {o : Occurrence} (h : o ∈ blockOccurrences [] (aliasSection style sides services)) :
  AliasOccurrence style services o
  := by
  simp only [aliasSection_eq, blockOccurrences_eq, List.flatMap_map, List.mem_flatMap,
    Declaration.occurrences_block] at h
  obtain ⟨d, ⟨ns, -, hd⟩, ho⟩ := h
  have henums : ∀ d ∈ enumsOf style sides services ns,
      ∀ o ∈ d.occurrences ((spaceNames ns).map .enumeration) [],
        AliasOccurrence style services o := by
    rw [enumsOf, List.forall_mem_map]
    intro s hs
    obtain ⟨hmem, rfl⟩ := (mem_servicesOf_iff ns _ s).mp hs
    exact aliasOccurrence_serviceEnum style sides ((mem_ordered services s).mp hmem)
  rw [spaceDeclarations] at hd
  rw [spaceNames] at henums
  split at hd
  · next hempty =>
      rw [if_pos hempty] at henums
      exact henums d hd o ho
  · next hempty =>
      obtain rfl := List.mem_singleton.mp hd
      rw [if_neg hempty] at henums
      rw [Declaration.occurrences, memberOccurrences_eq, List.mem_cons, List.mem_flatMap] at ho
      obtain rfl | ⟨d, hd, ho⟩ := ho
      · exact .enumeration [] _ _
      · exact henums d hd o ho

/-! ### Occurrences in the server and the client section -/

section

variable (style : Style) (r : Request) (s : Service) (m : Method)

/-- A protocol of requirements for methods. -/
theorem occurrences_requirements (documentation name : String) (conformances : List String)
    (signature : Method → Signature) (methods : List Method) :
  (style.present documentation (.protocol (some style.access) name conformances
      (methods.map (fun m => (Declaration.function (signature m) none).documented
        m.documentation)))).occurrences [] []
    = ⟨[], docFront documentation ++ guardFront style.availability,
        .protocol (some style.access) name conformances
          (methods.map (fun m => (Declaration.function (signature m) none).documented
            m.documentation))⟩
      :: methods.map (fun m =>
        ⟨[.protocol name], docFront m.documentation, .function (signature m) none⟩)
  := by
  rw [Declaration.occurrences_present, Declaration.occurrences, memberOccurrences_map]
  · rfl
  · intro m
    rw [Declaration.occurrences_documented, Declaration.occurrences, List.nil_append]

/-- The expressions of stubs hold no declarations. -/
theorem occurrences_registerCall (within : List Holder) :
  (registerCall r s m).occurrences within = []
  := by
  simp [registerCall, Expression.occurrences, argumentOccurrences]

theorem occurrences_registration :
  (registration style r s).occurrences [] []
    = [⟨[], docFront ("Conformance to `" ++ registrable ++ "`.") ++ guardFront style.availability,
        .extension none (s.path ++ ".StreamingServiceProtocol") [] [registerMethods style r s]⟩,
      ⟨[.extension (s.path ++ ".StreamingServiceProtocol")], guardFront style.availability,
        (registerMethods style r s).bare⟩]
  := by
  have hcalls : ∀ within, blockOccurrences within
      (s.methods.map (fun m => (registerCall r s m).block)) = [] := by
    intro within
    simp [List.flatMap_map, occurrences_registerCall]
  rw [registration, Declaration.occurrences_present, Declaration.occurrences, memberOccurrences,
    memberOccurrences, registerMethods, Declaration.occurrences_available,
    Declaration.bare_available, Declaration.occurrences, hcalls]
  rfl

theorem occurrences_adapterMethod (within : List Holder) :
  (adapterMethod style s m).occurrences within []
    = [⟨within, [], adapterMethod style s m⟩,
      ⟨.body (streamingSignature (some style.access) s m) :: within, [],
        .constant none "response" false none
          (some (Expression.call (.identifier ("self." ++ m.name.lower))
            [.mk (some "request") (adaptedRequest m)]).tryAwait)⟩]
  := by
  have hrequest : ∀ within, (adaptedRequest m).occurrences within = [] := by
    intro within
    rw [adaptedRequest]
    split
    · rfl
    · rfl
  have hresponse : ∀ within, (adaptedResponse m).occurrences within = [] := by
    intro within
    rw [adaptedResponse]
    split
    · rfl
    · rfl
  simp [adapterMethod, Declaration.occurrences, Expression.occurrences, argumentOccurrences,
    hrequest, hresponse]

theorem occurrences_overload (within : List Holder) :
  (overload style r s m).occurrences within [] = [⟨within, [], overload style r s m⟩]
  := rfl

/-- The property of the struct of a service. -/
def storedClient : Occurrence :=
  ⟨[.struct (s.typeName ++ "Client")], [], clientProperty⟩

theorem occurrences_clientStruct :
  (clientStruct style s).occurrences [] []
    = ⟨[], docFront s.documentation ++ guardFront style.availability, (clientStruct style s).bare⟩
      :: storedClient s
      :: ⟨[.struct (s.typeName ++ "Client")], [], clientInitializer style⟩
      :: s.methods.map (fun m =>
        ⟨[.struct (s.typeName ++ "Client")], docFront m.documentation, clientMethod style s m⟩)
  := by
  have hmethods : memberOccurrences [.struct (s.typeName ++ "Client")]
      (s.methods.map (fun m => (clientMethod style s m).documented m.documentation))
      = s.methods.map (fun m =>
        ⟨[.struct (s.typeName ++ "Client")], docFront m.documentation, clientMethod style s m⟩)
      := by
    apply memberOccurrences_map
    intro m
    rw [Declaration.occurrences_documented]
    rfl
  rw [clientStruct, Declaration.occurrences_present, Declaration.occurrences, memberOccurrences,
    memberOccurrences, hmethods, Style.bare_present]
  rfl

end

/-! ### Kinds of occurrences in the server and the client section -/

/-- The kinds of declarations in the server and the client section, apart from the properties of
structs. -/
inductive SideOccurrence (style : Style) (services : List Service) : Occurrence → Prop
  | protocol (documentation name : String) (conformances : List String) (ms : List Declaration) :
      SideOccurrence style services
        ⟨[], docFront documentation ++ guardFront style.availability,
          .protocol (some style.access) name conformances ms⟩
  | struct (documentation name : String) (conformances : List String) (ms : List Declaration) :
      SideOccurrence style services
        ⟨[], docFront documentation ++ guardFront style.availability,
          .struct (some style.access) name conformances ms⟩
  | extension (documentation type : String) (ms : List Declaration) :
      SideOccurrence style services
        ⟨[], docFront documentation ++ guardFront style.availability, .extension none type [] ms⟩
  /-- A requirement of a protocol for a method. -/
  | requirement (documentation name : String) {g : Signature} (hg : g.access = none) :
      SideOccurrence style services ⟨[.protocol name], docFront documentation, .function g none⟩
  /-- The function that registers the methods of a service. -/
  | registrar {s : Service} (hs : s ∈ services) {g : Signature} (hname : g.name = "registerMethods")
      (hg : g.access = some style.access) (body : List Block) :
      SideOccurrence style services
        ⟨[.extension (s.path ++ ".StreamingServiceProtocol")], guardFront style.availability,
          .function g (some body)⟩
  /-- A function for a method, in one of the other extensions. -/
  | implementation (s : Service) {role : String}
      (hrole : role ∈ [".ServiceProtocol", ".ClientProtocol"]) {g : Signature}
      (hg : g.access = some style.access) (body : List Block) :
      SideOccurrence style services ⟨[.extension (s.path ++ role)], [], .function g (some body)⟩
  /-- The constant in the body of a function that adapts a method. -/
  | response {s : Service} (hs : s ∈ services) (g : Signature) (value : Expression) :
      SideOccurrence style services
        ⟨[.body g, .extension (s.path ++ ".ServiceProtocol")], [],
          .constant none "response" false none (some value)⟩
  /-- The initializer or a function for a method, in the struct of a service. -/
  | structFunction (documentation name : String) {g : Signature} (hg : g.access = some style.access)
      (body : List Block) :
      SideOccurrence style services
        ⟨[.struct name], docFront documentation, .function g (some body)⟩

section

variable (style : Style) {services : List Service} (r : Request)

theorem sideOccurrence_requirements (documentation name : String) (conformances : List String)
    {signature : Method → Signature} (h : ∀ m, (signature m).access = none)
    (methods : List Method) :
  ∀ o ∈ (style.present documentation (.protocol (some style.access) name conformances
      (methods.map (fun m => (Declaration.function (signature m) none).documented
        m.documentation)))).occurrences [] [],
    SideOccurrence style services o
  := by
  rw [occurrences_requirements, List.forall_mem_cons, List.forall_mem_map]
  refine ⟨.protocol _ _ _ _, ?_⟩
  intro m _
  exact .requirement _ _ (h m)

theorem sideOccurrence_registration {s : Service} (hs : s ∈ services) :
  ∀ o ∈ (registration style r s).occurrences [] [], SideOccurrence style services o
  := by
  rw [occurrences_registration, List.forall_mem_cons, List.forall_mem_singleton, registerMethods,
    Declaration.bare_available]
  exact ⟨.extension _ _ _, .registrar hs rfl rfl _⟩

theorem sideOccurrence_adapter {s : Service} (hs : s ∈ services) :
  ∀ o ∈ (adapter style s).occurrences [] [], SideOccurrence style services o
  := by
  rw [adapter, Declaration.occurrences_present, Declaration.occurrences, memberOccurrences_eq,
    List.forall_mem_cons, List.forall_mem_flatMap, List.forall_mem_map, List.nil_append]
  refine ⟨.extension _ _ _, ?_⟩
  intro m _
  rw [occurrences_adapterMethod, List.forall_mem_cons, List.forall_mem_singleton]
  exact ⟨.implementation s (by decide) rfl _, .response hs _ _⟩

theorem sideOccurrence_overloads (s : Service) :
  ∀ o ∈ (overloads style r s).occurrences [] [], SideOccurrence style services o
  := by
  rw [overloads, Declaration.occurrences_present, Declaration.occurrences, memberOccurrences_eq,
    List.forall_mem_cons, List.forall_mem_flatMap, List.forall_mem_map, List.nil_append]
  refine ⟨.extension _ _ _, ?_⟩
  intro m _
  rw [occurrences_overload, List.forall_mem_singleton]
  exact .implementation s (by decide) rfl _

theorem sideOccurrence_serverDeclarations {s : Service} (hs : s ∈ services) :
  ∀ d ∈ serverDeclarations style r s, ∀ o ∈ d.occurrences [] [], SideOccurrence style services o
  := by
  rw [serverDeclarations, List.forall_mem_cons, List.forall_mem_cons, List.forall_mem_cons,
    List.forall_mem_singleton]
  exact ⟨sideOccurrence_requirements style _ _ _ (fun _ => rfl) _,
    sideOccurrence_registration style r hs,
    sideOccurrence_requirements style _ _ _ (fun _ => rfl) _, sideOccurrence_adapter style hs⟩

/-- The client section has one property for a service, and beside it declarations of these kinds. -/
theorem sideOccurrence_clientDeclarations (services : List Service) (s : Service) :
  ∃ before after, (clientDeclarations style r s).flatMap (Declaration.occurrences [] [])
      = before ++ storedClient s :: after
    ∧ ∀ o ∈ before ++ after, SideOccurrence style services o
  := by
  use (clientProtocol style s).occurrences [] [] ++ (overloads style r s).occurrences [] []
      ++ [⟨[], docFront s.documentation ++ guardFront style.availability,
        (clientStruct style s).bare⟩],
    ⟨[.struct (s.typeName ++ "Client")], [], clientInitializer style⟩
      :: s.methods.map (fun m =>
        ⟨[.struct (s.typeName ++ "Client")], docFront m.documentation, clientMethod style s m⟩)
  constructor
  · rw [clientDeclarations, List.flatMap_cons, List.flatMap_cons, List.flatMap_singleton,
      occurrences_clientStruct]
    simp only [List.append_assoc, List.singleton_append]
  · simp only [List.forall_mem_append, List.forall_mem_cons, List.forall_mem_map]
    refine ⟨⟨⟨sideOccurrence_requirements style _ _ _ (fun _ => rfl) _,
      sideOccurrence_overloads style r s⟩, ?_, List.forall_mem_nil _⟩, ?_, ?_⟩
    · rw [clientStruct, Style.bare_present]
      exact .struct _ _ _ _
    · exact .structFunction "" _ rfl _
    · intro m _
      exact .structFunction _ _ rfl _

end

/-! ### Occurrences in a file -/

/-- The blocks of the server and the client section of a request. -/
def sidedBlocks (style : Style) (sides : Sides) (r : Request) : List Block :=
  (sided style sides r).map Declaration.block

theorem sections_eq_append (style : Style) (sides : Sides) (r : Request) :
  sections style sides r = aliasSection style sides r.services ++ sidedBlocks style sides r
  := by
  rw [sections_eq, declarations_eq, List.map_append, ← aliasSection_eq, sidedBlocks]

theorem blockOccurrences_sidedBlocks (style : Style) (sides : Sides) (r : Request) :
  blockOccurrences [] (sidedBlocks style sides r)
    = (sided style sides r).flatMap (Declaration.occurrences [] [])
  := by
  rw [blockOccurrences_eq, sidedBlocks, List.flatMap_map]
  apply List.flatMap_congr
  intro d _
  apply Declaration.occurrences_block

/-- Every declaration in the server and the client section is of one of their kinds, or the property
of a struct. -/
theorem sideOccurrence_of_mem {style : Style} {sides : Sides} {r : Request} {o : Occurrence}
    (h : o ∈ blockOccurrences [] (sidedBlocks style sides r)) :
  SideOccurrence style r.services o ∨ ∃ s ∈ r.services, o = storedClient s
  := by
  rw [blockOccurrences_sidedBlocks, List.mem_flatMap] at h
  obtain ⟨d, hd, ho⟩ := h
  obtain ⟨s, hs, hd⟩ := (mem_sided_iff style sides r d).mp hd
  obtain ⟨-, hd⟩ | ⟨-, hd⟩ := (mem_sideDeclarations_iff style sides r s d).mp hd
  · exact .inl (sideOccurrence_serverDeclarations style r hs d hd o ho)
  · obtain ⟨before, after, heq, hkinds⟩ :=
      sideOccurrence_clientDeclarations style r r.services s
    have hmem : o ∈ before ++ storedClient s :: after := by
      rw [← heq]
      exact List.mem_flatMap_of_mem hd ho
    rw [List.mem_append, List.mem_cons] at hmem
    obtain hmem | rfl | hmem := hmem
    · exact .inl (hkinds o (List.mem_append_left _ hmem))
    · exact .inr ⟨s, hs, rfl⟩
    · exact .inl (hkinds o (List.mem_append_right _ hmem))

end SwiftStubs.Stub
