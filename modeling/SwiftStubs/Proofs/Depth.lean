import SwiftStubs.Proofs.FileText
import SwiftStubs.Stub.File

/-!
# How deep stubs are nested

A neat tree has no fault, and its lines are not deeper than a given depth. What is put between
braces, brackets or parentheses adds one to the depth, and nothing else does. Stubs are neat trees
of depth five at most: the deepest lines are the arguments of the descriptor of a method, inside the
enums of the method, of all methods, of the service and of the namespace.
-/

namespace SwiftStubs.Swift

/-! ### Depths of lines -/

/-- No line is deeper than `n`. -/
def Within (n : Nat) (ls : List DeepLine) : Prop :=
  ∀ l ∈ ls, l.1 ≤ n

theorem within_nil (n : Nat) :
  Within n []
  := by
  intro l hl
  cases hl

theorem within_cons {n : Nat} {l : DeepLine} {ls : List DeepLine} (hl : l.1 ≤ n)
    (hls : Within n ls) :
  Within n (l :: ls)
  := List.forall_mem_cons.mpr ⟨hl, hls⟩

theorem Within.append {n : Nat} {ls ls' : List DeepLine} (h : Within n ls) (h' : Within n ls') :
  Within n (ls ++ ls')
  := List.forall_mem_append.mpr ⟨h, h'⟩

theorem Within.mono {n m : Nat} {ls : List DeepLine} (h : Within n ls) (hnm : n ≤ m) :
  Within m ls
  := fun l hl => Nat.le_trans (h l hl) hnm

theorem Within.deeper {n : Nat} {ls : List DeepLine} (h : Within n ls) :
  Within (n + 1) (deeper ls)
  := List.forall_mem_map.mpr (fun l hl => Nat.succ_le_succ (h l hl))

theorem within_level (n : Nat) (ts : List String) :
  Within n (level ts)
  := List.forall_mem_map.mpr (fun _ _ => Nat.zero_le n)

namespace Layout

/-- No line of a layout is deeper than `n`. -/
def Within (n : Nat) (l : Layout) : Prop :=
  Swift.Within n l.below

theorem Within.lines {n : Nat} {l : Layout} (h : l.Within n) :
  Swift.Within n l.lines
  := within_cons (Nat.zero_le n) h

theorem within_text (n : Nat) (t : String) :
  (Layout.text t).Within n
  := within_nil n

theorem Within.under {n : Nat} {l : Layout} (h : l.Within n) (ts : List String) :
  (l.under ts).Within n
  := by
  cases ts with
  | nil => exact h
  | cons t ts => exact (within_level n ts).append h.lines

theorem Within.enclosed {n : Nat} {l : Layout} {ls : List DeepLine} (h : l.Within (n + 1))
    (hls : Swift.Within n ls) (closing : String) :
  (Layout.enclosed l ls closing).Within (n + 1)
  := h.append (hls.deeper.append (within_cons (Nat.zero_le _) (within_nil _)))

/-- Gluing moves no line in or out. -/
theorem Within.glue {n : Nat} {a b : Layout} (ha : a.Within n) (hb : b.Within n) :
  (a.glue b).Within n
  := by
  obtain ⟨t, ls⟩ := a
  show (glueBelow t ls b).Within n
  induction ls generalizing t with
  | nil => exact hb
  | cons l ls ih =>
      obtain ⟨hl, hls⟩ := List.forall_mem_cons.mp ha
      exact within_cons hl (ih l.2 hls)

theorem within_braced {n : Nat} {ls : List DeepLine} (h : Swift.Within n ls) (heading : String) :
  (bracedLayout heading ls).Within (n + 1)
  := (within_text (n + 1) _).enclosed h _

theorem Within.labelled {n : Nat} {l : Layout} (h : l.Within n) (label : Option String) :
  (labelled label l).Within n
  := by
  cases label with
  | none => exact h
  | some t => exact (within_text n _).glue h

end Layout

/-- Only the parameters of a signature stand on deeper lines. -/
theorem Signature.within_layout (n : Nat) (f : Signature) :
  f.layout.Within (n + 1)
  := by
  rw [Signature.layout]
  split
  · apply Layout.within_text
  · apply Layout.within_text
  · apply (Layout.within_text _ _).enclosed (within_level _ _)

/-! ### Neat trees -/

/-- A declaration without a fault, with no line deeper than `n`. -/
structure Declaration.Neat (n : Nat) (d : Declaration) : Prop where
  fault : d.fault? = none
  within : d.layout.Within n

/-- An expression without a fault, with no line deeper than `n`. -/
structure Expression.Neat (n : Nat) (e : Expression) : Prop where
  fault : e.fault? = none
  within : e.layout.Within n

/-- A block without a fault, with no line deeper than `n`. -/
structure Block.Neat (n : Nat) (b : Block) : Prop where
  fault : b.fault? = none
  within : b.layout.Within n

/-- An argument whose value is neat. -/
def Argument.Neat (n : Nat) : Argument → Prop
  | .mk _ value => value.Neat n

theorem Declaration.Neat.mono {n m : Nat} {d : Declaration} (h : d.Neat n) (hnm : n ≤ m) :
  d.Neat m
  := ⟨h.fault, Within.mono h.within hnm⟩

theorem Expression.Neat.mono {n m : Nat} {e : Expression} (h : e.Neat n) (hnm : n ≤ m) :
  e.Neat m
  := ⟨h.fault, Within.mono h.within hnm⟩

theorem Declaration.Neat.block {n : Nat} {d : Declaration} (h : d.Neat n) :
  d.block.Neat n
  := ⟨h.fault, h.within⟩

theorem Expression.Neat.block {n : Nat} {e : Expression} (h : e.Neat n) :
  e.block.Neat n
  := ⟨h.fault, h.within⟩

/-! ### Lists of neat trees -/

theorem neat_members {n : Nat} {ds : List Declaration} (h : ∀ d ∈ ds, d.Neat n) (apart : Bool) :
  membersFault? ds = none ∧ Within n (memberLines apart ds)
  := by
  induction ds with
  | nil => exact ⟨rfl, within_nil n⟩
  | cons d ds ih =>
      obtain ⟨hd, hds⟩ := List.forall_mem_cons.mp h
      obtain ⟨hfault, hlines⟩ := ih hds
      rw [membersFault?, hd.fault, hfault, memberLines]
      refine ⟨rfl, (hd.within.lines.append ?_).append hlines⟩
      split
      · apply within_level n [""]
      · apply within_nil

theorem neat_blocks {n : Nat} {bs : List Block} (h : ∀ b ∈ bs, b.Neat n) :
  blocksFault? bs = none ∧ Within n (blockLines bs)
  := by
  induction bs with
  | nil => exact ⟨rfl, within_nil n⟩
  | cons b bs ih =>
      obtain ⟨hb, hbs⟩ := List.forall_mem_cons.mp h
      obtain ⟨hfault, hlines⟩ := ih hbs
      rw [blocksFault?, hb.fault, hfault, blockLines]
      exact ⟨rfl, hb.within.lines.append hlines⟩

theorem within_spacedLines {n : Nat} {bs : List Block} (h : ∀ b ∈ bs, b.Neat n) :
  Within n (spacedLines bs)
  := by
  induction bs with
  | nil => exact within_nil n
  | cons b bs ih =>
      obtain ⟨hb, hbs⟩ := List.forall_mem_cons.mp h
      rw [spacedLines]
      apply (hb.within.lines.append _).append (ih hbs)
      split
      · apply within_nil
      · apply within_level n [""]

theorem neat_arguments {n : Nat} {as : List Argument} (h : ∀ a ∈ as, a.Neat n) :
  argumentsFault? as = none ∧ Within n (argumentLines as)
  := by
  induction as with
  | nil => exact ⟨rfl, within_nil n⟩
  | cons a as ih =>
      obtain ⟨ha, has⟩ := List.forall_mem_cons.mp h
      obtain ⟨hfault, hlines⟩ := ih has
      obtain ⟨label, value⟩ := a
      have hvalue := ha.within.labelled label
      rw [argumentsFault?, ha.fault, hfault, argumentLines]
      refine ⟨rfl, Within.append ?_ hlines⟩
      split
      · apply hvalue.lines
      · apply (hvalue.glue (Layout.within_text n ",")).lines

theorem within_glueArguments {n : Nat} {as : List Argument} (h : ∀ a ∈ as, a.Neat n) {l : Layout}
    (hl : l.Within n) :
  (glueArguments l as).Within n
  := by
  induction as generalizing l with
  | nil => exact hl
  | cons a as ih =>
      obtain ⟨ha, has⟩ := List.forall_mem_cons.mp h
      obtain ⟨label, value⟩ := a
      rw [glueArguments]
      exact ih has (hl.glue (ha.within.labelled label))

theorem neat_elements {n : Nat} {es : List Expression} (h : ∀ e ∈ es, e.Neat n) :
  elementsFault? es = none ∧ Within n (elementLines es)
  := by
  induction es with
  | nil => exact ⟨rfl, within_nil n⟩
  | cons e es ih =>
      obtain ⟨he, hes⟩ := List.forall_mem_cons.mp h
      obtain ⟨hfault, hlines⟩ := ih hes
      rw [elementsFault?, he.fault, hfault, elementLines]
      refine ⟨rfl, Within.append ?_ hlines⟩
      split
      · apply he.within.lines
      · apply (he.within.glue (Layout.within_text n ",")).lines

/-! ### Neat expressions -/

theorem neat_identifier (n : Nat) (name : String) :
  (Expression.identifier name).Neat n
  := ⟨rfl, Layout.within_text n name⟩

theorem neat_stringLiteral (n : Nat) (value : String) :
  (Expression.stringLiteral value).Neat n
  := ⟨rfl, Layout.within_text n _⟩

theorem Expression.Neat.keyword {n : Nat} {e : Expression} (h : e.Neat n) (word : Keyword) :
  (Expression.keyword word (some e)).Neat n
  := ⟨h.fault, (Layout.within_text n _).glue h.within⟩

theorem Expression.Neat.tryAwait {n : Nat} {e : Expression} (h : e.Neat n) :
  e.tryAwait.Neat n
  := (h.keyword .awaitCall).keyword .tryCall

theorem Expression.Neat.assignment {n : Nat} {left right : Expression} (h : left.Neat n)
    (h' : right.Neat n) :
  (Expression.assignment left right).Neat n
  := by
  constructor
  · rw [Expression.fault?, h.fault, h'.fault]
    rfl
  · exact (h.within.glue (Layout.within_text n _)).glue h'.within

/-- Whether the arguments stand on the line of a call or not, they are one level deeper at most. -/
theorem neat_call {n : Nat} (callee : String) {as : List Argument} (h : ∀ a ∈ as, a.Neat n) :
  (Expression.call (.identifier callee) as).Neat (n + 1)
  := by
  constructor
  · rw [Expression.fault?, (neat_arguments h).1]
    rfl
  · have hopening : ((Expression.identifier callee).layout.glue (.text "(")).Within (n + 1) :=
      (neat_identifier (n + 1) callee).within.glue (Layout.within_text _ _)
    rw [Expression.layout]
    split
    · have hdeeper : ∀ a ∈ as, a.Neat (n + 1) := by
        rintro ⟨label, value⟩ ha
        exact (h _ ha).mono (Nat.le_succ n)
      exact (within_glueArguments hdeeper hopening).glue (Layout.within_text _ _)
    · exact hopening.enclosed (neat_arguments h).2 ")"

theorem neat_arrayLiteral {n : Nat} {es : List Expression} (h : ∀ e ∈ es, e.Neat n) :
  (Expression.arrayLiteral es).Neat (n + 1)
  := by
  refine ⟨(neat_elements h).1, ?_⟩
  rw [Expression.layout]
  split
  · apply Layout.within_text
  · exact (Layout.within_text _ _).enclosed (neat_elements h).2 "]"

theorem neat_closure {n : Nat} (parameters : List String) {bs : List Block}
    (h : ∀ b ∈ bs, b.Neat n) :
  (Expression.closure parameters bs).Neat (n + 1)
  := ⟨(neat_blocks h).1, (Layout.within_text _ _).enclosed (neat_blocks h).2 _⟩

/-! ### Neat declarations -/

theorem Declaration.Neat.documented {n : Nat} {d : Declaration} (h : d.Neat n)
    (documentation : String) :
  (d.documented documentation).Neat n
  := by
  rw [Declaration.documented]
  split
  · exact h
  · exact ⟨h.fault, h.within.under _⟩

theorem Declaration.Neat.available {n : Nat} {d : Declaration} (h : d.Neat n)
    (availability : Option Availability) :
  (d.available availability).Neat n
  := by
  cases availability with
  | none => exact h
  | some a => exact ⟨h.fault, h.within.under [a.text]⟩

theorem neat_typeAlias (n : Nat) (access : Option AccessModifier) (name target : String) :
  (Declaration.typeAlias access name target).Neat n
  := ⟨rfl, Layout.within_text n _⟩

theorem Expression.Neat.constant {n : Nat} {e : Expression} (h : e.Neat n)
    (access : Option AccessModifier) (name : String) (isStatic : Bool) (type : Option String) :
  (Declaration.constant access name isStatic type (some e)).Neat n
  := ⟨h.fault, (Layout.within_text n _).glue h.within⟩

/-- Members are one level deeper, and without any there are no braces to open. -/
theorem within_membersLayout {n : Nat} {ms : List Declaration} (h : ∀ d ∈ ms, d.Neat n)
    (apart : Bool) (t heading : String) :
  Layout.Within (n + 1) (if ms.isEmpty then .text t
    else bracedLayout heading (memberLines apart ms))
  := by
  split
  · apply Layout.within_text
  · apply Layout.within_braced (neat_members h apart).2

theorem neat_enumeration {n : Nat} (access : Option AccessModifier) (name : String)
    {ms : List Declaration} (h : ∀ d ∈ ms, d.Neat n) :
  (Declaration.enumeration access name ms).Neat (n + 1)
  := by
  refine ⟨(neat_members h false).1, ?_⟩
  rw [Declaration.layout]
  apply within_membersLayout h

theorem neat_protocol {n : Nat} (access : Option AccessModifier) (name : String)
    (conformances : List String) {ms : List Declaration} (h : ∀ d ∈ ms, d.Neat n) :
  (Declaration.protocol access name conformances ms).Neat (n + 1)
  := by
  refine ⟨(neat_members h false).1, ?_⟩
  rw [Declaration.layout]
  apply within_membersLayout h

theorem neat_struct {n : Nat} (access : Option AccessModifier) (name : String)
    (conformances : List String) {ms : List Declaration} (h : ∀ d ∈ ms, d.Neat n) :
  (Declaration.struct access name conformances ms).Neat (n + 1)
  := by
  refine ⟨(neat_members h true).1, ?_⟩
  rw [Declaration.layout]
  apply within_membersLayout h

theorem neat_extension {n : Nat} (access : Option AccessModifier) (type : String)
    (conformances : List String) {ms : List Declaration} (h : ∀ d ∈ ms, d.Neat n) :
  (Declaration.extension access type conformances ms).Neat (n + 1)
  := ⟨(neat_members h false).1, Layout.within_braced (neat_members h false).2 _⟩

theorem neat_requirement (n : Nat) (signature : Signature) :
  (Declaration.function signature none).Neat (n + 1)
  := ⟨rfl, signature.within_layout n⟩

theorem neat_function {n : Nat} (signature : Signature) {bs : List Block}
    (h : ∀ b ∈ bs, b.Neat n) :
  (Declaration.function signature (some bs)).Neat (n + 1)
  := by
  refine ⟨(neat_blocks h).1, ?_⟩
  have hhead : ∀ t, (signature.layout.glue (.text t)).Within (n + 1) := by
    intro t
    exact (signature.within_layout n).glue (Layout.within_text _ t)
  rw [Declaration.layout]
  split
  · apply hhead
  · exact (hhead _).enclosed (neat_blocks h).2 _

end SwiftStubs.Swift

namespace SwiftStubs.Stub

open Swift

variable (style : Style) (sides : Sides) (r : Request) (s : Service) (m : Method)

theorem Style.neat_present {n : Nat} {d : Declaration} (h : d.Neat n) (documentation : String) :
  (style.present documentation d).Neat n
  := (h.available style.availability).documented documentation

/-! ### The alias section -/

theorem neat_methodEnum :
  (methodEnum style s m).Neat 2
  := by
  have hcall : (descriptorCall s m).Neat 1 := by
    apply neat_call
    rw [List.forall_mem_cons, List.forall_mem_singleton]
    exact ⟨neat_stringLiteral 0 _, neat_stringLiteral 0 _⟩
  apply neat_enumeration
  rw [List.forall_mem_cons, List.forall_mem_cons, List.forall_mem_singleton]
  exact ⟨neat_typeAlias 1 _ _ _, neat_typeAlias 1 _ _ _, hcall.constant _ _ _ _⟩

theorem neat_descriptorList :
  (descriptorList style s).Neat 1
  := by
  apply Expression.Neat.constant
  apply neat_arrayLiteral
  rw [List.forall_mem_map]
  intro m _
  apply neat_identifier

theorem neat_methodsEnum :
  (methodsEnum style s).Neat 3
  := by
  apply neat_enumeration
  rw [List.forall_mem_append, List.forall_mem_map, List.forall_mem_singleton]
  constructor
  · intro m _
    apply neat_methodEnum
  · apply (neat_descriptorList style s).mono
    decide

theorem neat_serviceEnum :
  (serviceEnum style sides s).Neat 4
  := by
  apply neat_enumeration
  rw [List.forall_mem_cons, List.forall_mem_map]
  refine ⟨neat_methodsEnum style s, ?_⟩
  intro role _
  exact (neat_typeAlias 3 _ _ _).available style.availability

theorem neat_aliasSection (services : List Service) :
  ∀ b ∈ aliasSection style sides services, b.Neat 5
  := by
  rw [aliasSection, List.forall_mem_flatMap]
  intro group _
  cases group with
  | nil =>
      intro b hb
      cases hb
  | cons s ss =>
      have henums : ∀ d ∈ (s :: ss).map (serviceEnum style sides), d.Neat 4 := by
        rw [List.forall_mem_map]
        intro t _
        apply neat_serviceEnum
      rw [namespaceBlocks]
      split
      · rw [List.forall_mem_map]
        intro d hd
        apply Declaration.Neat.block
        apply (henums d hd).mono
        decide
      · rw [List.forall_mem_singleton]
        exact (neat_enumeration _ _ henums).block

/-! ### The server section -/

theorem neat_registerCall :
  (registerCall r s m).Neat 3
  := by
  have hcall : (Expression.call (.identifier ("self." ++ m.name.lower))
      [.mk (some "request") (.identifier "request")]).Neat 1 := by
    apply neat_call
    rw [List.forall_mem_singleton]
    exact neat_identifier 0 _
  have hhandler : (Expression.closure ["request"]
      [(Expression.call (.identifier ("self." ++ m.name.lower))
        [.mk (some "request") (.identifier "request")]).tryAwait.block]).Neat 2 := by
    apply neat_closure
    rw [List.forall_mem_singleton]
    exact hcall.tryAwait.block
  apply neat_call
  rw [List.forall_mem_cons, List.forall_mem_cons, List.forall_mem_cons, List.forall_mem_singleton]
  exact ⟨neat_identifier 2 _, neat_identifier 2 _, neat_identifier 2 _, hhandler⟩

theorem neat_registration :
  (registration style r s).Neat 5
  := by
  apply style.neat_present
  apply neat_extension
  rw [List.forall_mem_singleton]
  apply Declaration.Neat.available
  apply neat_function
  rw [List.forall_mem_map]
  intro m _
  exact (neat_registerCall r s m).block

theorem neat_adapterMethod :
  (adapterMethod style s m).Neat 4
  := by
  have hconversion : ∀ callee label value,
      (Expression.call (.identifier callee) [.mk (some label) (.identifier value)]).Neat 2 := by
    intro callee label value
    apply neat_call
    rw [List.forall_mem_singleton]
    exact neat_identifier 1 _
  have hrequest : (adaptedRequest m).Neat 2 := by
    rw [adaptedRequest]
    split
    · apply neat_identifier
    · apply hconversion
  have hresponse : (adaptedResponse m).Neat 3 := by
    rw [adaptedResponse]
    split
    · apply neat_identifier
    · apply (hconversion _ _ _).mono
      decide
  have hcall : (Expression.call (.identifier ("self." ++ m.name.lower))
      [.mk (some "request") (adaptedRequest m)]).Neat 3 := by
    apply neat_call
    rw [List.forall_mem_singleton]
    exact hrequest
  apply neat_function
  rw [List.forall_mem_cons, List.forall_mem_singleton]
  exact ⟨(hcall.tryAwait.constant _ _ _ _).block, (hresponse.keyword _).block⟩

theorem neat_serverDeclarations :
  ∀ d ∈ serverDeclarations style r s, d.Neat 5
  := by
  have hprotocol : ∀ access name conformances (signature : Method → Signature) (ms : List Method),
      (Declaration.protocol access name conformances (ms.map (fun m =>
        (Declaration.function (signature m) none).documented m.documentation))).Neat 5 := by
    intro access name conformances signature ms
    apply neat_protocol
    rw [List.forall_mem_map]
    intro m _
    exact (neat_requirement 3 _).documented m.documentation
  rw [serverDeclarations, List.forall_mem_cons, List.forall_mem_cons, List.forall_mem_cons,
    List.forall_mem_singleton]
  refine ⟨style.neat_present (hprotocol _ _ _ _ _) _, neat_registration style r s,
    style.neat_present (hprotocol _ _ _ _ _) _, ?_⟩
  apply style.neat_present
  apply neat_extension
  rw [List.forall_mem_map]
  intro m _
  apply neat_adapterMethod

/-! ### The client section -/

theorem neat_overload :
  (overload style r s m).Neat 2
  := by
  have hcall : (overloadCall r s m).Neat 1 := by
    apply neat_call
    rw [List.forall_mem_cons, List.forall_mem_cons, List.forall_mem_cons, List.forall_mem_singleton]
    exact ⟨neat_identifier 0 _, neat_identifier 0 _, neat_identifier 0 _, neat_identifier 0 _⟩
  apply neat_function
  rw [List.forall_mem_singleton]
  exact hcall.tryAwait.block

theorem neat_clientMethod :
  (clientMethod style s m).Neat 2
  := by
  have hcall : (forwardedCall s m).Neat 1 := by
    apply neat_call
    rw [List.forall_mem_cons, List.forall_mem_cons, List.forall_mem_cons, List.forall_mem_cons,
      List.forall_mem_singleton]
    exact ⟨neat_identifier 0 _, neat_identifier 0 _, neat_identifier 0 _, neat_identifier 0 _,
      neat_identifier 0 _⟩
  apply neat_function
  rw [List.forall_mem_singleton]
  exact hcall.tryAwait.block

theorem neat_clientInitializer :
  (clientInitializer style).Neat 2
  := by
  apply neat_function
  rw [List.forall_mem_singleton]
  exact ((neat_identifier 1 _).assignment (neat_identifier 1 _)).block

theorem neat_clientDeclarations :
  ∀ d ∈ clientDeclarations style r s, d.Neat 3
  := by
  rw [clientDeclarations, List.forall_mem_cons, List.forall_mem_cons, List.forall_mem_singleton]
  refine ⟨style.neat_present ?_ _, style.neat_present ?_ _, style.neat_present ?_ _⟩
  · apply neat_protocol
    rw [List.forall_mem_map]
    intro m _
    exact (neat_requirement 1 _).documented m.documentation
  · apply neat_extension
    rw [List.forall_mem_map]
    intro m _
    apply neat_overload
  · apply neat_struct
    rw [List.forall_mem_cons, List.forall_mem_cons, List.forall_mem_map]
    refine ⟨⟨rfl, Layout.within_text 2 _⟩, neat_clientInitializer style, ?_⟩
    intro m _
    exact (neat_clientMethod style s m).documented m.documentation

/-! ### The file -/

theorem neat_sections :
  ∀ b ∈ sections style sides r, b.Neat 5
  := by
  have hserver : ∀ b ∈ serverSection style r, b.Neat 5 := by
    rw [serverSection, List.forall_mem_flatMap]
    intro s _
    rw [List.forall_mem_map]
    intro d hd
    exact (neat_serverDeclarations style r s d hd).block
  have hclient : ∀ b ∈ clientSection style r, b.Neat 5 := by
    rw [clientSection, List.forall_mem_flatMap]
    intro s _
    rw [List.forall_mem_map]
    intro d hd
    apply Declaration.Neat.block
    apply (neat_clientDeclarations style r s d hd).mono
    decide
  rw [sections, List.forall_mem_append, List.forall_mem_append]
  refine ⟨⟨neat_aliasSection style sides r.services, ?_⟩, ?_⟩
  · split
    · exact hserver
    · intro b hb
      cases hb
  · split
    · exact hclient
    · intro b hb
      cases hb

/-- The blocks of a stub file have no fault. -/
theorem blocksFault?_sections :
  blocksFault? (sections style sides r) = none
  := (neat_blocks (neat_sections style sides r)).1

end SwiftStubs.Stub
