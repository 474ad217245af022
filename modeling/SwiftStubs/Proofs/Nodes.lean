import SwiftStubs.Proofs.FileText

/-!
# The nodes of a tree

A tree that can be rendered on its own is a declaration, an expression, a block, a list of blocks or
a file. Its nodes are the declarations and expressions that occur in it at any depth, its comments,
and its leaves, which are the texts that are written as they stand. They are listed in the order in
which they are rendered, a node before what is in it. A node is at fault if nothing stands in its
place, or something of the other sort; the first fault of a tree is that of the first such node.
-/

namespace SwiftStubs.Swift

/-- A node of a tree. -/
inductive Node where
  | declaration (d : Declaration)
  | expression (e : Expression)
  | comment (c : Comment)
  /-- A text that is written as it stands. -/
  | leaf (text : String)

/-- What is wrong with a node itself: its place is empty, or holds a node of the other sort. -/
def Node.fault? : Node → Option Unrenderable
  | .declaration .unspecified => some ⟨.declaration, "Declaration"⟩
  | .declaration (.misplaced e) => some ⟨.declaration, e.kind⟩
  | .expression .unspecified => some ⟨.expression, "Expression"⟩
  | .expression (.misplaced d) => some ⟨.expression, d.kind⟩
  | _ => none

/-- A node that cannot be rendered where it stands. -/
def Node.IllSorted (n : Node) : Prop :=
  n.fault? ≠ none

/-- What is said about a node that cannot be rendered: what is due in its place, and the kind of
what was found there. -/
def Node.complaint : Node → String
  | .declaration d => "Cannot render declaration of type " ++ d.kind ++ "."
  | .expression e => "Cannot render expression of type " ++ e.kind ++ "."
  | .comment _ => ""
  | .leaf _ => ""

theorem Unrenderable.message_declaration (kind : String) :
  message ⟨.declaration, kind⟩ = "Cannot render declaration of type " ++ kind ++ "."
  := by
  have h : "Cannot render " ++ "declaration" ++ " of type "
      = "Cannot render declaration of type " := by
    decide
  exact congrArg (fun head => head ++ kind ++ ".") h

theorem Unrenderable.message_expression (kind : String) :
  message ⟨.expression, kind⟩ = "Cannot render expression of type " ++ kind ++ "."
  := by
  have h : "Cannot render " ++ "expression" ++ " of type "
      = "Cannot render expression of type " := by
    decide
  exact congrArg (fun head => head ++ kind ++ ".") h

theorem Node.message_of_fault {n : Node} {e : Unrenderable} (h : n.fault? = some e) :
  e.message = n.complaint
  := by
  have hdeclaration : ∀ d : Declaration,
      Unrenderable.message ⟨.declaration, d.kind⟩ = (Node.declaration d).complaint :=
    fun d => Unrenderable.message_declaration d.kind
  have hexpression : ∀ e : Expression,
      Unrenderable.message ⟨.expression, e.kind⟩ = (Node.expression e).complaint :=
    fun e => Unrenderable.message_expression e.kind
  unfold Node.fault? at h
  split at h
  · obtain rfl := Option.some.inj h
    exact hdeclaration .unspecified
  · obtain rfl := Option.some.inj h
    exact hdeclaration (.misplaced _)
  · obtain rfl := Option.some.inj h
    exact hexpression .unspecified
  · obtain rfl := Option.some.inj h
    exact hexpression (.misplaced _)
  · cases h

/-- The comment that a node is. -/
def Node.comment? : Node → Option Comment
  | .comment c => some c
  | _ => none

/-- The text that a node is. -/
def Node.leaf? : Node → Option String
  | .leaf t => some t
  | _ => none

/-! ### Leaves -/

/-- Texts as nodes. -/
def leafNodes (ts : List String) : List Node :=
  ts.map .leaf

/-- A comment as a node, if there is one. -/
def commentNodes (c : Option Comment) : List Node :=
  c.toList.map .comment

/-- The texts of a parameter. -/
def Parameter.leaves (p : Parameter) : List String :=
  p.label :: p.name.toList ++ [p.type]

/-- The texts of a signature. -/
def Signature.leaves (f : Signature) : List String :=
  f.name :: f.generics ++ f.parameters.flatMap Parameter.leaves ++ f.returnType.toList
    ++ f.conditions

/-- The systems on which a mark is required. -/
def markedSystems : Preconcurrency → List String
  | .required => []
  | .notRequired => []
  | .requiredOn systems => systems

/-- The texts of an import. -/
def Import.leaves (i : Import) : List String :=
  markedSystems i.preconcurrency ++ i.spi.toList ++ i.moduleName
    :: (i.item.map ImportItem.name).toList

/-! ### Nodes -/

mutual

/-- The nodes of a declaration, of which it is the first. -/
def Declaration.nodes : Declaration → List Node
  | .commented comment d =>
    .declaration (.commented comment d) :: commentNodes comment ++ d.nodes
  | .guarded availability d =>
    .declaration (.guarded availability d) :: leafNodes availability.platforms ++ d.nodes
  | .enumeration access name ms =>
    .declaration (.enumeration access name ms) :: .leaf name :: memberNodes ms
  | .struct access name conformances ms =>
    .declaration (.struct access name conformances ms)
      :: leafNodes (name :: conformances) ++ memberNodes ms
  | .protocol access name conformances ms =>
    .declaration (.protocol access name conformances ms)
      :: leafNodes (name :: conformances) ++ memberNodes ms
  | .extension access type conformances ms =>
    .declaration (.extension access type conformances ms)
      :: leafNodes (type :: conformances) ++ memberNodes ms
  | .typeAlias access name target =>
    .declaration (.typeAlias access name target) :: leafNodes [name, target]
  | .constant access name isStatic type none =>
    .declaration (.constant access name isStatic type none) :: leafNodes (name :: type.toList)
  | .constant access name isStatic type (some value) =>
    .declaration (.constant access name isStatic type (some value))
      :: leafNodes (name :: type.toList) ++ value.nodes
  | .function signature none =>
    .declaration (.function signature none) :: leafNodes signature.leaves
  | .function signature (some body) =>
    .declaration (.function signature (some body)) :: leafNodes signature.leaves ++ blockNodes body
  | .unspecified => [.declaration .unspecified]
  | .misplaced e => .declaration (.misplaced e) :: e.nodes

/-- The nodes of members. -/
def memberNodes : List Declaration → List Node
  | [] => []
  | d :: ds => d.nodes ++ memberNodes ds

/-- The nodes of an expression, of which it is the first. -/
def Expression.nodes : Expression → List Node
  | .identifier name => [.expression (.identifier name), .leaf name]
  | .stringLiteral value => [.expression (.stringLiteral value), .leaf value]
  | .arrayLiteral es => .expression (.arrayLiteral es) :: elementNodes es
  | .call callee args => .expression (.call callee args) :: callee.nodes ++ argumentNodes args
  | .closure parameters body =>
    .expression (.closure parameters body) :: leafNodes parameters ++ blockNodes body
  | .keyword word none => [.expression (.keyword word none)]
  | .keyword word (some operand) => .expression (.keyword word (some operand)) :: operand.nodes
  | .assignment left right => .expression (.assignment left right) :: left.nodes ++ right.nodes
  | .unspecified => [.expression .unspecified]
  | .misplaced d => .expression (.misplaced d) :: d.nodes

/-- The nodes of elements. -/
def elementNodes : List Expression → List Node
  | [] => []
  | e :: es => e.nodes ++ elementNodes es

/-- The nodes of arguments. -/
def argumentNodes : List Argument → List Node
  | [] => []
  | .mk label value :: args => leafNodes label.toList ++ value.nodes ++ argumentNodes args

/-- The nodes of a block of code. -/
def Block.nodes : Block → List Node
  | .declaration d comment => commentNodes comment ++ d.nodes
  | .expression e comment => commentNodes comment ++ e.nodes

/-- The nodes of blocks. -/
def blockNodes : List Block → List Node
  | [] => []
  | b :: bs => b.nodes ++ blockNodes bs

end

/-- The nodes of a file. -/
def File.nodes (f : File) : List Node :=
  commentNodes f.topComment ++ leafNodes (f.imports.flatMap Import.leaves) ++ blockNodes f.blocks

/-! ### The first fault -/

/-- The fault of the first node that is at fault. -/
def firstFault? (ns : List Node) : Option Unrenderable :=
  ns.findSome? Node.fault?

@[simp]
theorem firstFault?_nil :
  firstFault? [] = none
  := rfl

@[simp]
theorem firstFault?_cons (n : Node) (ns : List Node) :
  firstFault? (n :: ns) = n.fault?.or (firstFault? ns)
  := by
  rw [firstFault?, List.findSome?_cons]
  cases n.fault? <;> rfl

@[simp]
theorem firstFault?_append (ms ns : List Node) :
  firstFault? (ms ++ ns) = (firstFault? ms).or (firstFault? ns)
  := List.findSome?_append

/-- Texts are never at fault. -/
@[simp]
theorem firstFault?_leafNodes (ts : List String) :
  firstFault? (leafNodes ts) = none
  := by
  rw [firstFault?, List.findSome?_eq_none_iff, leafNodes, List.forall_mem_map]
  intro t _
  rfl

@[simp]
theorem firstFault?_commentNodes (c : Option Comment) :
  firstFault? (commentNodes c) = none
  := by
  cases c <;> rfl

/-- There is a first fault if some node is ill-sorted. -/
theorem firstFault?_ne_none_iff (ns : List Node) :
  firstFault? ns ≠ none ↔ ∃ n ∈ ns, n.IllSorted
  := by
  rw [firstFault?, ne_eq, List.findSome?_eq_none_iff]
  push Not
  rfl

/-- The first fault is that of an ill-sorted node with no such node before it. -/
theorem exists_of_firstFault? {ns : List Node} {e : Unrenderable} (h : firstFault? ns = some e) :
  ∃ before n behind, ns = before ++ n :: behind ∧ (∀ m ∈ before, ¬ m.IllSorted) ∧ n.IllSorted
    ∧ e.message = n.complaint
  := by
  obtain ⟨before, n, behind, rfl, hn, hbefore⟩ := List.findSome?_eq_some_iff.mp h
  refine ⟨before, n, behind, rfl, ?_, ?_, Node.message_of_fault hn⟩
  · intro m hm hfault
    exact hfault (hbefore m hm)
  · rw [Node.IllSorted, hn]
    exact Option.some_ne_none e

mutual

theorem Declaration.fault?_eq :
    ∀ d : Declaration, d.fault? = firstFault? d.nodes
  | .commented comment d => by
      simp [Declaration.fault?, Declaration.nodes, Node.fault?, d.fault?_eq]
  | .guarded availability d => by
      simp [Declaration.fault?, Declaration.nodes, Node.fault?, d.fault?_eq]
  | .enumeration access name ms => by
      simp [Declaration.fault?, Declaration.nodes, Node.fault?, membersFault?_eq ms]
  | .protocol access name conformances ms => by
      simp [Declaration.fault?, Declaration.nodes, Node.fault?, membersFault?_eq ms]
  | .struct access name conformances ms => by
      simp [Declaration.fault?, Declaration.nodes, Node.fault?, membersFault?_eq ms]
  | .extension access type conformances ms => by
      simp [Declaration.fault?, Declaration.nodes, Node.fault?, membersFault?_eq ms]
  | .typeAlias access name target => by
      simp [Declaration.fault?, Declaration.nodes, Node.fault?]
  | .constant access name isStatic type none => by
      simp [Declaration.fault?, Declaration.nodes, Node.fault?]
  | .constant access name isStatic type (some value) => by
      simp [Declaration.fault?, Declaration.nodes, Node.fault?, value.fault?_eq]
  | .function signature none => by
      simp [Declaration.fault?, Declaration.nodes, Node.fault?]
  | .function signature (some body) => by
      simp [Declaration.fault?, Declaration.nodes, Node.fault?, blocksFault?_eq body]
  | .unspecified => rfl
  | .misplaced e => rfl

theorem membersFault?_eq :
    ∀ ds : List Declaration, membersFault? ds = firstFault? (memberNodes ds)
  | [] => rfl
  | d :: ds => by
      rw [membersFault?, memberNodes, firstFault?_append, d.fault?_eq, membersFault?_eq ds]

theorem Expression.fault?_eq :
    ∀ e : Expression, e.fault? = firstFault? e.nodes
  | .identifier name => rfl
  | .stringLiteral value => rfl
  | .keyword word none => rfl
  | .keyword word (some operand) => by
      simp [Expression.fault?, Expression.nodes, Node.fault?, operand.fault?_eq]
  | .assignment left right => by
      simp [Expression.fault?, Expression.nodes, Node.fault?, left.fault?_eq, right.fault?_eq]
  | .call callee args => by
      simp [Expression.fault?, Expression.nodes, Node.fault?, callee.fault?_eq,
        argumentsFault?_eq args]
  | .arrayLiteral es => by
      simp [Expression.fault?, Expression.nodes, Node.fault?, elementsFault?_eq es]
  | .closure parameters body => by
      simp [Expression.fault?, Expression.nodes, Node.fault?, blocksFault?_eq body]
  | .unspecified => rfl
  | .misplaced d => rfl

theorem argumentsFault?_eq :
    ∀ args : List Argument, argumentsFault? args = firstFault? (argumentNodes args)
  | [] => rfl
  | .mk label value :: args => by
      simp [argumentsFault?, argumentNodes, value.fault?_eq, argumentsFault?_eq args]

theorem elementsFault?_eq :
    ∀ es : List Expression, elementsFault? es = firstFault? (elementNodes es)
  | [] => rfl
  | e :: es => by
      rw [elementsFault?, elementNodes, firstFault?_append, e.fault?_eq, elementsFault?_eq es]

theorem Block.fault?_eq :
    ∀ b : Block, b.fault? = firstFault? b.nodes
  | .declaration d comment => by
      simp [Block.fault?, Block.nodes, d.fault?_eq]
  | .expression e comment => by
      simp [Block.fault?, Block.nodes, e.fault?_eq]

theorem blocksFault?_eq :
    ∀ bs : List Block, blocksFault? bs = firstFault? (blockNodes bs)
  | [] => rfl
  | b :: bs => by
      rw [blocksFault?, blockNodes, firstFault?_append, b.fault?_eq, blocksFault?_eq bs]

end

theorem File.blocksFault?_eq (f : File) :
  blocksFault? f.blocks = firstFault? f.nodes
  := by
  simp [nodes, Swift.blocksFault?_eq]

/-! ### Trees -/

/-- What can be rendered on its own. -/
inductive Tree where
  | declaration (d : Declaration)
  | expression (e : Expression)
  | block (b : Block)
  | blocks (bs : List Block)
  | file (f : File)

namespace Tree

/-- Renders a tree. -/
def render : Tree → Render Unit
  | .declaration d => Render.declaration d
  | .expression e => Render.expression e
  | .block b => Render.block b
  | .blocks bs => Render.blocks bs
  | .file f => Render.file f

/-- The nodes of a tree. -/
def nodes : Tree → List Node
  | .declaration d => d.nodes
  | .expression e => e.nodes
  | .block b => b.nodes
  | .blocks bs => blockNodes bs
  | .file f => f.nodes

/-- The comments in a tree. -/
def comments (tree : Tree) : List Comment :=
  tree.nodes.filterMap Node.comment?

/-- The texts in a tree that are written as they stand. -/
def leaves (tree : Tree) : List String :=
  tree.nodes.filterMap Node.leaf?

/-- The lines of a tree. -/
def lines : Tree → List DeepLine
  | .declaration d => d.layout.lines
  | .expression e => e.layout.lines
  | .block b => b.layout.lines
  | .blocks bs => blockLines bs
  | .file f => f.lines

end Tree

/-- Where nothing is to be glued, a layout is put as lines. -/
theorem Places.puts_lines {step : Render Unit} {f : Option Unrenderable} {l : Layout}
    (h : Places step f l) :
  Puts step f l.lines
  := by
  have hready : Runs Scope.Ready step f (fun s => s.place l) := fun s hs => h s hs.1
  apply hready.congr
  intro s hs
  apply Scope.place_eq_of_settled hs.2

/-- Rendering a tree puts its lines, or fails with its first fault. -/
theorem Tree.puts_render (tree : Tree) :
  Puts tree.render (firstFault? tree.nodes) tree.lines
  := by
  cases tree with
  | declaration d =>
      rw [nodes, ← d.fault?_eq]
      exact (places_declaration d).puts_lines
  | expression e =>
      rw [nodes, ← e.fault?_eq]
      exact (places_expression e).puts_lines
  | block b =>
      rw [nodes, ← b.fault?_eq]
      exact (places_block b).puts_lines
  | blocks bs =>
      rw [nodes, ← blocksFault?_eq bs]
      exact puts_blocks bs
  | file f =>
      rw [nodes, ← f.blocksFault?_eq]
      exact puts_file f

theorem Tree.script_render (tree : Tree) :
  Script false tree.render false
  := by
  cases tree with
  | declaration d => exact (script_declaration d false).forget
  | expression e => exact (script_expression e false).forget
  | block b => exact (script_block b false).forget
  | blocks bs => exact script_blocks bs false
  | file f => exact script_file f false

end SwiftStubs.Swift
