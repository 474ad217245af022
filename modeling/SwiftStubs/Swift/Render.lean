import SwiftStubs.Swift.Scope
import SwiftStubs.Swift.Tree
import SwiftStubs.Text.Lines

/-!
# Rendering

Rendering walks a tree and adds its text to a scope. It fails at the first part that cannot be
rendered and at the first line that is indented too far: the lines added before stay in the scope,
and the level is the one from before.
-/

namespace SwiftStubs.Swift

/-- The two sorts of parts of a tree. -/
inductive NodeSort where
  | declaration
  | expression
deriving Repr, DecidableEq

/-- A part of a tree that cannot be rendered: the sort that was due and the kind that was found. -/
structure Unrenderable where
  due : NodeSort
  kind : String
deriving Repr, DecidableEq

/-- What is said about a part that cannot be rendered. -/
def Unrenderable.message (u : Unrenderable) : String :=
  let due := match u.due with
    | .declaration => "declaration"
    | .expression => "expression"
  "Cannot render " ++ due ++ " of type " ++ u.kind ++ "."

/-- Why rendering fails. -/
inductive RenderError where
  | unrenderable (node : Unrenderable)
  | excess (cause : Excess)
deriving Repr, DecidableEq

/-- What is said about a failure. -/
def RenderError.message : RenderError → String
  | .unrenderable node => node.message
  | .excess _ => "a line is indented too far"

/-- A step of rendering. A step that fails leaves the scope it has reached. -/
abbrev Render := EStateM RenderError Scope

/-- The texts of a comment, line by line. -/
def Comment.texts (c : Comment) : List String :=
  match c.style with
  | .preformatted => Text.lines c.text
  | .doc => (Text.lines c.text).map (fun l => if l.isEmpty then "///" else "/// " ++ l)

/-- The texts of a comment, if there is one. -/
def commentTexts : Option Comment → List String
  | none => []
  | some c => c.texts

namespace Render

/-! ### Texts -/

/-- Adds a text. -/
def text (t : String) : Render Unit := fun s =>
  match s.add t with
  | .ok after => .ok () after
  | .error cause => .error (.excess cause) s

/-- Adds texts one after the other. -/
def texts : List String → Render Unit
  | [] => pure ()
  | t :: ts => do
    text t
    texts ts

/-- Asks for the next text to be glued. -/
def glueNext : Render Unit := modify Scope.glue

/-- Adds a text to the newest line. -/
def glued (t : String) : Render Unit := do
  glueNext
  text t

/-- Fails at a part that cannot be rendered. -/
def refuse (due : NodeSort) (kind : String) : Render Unit :=
  throw (.unrenderable ⟨due, kind⟩)

/-- Runs a step one level further in, and comes back also if the step fails. -/
def nested (step : Render Unit) : Render Unit := fun s =>
  match step s.enter with
  | .ok _ t => .ok () t.leave
  | .error e t => .error e t.leave

/-- Adds a heading and, one level further in, what is between its braces. -/
def braced (heading : String) (body : Render Unit) : Render Unit := do
  text (heading ++ " \x7b")
  nested body
  text "\x7d"

/-- The part in front of the type and the value of a constant. -/
def constantHead (access : Option AccessModifier) (name : String) (isStatic : Bool)
    (type : Option String) : String :=
  accessText access ++ (if isStatic then "static " else "") ++ "let " ++ name
    ++ (match type with
        | none => ""
        | some type => ": " ++ type)

/-- The first line of a closure. -/
def closureHead (parameters : List String) : String :=
  if parameters.isEmpty then "\x7b" else "\x7b " ++ String.intercalate ", " parameters ++ " in"

/-- Adds the label of an argument, if it has one, with its value to come on the same line. -/
def label : Option String → Render Unit
  | none => pure ()
  | some l => do
    text (l ++ ": ")
    glueNext

/-- Renders a signature. Several parameters stand on lines of their own. -/
def signature (f : Signature) : Render Unit :=
  match f.parameters.map Parameter.text with
  | [] => text (f.head ++ "()" ++ f.tail)
  | [p] => text (f.head ++ "(" ++ p ++ ")" ++ f.tail)
  | ps => do
    text (f.head ++ "(")
    nested (texts (commaEnded ps))
    text (")" ++ f.tail)

/-! ### Trees -/

mutual

/-- Renders a declaration. -/
def declaration : Declaration → Render Unit
  | .commented comment d => do
    texts (commentTexts comment)
    declaration d
  | .guarded availability d => do
    text availability.text
    declaration d
  | .enumeration access name ms =>
    let heading := accessText access ++ "enum " ++ name
    if ms.isEmpty then text (heading ++ " \x7b\x7d") else braced heading (members false ms)
  | .protocol access name conformances ms =>
    let heading := accessText access ++ "protocol " ++ name ++ conformanceText conformances
    if ms.isEmpty then text (heading ++ " \x7b\x7d") else braced heading (members false ms)
  | .struct access name conformances ms =>
    let heading := accessText access ++ "struct " ++ name ++ conformanceText conformances
    if ms.isEmpty then text (heading ++ " \x7b\x7d") else braced heading (members true ms)
  | .extension access type conformances ms =>
    braced (accessText access ++ "extension " ++ type ++ conformanceText conformances)
      (members false ms)
  | .typeAlias access name target =>
    text (accessText access ++ "typealias " ++ name ++ " = " ++ target)
  | .constant access name isStatic type none => text (constantHead access name isStatic type)
  | .constant access name isStatic type (some value) => do
    text (constantHead access name isStatic type ++ " = ")
    glueNext
    expression value
  | .function f none => signature f
  | .function f (some body) => do
    signature f
    if body.isEmpty then glued " \x7b\x7d"
    else do
      glued " \x7b"
      nested (blocks body)
      text "\x7d"
  | .unspecified => refuse .declaration "Declaration"
  | .misplaced e => refuse .declaration e.kind

/-- Renders members, with a blank line between any two if they are set apart. -/
def members (apart : Bool) : List Declaration → Render Unit
  | [] => pure ()
  | d :: ds => do
    declaration d
    if apart && !ds.isEmpty then text "" else pure ()
    members apart ds

/-- Renders an expression. -/
def expression : Expression → Render Unit
  | .identifier name => text name
  | .stringLiteral value => text ("\"" ++ value ++ "\"")
  | .keyword word none => text word.text
  | .keyword word (some operand) => do
    text (word.text ++ " ")
    glueNext
    expression operand
  | .assignment left right => do
    expression left
    glued " = "
    glueNext
    expression right
  | .call callee args => do
    expression callee
    glued "("
    if args.length ≤ 1 then do
      inlineArguments args
      glued ")"
    else do
      nested (arguments args)
      text ")"
  | .arrayLiteral es =>
    if es.isEmpty then text "[]"
    else do
      text "["
      nested (elements es)
      text "]"
  | .closure parameters body => do
    text (closureHead parameters)
    nested (blocks body)
    text "\x7d"
  | .unspecified => refuse .expression "Expression"
  | .misplaced d => refuse .expression d.kind

/-- Renders arguments on the line of the call. -/
def inlineArguments : List Argument → Render Unit
  | [] => pure ()
  | .mk l value :: args => do
    glueNext
    label l
    expression value
    inlineArguments args

/-- Renders arguments on lines of their own. -/
def arguments : List Argument → Render Unit
  | [] => pure ()
  | .mk l value :: args => do
    label l
    expression value
    if args.isEmpty then pure () else glued ","
    arguments args

/-- Renders elements on lines of their own. -/
def elements : List Expression → Render Unit
  | [] => pure ()
  | e :: es => do
    expression e
    if es.isEmpty then pure () else glued ","
    elements es

/-- Renders a block of code. -/
def block : Block → Render Unit
  | .declaration d comment => do
    texts (commentTexts comment)
    declaration d
  | .expression e comment => do
    texts (commentTexts comment)
    expression e

/-- Renders blocks of code on lines that follow each other. -/
def blocks : List Block → Render Unit
  | [] => pure ()
  | b :: bs => do
    block b
    blocks bs

end

/-! ### Files -/

/-- Renders blocks of code with a blank line between any two. -/
def spacedBlocks : List Block → Render Unit
  | [] => pure ()
  | b :: bs => do
    block b
    if bs.isEmpty then pure () else text ""
    spacedBlocks bs

/-- Renders a file: its comment on top, its imports and its blocks, set apart by blank lines. -/
def file (f : File) : Render Unit := do
  match f.topComment with
  | none => pure ()
  | some c => do
    texts c.texts
    text ""
  if f.imports.isEmpty then pure ()
  else do
    texts (f.imports.flatMap Import.lines)
    text ""
  spacedBlocks f.blocks

/-- Renders a file from scratch. -/
def fresh (f : File) : Render Unit := do
  modify Scope.reset
  file f

/-- The text that a step adds to an empty scope of the given width. -/
def written (m : Memory) (width : Int) (step : Render Unit) : Except RenderError String :=
  match step { room := m.room, width := width } with
  | .ok _ s => .ok s.contents
  | .error e _ => .error e

end Render

/-- The text of a file in a scope of the given width. -/
def File.render (m : Memory) (width : Int) (f : File) : Except RenderError String :=
  Render.written m width (Render.fresh f)

end SwiftStubs.Swift
