import SwiftStubs.Configuration
import SwiftStubs.Failure
import SwiftStubs.Request.Check
import SwiftStubs.Stub.Client
import SwiftStubs.Stub.Server

/-!
# Stub files

The Swift file for a request holds the alias section, the server section and the client section, in
this order and as far as the configuration asks for them. A request that fails its check has none.
-/

namespace SwiftStubs

open Swift

namespace Stub

/-- The blocks of the file for a request. -/
def sections (style : Style) (sides : Sides) (r : Request) : List Block :=
  aliasSection style sides r.services
    ++ (if sides.server then serverSection style r else [])
    ++ (if sides.client then clientSection style r else [])

/-- The comment on top of the file for a request. -/
def topComment (r : Request) : Option Comment :=
  if r.leadingTrivia.isEmpty then none else some ⟨.preformatted, r.leadingTrivia⟩

end Stub

/-- The Swift file for a request. -/
def Request.file (c : Configuration) (r : Request) : Except RequestError NamedFile := do
  r.check
  let imports ← importsOf r.dependencies
  .ok {
    name := stripExtension r.fileName
    contents := {
      topComment := Stub.topComment r
      imports := imports
      blocks := Stub.sections c.style c.sides r } }

/-- The text of a generated file, and its name without an extension. -/
structure SourceFile where
  name : String
  contents : String
deriving Repr, DecidableEq

/-- The request with the extra imports of a configuration, in order. -/
def Request.withExtraImports (c : Configuration) (r : Request) : Request :=
  let extra := c.extraImports.mergeSort (fun a b => decide (a ≤ b))
  { r with dependencies := r.dependencies ++ extra.map (fun m => { moduleName := m }) }

/-- Generates the file for a request, with the given memory. -/
def Request.generate (m : Memory) (c : Configuration) (r : Request) :
    Except Failure SourceFile := do
  let file ← mapError RequestError.failure ((r.withExtraImports c).file c)
  let contents ← mapError (fun e => .breakdown (.render e))
    (file.contents.render m c.indentation)
  .ok ⟨file.name, contents⟩

end SwiftStubs
