import SwiftStubs.Request
import SwiftStubs.Request.Error
import SwiftStubs.Swift.Basic

/-!
# Checking a request

A request is accepted if its dependencies name kinds of imports that there are and if no two things
would be generated under one name. The rules are checked one after the other, and the first
violation is reported: the kinds of imports, the names of services on the wire, the names of
services beside namespaces and within each namespace, and the names of the methods of each service
in each spelling.
-/

namespace SwiftStubs

open Swift

/-! ### Imports -/

/-- The import of a dependency. -/
def Dependency.toImport (d : Dependency) : Except RequestError Import :=
  match d.item with
  | none => .ok ⟨d.moduleName, none, d.spi, d.preconcurrency⟩
  | some item =>
    match ImportKind.ofKeyword? item.kind with
    | none => .error (.invalidKind item.kind)
    | some kind => .ok ⟨d.moduleName, some ⟨kind, item.name⟩, d.spi, d.preconcurrency⟩

/-- What two imports of one thing have in common. -/
def Swift.Import.key (i : Import) : String × Option ImportItem :=
  (i.moduleName, i.item)

/-- The imports of things that are not among the seen ones, each thing once. -/
def firstImports (seen : List (String × Option ImportItem)) : List Import → List Import
  | [] => []
  | i :: is =>
    if i.key ∈ seen then firstImports seen is else i :: firstImports (i.key :: seen) is

/-- The module that every generated file imports. -/
def coreImport : Import := { moduleName := "GRPCCore" }

/-- The imports of a file with the given dependencies. -/
def importsOf (dependencies : List Dependency) : Except RequestError (List Import) := do
  let is ← dependencies.mapM Dependency.toImport
  .ok (coreImport :: firstImports [coreImport.key] is)

/-! ### Names -/

/-- The first text that occurs among the seen ones or before itself. -/
def firstRepeated? (seen : List String) : List String → Option String
  | [] => none
  | x :: xs => if x ∈ seen then some x else firstRepeated? (x :: seen) xs

/-- Fails with the first text that occurs twice. -/
def requireDistinct (error : String → RequestError) (xs : List String) : Except RequestError Unit :=
  match firstRepeated? [] xs with
  | none => .ok ()
  | some x => .error (error x)

/-- No two services have one name on the wire. -/
def checkWireNames (services : List Service) : Except RequestError Unit :=
  requireDistinct .repeatedWireName (services.map Service.wireName)

/-- The namespaces of services, each once, in the order in which they come. -/
def namespaces (services : List Service) : List String :=
  (services.map (fun s => s.ns.upper)).eraseDups

/-- The services of a namespace. -/
def servicesOf (ns : String) (services : List Service) : List Service :=
  services.filter (fun s => s.ns.upper == ns)

/-- No service without a namespace is called like a namespace. -/
def checkLoneServices (services : List Service) : Except RequestError Unit :=
  let spaces := (namespaces services).filter (fun ns => !ns.isEmpty)
  match (servicesOf "" services).find? (fun s => spaces.contains s.name.upper) with
  | none => .ok ()
  | some s => .error (.serviceNamedAsNamespace s.name.upper)

/-- The error for a name that two services of a namespace have. -/
def repeatedIn (ns : String) (group : List Service) (name : String) : RequestError :=
  if ns.isEmpty then .repeatedLoneService name
  else .repeatedService name ((group.head?.map (fun s => s.ns.base)).getD "")

/-- No two services of a namespace have one name. -/
def checkNamespace (services : List Service) (ns : String) : Except RequestError Unit :=
  let group := servicesOf ns services
  requireDistinct (repeatedIn ns group) (group.map (fun s => s.name.upper))

/-- The names of services differ within each namespace, and from the names of namespaces. -/
def checkServiceNames (services : List Service) : Except RequestError Unit := do
  checkLoneServices services
  (namespaces services).forM (checkNamespace services)

/-- A name in one of its spellings. -/
def Name.spelled (n : Name) : Spelling → String
  | .base => n.base
  | .upper => n.upper
  | .lower => n.lower

/-- No two methods of a service have one name in one of the spellings. -/
def checkSpelling (s : Service) (spelling : Spelling) : Except RequestError Unit :=
  requireDistinct (fun name => .repeatedMethod spelling name s.name.base)
    (s.methods.map (fun m => m.name.spelled spelling))

/-- The names of the methods of a service differ in every spelling. -/
def checkMethodNames (s : Service) : Except RequestError Unit :=
  [Spelling.base, .upper, .lower].forM (checkSpelling s)

/-! ### The whole request -/

/-- Every dependency names a kind of import that there is. -/
def checkDependencies (dependencies : List Dependency) : Except RequestError Unit :=
  dependencies.forM (fun d => do let _ ← d.toImport)

/-- Checks a request. -/
def Request.check (r : Request) : Except RequestError Unit := do
  checkDependencies r.dependencies
  checkWireNames r.services
  checkServiceNames r.services
  r.services.forM checkMethodNames

end SwiftStubs
