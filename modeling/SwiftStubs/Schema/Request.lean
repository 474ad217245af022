import SwiftStubs.Request
import SwiftStubs.Schema.Comments
import SwiftStubs.Schema.Modules
import SwiftStubs.Schema.Symbols

/-!
# The request of a schema file

A schema file is turned into a request: its services with the Swift names of their messages, their
documentation, the modules to import and the comment on top.
-/

namespace SwiftStubs.Schema

/-- The module with the support for messages. -/
def protobufModule : String := "GRPCProtobuf"

/-- What is known about a file when its services are described. -/
structure Context where
  symbols : SymbolTable
  comments : Comments
  ns : Name

/-- The Swift name of a message. -/
def Context.messageName (context : Context) (type : RawText) : Except Failure String := do
  let name ← type.readable
  mapError OptionError.failure (context.symbols.resolve name)

/-- The method that a request has for a method of a schema. -/
def Context.method (context : Context) (service index : Nat) (m : Method) :
    Except Failure SwiftStubs.Method := do
  let documentation ← context.comments.documentation (methodPath service index)
  let name ← m.name.readable
  let inputType ← context.messageName m.inputType
  let outputType ← context.messageName m.outputType
  .ok {
    documentation := documentation
    name := Name.ofIdentifier name
    inputStreaming := m.clientStreaming
    outputStreaming := m.serverStreaming
    inputType := inputType
    outputType := outputType }

/-- The service that a request has for a service of a schema. -/
def Context.service (context : Context) (index : Nat) (s : Service) :
    Except Failure SwiftStubs.Service := do
  let methods ← s.methods.zipIdx.mapM (fun (m, i) => context.method index i m)
  let documentation ← context.comments.documentation (servicePath index)
  let name ← s.name.readable
  .ok {
    documentation := documentation
    name := Name.ofIdentifier name
    ns := context.ns
    methods := methods }

/-- The files known when a file is described. The file is one of them, unless another has its
name. -/
def knownFiles (files : List File) (f : File) : Dictionary RawText File :=
  let known := byName files
  if known.contains f.name then known else known.insert f.name f

/-- The request of a file, for which the messages of all known files can be used. -/
def request (modules : ModuleMap) (files : List File) (f : File) : Except Failure Request := do
  let known := knownFiles files f
  known.values.forM File.checkPackage
  let needed ← mapError Failure.breakdown (neededModules modules known f)
  f.checkPrefix
  let context : Context := ⟨.ofFiles known.values, f.comments, f.namespaceName⟩
  let services ← f.services.zipIdx.mapM (fun (s, i) => context.service i s)
  let leadingTrivia ← f.leadingTrivia
  .ok {
    fileName := f.name.shown
    leadingTrivia := leadingTrivia
    dependencies := (protobufModule :: needed).map (fun m => { moduleName := m })
    services := services }

end SwiftStubs.Schema
