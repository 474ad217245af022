import SwiftStubs.Swift.Tree

/-!
# The alias section

For every service there is an enum that server and client code refer to. It holds an enum `Method`
with one enum for each method, and aliases of the protocols and structs generated for the service:

    enum Hello_World {
        enum Greeter {
            enum Method {
                enum SayHello {
                    typealias Input = Hello_World_HelloRequest
                    typealias Output = Hello_World_HelloReply
                    static let descriptor = MethodDescriptor(...)
                }
                static let descriptors: [MethodDescriptor] = [...]
            }
            typealias StreamingServiceProtocol = Hello_World_GreeterStreamingServiceProtocol
        }
    }

Services are put in order by namespace and then by name, so that the section does not depend on the
order in which they come. Services without a namespace come first and stand by themselves.

All declarations of a stub have a style in common: their access modifier, and the availability that
the larger ones are guarded by.
-/

namespace SwiftStubs.Stub

open Swift

/-! ### Styles -/

/-- The access modifier and the availability of generated declarations. -/
structure Style where
  access : AccessModifier
  availability : Option Availability := none
deriving Repr, DecidableEq

/-- Guards a declaration by the availability, and puts documentation in front of that. -/
def Style.present (style : Style) (documentation : String) (d : Declaration) : Declaration :=
  (d.available style.availability).documented documentation

/-- Which of the two sides are generated. -/
structure Sides where
  client : Bool := true
  server : Bool := true
deriving Repr, DecidableEq

/-- The call that makes the descriptor of a method. -/
def descriptorCall (s : Service) (m : Method) : Expression :=
  .call (.identifier "MethodDescriptor")
    [.mk (some "service") (.stringLiteral s.wireName),
      .mk (some "method") (.stringLiteral m.name.base)]

/-- The enum of one method: its message types and its descriptor. -/
def methodEnum (style : Style) (s : Service) (m : Method) : Declaration :=
  .enumeration (some style.access) m.name.upper
    [.typeAlias (some style.access) "Input" m.inputType,
      .typeAlias (some style.access) "Output" m.outputType,
      .constant (some style.access) "descriptor" true none (some (descriptorCall s m))]

/-- The list of the descriptors of all methods of a service. -/
def descriptorList (style : Style) (s : Service) : Declaration :=
  .constant (some style.access) "descriptors" true (some "[MethodDescriptor]")
    (some (.arrayLiteral (s.methods.map (fun m => .identifier (m.name.upper ++ ".descriptor")))))

/-- The enum `Method` of a service. -/
def methodsEnum (style : Style) (s : Service) : Declaration :=
  .enumeration (some style.access) "Method"
    (s.methods.map (methodEnum style s) ++ [descriptorList style s])

/-- What the names of the types generated for a service end with. -/
def roles (sides : Sides) : List String :=
  (if sides.server then ["StreamingServiceProtocol", "ServiceProtocol"] else [])
    ++ (if sides.client then ["ClientProtocol", "Client"] else [])

/-- The alias of the type with one role. -/
def roleAlias (style : Style) (s : Service) (role : String) : Declaration :=
  (Declaration.typeAlias (some style.access) role (s.typeName ++ role)).available
    style.availability

/-- The enum of a service. -/
def serviceEnum (style : Style) (sides : Sides) (s : Service) : Declaration :=
  .enumeration (some style.access) s.name.upper
    (methodsEnum style s :: (roles sides).map (roleAlias style s))

/-- Services come by namespace and then by name. -/
def precedes (s t : Service) : Bool :=
  decide (s.ns.upper < t.ns.upper)
    || (s.ns.upper == t.ns.upper && decide (s.name.upper ≤ t.name.upper))

/-- The services in order, cut where the namespace changes. -/
def byNamespace (services : List Service) : List (List Service) :=
  (services.mergeSort precedes).splitBy (fun s t => s.ns.upper == t.ns.upper)

/-- The blocks of services of one namespace: one enum around their enums, or the enums alone if
there is no namespace. -/
def namespaceBlocks (style : Style) (sides : Sides) : List Service → List Block
  | [] => []
  | s :: ss =>
    let enums := (s :: ss).map (serviceEnum style sides)
    if s.ns.upper.isEmpty then enums.map Declaration.block
    else [(Declaration.enumeration (some style.access) s.ns.upper enums).block]

/-- The alias section of some services. -/
def aliasSection (style : Style) (sides : Sides) (services : List Service) : List Block :=
  (byNamespace services).flatMap (namespaceBlocks style sides)

end SwiftStubs.Stub
