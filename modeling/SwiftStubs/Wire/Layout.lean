/-!
# Layouts of messages

Which fields of a message hold messages again, and which hold lists of numbers. This is all that
has to be known to tell whether bytes are a message. The layouts are those of the messages that
describe schema files, and of the query of a schema compiler.
-/

namespace SwiftStubs.Wire

/-- The messages that can be read. -/
inductive Layout where
  /-- A message that holds neither messages nor lists of numbers. -/
  | plain
  | query
  | fileSet
  | file
  | message
  | field
  | extensionRange
  | oneof
  | enumeration
  | enumValue
  | service
  | method
  | sourceInfo
  | location
  /-- Options of which the given field holds features. -/
  | options (features : Nat)
  | fieldOptions
  | rangeOptions
  | enumValueOptions
  | uninterpreted
deriving Repr, DecidableEq

/-- What the bytes in a field are. -/
inductive FieldKind where
  /-- A text, or nothing that is looked at. -/
  | text
  | numbers
  | message (layout : Layout)
deriving Repr, DecidableEq

namespace Layout

/-- The fields of a message whose bytes are not texts. -/
def fields : Layout → List (Nat × FieldKind)
  | .plain => []
  | .query => [(3, .message .plain), (15, .message .file), (17, .message .file)]
  | .fileSet => [(1, .message .file)]
  | .file =>
    [(4, .message .message), (5, .message .enumeration), (6, .message .service),
      (7, .message .field), (8, .message (.options 50)), (9, .message .sourceInfo),
      (10, .numbers), (11, .numbers)]
  | .message =>
    [(2, .message .field), (3, .message .message), (4, .message .enumeration),
      (5, .message .extensionRange), (6, .message .field), (7, .message (.options 12)),
      (8, .message .oneof), (9, .message .plain)]
  | .field => [(8, .message .fieldOptions)]
  | .extensionRange => [(3, .message .rangeOptions)]
  | .oneof => [(2, .message (.options 1))]
  | .enumeration =>
    [(2, .message .enumValue), (3, .message (.options 7)), (4, .message .plain)]
  | .enumValue => [(3, .message .enumValueOptions)]
  | .service => [(2, .message .method), (3, .message (.options 34))]
  | .method => [(4, .message (.options 35))]
  | .sourceInfo => [(1, .message .location)]
  | .location => [(1, .numbers), (2, .numbers)]
  | .options features => [(features, .message .plain), (999, .message .uninterpreted)]
  | .fieldOptions =>
    [(19, .numbers), (20, .message .plain), (21, .message .plain), (22, .message .plain),
      (999, .message .uninterpreted)]
  | .rangeOptions =>
    [(2, .message .plain), (50, .message .plain), (999, .message .uninterpreted)]
  | .enumValueOptions =>
    [(2, .message .plain), (4, .message .plain), (999, .message .uninterpreted)]
  | .uninterpreted => [(2, .message .plain)]

/-- What the bytes in a field of a message are. -/
def kind (l : Layout) (id : Nat) : FieldKind :=
  (l.fields.lookup id).getD .text

end Layout

end SwiftStubs.Wire
