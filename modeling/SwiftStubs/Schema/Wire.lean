import SwiftStubs.Schema.Basic
import SwiftStubs.Wire.Message

/-!
# Schema files on the wire

Schema files are handed over as messages. What is not needed to generate stubs is passed over.
-/

namespace SwiftStubs.Schema

open Wire

mutual

/-- The message types that a field describes, if it has the given number. -/
def Message.ofField (id : Nat) : Wire.Field → List Message
  | .message i fields =>
    if i = id then [.mk (Wire.Message.text fields 1).shown (Message.ofFields 3 fields)] else []
  | _ => []

/-- The message types that the fields with the given number describe. -/
def Message.ofFields (id : Nat) : List Wire.Field → List Message
  | [] => []
  | f :: fs => Message.ofField id f ++ Message.ofFields id fs

end

/-- The method that a message describes. -/
def Method.ofWire (m : Wire.Message) : Method where
  name := m.text 1
  inputType := m.text 2
  outputType := m.text 3
  clientStreaming := m.flag 5
  serverStreaming := m.flag 6

/-- The service that a message describes. -/
def Service.ofWire (m : Wire.Message) : Service where
  name := m.text 1
  methods := (m.messages 2).map Method.ofWire

/-- The location that a message describes. -/
def Location.ofWire (m : Wire.Message) : Location where
  path := (m.numbers 1).map signed32
  leading := m.text 3
  detached := m.texts 6

/-- The file that a message describes. -/
def File.ofWire (m : Wire.Message) : File where
  name := m.text 1
  package := m.text 2
  imports := m.texts 3
  publicImports := (m.numbers 10).map signed32
  messages := Message.ofFields 4 m
  services := (m.messages 6).map Service.ofWire
  swiftPrefix := (m.merged 8).text? 39
  locations := ((m.merged 9).messages 1).map Location.ofWire

end SwiftStubs.Schema
