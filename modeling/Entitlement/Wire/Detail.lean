import Entitlement.Fault
import Entitlement.Wire.Field

/-! # Details of a fault

A fault is sent as a message: field 1 is the key of the fault, and each field 2 is an
attribute, itself a message with the name in field 1 and the value in field 2. Empty
texts are not written. Of several values for one thing the last one counts, and fields
with other numbers do not matter. -/

namespace Entitlement.Wire

structure Detail where
  key : String
  attributes : List (String × String)
deriving DecidableEq

namespace Detail

def groupDepth : Nat := 100

/-! ## Texts -/

def textField (number : Nat) (text : String) : List Field :=
  if text.isEmpty then [] else [⟨number, .counted (Text.bytes text)⟩]

def payloadText? : Payload → Option String
  | .counted bytes => Text.ofBytes? bytes
  | _ => none

/-! ## Attributes -/

def attributeField (entry : String × String) : Field :=
  ⟨2, .counted (writeMessage (textField 1 entry.1 ++ textField 2 entry.2))⟩

def stepAttribute (entry : String × String) (field : Field) : Option (String × String) :=
  match field.number with
  | 1 => (payloadText? field.payload).map (·, entry.2)
  | 2 => (payloadText? field.payload).map (entry.1, ·)
  | _ => some entry

def attributeOf? : Payload → Option (String × String)
  | .counted bytes => do
      let fields ← readMessage? (groupDepth - 1) [] bytes
      fields.foldlM stepAttribute ("", "")
  | _ => none

/-! ## Details -/

def fields (detail : Detail) : List Field :=
  textField 1 detail.key ++ detail.attributes.map attributeField

def write (detail : Detail) : Bytes :=
  writeMessage detail.fields

def step (detail : Detail) (field : Field) : Option Detail :=
  match field.number with
  | 1 => (payloadText? field.payload).map fun key => { detail with key }
  | 2 => (attributeOf? field.payload).map fun entry =>
      { detail with attributes := detail.attributes ++ [entry] }
  | _ => some detail

def ofFields? (fields : List Field) : Option Detail :=
  fields.foldlM step ⟨"", []⟩

/-- Reads details. An attribute is counted bytes, whatever kind is written with its number. -/
def read? (input : Bytes) : Option Detail :=
  (readMessage? groupDepth [2] input).bind ofFields?

def attribute? (detail : Detail) (name : String) : Option String :=
  detail.attributes.reverse.lookup name

/-! ## Faults -/

def ofFault (fault : Fault) : Detail :=
  ⟨fault.key, fault.attributes⟩

def fault (detail : Detail) : Fault :=
  Fault.ofParts detail.key detail.attribute?

end Detail
end Entitlement.Wire
