import Entitlement.Wire.Varint
import Entitlement.Width

/-! # Fields of a message

A message is a row of fields. Each has a number and a payload, whose kind is written
together with the number, so that fields with unknown numbers can be passed over.
Groups are fields around other fields; they are passed over as a whole, and may not
lie within each other too deeply. -/

namespace Entitlement.Wire

/-! ## Kinds and keys -/

inductive Kind where
  | varint
  | eightBytes
  | counted
  | groupStart
  | groupEnd
  | fourBytes
deriving DecidableEq

def Kind.code : Kind → Nat
  | varint => 0
  | eightBytes => 1
  | counted => 2
  | groupStart => 3
  | groupEnd => 4
  | fourBytes => 5

def Kind.ofCode? : Nat → Option Kind
  | 0 => some varint
  | 1 => some eightBytes
  | 2 => some counted
  | 3 => some groupStart
  | 4 => some groupEnd
  | 5 => some fourBytes
  | _ => none

structure Key where
  number : Nat
  kind : Kind
deriving DecidableEq

def Key.write (key : Key) : Bytes :=
  Varint.write (8 * key.number + key.kind.code)

def Key.read? (input : Bytes) : Option (Key × Bytes) :=
  match Varint.read? input with
  | none => none
  | some (code, rest) =>
      if code / 8 = 0 ∨ Width.max32 < code then none
      else (Kind.ofCode? (code % 8)).map fun kind => (⟨code / 8, kind⟩, rest)

theorem Key.read?_length {input rest : Bytes} {key : Key}
    (accepted : Key.read? input = some (key, rest)) : rest.length < input.length := by
  unfold Key.read? at accepted
  split at accepted
  · simp at accepted
  next code left read =>
    split at accepted
    · simp at accepted
    · obtain ⟨kind, _, equal⟩ := Option.map_eq_some_iff.mp accepted
      simp only [Prod.mk.injEq] at equal
      exact equal.2 ▸ Varint.read?_length read

/-! ## Payloads -/

inductive Payload where
  | number (value : Nat)
  | eightBytes (bytes : Bytes)
  | counted (bytes : Bytes)
  | group
  | fourBytes (bytes : Bytes)
deriving DecidableEq

structure Field where
  number : Nat
  payload : Payload
deriving DecidableEq

def Field.write (field : Field) : Bytes :=
  match field.payload with
  | .number value => Key.write ⟨field.number, .varint⟩ ++ Varint.write value
  | .eightBytes bytes => Key.write ⟨field.number, .eightBytes⟩ ++ bytes
  | .counted bytes => Key.write ⟨field.number, .counted⟩ ++ Varint.write bytes.length ++ bytes
  | .group => Key.write ⟨field.number, .groupStart⟩ ++ Key.write ⟨field.number, .groupEnd⟩
  | .fourBytes bytes => Key.write ⟨field.number, .fourBytes⟩ ++ bytes

def splitOff? (count : Nat) (input : Bytes) : Option (Bytes × Bytes) :=
  if count ≤ input.length then some (input.take count, input.drop count) else none

def Payload.readPlain? (kind : Kind) (input : Bytes) : Option (Payload × Bytes) :=
  match kind with
  | .varint => (Varint.read? input).map fun (value, rest) => (.number value, rest)
  | .eightBytes => (splitOff? 8 input).map fun (bytes, rest) => (.eightBytes bytes, rest)
  | .counted => do
      let (count, rest) ← Varint.read? input
      let (bytes, rest) ← splitOff? count rest
      some (.counted bytes, rest)
  | .fourBytes => (splitOff? 4 input).map fun (bytes, rest) => (.fourBytes bytes, rest)
  | .groupStart | .groupEnd => none

theorem splitOff?_length {count : Nat} {input bytes rest : Bytes}
    (accepted : splitOff? count input = some (bytes, rest)) : rest.length ≤ input.length := by
  unfold splitOff? at accepted
  split at accepted
  · simp only [Option.some.injEq, Prod.mk.injEq] at accepted
    simp [← accepted.2]
  · simp at accepted

theorem Payload.readPlain?_length {kind : Kind} {input rest : Bytes} {payload : Payload}
    (accepted : readPlain? kind input = some (payload, rest)) : rest.length ≤ input.length := by
  cases kind with
  | varint =>
      obtain ⟨⟨value, left⟩, read, equal⟩ := Option.map_eq_some_iff.mp accepted
      simp only [Prod.mk.injEq] at equal
      exact equal.2 ▸ Nat.le_of_lt (Varint.read?_length read)
  | eightBytes =>
      obtain ⟨⟨bytes, left⟩, split, equal⟩ := Option.map_eq_some_iff.mp accepted
      simp only [Prod.mk.injEq] at equal
      exact equal.2 ▸ splitOff?_length split
  | counted =>
      obtain ⟨⟨count, left⟩, read, accepted⟩ := Option.bind_eq_some_iff.mp accepted
      obtain ⟨⟨bytes, after⟩, split, equal⟩ := Option.bind_eq_some_iff.mp accepted
      simp only [Option.some.injEq, Prod.mk.injEq] at equal
      have shorter := Varint.read?_length read
      have bounded := splitOff?_length split
      simp only [← equal.2]
      omega
  | fourBytes =>
      obtain ⟨⟨bytes, left⟩, split, equal⟩ := Option.map_eq_some_iff.mp accepted
      simp only [Prod.mk.injEq] at equal
      exact equal.2 ▸ splitOff?_length split
  | groupStart => simp [readPlain?] at accepted
  | groupEnd => simp [readPlain?] at accepted

/-! ## Groups -/

/-- Passes over what is left of the open groups, whose numbers are given from the
innermost outwards. A field may lie within fewer than `depth` groups. -/
def skipGroups? (depth : Nat) (opened : List Nat) (input : Bytes) : Option Bytes :=
  match opened with
  | [] => some input
  | innermost :: others =>
      match _read : Key.read? input with
      | none => none
      | some (key, rest) =>
          if key.kind = .groupEnd then
            if key.number = innermost then skipGroups? depth others rest else none
          else if depth ≤ others.length + 1 then none
          else if key.kind = .groupStart then
            skipGroups? depth (key.number :: innermost :: others) rest
          else
            match _passed : Payload.readPlain? key.kind rest with
            | none => none
            | some (_, rest) => skipGroups? depth (innermost :: others) rest
termination_by input.length
decreasing_by
  · exact Key.read?_length _read
  · exact Key.read?_length _read
  · exact Nat.lt_of_le_of_lt (Payload.readPlain?_length _passed) (Key.read?_length _read)

theorem skipGroups?_length {depth : Nat} {opened : List Nat} {input rest : Bytes}
    (accepted : skipGroups? depth opened input = some rest) : rest.length ≤ input.length := by
  fun_induction skipGroups? depth opened input with
  | case1 => simp_all
  | case2 => simp at accepted
  | case3 _ _ _ _ read _ hypothesis =>
      have := Key.read?_length read
      have := hypothesis accepted
      omega
  | case4 => simp at accepted
  | case5 => simp at accepted
  | case6 _ _ _ _ _ read _ _ _ hypothesis =>
      have := Key.read?_length read
      have := hypothesis accepted
      omega
  | case7 => simp at accepted
  | case8 _ _ _ _ _ read _ _ _ _ _ passed hypothesis =>
      have := Key.read?_length read
      have := Payload.readPlain?_length passed
      have := hypothesis accepted
      omega

/-! ## Messages -/

/-- Reads a field. A field whose number is among `counted` holds counted bytes, whatever
kind is written with the number. -/
def Field.read? (depth : Nat) (counted : List Nat) (input : Bytes) : Option (Field × Bytes) :=
  match Key.read? input with
  | none => none
  | some (key, rest) =>
      if key.number ∈ counted then
        (Payload.readPlain? .counted rest).map fun (payload, rest) => (⟨key.number, payload⟩, rest)
      else if key.kind = .groupStart then
        (skipGroups? depth [key.number] rest).map fun rest => (⟨key.number, .group⟩, rest)
      else
        (Payload.readPlain? key.kind rest).map fun (payload, rest) => (⟨key.number, payload⟩, rest)

theorem Field.read?_length {depth : Nat} {counted : List Nat} {input rest : Bytes} {field : Field}
    (accepted : Field.read? depth counted input = some (field, rest)) :
    rest.length < input.length := by
  unfold Field.read? at accepted
  split at accepted
  · simp at accepted
  next key left read =>
    have shorter := Key.read?_length read
    split at accepted
    · obtain ⟨⟨payload, after⟩, passed, equal⟩ := Option.map_eq_some_iff.mp accepted
      simp only [Prod.mk.injEq] at equal
      have := Payload.readPlain?_length passed
      simp only [← equal.2]
      omega
    split at accepted
    · obtain ⟨after, skipped, equal⟩ := Option.map_eq_some_iff.mp accepted
      simp only [Prod.mk.injEq] at equal
      have := skipGroups?_length skipped
      simp only [← equal.2]
      omega
    · obtain ⟨⟨payload, after⟩, passed, equal⟩ := Option.map_eq_some_iff.mp accepted
      simp only [Prod.mk.injEq] at equal
      have := Payload.readPlain?_length passed
      simp only [← equal.2]
      omega

def writeMessage (fields : List Field) : Bytes :=
  fields.flatMap Field.write

/-- Reads a message, to the end of the input. A field may lie within fewer than `depth`
groups, and those with `counted` numbers hold counted bytes. -/
def readMessage? (depth : Nat) (counted : List Nat) (input : Bytes) : Option (List Field) :=
  if input = [] then some []
  else
    match _read : Field.read? depth counted input with
    | none => none
    | some (field, rest) => (readMessage? depth counted rest).map (field :: ·)
termination_by input.length
decreasing_by exact Field.read?_length _read

end Entitlement.Wire
