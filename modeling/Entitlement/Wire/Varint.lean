import Entitlement.Text.Bytes

/-! # Numbers of variable length

A number is written seven bits to a byte, lowest bits first; every byte but the last
has its top bit set. Reading accepts zeros at the high end, but no more than ten bytes
and no number of more than 64 bits. -/

namespace Entitlement.Wire

namespace Varint

def write (number : Nat) : Bytes :=
  if number < 128 then [UInt8.ofNat number]
  else UInt8.ofNat (number % 128 + 128) :: write (number / 128)

/-- Reads a number whose first `place` bytes have been read already. Returns what they
leave open and the bytes that follow. -/
def readFrom? (place : Nat) : Bytes → Option (Nat × Bytes)
  | [] => none
  | byte :: rest =>
      if place = 9 ∧ 2 ≤ byte.toNat then none
      else if byte.toNat < 128 then some (byte.toNat, rest)
      else
        (readFrom? (place + 1) rest).map fun (high, rest) =>
          (byte.toNat - 128 + 128 * high, rest)

def read? (input : Bytes) : Option (Nat × Bytes) :=
  readFrom? 0 input

theorem readFrom?_length {place : Nat} {input rest : Bytes} {number : Nat}
    (accepted : readFrom? place input = some (number, rest)) : rest.length < input.length := by
  induction input generalizing place number with
  | nil => simp [readFrom?] at accepted
  | cons byte tail hypothesis =>
      unfold readFrom? at accepted
      split at accepted
      · simp at accepted
      · split at accepted
        · simp_all
        · obtain ⟨⟨high, left⟩, read, equal⟩ := Option.map_eq_some_iff.mp accepted
          simp only [Prod.mk.injEq] at equal
          have shorter := hypothesis (equal.2 ▸ read)
          simp only [List.length_cons]
          omega

theorem read?_length {input rest : Bytes} {number : Nat}
    (accepted : read? input = some (number, rest)) : rest.length < input.length :=
  readFrom?_length accepted

end Varint
end Entitlement.Wire
