/-! # Universally unique identifiers

An identifier is a row of 32 hexadecimal digits. It is written in lower case
with hyphens after 8, 12, 16 and 20 digits. -/

namespace Entitlement

structure Uuid where
  digits : List (Fin 16)
  length_digits : digits.length = 32
deriving DecidableEq

namespace Uuid

def digitChar (digit : Fin 16) : Char :=
  if digit.val < 10 then Char.ofNat (48 + digit.val) else Char.ofNat (87 + digit.val)

def digitValue? (letter : Char) : Option (Fin 16) :=
  let code := letter.toNat
  if h : 48 ≤ code ∧ code ≤ 57 then some ⟨code - 48, by omega⟩
  else if h : 97 ≤ code ∧ code ≤ 102 then some ⟨code - 87, by omega⟩
  else if h : 65 ≤ code ∧ code ≤ 70 then some ⟨code - 55, by omega⟩
  else none

def digitsOf : (count : Nat) → (number : Nat) → List (Fin 16)
  | 0, _ => []
  | count + 1, number => digitsOf count (number / 16) ++ [Fin.ofNat 16 number]

theorem length_digitsOf (count number : Nat) : (digitsOf count number).length = count := by
  induction count generalizing number with
  | zero => rfl
  | succ count hypothesis => simp [digitsOf, hypothesis]

def ofNat (number : Nat) : Uuid :=
  ⟨digitsOf 32 number, length_digitsOf 32 number⟩

/-- An identifier that is marked as a random one: the digits that tell the version and
the variant are fixed, all others are taken from the number. -/
def random (number : Nat) : Uuid :=
  let digits := digitsOf 30 number
  ⟨digits.take 12 ++ 4 :: (digits.drop 12).take 3 ++ 8 :: digits.drop 15,
    by simp [digits, length_digitsOf]⟩

def toNat (uuid : Uuid) : Nat :=
  uuid.digits.foldl (fun value digit => 16 * value + digit.val) 0

def letters (uuid : Uuid) : List Char :=
  let digits := uuid.digits.map digitChar
  digits.take 8 ++ '-' :: (digits.drop 8).take 4 ++ '-' :: (digits.drop 12).take 4 ++
    '-' :: (digits.drop 16).take 4 ++ '-' :: digits.drop 20

def text (uuid : Uuid) : String :=
  String.ofList uuid.letters

instance : Inhabited Uuid := ⟨ofNat 0⟩

end Uuid
end Entitlement
