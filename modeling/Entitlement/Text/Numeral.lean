import Entitlement.Width

/-! # Numerals

Whole numbers as people write them in settings and on a command line: an
optional sign and at least one decimal digit, nothing else. -/

namespace Entitlement.Text

/-- The value of a run of decimal digits; `none` if a character is no digit or
the run is empty. -/
def digitsValue? : List Char → Option Nat
  | [] => none
  | digits =>
      if digits.all Char.isDigit then
        some (digits.foldl (fun value digit => 10 * value + (digit.toNat - '0'.toNat)) 0)
      else
        none

def natural? (limit : Nat) (text : String) : Option Nat := do
  let digits := match text.toList with
    | '+' :: digits => digits
    | digits => digits
  let value ← digitsValue? digits
  if value ≤ limit then some value else none

def integer? (text : String) : Option Int := do
  let value ← match text.toList with
    | '-' :: digits => (digitsValue? digits).map fun value => -(value : Int)
    | '+' :: digits => (digitsValue? digits).map Int.ofNat
    | digits => (digitsValue? digits).map Int.ofNat
  if Width.minSigned64 ≤ value ∧ value ≤ Width.maxSigned64 then some value else none

end Entitlement.Text
