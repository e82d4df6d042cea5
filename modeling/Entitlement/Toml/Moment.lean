import Entitlement.Instant.Calendar
import Entitlement.Toml.Scan

/-! # Dates and times

A date, a time of day, or both, with an offset from universal time if there are both. Every
number has its full width. Here only the end of a moment is found, and the place where it
goes wrong; what day or hour it is does not matter. -/

namespace Entitlement.Toml

open Calendar

/-! ## Numbers -/

def fixed? : (width : Nat) → (value : Nat) → Spot → Option (Nat × Spot)
  | 0, value, rest => some (value, rest)
  | width + 1, value, letter :: rest =>
      if letter.isDigit then fixed? width (10 * value + (letter.toNat - 48)) rest else none
  | _ + 1, _, [] => none

def pair (least most : Nat) (input : Spot) : Reading Nat :=
  match fixed? 2 0 input with
  | some (value, rest) => if least ≤ value ∧ value ≤ most then .ok (value, rest) else .error input
  | none => .error input

/-! ## Dates -/

def year? (input : Spot) : Option (Nat × Spot) :=
  match fixed? 4 0 input with
  | some (year, '-' :: rest) => some (year, rest)
  | _ => none

def pastDay (year : Nat) (input : Spot) : Except Spot Spot := do
  let (month, rest) ← pair 1 12 input
  let start ← past '-' rest
  let (day, rest) ← pair 1 31 start
  if (Date.mk year month day).valid then .ok rest else .error start

/-! ## Times of day -/

def afterHour? (input : Spot) : Option Spot :=
  match pair 0 23 input with
  | .ok (_, ':' :: rest) => some rest
  | _ => none

def skipFraction (input : Spot) : Spot :=
  match input with
  | '.' :: rest => if rest.head?.any Char.isDigit then rest.dropWhile Char.isDigit else input
  | _ => input

def pastSecond (input : Spot) : Except Spot Spot := do
  let (_, rest) ← pair 0 59 input
  let rest ← past ':' rest
  let (_, rest) ← pair 0 60 rest
  .ok (skipFraction rest)

def pastOffset (input : Spot) : Except Spot Spot :=
  match input with
  | 'Z' :: rest | 'z' :: rest => .ok rest
  | '+' :: rest | '-' :: rest => do
      let (_, rest) ← pair 0 23 rest
      let rest ← past ':' rest
      let (_, rest) ← pair 0 59 rest
      .ok rest
  | rest => .ok rest

/-! ## Moments -/

/-- What follows the hour of a time of day that comes after a date. A letter or a space
stands between them. -/
def hourAfterDate? : Spot → Option Spot
  | letter :: rest =>
      if letter = 'T' ∨ letter = 't' ∨ letter = ' ' then afterHour? rest else none
  | [] => none

/-- Goes past a moment, if one begins here. A date is recognized by its year, and a time by
its hour. -/
def pastMoment? (input : Spot) : Option (Except Spot Spot) :=
  match year? input, afterHour? input with
  | some (year, rest), _ => some do
      let rest ← pastDay year rest
      match hourAfterDate? rest with
      | some rest => pastOffset (← pastSecond rest)
      | none => .ok rest
  | none, some rest => some (pastSecond rest)
  | none, none => none

end Entitlement.Toml
