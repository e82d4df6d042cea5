import Entitlement.Json.Basic
import Entitlement.Toml.Moment

/-! # Numbers, truth values and times

These are words without quotation marks. Underscores may stand between digits. Whole
numbers have 64 bits, and numbers with a fraction have double precision. -/

namespace Entitlement.Toml

/-! ## Simple values -/

inductive Scalar where
  | text (value : String)
  | truth (value : Bool)
  | integer (value : Int)
  | decimal (literal : String)
  | moment (literal : String)
deriving DecidableEq

/-- The JSON form. A time or date has no other use here than to be told apart from everything
else: it counts as an object with one member of its own. -/
def Scalar.toJson : Scalar → Json
  | text value => .text value
  | truth value => .bool value
  | integer value => .integer value
  | decimal literal => .decimal literal
  | moment literal => .object [("moment", .text literal)]

/-! ## Digits -/

def withDigit (digit : Char) (found : List Char × Spot) : List Char × Spot :=
  (digit :: found.1, found.2)

def moreDigits (isDigit : Char → Bool) : Spot → Reading (List Char)
  | [] => .ok ([], [])
  | ['_'] => .error []
  | '_' :: letter :: rest =>
      if isDigit letter then (moreDigits isDigit rest).map (withDigit letter)
      else .error (letter :: rest)
  | letter :: rest =>
      if isDigit letter then (moreDigits isDigit rest).map (withDigit letter)
      else .ok ([], letter :: rest)

def digits (isDigit : Char → Bool) (input : Spot) : Reading (List Char) :=
  match input with
  | letter :: rest =>
      if isDigit letter then (moreDigits isDigit rest).map (withDigit letter)
      else .error input
  | [] => .error []

/-- Reads the digits of a decimal number. A zero at the beginning is all of it. -/
def decimalDigits (input : Spot) : Reading (List Char) :=
  match input with
  | '0' :: rest => .ok (['0'], rest)
  | _ => digits Char.isDigit input

def digitValue (letter : Char) : Nat :=
  if letter.isDigit then letter.toNat - 48
  else if letter.isLower then letter.toNat - 87
  else letter.toNat - 55

def valueOf (base : Nat) (digits : List Char) : Nat :=
  digits.foldl (fun value digit => base * value + digitValue digit) 0

def isDigitOf (base : Nat) (letter : Char) : Bool :=
  (letter.isDigit || ('a' ≤ letter && letter ≤ 'f') || ('A' ≤ letter && letter ≤ 'F')) &&
    digitValue letter < base

/-! ## Numbers -/

def unsigned : Spot → Bool × Spot
  | '+' :: rest => (false, rest)
  | '-' :: rest => (true, rest)
  | input => (false, input)

def signed (negative : Bool) (value : Nat) : Int :=
  if negative then -value else value

def whole (input : Spot) (value : Int) (rest : Spot) : Reading Scalar :=
  if Width.minSigned64 ≤ value ∧ value ≤ Width.maxSigned64 then .ok (.integer value, rest)
  else .error input

structure Decimal where
  digits : Nat
  scale : Int
deriving DecidableEq

namespace Decimal

def digitCount (number : Nat) : Nat :=
  if number = 0 then 0 else (toString number).length

/-- The smallest number that is too large for double precision: it lies halfway between the
largest finite number and the next one that there would be. -/
def limit : Nat := (Nat.pow 2 54 - 1) * Nat.pow 2 970

/-- Whether a number is finite in double precision. One with fewer than 309 digits before the
point always is, and one with more never. -/
def isFinite (number : Decimal) : Bool :=
  let places := digitCount number.digits + number.scale
  if number.digits = 0 ∨ places < 309 then true
  else if 309 < places then false
  else
    match number.scale with
    | .ofNat scale => number.digits * Nat.pow 10 scale < limit
    | .negSucc scale => number.digits < limit * Nat.pow 10 (scale + 1)

end Decimal

def atExponent (input : Spot) : Bool :=
  input.head? == some 'e' || input.head? == some 'E'

def exponent (input : Spot) : Except Spot (Int × Spot) := do
  if atExponent input then
    let (negative, rest) := unsigned input.tail
    let (found, rest) ← digits Char.isDigit rest
    .ok (signed negative (valueOf 10 found), rest)
  else .ok (0, input)

def wordUpTo (input rest : Spot) : String :=
  String.ofList (input.take (input.length - rest.length))

/-- A number with a fraction or an exponent. A positive number may not be too large; a
negative one may, and is minus infinity then. -/
def fraction (input : Spot) (negative : Bool) (number : Decimal) (rest : Spot) : Reading Scalar :=
  if negative || number.isFinite then .ok (.decimal (wordUpTo input rest), rest)
  else .error input

def decimalNumber (input : Spot) : Except Spot (Scalar × Spot) := do
  let (negative, body) := unsigned input
  let (found, rest) ← decimalDigits body
  match rest with
  | '.' :: rest => do
      let (places, rest) ← digits Char.isDigit rest
      let (exponent, rest) ← exponent rest
      fraction input negative ⟨valueOf 10 (found ++ places), exponent - places.length⟩ rest
  | rest =>
      if atExponent rest then do
        let (exponent, rest) ← exponent rest
        fraction input negative ⟨valueOf 10 found, exponent⟩ rest
      else whole input (signed negative (valueOf 10 found)) rest

def basedNumber (base : Nat) (input digitsInput : Spot) : Except Spot (Scalar × Spot) := do
  let (found, rest) ← digits (isDigitOf base) digitsInput
  whole input (valueOf base found) rest

/-! ## Words -/

def afterWord? (word : String) (input : Spot) : Option Spot :=
  let letters := word.toList
  if input.take letters.length = letters then some (input.drop letters.length) else none

def word (word : String) (value : Scalar) (input : Spot) : Reading Scalar :=
  match afterWord? word input with
  | some rest => .ok (value, rest)
  | none => .error input

def afterNonNumber? (input : Spot) : Option Spot :=
  let (_, body) := unsigned input
  (afterWord? "inf" body).orElse fun _ => afterWord? "nan" body

def number (input : Spot) : Reading Scalar :=
  match input, pastMoment? input, afterNonNumber? input with
  | _, some after, _ => after.map fun rest => (.moment (wordUpTo input rest), rest)
  | _, none, some rest => .ok (.decimal (wordUpTo input rest), rest)
  | '0' :: 'x' :: rest, none, none => basedNumber 16 input rest
  | '0' :: 'o' :: rest, none, none => basedNumber 8 input rest
  | '0' :: 'b' :: rest, none, none => basedNumber 2 input rest
  | _, none, none => decimalNumber input

def bareValue (input : Spot) : Reading Scalar :=
  match input with
  | 't' :: _ => word "true" (.truth true) input
  | 'f' :: _ => word "false" (.truth false) input
  | _ => number input

end Entitlement.Toml
