import Entitlement.Instant.Basic
import Entitlement.Text.Blank

/-! # Reading moments

A moment is read from a date and a time of day with an offset from universal time. The
reader is lenient about layout: numbers may be shorter than they are written, blanks may
stand in front of a number, a separator or an offset, and years may have a sign. It is
strict about the calendar: the day has to exist. -/

namespace Entitlement.Instant

open Calendar Text

/-! ## Numbers and separators -/

def digitsNumber (digits : List Char) : Nat :=
  digits.foldl (fun value digit => 10 * value + (digit.toNat - 48)) 0

def number? (most : Nat) (letters : List Char) : Option (Nat × List Char) :=
  let digits := (letters.take most).takeWhile Char.isDigit
  if digits = [] then none else some (digitsNumber digits, letters.drop digits.length)

def shortNumber? (letters : List Char) : Option (Nat × List Char) :=
  number? 2 (letters.dropWhile isBlank)

def year? (letters : List Char) : Option (Int × List Char) :=
  match letters with
  | '-' :: rest => (number? rest.length rest).map fun (year, rest) => (-(year : Int), rest)
  | '+' :: rest => (number? rest.length rest).map fun (year, rest) => ((year : Int), rest)
  | letters => (number? 4 letters).map fun (year, rest) => ((year : Int), rest)

def after? (separator : Char) (letters : List Char) : Option (List Char) :=
  match letters.dropWhile isBlank with
  | letter :: rest => if letter = separator then some rest else none
  | [] => none

/-- A fraction in nanoseconds, digits after the ninth dropped; no fraction is zero. -/
def fraction? : List Char → Option (Nat × List Char)
  | '.' :: rest =>
      let digits := rest.takeWhile Char.isDigit
      if digits = [] then none
      else
        let kept := (digits ++ List.replicate 9 '0').take 9
        some (digitsNumber kept, rest.drop digits.length)
  | rest => some (0, rest)

/-! ## Offsets -/

/-- Whether a sign means that a place is behind universal time: a plus, a hyphen or a
minus. -/
def behind? (sign : Char) : Option Bool :=
  if sign = '+' then some false else if sign = '-' ∨ sign = '\u2212' then some true else none

def pair? (letters : List Char) : Option (Nat × List Char) :=
  match letters with
  | first :: second :: rest =>
      if first.isDigit && second.isDigit then some (digitsNumber [first, second], rest) else none
  | _ => none

/-- An offset from universal time in seconds, and what follows it: a letter or word for
universal time itself, or hours and minutes, with colons and blanks between them. -/
def offset? (letters : List Char) : Option (Int × List Char) :=
  if (letters.take 3).map Char.toLower = ['u', 't', 'c'] then some (0, letters.drop 3)
  else
    match letters with
    | [] => none
    | 'Z' :: rest | 'z' :: rest => some (0, rest)
    | sign :: rest => do
        let behind ← behind? sign
        let (hour, rest) ← pair? rest
        let (minute, rest) ← pair? (rest.dropWhile fun letter => letter = ':' || isBlank letter)
        if hour < 24 ∧ minute < 60 then
          let seconds : Int := (3600 * hour + 60 * minute : Nat)
          some (if behind then -seconds else seconds, rest)
        else none

/-! ## Moments -/

def hasYear (year : Int) : Bool := -262143 ≤ year && year ≤ 262142

def date? (letters : List Char) : Option (Date × List Char) := do
  let (year, rest) ← year? (letters.dropWhile isBlank)
  let rest ← after? '-' rest
  let (month, rest) ← shortNumber? rest
  let rest ← after? '-' rest
  let (day, rest) ← shortNumber? rest
  let date : Date := ⟨year, month, day⟩
  if hasYear year ∧ date.valid then some (date, rest) else none

/-- A time of day in seconds and nanoseconds, and what follows it. The second after the
last one of a minute is a leap second. -/
def time? (letters : List Char) : Option (Nat × Nat × List Char) := do
  let (hour, rest) ← shortNumber? letters
  let rest ← after? ':' rest
  let (minute, rest) ← shortNumber? rest
  let rest ← after? ':' rest
  let (second, rest) ← shortNumber? rest
  let (nanosecond, rest) ← fraction? rest
  if hour < 24 ∧ minute < 60 ∧ second ≤ 60 then
    let leap := if second = 60 then 1000000000 else 0
    some (3600 * hour + 60 * minute + min second 59, nanosecond + leap, rest)
  else none

def isDivider (letter : Char) : Bool :=
  letter == 'T' || letter == 't' || letter == ' '

def ofText? (text : String) : Option Instant := do
  let (date, rest) ← date? text.toList
  let (divider, rest) ← rest.head?.map (·, rest.tail)
  let (second, nanosecond, rest) ← if isDivider divider then time? rest else none
  let (offset, rest) ← offset? (rest.dropWhile isBlank)
  let moment : Instant := ⟨86400 * (date.number - epochDay) + second - offset, nanosecond⟩
  if rest.all isBlank ∧ hasYear (yearOf (moment.second / 86400 + epochDay)) then some moment
  else none

end Entitlement.Instant
