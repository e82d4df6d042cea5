/-! # The calendar

Days of the Gregorian calendar, extended to all years, counted from the first day
of the year 0. -/

namespace Entitlement.Calendar

def isLeap (year : Int) : Bool :=
  year % 4 == 0 && (year % 100 != 0 || year % 400 == 0)

def daysBefore (year : Int) : Int :=
  365 * year + (year + 3) / 4 - (year + 99) / 100 + (year + 399) / 400

def monthLengths (year : Int) : List Nat :=
  [31, if isLeap year then 29 else 28, 31, 30, 31, 30, 31, 31, 30, 31, 30, 31]

structure Date where
  year : Int
  month : Nat
  day : Nat
deriving DecidableEq

def Date.valid (date : Date) : Bool :=
  1 ≤ date.month && 1 ≤ date.day &&
    (monthLengths date.year)[date.month - 1]?.any (date.day ≤ ·)

def Date.number (date : Date) : Int :=
  let months := (monthLengths date.year).take (date.month - 1)
  daysBefore date.year + (months.foldl (· + ·) (date.day - 1) : Nat)

def yearOf (number : Int) : Int :=
  let guess := 400 * number / 146097
  if number < daysBefore guess then guess - 1
  else if daysBefore (guess + 1) ≤ number then guess + 1
  else guess

def splitMonths (month : Nat) : List Nat → Nat → Nat × Nat
  | [], rest => (month, rest + 1)
  | length :: lengths, rest =>
      if rest < length then (month, rest + 1) else splitMonths (month + 1) lengths (rest - length)

def Date.ofNumber (number : Int) : Date :=
  let year := yearOf number
  let (month, day) := splitMonths 1 (monthLengths year) (number - daysBefore year).toNat
  ⟨year, month, day⟩

end Entitlement.Calendar
