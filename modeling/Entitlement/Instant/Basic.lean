import Entitlement.Instant.Calendar

/-! # Moments in time

A moment is counted in seconds from the start of 1970, in universal time, and in
nanoseconds within the second. From a thousand million nanoseconds on, the moment
lies in the leap second that follows the second.

Moments are written as a date and a time of day, with as many digits of the fraction as
are needed, in groups of three. -/

namespace Entitlement

structure Instant where
  second : Int
  nanosecond : Nat
deriving DecidableEq

namespace Instant

open Calendar

instance : Inhabited Instant := ⟨0, 0⟩

def epochDay : Int := 719528

/-! ## Writing -/

def padded (width number : Nat) : String :=
  let digits := toString number
  String.ofList (List.replicate (width - digits.length) '0') ++ digits

/-- A year: four digits, with a sign if four digits without one do not suffice. -/
def yearText (year : Int) : String :=
  if 0 ≤ year ∧ year ≤ 9999 then padded 4 year.toNat
  else (if year < 0 then "-" else "+") ++ padded 4 year.natAbs

def fractionText (nanosecond : Nat) : String :=
  if nanosecond = 0 then ""
  else if nanosecond % 1000000 = 0 then "." ++ padded 3 (nanosecond / 1000000)
  else if nanosecond % 1000 = 0 then "." ++ padded 6 (nanosecond / 1000)
  else "." ++ padded 9 nanosecond

def text (moment : Instant) : String :=
  let date := Date.ofNumber (moment.second / 86400 + epochDay)
  let time := (moment.second % 86400).toNat
  let leap := moment.nanosecond / 1000000000
  yearText date.year ++ "-" ++ padded 2 date.month ++ "-" ++ padded 2 date.day ++ "T" ++
    padded 2 (time / 3600) ++ ":" ++ padded 2 (time / 60 % 60) ++ ":" ++
    padded 2 (time % 60 + leap) ++ fractionText (moment.nanosecond % 1000000000) ++ "Z"

/-! ## Coarser moments -/

def storedEpoch : Int := 946684800

def toMicroseconds (moment : Instant) : Instant :=
  let nanoseconds := (moment.second - storedEpoch) * 1000000000 + moment.nanosecond
  let microseconds := nanoseconds.tdiv 1000
  ⟨microseconds / 1000000 + storedEpoch, ((microseconds % 1000000) * 1000).toNat⟩

end Instant
end Entitlement
