import Entitlement.Instant.Reading
import Entitlement.Proofs.Calendar

/-! # Moments are read as they are written

In the years that have four digits, a moment is written with numbers of fixed width and with
plain separators. So the lenient reader finds each number, and the date and the time of day are
those of the moment. -/

namespace Entitlement.Instant

open Calendar Text

/-! ## Numbers of fixed width -/

theorem toList_padded (width number : Nat) :
    (padded width number).toList =
      List.replicate (width - (Nat.toDigits 10 number).length) '0' ++ Nat.toDigits 10 number := by
  simp [padded, ← String.length_toList]

theorem isDigit_of_mem_padded {width number : Nat} {letter : Char}
    (member : letter ∈ (padded width number).toList) : letter.isDigit = true := by
  rw [toList_padded] at member
  rcases List.mem_append.mp member with isZero | isDigit
  · rw [List.eq_of_mem_replicate isZero]
    rfl
  · exact Nat.isDigit_of_mem_toDigits (by decide) (by decide) isDigit

theorem length_padded {width number : Nat} (positive : 0 < width) (fits : number < 10 ^ width) :
    (padded width number).toList.length = width := by
  have short := (Nat.length_toDigits_le_iff (by decide) positive).mpr fits
  rw [toList_padded, List.length_append, List.length_replicate]
  omega

theorem digitsNumber_padded (width number : Nat) :
    digitsNumber (padded width number).toList = number := by
  change Nat.ofDigitChars 10 (padded width number).toList 0 = number
  rw [toList_padded, Nat.ofDigitChars_append, Nat.ofDigitChars_replicate_zero, Nat.mul_zero,
    Nat.ofDigitChars_ten_toDigits]

theorem takeWhile_padded (width number : Nat) (rest : List Char) :
    ((padded width number).toList ++ rest).takeWhile Char.isDigit =
      (padded width number).toList ++ rest.takeWhile Char.isDigit :=
  List.takeWhile_append_of_pos fun _ member => isDigit_of_mem_padded member

theorem padded_eq_cons {width number : Nat} (positive : 0 < width) (fits : number < 10 ^ width) :
    ∃ digit digits, (padded width number).toList = digit :: digits ∧ digit.isDigit = true := by
  have length := length_padded positive fits
  cases whole : (padded width number).toList with
  | nil =>
      rw [whole] at length
      exact absurd length (Nat.ne_of_lt positive)
  | cons digit digits =>
      have member : digit ∈ (padded width number).toList := by
        rw [whole]
        exact List.mem_cons_self
      exact ⟨digit, digits, rfl, isDigit_of_mem_padded member⟩

theorem number?_padded {width number : Nat} (positive : 0 < width) (fits : number < 10 ^ width)
    (rest : List Char) :
    number? width ((padded width number).toList ++ rest) = some (number, rest) := by
  have digits := takeWhile_padded width number []
  have nonempty : (padded width number).toList ≠ [] := by
    rcases padded_eq_cons positive fits with ⟨digit, digits, whole, -⟩
    simp [whole]
  rw [List.append_nil, List.takeWhile_nil, List.append_nil] at digits
  simp only [number?, List.take_left' (length_padded positive fits), digits]
  rw [if_neg nonempty, digitsNumber_padded, List.drop_left]

theorem not_isBlank_of_isDigit {letter : Char} (isDigit : letter.isDigit = true) :
    isBlank letter = false := by
  have codes : 48 ≤ letter.toNat ∧ letter.toNat ≤ 57 := by
    simpa [Char.isDigit, UInt32.le_iff_toNat_le] using isDigit
  simp [isBlank, blankRuns]
  omega

theorem dropWhile_padded {width number : Nat} (positive : 0 < width) (fits : number < 10 ^ width)
    (rest : List Char) :
    ((padded width number).toList ++ rest).dropWhile isBlank =
      (padded width number).toList ++ rest := by
  rcases padded_eq_cons positive fits with ⟨digit, digits, whole, isDigit⟩
  rw [whole, List.cons_append, List.dropWhile_cons_of_neg]
  simp [not_isBlank_of_isDigit isDigit]

theorem shortNumber?_padded {number : Nat} (fits : number < 100) (rest : List Char) :
    shortNumber? ((padded 2 number).toList ++ rest) = some (number, rest) := by
  rw [shortNumber?, dropWhile_padded (by decide) fits]
  exact number?_padded (by decide) fits rest

theorem after?_self {separator : Char} (visible : isBlank separator = false) (rest : List Char) :
    after? separator (separator :: rest) = some rest := by
  rw [after?, List.dropWhile_cons_of_neg (by simp [visible])]
  simp

theorem year?_padded {year : Nat} (fits : year < 10000) (rest : List Char) :
    year? ((padded 4 year).toList ++ rest) = some ((year : Int), rest) := by
  have found : number? 4 ((padded 4 year).toList ++ rest) = some (year, rest) :=
    number?_padded (by decide) fits rest
  rcases padded_eq_cons (by decide : 0 < 4) fits with ⟨digit, digits, whole, isDigit⟩
  rw [whole, List.cons_append] at found ⊢
  rw [year?, found]
  · rfl
  · intro rest equal
    cases equal
    cases isDigit
  · intro rest equal
    cases equal
    cases isDigit

/-! ## Fractions -/

theorem fraction?_padded {width number : Nat} (positive : 0 < width) (few : width ≤ 9)
    (fits : number < 10 ^ width) {rest : List Char} (ends : rest.takeWhile Char.isDigit = []) :
    fraction? ('.' :: ((padded width number).toList ++ rest)) =
      some (10 ^ (9 - width) * number, rest) := by
  have length := length_padded positive fits
  have digits := takeWhile_padded width number rest
  rw [ends, List.append_nil] at digits
  have nonempty : (padded width number).toList ≠ [] := by
    rcases padded_eq_cons positive fits with ⟨digit, others, whole, -⟩
    simp [whole]
  have kept : ((padded width number).toList ++ List.replicate 9 '0').take 9 =
      (padded width number).toList ++ List.replicate (9 - width) '0' := by
    rw [List.take_append, List.take_of_length_le (by omega), length, List.take_replicate,
      Nat.min_eq_left (by omega)]
  have value : digitsNumber ((padded width number).toList ++ List.replicate (9 - width) '0') =
      10 ^ (9 - width) * number := by
    have whole := digitsNumber_padded width number
    change Nat.ofDigitChars 10 (padded width number).toList 0 = number at whole
    change Nat.ofDigitChars 10 _ 0 = _
    rw [Nat.ofDigitChars_append, whole, Nat.ofDigitChars_replicate_zero]
  simp only [fraction?, digits]
  rw [if_neg nonempty, kept, value, List.drop_left]

theorem fraction?_fractionText {nanosecond : Nat} (within : nanosecond < 1000000000)
    (rest : List Char) (ends : rest.takeWhile Char.isDigit = []) (noPoint : rest.head? ≠ some '.') :
    fraction? ((fractionText nanosecond).toList ++ rest) = some (nanosecond, rest) := by
  rw [fractionText]
  split
  · rename_i none
    rw [none]
    cases rest with
    | nil => rfl
    | cons letter rest =>
        have other : letter ≠ '.' := by simpa using noPoint
        simp [fraction?, other]
  · have point : ∀ digits : String, ("." ++ digits).toList ++ rest = '.' :: (digits.toList ++ rest) := by
      intro digits
      simp
    split
    · rw [point, fraction?_padded (by decide) (by decide) (by omega) ends]
      simp only [Option.some.injEq, Prod.mk.injEq, and_true]
      omega
    · split
      · rw [point, fraction?_padded (by decide) (by decide) (by omega) ends]
        simp only [Option.some.injEq, Prod.mk.injEq, and_true]
        omega
      · rw [point, fraction?_padded (by decide) (by decide) (by omega) ends]
        simp

/-! ## Dates and times of day -/

theorem date?_written {date : Date} (year : 0 ≤ date.year ∧ date.year ≤ 9999)
    (month : date.month < 100) (day : date.day < 100) (valid : date.valid = true)
    (rest : List Char) :
    date? ((padded 4 date.year.toNat).toList ++ '-' :: ((padded 2 date.month).toList ++
      '-' :: ((padded 2 date.day).toList ++ rest))) = some (date, rest) := by
  have fits : date.year.toNat < 10000 := by omega
  have sameYear : (date.year.toNat : Int) = date.year := by omega
  have known : hasYear date.year = true := by
    simp only [hasYear, Bool.and_eq_true, decide_eq_true_eq]
    omega
  have visible : isBlank '-' = false := by decide
  rw [date?, dropWhile_padded (by decide) fits, year?_padded fits]
  simp only [Option.bind_eq_bind, Option.bind_some, after?_self visible,
    shortNumber?_padded month, shortNumber?_padded day, sameYear]
  exact if_pos ⟨known, valid⟩

theorem time?_written {hour minute second nanosecond : Nat} (hours : hour < 24)
    (minutes : minute < 60) (seconds : second < 60) (within : nanosecond < 1000000000)
    (rest : List Char) (ends : rest.takeWhile Char.isDigit = []) (noPoint : rest.head? ≠ some '.') :
    time? ((padded 2 hour).toList ++ ':' :: ((padded 2 minute).toList ++
      ':' :: ((padded 2 second).toList ++ ((fractionText nanosecond).toList ++ rest)))) =
        some (3600 * hour + 60 * minute + second, nanosecond, rest) := by
  have visible : isBlank ':' = false := by decide
  have noLeap : second ≠ 60 := by omega
  have least : min second 59 = second := by omega
  rw [time?, shortNumber?_padded (by omega)]
  simp only [Option.bind_eq_bind, Option.bind_some, after?_self visible,
    shortNumber?_padded (show minute < 100 by omega),
    shortNumber?_padded (show second < 100 by omega), fraction?_fractionText within rest ends noPoint,
    if_neg noLeap, least, Nat.add_zero]
  exact if_pos ⟨hours, minutes, by omega⟩

/-! ## Moments -/

structure IsPlain (moment : Instant) : Prop where
  year : daysBefore 0 ≤ moment.second / 86400 + epochDay ∧
    moment.second / 86400 + epochDay < daysBefore 10000
  fraction : moment.nanosecond < 1000000000

theorem toList_text {moment : Instant} (plain : moment.IsPlain) :
    let date := Date.ofNumber (moment.second / 86400 + epochDay)
    let time := (moment.second % 86400).toNat
    moment.text.toList = (padded 4 date.year.toNat).toList ++ '-' :: ((padded 2 date.month).toList ++
      '-' :: ((padded 2 date.day).toList ++ 'T' :: ((padded 2 (time / 3600)).toList ++
        ':' :: ((padded 2 (time / 60 % 60)).toList ++ ':' :: ((padded 2 (time % 60)).toList ++
          ((fractionText moment.nanosecond).toList ++ ['Z'])))))) := by
  intro date time
  have year := yearOf_bounds plain.year.1 plain.year.2
  have noLeap : moment.nanosecond / 1000000000 = 0 := Nat.div_eq_of_lt plain.fraction
  have fraction : moment.nanosecond % 1000000000 = moment.nanosecond :=
    Nat.mod_eq_of_lt plain.fraction
  have fourDigits : yearText date.year = padded 4 date.year.toNat := if_pos year
  change (yearText date.year ++ "-" ++ padded 2 date.month ++ "-" ++ padded 2 date.day ++ "T" ++
    padded 2 (time / 3600) ++ ":" ++ padded 2 (time / 60 % 60) ++ ":" ++
    padded 2 (time % 60 + moment.nanosecond / 1000000000) ++
      fractionText (moment.nanosecond % 1000000000) ++ "Z").toList = _
  rw [noLeap, fraction, fourDigits, Nat.add_zero]
  simp

theorem ofText?_text {moment : Instant} (plain : moment.IsPlain) :
    ofText? moment.text = some moment := by
  have written := toList_text plain
  have year := yearOf_bounds plain.year.1 plain.year.2
  have date := ofNumber_valid (moment.second / 86400 + epochDay)
  have bounds := Date.le_of_valid date.1
  have universal : offset? (['Z'].dropWhile isBlank) = some (0, []) := by decide
  -- The seconds of the day, and then those since 1970, are put together again.
  have ofDay : 3600 * ((moment.second % 86400).toNat / 3600) +
      60 * ((moment.second % 86400).toNat / 60 % 60) + (moment.second % 86400).toNat % 60 =
        (moment.second % 86400).toNat := by omega
  have sinceEpoch : 86400 * (moment.second / 86400 + epochDay - epochDay) +
      ((moment.second % 86400).toNat : Int) - 0 = moment.second := by omega
  have known : hasYear (yearOf (moment.second / 86400 + epochDay)) = true := by
    simp only [hasYear, Bool.and_eq_true, decide_eq_true_eq]
    omega
  rw [ofText?, written, date?_written year (by omega) (by omega) date.1]
  simp only [Option.bind_eq_bind, Option.bind_some, List.head?_cons, Option.map_some, List.tail_cons]
  rw [time?_written (by omega) (by omega) (by omega) plain.fraction ['Z'] rfl (by decide),
    if_pos (by rfl : isDivider 'T' = true)]
  simp only [Option.bind_some, universal, ofDay, date.2, sinceEpoch]
  exact if_pos ⟨rfl, known⟩

end Entitlement.Instant
