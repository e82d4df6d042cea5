import Entitlement.Instant.Calendar
import Mathlib.Algebra.Ring.Nat

/-! # Days and their numbers

A year begins 365 or 366 days after the one before. So each number of a day lies in exactly one
year, and within the year in exactly one month: the date with a number exists, and has that
number. -/

namespace Entitlement.Calendar

/-! ## Years -/

theorem isLeap_eq_true_iff (year : Int) :
    isLeap year = true ↔ year % 4 = 0 ∧ (year % 100 ≠ 0 ∨ year % 400 = 0) := by
  simp [isLeap]

theorem daysBefore_add_one (year : Int) :
    daysBefore (year + 1) = daysBefore year + (monthLengths year).sum := by
  have months : (monthLengths year).sum = if isLeap year then 366 else 365 := by
    cases leap : isLeap year <;> simp [monthLengths, leap]
  have leap := isLeap_eq_true_iff year
  rw [months, daysBefore, daysBefore]
  split
  · rename_i isLeap
    have rule := leap.mp isLeap
    omega
  · rename_i isCommon
    have rule := mt leap.mpr isCommon
    omega

theorem daysBefore_yearOf (number : Int) :
    daysBefore (yearOf number) ≤ number ∧ number < daysBefore (yearOf number + 1) := by
  -- On average a year has 146097/400 days, and no year begins more than two days off.
  have near : daysBefore (400 * number / 146097 - 1) ≤ number ∧
      number < daysBefore (400 * number / 146097 + 2) := by
    rw [daysBefore, daysBefore]
    omega
  rw [yearOf]
  split
  · rename_i before
    rw [Int.sub_add_cancel]
    exact ⟨near.1, before⟩
  · rename_i notBefore
    split
    · rename_i after
      rw [Int.add_assoc]
      exact ⟨after, near.2⟩
    · rename_i notAfter
      omega

/-! ## Months -/

theorem splitMonths_eq {lengths : List Nat} {rest : Nat} (within : rest < lengths.sum)
    (month : Nat) :
    ∃ before length after, lengths = before ++ length :: after ∧ before.sum ≤ rest ∧
      rest < before.sum + length ∧
        splitMonths month lengths rest = (month + before.length, rest - before.sum + 1) := by
  induction lengths generalizing month rest with
  | nil => simp at within
  | cons length lengths induction =>
      rw [splitMonths]
      by_cases first : rest < length
      · rw [if_pos first]
        exact ⟨[], length, lengths, rfl, by simp, by simpa using first, by simp⟩
      · rw [List.sum_cons] at within
        have less : rest - length < lengths.sum := by omega
        rcases induction less (month + 1) with ⟨before, found, after, whole, lower, upper, split⟩
        refine ⟨length :: before, found, after, by rw [whole, List.cons_append], ?_, ?_, ?_⟩
        · rw [List.sum_cons]
          omega
        · rw [List.sum_cons]
          omega
        · rw [if_neg first, split, List.length_cons, List.sum_cons, Prod.mk.injEq]
          omega

/-! ## Dates -/

theorem foldl_add (lengths : List Nat) (start : Nat) :
    lengths.foldl (· + ·) start = lengths.sum + start := by
  induction lengths generalizing start with
  | nil => simp
  | cons length lengths induction =>
      rw [List.foldl_cons, induction, List.sum_cons]
      omega

theorem Date.le_of_valid {date : Date} (valid : date.valid = true) :
    date.month ≤ 12 ∧ date.day ≤ 31 := by
  have longest : ∀ length ∈ monthLengths date.year, length ≤ 31 := by
    cases leap : isLeap date.year <;> simp [monthLengths, leap]
  have months : (monthLengths date.year).length = 12 := rfl
  simp only [Date.valid, Bool.and_eq_true, decide_eq_true_eq] at valid
  cases found : (monthLengths date.year)[date.month - 1]? with
  | none => simp [found] at valid
  | some length =>
      have index := (List.getElem?_eq_some_iff.mp found).1
      have short := longest length (List.mem_of_getElem? found)
      simp only [found, Option.any_some, decide_eq_true_eq] at valid
      omega

theorem yearOf_bounds {number : Int} (first : daysBefore 0 ≤ number)
    (last : number < daysBefore 10000) : 0 ≤ yearOf number ∧ yearOf number ≤ 9999 := by
  have year := daysBefore_yearOf number
  rw [daysBefore] at first last
  rw [daysBefore, daysBefore] at year
  omega

theorem ofNumber_valid (number : Int) :
    (Date.ofNumber number).valid = true ∧ (Date.ofNumber number).number = number := by
  have year := daysBefore_yearOf number
  have next := daysBefore_add_one (yearOf number)
  have within : (number - daysBefore (yearOf number)).toNat < (monthLengths (yearOf number)).sum := by
    omega
  rcases splitMonths_eq within 1 with ⟨before, length, after, whole, lower, upper, split⟩
  rw [Date.ofNumber, split]
  constructor
  · have found : (monthLengths (yearOf number))[1 + before.length - 1]? = some length := by
      rw [whole, Nat.add_sub_cancel_left]
      simp
    simp only [Date.valid, found, Option.any_some, Bool.and_eq_true, decide_eq_true_eq]
    omega
  · have months : (monthLengths (yearOf number)).take (1 + before.length - 1) = before := by
      rw [whole, Nat.add_sub_cancel_left]
      exact List.take_left
    rw [Date.number]
    simp only [months, foldl_add]
    omega

example : Date.ofNumber (Date.mk 2024 2 29).number = ⟨2024, 2, 29⟩ ∧
    Date.ofNumber (-1) = ⟨-1, 12, 31⟩ := by decide

end Entitlement.Calendar
