import Entitlement.Service.Roles
import Mathlib.Data.List.DropRight

/-! # Titles of roles

A title is taken without the blanks at its ends. Blanks separate words, so they make no
difference to the key that follows from the title: a title that was trimmed leads to the same
key, and a title of blanks only leads to none. -/

namespace Entitlement

/-! ## Trimming -/

namespace Text

def IsAllBlank (text : String) : Prop :=
  ∀ letter ∈ text.toList, isBlank letter = true

instance (text : String) : Decidable (IsAllBlank text) :=
  List.decidableBAll (isBlank · = true) text.toList

theorem trimList_eq_nil_iff (letters : List Char) :
    trimList letters = [] ↔ ∀ letter ∈ letters, isBlank letter = true := by
  refine List.rdropWhile_eq_nil_iff.trans ⟨fun rest => ?_, fun blank letter member => ?_⟩
  · rw [← List.dropWhile_eq_nil_iff, ← List.dropWhile_idempotent]
    exact List.dropWhile_eq_nil_iff.mpr rest
  · exact blank letter ((List.dropWhile_sublist _).subset member)

theorem exists_trimList (letters : List Char) :
    ∃ front back, letters = front ++ (trimList letters ++ back) ∧
      (∀ letter ∈ front, isBlank letter = true) ∧ ∀ letter ∈ back, isBlank letter = true := by
  refine ⟨letters.takeWhile isBlank, (letters.dropWhile isBlank).rtakeWhile isBlank, ?_,
    fun letter => List.mem_takeWhile_imp, fun letter => List.mem_rtakeWhile_imp⟩
  have ends : trimList letters ++ (letters.dropWhile isBlank).rtakeWhile isBlank =
      letters.dropWhile isBlank := List.rdropWhile_append_rtakeWhile
  rw [ends, List.takeWhile_append_dropWhile]

theorem trimList_trimList (letters : List Char) :
    trimList (trimList letters) = trimList letters := by
  have front : (trimList letters).dropWhile isBlank = trimList letters := by
    refine List.dropWhile_eq_self_iff.mpr fun nonempty isBlankFirst => ?_
    rcases List.rdropWhile_prefix isBlank (letters.dropWhile isBlank) with ⟨back, whole⟩
    have whole : trimList letters ++ back = letters.dropWhile isBlank := whole
    -- The first letter that is left is the first one that is not blank.
    have first : 0 < (letters.dropWhile isBlank).length := by
      rw [← whole, List.length_append]
      omega
    have notBlank := List.dropWhile_eq_self_iff.mp (List.dropWhile_idempotent isBlank letters) first
    simp only [← whole, List.getElem_append_left nonempty] at notBlank
    exact notBlank isBlankFirst
  rw [trimList, front]
  exact List.rdropWhile_idempotent isBlank _

theorem trim_eq_empty_iff (text : String) : trim text = "" ↔ IsAllBlank text := by
  rw [trim, IsAllBlank, ← trimList_eq_nil_iff, ← String.ofList_nil, String.ofList_inj]

theorem trim_trim (text : String) : trim (trim text) = trim text := by
  rw [trim, trim, String.toList_ofList, trimList_trimList]

end Text

/-! ## Keys of titles -/

namespace Title

open Text

theorem writeKey_of_unwritten (separated : Bool) (letters : List Char) :
    writeKey false separated letters = writeKey false false letters := by
  cases letters <;> rfl

theorem writeKey_separators_append {front : List Char}
    (separate : ∀ letter ∈ front, isSeparator letter = true) (rest : List Char) :
    writeKey false false (front ++ rest) = writeKey false false rest := by
  induction front with
  | nil => rfl
  | cons letter front induction =>
      rcases List.forall_mem_cons.mp separate with ⟨first, others⟩
      rw [List.cons_append, writeKey, if_pos first, writeKey_of_unwritten, induction others]

theorem writeKey_separators {letters : List Char}
    (separate : ∀ letter ∈ letters, isSeparator letter = true) (written separated : Bool) :
    writeKey written separated letters = [] := by
  induction letters generalizing separated with
  | nil => rfl
  | cons letter letters induction =>
      rcases List.forall_mem_cons.mp separate with ⟨first, others⟩
      rw [writeKey, if_pos first, induction others]

theorem writeKey_append_separators {back : List Char}
    (separate : ∀ letter ∈ back, isSeparator letter = true) (written separated : Bool)
    (letters : List Char) :
    writeKey written separated (letters ++ back) = writeKey written separated letters := by
  induction letters generalizing written separated with
  | nil => exact writeKey_separators separate written separated
  | cons letter letters induction =>
      rw [List.cons_append, writeKey, writeKey, induction, induction]

theorem separate_of_blank {letters : List Char}
    (blank : ∀ letter ∈ letters, isBlank letter = true) :
    ∀ letter ∈ letters, isSeparator letter = true := by
  intro letter member
  simp [isSeparator, blank letter member]

theorem key_of_allBlank {title : String} (blank : IsAllBlank title) : key title = "" := by
  rw [key, writeKey_separators (separate_of_blank blank), String.ofList_nil]

theorem key_trim (title : String) : key (trim title) = key title := by
  rcases exists_trimList title.toList with ⟨front, back, whole, blankFront, blankBack⟩
  rw [key, key, trim, String.toList_ofList]
  conv => rhs; rw [whole]
  rw [writeKey_separators_append (separate_of_blank blankFront),
    writeKey_append_separators (separate_of_blank blankBack)]

end Title

/-! ## Checking titles -/

def RoleKey.ofTitle? (title : String) : Option RoleKey :=
  ofName? (Title.key title)

theorem RoleKey.not_allBlank_of_mapped {title : String} {key : RoleKey}
    (mapped : ofTitle? title = some key) : ¬ Text.IsAllBlank title := by
  intro blank
  rw [ofTitle?, Title.key_of_allBlank blank] at mapped
  cases mapped

theorem RoleKey.ofTitle_trim (title : String) :
    RoleKey.ofTitle (Text.trim title) =
      match ofTitle? title with
      | some key => .ok key
      | none => .error (.invalidBody "title"
          ("'" ++ Text.trim title ++ "' does not map to a known role key")) := by
  rw [RoleKey.ofTitle, Title.key_trim, Text.trim_trim]
  rfl

namespace Service

theorem validTitle_of_allBlank {title : String} (blank : Text.IsAllBlank title) :
    validTitle title = .error (.invalidBody "title" "must not be empty") := by
  rw [validTitle, (Text.trim_eq_empty_iff title).mpr blank]
  rfl

theorem validTitle_of_not_allBlank {title : String} (written : ¬ Text.IsAllBlank title) :
    validTitle title = .ok (Text.trim title) := by
  have nonempty : (Text.trim title).isEmpty = false := by
    rw [← Text.trim_eq_empty_iff, ← String.isEmpty_iff] at written
    exact Bool.of_not_eq_true written
  rw [validTitle]
  simp only [nonempty, Bool.false_eq_true, if_false]

end Service
end Entitlement
