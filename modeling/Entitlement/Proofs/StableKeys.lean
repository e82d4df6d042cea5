import Entitlement.Proofs.UpperCase
import Entitlement.Proofs.Words

/-! # Keys of keys

Nothing in a key changes when a key is made of it once more: its letters are in upper case already,
and the underscores in it set off the same words. -/

namespace Entitlement

namespace Title

open Text

theorem flatMap_upperCase_ne_nil {word : List Char} (nonempty : word ≠ []) :
    word.flatMap upperCase ≠ [] := by
  rcases List.exists_cons_of_ne_nil nonempty with ⟨first, more, rfl⟩
  rw [List.flatMap_cons]
  exact List.append_ne_nil_of_left_ne_nil (upperCase_ne_nil first) _

theorem flatMap_upperCase_unbroken {word : List Char}
    (unbroken : ∀ letter ∈ word, isSeparator letter = false) :
    ∀ capital ∈ word.flatMap upperCase, isSeparator capital = false := by
  intro capital member
  rcases List.mem_flatMap.mp member with ⟨letter, isLetter, isCapital⟩
  exact (upperCase_of_mem_upperCase isCapital).2 (unbroken letter isLetter)

def setOff (titleWords : List (List Char)) : List Char :=
  titleWords.flatMap fun word => '_' :: word.flatMap upperCase

theorem head?_setOff (titleWords : List (List Char)) :
    ∀ letter ∈ (setOff titleWords).head?, isSeparator letter = true := by
  cases titleWords with
  | nil => exact fun _ missing => by cases missing
  | cons => exact fun _ first => Option.some.inj first ▸ rfl

theorem HasWords.setOff {letters : List Char} {titleWords : List (List Char)}
    (hasWords : HasWords letters titleWords) :
    HasWords (Title.setOff titleWords) (titleWords.map (·.flatMap upperCase)) := by
  induction hasWords with
  | none => exact .none (List.forall_mem_nil _)
  | @cons _ word _ others _ nonempty unbroken _ _ induction =>
      have underscore : ∀ letter ∈ ['_'], isSeparator letter = true :=
        List.forall_mem_singleton.mpr rfl
      exact .cons underscore (flatMap_upperCase_ne_nil nonempty)
        (flatMap_upperCase_unbroken unbroken) (head?_setOff others) induction

theorem HasWords.joined {letters : List Char} {titleWords : List (List Char)}
    (hasWords : HasWords letters titleWords) :
    HasWords (joinWords titleWords) (titleWords.map (·.flatMap upperCase)) := by
  cases hasWords with
  | none => exact .none (List.forall_mem_nil _)
  | @cons _ word _ others _ nonempty unbroken _ hasWords =>
      rw [joinWords_cons]
      exact .begin (flatMap_upperCase_ne_nil nonempty) (flatMap_upperCase_unbroken unbroken)
        (head?_setOff others) hasWords.setOff

theorem joinWords_map_upperCase (titleWords : List (List Char)) :
    joinWords (titleWords.map (·.flatMap upperCase)) = joinWords titleWords := by
  rw [joinWords, joinWords, List.map_map]
  congr 1
  exact List.map_congr_left fun word _ => flatMap_upperCase_flatMap_upperCase word

/-! ## Keys -/

/-- The words of a key are the words of the title in upper case, so a key is its own key. A title
leads to a role key exactly if its key does, and both lead to the same one. -/
theorem key_of_key (title : String) :
    words (key title).toList = (words title.toList).map (·.flatMap upperCase) ∧
      key (key title) = key title ∧
      ∀ roleKey, RoleKey.ofTitle (key title) = .ok roleKey ↔
        RoleKey.ofTitle title = .ok roleKey := by
  have own : HasWords title.toList (words title.toList) := hasWords_words title.toList
  have again : HasWords (key title).toList ((words title.toList).map (·.flatMap upperCase)) := by
    rw [own.key_eq, String.toList_ofList]
    exact own.joined
  have stable : key (key title) = key title := by
    rw [again.key_eq, joinWords_map_upperCase, own.key_eq]
  refine ⟨(hasWords_iff.mp again).symm, stable, fun roleKey => ?_⟩
  rw [RoleKey.ofTitle, RoleKey.ofTitle, stable]
  cases RoleKey.ofName? (key title) with
  | none => simp
  | some => rfl

example : key "ŉ-ﬁ ǆ" = "ʼN_FI_Ǆ" ∧ key "ʼN_FI_Ǆ" = "ʼN_FI_Ǆ" := by decide +kernel

end Title
end Entitlement
