import Entitlement.Proofs.RoundTrips
import Mathlib.Data.List.Forall2

/-! # Spellings of identifiers

The texts that are read as an identifier are exactly those in one of four forms, with digits of
either case and nothing around them. No text has two readings: the forms differ in length. -/

namespace Entitlement.Uuid

/-! ## Digits -/

def WritesDigit (letter : Char) (digit : Fin 16) : Prop :=
  letter = digitChar digit ∨ letter = (digitChar digit).toUpper

instance (letter : Char) (digit : Fin 16) : Decidable (WritesDigit letter digit) :=
  inferInstanceAs (Decidable (_ ∨ _))

theorem digitValue?_eq_some_iff (letter : Char) (digit : Fin 16) :
    digitValue? letter = some digit ↔ WritesDigit letter digit := by
  constructor
  · intro value
    have small : letter.toNat < 103 := by
      by_contra large
      rw [digitValue?, dif_neg (by omega), dif_neg (by omega), dif_neg (by omega)] at value
      cases value
    have writes : ∀ code < 103, ∀ digit, digitValue? (Char.ofNat code) = some digit →
        WritesDigit (Char.ofNat code) digit := by
      decide +kernel
    have ofCode := writes letter.toNat small digit
    rw [Char.ofNat_toNat] at ofCode
    exact ofCode value
  · rintro (rfl | rfl)
    · exact digitValue?_digitChar digit
    · revert digit
      decide

def Writes (written : List Char) (uuid : Uuid) : Prop :=
  List.Forall₂ WritesDigit written uuid.digits

theorem Writes.length {written : List Char} {uuid : Uuid} (writes : Writes written uuid) :
    written.length = 32 :=
  (List.Forall₂.length_eq writes).trans uuid.length_digits

theorem mapM_digitValue?_eq_some_iff (letters : List Char) (digits : List (Fin 16)) :
    letters.mapM digitValue? = some digits ↔ List.Forall₂ WritesDigit letters digits := by
  induction letters generalizing digits with
  | nil => simp [eq_comm]
  | cons letter letters induction =>
      rw [List.mapM_cons, List.forall₂_cons_left_iff]
      simp only [Option.bind_eq_bind, Option.bind_eq_some_iff, digitValue?_eq_some_iff, induction,
        Option.pure_def, Option.some.injEq]
      constructor
      · rintro ⟨digit, writes, others, write, rfl⟩
        exact ⟨digit, others, writes, write, rfl⟩
      · rintro ⟨digit, others, writes, write, rfl⟩
        exact ⟨digit, writes, others, write, rfl⟩

theorem ofPlain?_eq_some_iff (letters : List Char) (uuid : Uuid) :
    ofPlain? letters = some uuid ↔ Writes letters uuid := by
  rw [ofPlain?, Option.bind_eq_some_iff, Writes]
  constructor
  · rintro ⟨digits, values, whole⟩
    rw [ofDigits?] at whole
    split at whole
    · cases whole
      exact (mapM_digitValue?_eq_some_iff letters digits).mp values
    · cases whole
  · intro writes
    exact ⟨uuid.digits, (mapM_digitValue?_eq_some_iff letters uuid.digits).mpr writes,
      dif_pos uuid.length_digits⟩

/-! ## Groups of digits -/

def hyphenate (written : List Char) : List Char :=
  written.take 8 ++ '-' :: (written.drop 8).take 4 ++ '-' :: (written.drop 12).take 4 ++
    '-' :: (written.drop 16).take 4 ++ '-' :: written.drop 20

theorem length_hyphenate {written : List Char} {uuid : Uuid} (writes : Writes written uuid) :
    (hyphenate written).length = 36 := by
  simp [hyphenate, writes.length]

theorem ofHyphenated?_hyphenate {written : List Char} {uuid : Uuid}
    (writes : Writes written uuid) : ofHyphenated? (hyphenate written) = some uuid := by
  rw [hyphenate, ofHyphenated?_groups, ← List.take_add, ← List.take_add, ← List.take_add,
    List.take_append_drop, (ofPlain?_eq_some_iff written uuid).mpr writes]
  all_goals simp [writes.length]

theorem hyphenate_groups {first second third fourth fifth : List Char}
    (length₁ : first.length = 8) (length₂ : second.length = 4) (length₃ : third.length = 4)
    (length₄ : fourth.length = 4) :
    hyphenate (first ++ second ++ third ++ fourth ++ fifth) =
      first ++ '-' :: second ++ '-' :: third ++ '-' :: fourth ++ '-' :: fifth := by
  simp [hyphenate, length₁, length₂, length₃, length₄, List.drop_append, List.drop_eq_nil_of_le]

theorem drop_eq_group {letters : List Char} {position count : Nat}
    (hyphen : letters[position + count]? = some '-') :
    letters.drop position =
      (letters.drop position).take count ++ '-' :: letters.drop (position + count + 1) := by
  rcases List.getElem?_eq_some_iff.mp hyphen with ⟨inside, equal⟩
  calc letters.drop position
      = (letters.drop position).take count ++ (letters.drop position).drop count :=
        (List.take_append_drop count _).symm
    _ = (letters.drop position).take count ++ '-' :: letters.drop (position + count + 1) := by
        rw [List.drop_drop, List.drop_eq_getElem_cons inside, equal]

theorem ofHyphenated?_eq_some_iff (letters : List Char) (uuid : Uuid) :
    ofHyphenated? letters = some uuid ↔
      ∃ written, Writes written uuid ∧ letters = hyphenate written := by
  constructor
  · intro reads
    rw [ofHyphenated?] at reads
    split at reads
    · rename_i inPlace
      rcases inPlace with ⟨length, first, second, third, fourth⟩
      refine ⟨_, (ofPlain?_eq_some_iff _ uuid).mp reads, ?_⟩
      have group₁ : letters = letters.take 8 ++ '-' :: letters.drop 9 :=
        drop_eq_group (show letters[0 + 8]? = some '-' from first)
      have group₂ : letters.drop 9 = (letters.drop 9).take 4 ++ '-' :: letters.drop 14 :=
        drop_eq_group second
      have group₃ : letters.drop 14 = (letters.drop 14).take 4 ++ '-' :: letters.drop 19 :=
        drop_eq_group third
      have group₄ : letters.drop 19 = (letters.drop 19).take 4 ++ '-' :: letters.drop 24 :=
        drop_eq_group fourth
      rw [hyphenate_groups (by simp [length]) (by simp [length]) (by simp [length])
        (by simp [length])]
      simp only [List.append_assoc, List.cons_append]
      rw [← group₄, ← group₃, ← group₂, ← group₁]
    · cases reads
  · rintro ⟨written, writes, rfl⟩
    exact ofHyphenated?_hyphenate writes

/-! ## Forms -/

/-- A text spells an identifier in one of four forms: its digits; its digits with hyphens, as they
are, in braces, or after `urn:uuid:`. All digits, and the letters of that prefix, can be of either
case. -/
inductive Spells : List Char → Uuid → Prop where
  | plain {written : List Char} {uuid : Uuid} (writes : Writes written uuid) : Spells written uuid
  | hyphenated {written : List Char} {uuid : Uuid} (writes : Writes written uuid) :
      Spells (hyphenate written) uuid
  | braced {written : List Char} {uuid : Uuid} (writes : Writes written uuid) :
      Spells ('{' :: (hyphenate written ++ ['}'])) uuid
  | urn {scheme written : List Char} {uuid : Uuid}
      (isScheme : scheme.map Char.toLower = "urn:uuid:".toList) (writes : Writes written uuid) :
      Spells (scheme ++ hyphenate written) uuid

theorem unbraced?_eq_some_iff (letters inner : List Char) :
    unbraced? letters = some inner ↔ letters = '{' :: (inner ++ ['}']) := by
  constructor
  · intro unbraced
    unfold unbraced? at unbraced
    split at unbraced
    · split at unbraced
      · rename_i rest closed
        cases unbraced
        rw [List.dropLast_append_getLast? '}' closed]
      · cases unbraced
    · cases unbraced
  · rintro rfl
    simp [unbraced?]

theorem length_of_isScheme {scheme : List Char}
    (isScheme : scheme.map Char.toLower = "urn:uuid:".toList) : scheme.length = 9 := by
  rw [← List.length_map Char.toLower, isScheme]
  rfl

theorem afterUrn?_eq_some_iff (letters rest : List Char) :
    afterUrn? letters = some rest ↔
      ∃ scheme, scheme.map Char.toLower = "urn:uuid:".toList ∧ letters = scheme ++ rest := by
  constructor
  · intro follows
    rw [afterUrn?] at follows
    split at follows
    · rename_i isScheme
      cases follows
      exact ⟨letters.take 9, isScheme, (List.take_append_drop 9 letters).symm⟩
    · cases follows
  · rintro ⟨scheme, isScheme, rfl⟩
    rw [afterUrn?, ← length_of_isScheme isScheme, List.take_left, List.drop_left, if_pos isScheme]

/-! ## Readings -/

theorem ofPlain?_eq_none {letters : List Char} (length : letters.length ≠ 32) :
    ofPlain? letters = none := by
  refine Option.eq_none_iff_forall_ne_some.mpr fun uuid reads => length ?_
  exact ((ofPlain?_eq_some_iff letters uuid).mp reads).length

theorem ofHyphenated?_eq_none {letters : List Char} (length : letters.length ≠ 36) :
    ofHyphenated? letters = none := by
  refine Option.eq_none_iff_forall_ne_some.mpr fun uuid reads => length ?_
  rcases (ofHyphenated?_eq_some_iff letters uuid).mp reads with ⟨written, writes, rfl⟩
  exact length_hyphenate writes

theorem bind_unbraced?_eq_none {letters : List Char} (length : letters.length ≠ 38) :
    (unbraced? letters).bind ofHyphenated? = none := by
  refine Option.bind_eq_none_iff.mpr fun inner unbraced => ofHyphenated?_eq_none fun inside => ?_
  rw [(unbraced?_eq_some_iff letters inner).mp unbraced] at length
  simp [inside] at length

theorem ofLetters?_eq_some_iff (letters : List Char) (uuid : Uuid) :
    ofLetters? letters = some uuid ↔ Spells letters uuid := by
  constructor
  · intro reads
    simp only [ofLetters?, Option.orElse_eq_orElse, Option.orElse_eq_or, Option.or_eq_some_iff,
      Option.bind_eq_some_iff, ofPlain?_eq_some_iff, ofHyphenated?_eq_some_iff,
      unbraced?_eq_some_iff, afterUrn?_eq_some_iff] at reads
    rcases reads with writes | ⟨-, ⟨written, writes, rfl⟩ | ⟨-,
      ⟨inner, rfl, written, writes, rfl⟩ | ⟨-, rest, ⟨scheme, isScheme, rfl⟩, written, writes, rfl⟩⟩⟩
    · exact .plain writes
    · exact .hyphenated writes
    · exact .braced writes
    · exact .urn isScheme writes
  · intro spells
    -- A form is tried only after others, which fail because their texts have other lengths.
    cases spells with
    | plain writes =>
        rw [ofLetters?, (ofPlain?_eq_some_iff letters uuid).mpr writes]
        rfl
    | hyphenated writes =>
        have length := length_hyphenate writes
        rw [ofLetters?, ofPlain?_eq_none (by omega), ofHyphenated?_hyphenate writes]
        rfl
    | @braced written _ writes =>
        have length : ('{' :: (hyphenate written ++ ['}'])).length = 38 := by
          simp [length_hyphenate writes]
        rw [ofLetters?, ofPlain?_eq_none (by omega), ofHyphenated?_eq_none (by omega),
          (unbraced?_eq_some_iff _ (hyphenate written)).mpr rfl, Option.bind_some,
          ofHyphenated?_hyphenate writes]
        rfl
    | @urn scheme written _ isScheme writes =>
        have length : (scheme ++ hyphenate written).length = 45 := by
          rw [List.length_append, length_of_isScheme isScheme, length_hyphenate writes]
        rw [ofLetters?, ofPlain?_eq_none (by omega), ofHyphenated?_eq_none (by omega),
          bind_unbraced?_eq_none (by omega),
          (afterUrn?_eq_some_iff _ (hyphenate written)).mpr ⟨scheme, isScheme, rfl⟩,
          Option.bind_some, ofHyphenated?_hyphenate writes]
        rfl

instance (letters : List Char) (uuid : Uuid) : Decidable (Spells letters uuid) :=
  decidable_of_iff _ (ofLetters?_eq_some_iff letters uuid)

theorem ofText?_eq_some_iff (text : String) (uuid : Uuid) :
    ofText? text = some uuid ↔ Spells text.toList uuid :=
  ofLetters?_eq_some_iff text.toList uuid

theorem ofText?_eq_none_iff (text : String) :
    ofText? text = none ↔ ¬∃ uuid, Spells text.toList uuid := by
  simp only [← ofText?_eq_some_iff, ← Option.isSome_iff_exists, Option.not_isSome_iff_eq_none]

example : (ofText? "{67E55044-10b1-426f-9247-bb680e5fe0c8}").map text =
      some "67e55044-10b1-426f-9247-bb680e5fe0c8" ∧
    ofText? "Urn:uuid:67e5504410b1426f9247bb680e5fe0c8" = none := by decide +kernel

end Entitlement.Uuid
