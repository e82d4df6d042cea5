import Entitlement.Title
import Mathlib.Data.List.Basic

/-! # Letters in upper case

A letter in upper case is its own upper case, and it separates words only if the letter did. Only
runs of codes are compared for this: the partners in a run are letters of no run, they do not
become several letters, and they separate no words. -/

namespace Entitlement

/-! ## Runs of partners -/

namespace Text.LetterRun

theorem partner?_eq_some_iff {run : LetterRun} {code partner : Nat} :
    run.partner? code = some partner ↔
      (run.first ≤ code ∧ code ≤ run.last ∧ (code - run.first) % run.stride = 0) ∧
        run.partner + (code - run.first) = partner := by
  rw [partner?]
  split <;> simp_all

def lastPartner (run : LetterRun) : Nat :=
  run.partner + (run.last - run.first)

def liesOutside (run : LetterRun) (first last : Nat) : Bool :=
  last.blt run.partner || run.lastPartner.blt first

theorem not_within_of_liesOutside {run : LetterRun} {first last code partner : Nat}
    (outside : run.liesOutside first last = true) (isPartner : run.partner? code = some partner) :
    ¬(first ≤ partner ∧ partner ≤ last) := by
  rcases partner?_eq_some_iff.mp isPartner with ⟨⟨lower, upper, -⟩, rfl⟩
  simp only [liesOutside, lastPartner, Bool.or_eq_true, Nat.blt_eq] at outside
  omega

/-- No partner in the one run is a letter of the other run. Either they lie apart, or only every
second code is a letter there, and the partners have the codes between them. -/
def isClearOf (run other : LetterRun) : Bool :=
  run.liesOutside other.first other.last ||
    (other.stride == 2 && (run.stride == 2 || run.first == run.last) &&
      run.partner % 2 != other.first % 2)

theorem partner?_eq_none_of_isClearOf {run other : LetterRun} {code partner : Nat}
    (clear : run.isClearOf other = true) (isPartner : run.partner? code = some partner) :
    other.partner? partner = none := by
  rw [partner?, if_neg]
  rintro ⟨lower, upper, isLetter⟩
  simp only [isClearOf, Bool.or_eq_true, Bool.and_eq_true, beq_iff_eq, bne_iff_ne] at clear
  rcases clear with outside | ⟨⟨everySecond, steps⟩, between⟩
  · exact not_within_of_liesOutside outside isPartner ⟨lower, upper⟩
  · rcases partner?_eq_some_iff.mp isPartner with ⟨⟨ownLower, ownUpper, isOwn⟩, rfl⟩
    rw [everySecond] at isLetter
    rcases steps with two | one
    · rw [two] at isOwn
      omega
    · omega

def single (code : Nat) : LetterRun := ⟨code, code, 1, code⟩

theorem partner?_single (code : Nat) : (single code).partner? code = some code := by
  simp [single, partner?]

end Text.LetterRun

/-! ## Letters in upper case -/

namespace Text

def capitalRuns : List LetterRun :=
  letterRuns ++ (expansions.flatMap (·.2)).eraseDups.map .single

def separatorRuns : List (Nat × Nat) :=
  blankRuns ++ [('-'.toNat, '-'.toNat), ('_'.toNat, '_'.toNat)]

theorem exists_separatorRun {letter : Char} (separates : Title.isSeparator letter = true) :
    ∃ codes ∈ separatorRuns, codes.1 ≤ letter.toNat ∧ letter.toNat ≤ codes.2 := by
  simp only [Title.isSeparator, isBlank, Bool.or_eq_true, beq_iff_eq, List.any_eq_true,
    Bool.and_eq_true, decide_eq_true_eq] at separates
  rcases separates with (⟨codes, isRun, within⟩ | rfl) | rfl
  · exact ⟨codes, List.mem_append_left _ isRun, within⟩
  · exact ⟨_, List.mem_append_right _ List.mem_cons_self, Nat.le_refl _, Nat.le_refl _⟩
  · exact ⟨_, List.mem_append_right _ (List.mem_cons_of_mem _ List.mem_cons_self),
      Nat.le_refl _, Nat.le_refl _⟩

/-- The partners in the run are characters. None of them has a partner of its own, none becomes
several letters, and none separates words. -/
structure LetterRun.IsFinal (run : LetterRun) : Prop where
  bounded : run.lastPartner < 0x110000
  noSurrogate : run.liesOutside 0xD800 0xDFFF = true
  clear : ∀ other ∈ letterRuns, run.isClearOf other = true
  unexpanded : ∀ entry ∈ expansions, run.liesOutside entry.1 entry.1 = true
  belongs : ∀ codes ∈ separatorRuns, run.liesOutside codes.1 codes.2 = true

theorem isFinal_of_mem_capitalRuns {run : LetterRun} (isRun : run ∈ capitalRuns) :
    run.IsFinal := by
  have bounded : capitalRuns.all (·.lastPartner.blt 0x110000) = true := by decide +kernel
  have noSurrogate : capitalRuns.all (·.liesOutside 0xD800 0xDFFF) = true := by decide +kernel
  have clear : capitalRuns.all (fun run => letterRuns.all run.isClearOf) = true := by
    decide +kernel
  have unexpanded : capitalRuns.all (fun run =>
      expansions.all fun entry => run.liesOutside entry.1 entry.1) = true := by
    decide +kernel
  have belongs : capitalRuns.all (fun run =>
      separatorRuns.all fun codes => run.liesOutside codes.1 codes.2) = true := by
    decide +kernel
  simp only [List.all_eq_true, Nat.blt_eq] at bounded noSurrogate clear unexpanded belongs
  exact ⟨bounded run isRun, noSurrogate run isRun, clear run isRun, unexpanded run isRun,
    belongs run isRun⟩

theorem exists_capitalRun {code capital : Nat} (isCapital : capital ∈ upperCaseCodes code) :
    (capital = code ∧ upperCaseCodes code = [code]) ∨
      ∃ run ∈ capitalRuns, ∃ letter, run.partner? letter = some capital := by
  rw [upperCaseCodes] at isCapital ⊢
  cases expanded : expansions.lookup code with
  | some codes =>
      right
      rw [expanded] at isCapital
      rcases List.lookup_eq_some_iff.mp expanded with ⟨before, after, whole, -⟩
      have isEntry : (code, codes) ∈ expansions := whole ▸ List.mem_append_right _ List.mem_cons_self
      have isKnown : capital ∈ (expansions.flatMap (·.2)).eraseDups :=
        List.mem_eraseDups.mpr (List.mem_flatMap.mpr ⟨(code, codes), isEntry, isCapital⟩)
      exact ⟨.single capital, List.mem_append_right _ (List.mem_map_of_mem isKnown), capital,
        LetterRun.partner?_single capital⟩
  | none =>
      rw [expanded] at isCapital
      cases found : letterRuns.findSome? (·.partner? code) with
      | none =>
          rw [found] at isCapital
          exact Or.inl ⟨List.mem_singleton.mp isCapital, rfl⟩
      | some partner =>
          rw [found] at isCapital
          cases List.mem_singleton.mp isCapital
          rcases List.exists_of_findSome?_eq_some found with ⟨run, isRun, isPartner⟩
          exact Or.inr ⟨run, List.mem_append_left _ isRun, code, isPartner⟩

theorem LetterRun.IsFinal.upperCaseCodes_eq {run : LetterRun} (final : run.IsFinal)
    {letter capital : Nat} (isPartner : run.partner? letter = some capital) :
    upperCaseCodes capital = [capital] := by
  have notExpanded : expansions.lookup capital = none := by
    refine List.lookup_eq_none_iff.mpr fun entry isEntry => bne_iff_ne.mpr fun equal => ?_
    exact not_within_of_liesOutside (final.unexpanded entry isEntry) isPartner
      ⟨equal ▸ Nat.le_refl _, equal ▸ Nat.le_refl _⟩
  have noPartner : letterRuns.findSome? (·.partner? capital) = none :=
    List.findSome?_eq_none_iff.mpr fun other isOther =>
      partner?_eq_none_of_isClearOf (final.clear other isOther) isPartner
  rw [upperCaseCodes, notExpanded, noPartner]
  rfl

theorem LetterRun.IsFinal.toNat_ofNat {run : LetterRun} (final : run.IsFinal)
    {letter capital : Nat} (isPartner : run.partner? letter = some capital) :
    (Char.ofNat capital).toNat = capital := by
  have outside := not_within_of_liesOutside final.noSurrogate isPartner
  have bounded := final.bounded
  rcases partner?_eq_some_iff.mp isPartner with ⟨⟨lower, upper, -⟩, rfl⟩
  rw [lastPartner] at bounded
  have valid : (run.partner + (letter - run.first)).isValidChar := by
    simp only [Nat.isValidChar]
    omega
  rw [Char.ofNat, dif_pos valid]
  rfl

theorem LetterRun.IsFinal.isSeparator_eq_false {run : LetterRun} (final : run.IsFinal)
    {letter capital : Nat} (isPartner : run.partner? letter = some capital) :
    Title.isSeparator (Char.ofNat capital) = false := by
  refine Bool.eq_false_iff.mpr fun separates => ?_
  rcases exists_separatorRun separates with ⟨codes, areCodes, within⟩
  rw [final.toNat_ofNat isPartner] at within
  exact not_within_of_liesOutside (final.belongs codes areCodes) isPartner within

/-- A letter in upper case stays as it is when it is written in upper case again, and it separates
words only if the letter did. -/
theorem upperCase_of_mem_upperCase {letter capital : Char}
    (isCapital : capital ∈ upperCase letter) :
    upperCase capital = [capital] ∧
      (Title.isSeparator letter = false → Title.isSeparator capital = false) := by
  rcases List.mem_map.mp isCapital with ⟨code, isCode, rfl⟩
  rcases exists_capitalRun isCode with ⟨rfl, unchanged⟩ | ⟨run, isRun, origin, isPartner⟩
  · rw [Char.ofNat_toNat, upperCase, unchanged, List.map_singleton, Char.ofNat_toNat]
    exact ⟨rfl, id⟩
  · have final := isFinal_of_mem_capitalRuns isRun
    refine ⟨?_, fun _ => final.isSeparator_eq_false isPartner⟩
    rw [upperCase, final.toNat_ofNat isPartner, final.upperCaseCodes_eq isPartner,
      List.map_singleton]

theorem flatMap_upperCase_flatMap_upperCase (letters : List Char) :
    (letters.flatMap upperCase).flatMap upperCase = letters.flatMap upperCase := by
  rw [List.flatMap_assoc]
  refine List.flatMap_congr fun letter _ => ?_
  calc (upperCase letter).flatMap upperCase
      = (upperCase letter).flatMap ([·]) :=
        List.flatMap_congr fun capital isCapital => (upperCase_of_mem_upperCase isCapital).1
    _ = upperCase letter := List.flatMap_singleton' _

end Text
end Entitlement
