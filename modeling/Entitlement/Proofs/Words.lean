import Entitlement.Proofs.Titles

/-! # Words of titles

The words of a title are its maximal runs of characters that are not separators. A title has
exactly one list of words, and the key of the title is that list in upper case, joined by
underscores. What separates the words, and what stands before and behind them, leaves no trace in
the key. -/

namespace Entitlement

/-! ## Upper case -/

theorem Text.upperCase_ne_nil (letter : Char) : upperCase letter ≠ [] := by
  have expanded : ∀ entry ∈ expansions, entry.2 ≠ [] := by decide +kernel
  rw [upperCase, Ne, List.map_eq_nil_iff, upperCaseCodes]
  cases found : expansions.lookup letter.toNat with
  | none => exact List.cons_ne_nil _ _
  | some codes =>
      rcases List.lookup_eq_some_iff.mp found with ⟨before, after, whole, -⟩
      exact expanded (letter.toNat, codes) (whole ▸ List.mem_append_right _ List.mem_cons_self)

namespace Title

open Text

/-! ## What words are -/

/-- These are the words of a run of characters. Each word has separators or nothing before it, and
goes on until the next separator or the end. -/
inductive HasWords : List Char → List (List Char) → Prop where
  | none {letters : List Char} (separate : ∀ letter ∈ letters, isSeparator letter = true) :
      HasWords letters []
  | cons {front word rest : List Char} {others : List (List Char)}
      (separate : ∀ letter ∈ front, isSeparator letter = true) (nonempty : word ≠ [])
      (unbroken : ∀ letter ∈ word, isSeparator letter = false)
      (ends : ∀ letter ∈ rest.head?, isSeparator letter = true)
      (hasWords : HasWords rest others) : HasWords (front ++ (word ++ rest)) (word :: others)

theorem HasWords.begin {word rest : List Char} {others : List (List Char)} (nonempty : word ≠ [])
    (unbroken : ∀ letter ∈ word, isSeparator letter = false)
    (ends : ∀ letter ∈ rest.head?, isSeparator letter = true) (hasWords : HasWords rest others) :
    HasWords (word ++ rest) (word :: others) :=
  .cons (List.forall_mem_nil _) nonempty unbroken ends hasWords

theorem HasWords.cons_separator {letter : Char} {letters : List Char}
    {titleWords : List (List Char)} (separates : isSeparator letter = true)
    (hasWords : HasWords letters titleWords) : HasWords (letter :: letters) titleWords := by
  cases hasWords with
  | none separate => exact .none (List.forall_mem_cons.mpr ⟨separates, separate⟩)
  | @cons front _ _ _ separate nonempty unbroken ends hasWords =>
      rw [← List.cons_append]
      exact .cons (List.forall_mem_cons.mpr ⟨separates, separate⟩) nonempty unbroken ends hasWords

theorem HasWords.extend {letter next : Char} {rest : List Char} {titleWords : List (List Char)}
    (belongs : isSeparator letter = false) (begins : isSeparator next = false)
    (hasWords : HasWords (next :: rest) titleWords) :
    ∃ word others, titleWords = word :: others ∧
      HasWords (letter :: next :: rest) ((letter :: word) :: others) := by
  generalize whole : next :: rest = letters at hasWords
  cases hasWords with
  | none separate =>
      rw [separate next (whole ▸ List.mem_cons_self)] at begins
      cases begins
  | @cons front word after others separate nonempty unbroken ends hasWords =>
      cases front with
      | cons first front =>
          obtain ⟨rfl, -⟩ := List.cons.inj whole
          rw [separate next List.mem_cons_self] at begins
          cases begins
      | nil =>
          exact ⟨word, others, rfl, .begin (List.cons_ne_nil letter word)
            (List.forall_mem_cons.mpr ⟨belongs, unbroken⟩) ends hasWords⟩

theorem hasWords_words (letters : List Char) : HasWords letters (words letters) := by
  induction letters with
  | nil => exact .none (List.forall_mem_nil _)
  | cons letter rest induction =>
      rw [words.eq_def]
      dsimp only
      split
      · rename_i separates
        exact induction.cons_separator separates
      · rename_i belongs
        have alone : ∀ present ∈ [letter], isSeparator present = false := by simpa using belongs
        cases rest with
        | nil =>
            exact .begin (List.cons_ne_nil _ _) alone (fun _ missing => by cases missing)
              (.none (List.forall_mem_nil _))
        | cons next rest =>
            dsimp only
            -- A word ends where a separator comes next; otherwise the words of the rest begin with
            -- a word that the letter belongs to.
            split
            · rename_i separates
              exact .begin (List.cons_ne_nil _ _) alone
                (fun _ first => Option.some.inj first ▸ separates) induction
            · rename_i begins
              rcases induction.extend (by simpa using belongs) (by simpa using begins) with
                ⟨word, others, found, extended⟩
              rw [found]
              exact extended

/-! ## One list of words -/

theorem words_separators_append {front : List Char}
    (separate : ∀ letter ∈ front, isSeparator letter = true) (rest : List Char) :
    words (front ++ rest) = words rest := by
  induction front with
  | nil => rfl
  | cons letter front induction =>
      rcases List.forall_mem_cons.mp separate with ⟨first, others⟩
      rw [List.cons_append, words.eq_def]
      dsimp only
      rw [if_pos first, induction others]

theorem words_word_append {word rest : List Char} (nonempty : word ≠ [])
    (unbroken : ∀ letter ∈ word, isSeparator letter = false)
    (ends : ∀ letter ∈ rest.head?, isSeparator letter = true) :
    words (word ++ rest) = word :: words rest := by
  induction word with
  | nil => exact absurd rfl nonempty
  | cons letter word induction =>
      rcases List.forall_mem_cons.mp unbroken with ⟨first, others⟩
      rw [List.cons_append, words.eq_def]
      dsimp only
      rw [if_neg (by simp [first])]
      cases word with
      | nil =>
          cases rest with
          | nil => rfl
          | cons next rest =>
              have separates := ends next rfl
              simp [separates]
      | cons next word =>
          have belongs : isSeparator next = false := others next List.mem_cons_self
          rw [induction (List.cons_ne_nil _ _) others]
          simp [belongs]

theorem hasWords_iff {letters : List Char} {titleWords : List (List Char)} :
    HasWords letters titleWords ↔ titleWords = words letters := by
  refine ⟨fun hasWords => ?_, fun equal => equal ▸ hasWords_words letters⟩
  induction hasWords with
  | @none letters separate =>
      have same := words_separators_append separate []
      rw [List.append_nil] at same
      exact same.symm
  | cons separate nonempty unbroken ends _ induction =>
      rw [words_separators_append separate, words_word_append nonempty unbroken ends, induction]

/-! ## The key of words -/

theorem joinWords_cons (word : List Char) (others : List (List Char)) :
    joinWords (word :: others) =
      word.flatMap upperCase ++ others.flatMap fun other => '_' :: other.flatMap upperCase := by
  induction others generalizing word with
  | nil => simp [joinWords]
  | cons other others induction =>
      have next := induction other
      simp only [joinWords, List.map_cons] at next ⊢
      rw [List.intercalate_cons_cons, next, List.flatMap_cons]
      simp

theorem writeKey_word {word : List Char}
    (unbroken : ∀ letter ∈ word, isSeparator letter = false) (rest : List Char) :
    writeKey true false (word ++ rest) = word.flatMap upperCase ++ writeKey true false rest := by
  induction word with
  | nil => rfl
  | cons letter word induction =>
      rcases List.forall_mem_cons.mp unbroken with ⟨first, others⟩
      rw [List.cons_append, writeKey, if_neg (by simp [first]), induction others,
        List.flatMap_cons]
      simp

theorem writeKey_begin {word : List Char} (nonempty : word ≠ [])
    (unbroken : ∀ letter ∈ word, isSeparator letter = false) (written separated : Bool)
    (rest : List Char) :
    writeKey written separated (word ++ rest) =
      (if written && separated then ['_'] else []) ++
        (word.flatMap upperCase ++ writeKey true false rest) := by
  cases word with
  | nil => exact absurd rfl nonempty
  | cons letter word =>
      rcases List.forall_mem_cons.mp unbroken with ⟨first, others⟩
      rw [List.cons_append, writeKey, if_neg (by simp [first]), writeKey_word others]
      simp

theorem writeKey_separators_append_written {front : List Char}
    (separate : ∀ letter ∈ front, isSeparator letter = true) (separated : Bool)
    (rest : List Char) :
    writeKey true separated (front ++ rest) =
      writeKey true (separated || !front.isEmpty) rest := by
  induction front generalizing separated with
  | nil => simp
  | cons letter front induction =>
      rcases List.forall_mem_cons.mp separate with ⟨first, others⟩
      rw [List.cons_append, writeKey, if_pos first, induction others]
      simp

theorem HasWords.writeKey_written {letters : List Char} {titleWords : List (List Char)}
    (hasWords : HasWords letters titleWords) {separated : Bool}
    (setOff : ∀ letter ∈ letters.head?, separated = true ∨ isSeparator letter = true) :
    writeKey true separated letters =
      titleWords.flatMap fun word => '_' :: word.flatMap upperCase := by
  induction hasWords generalizing separated with
  | none separate => exact writeKey_separators separate true separated
  | @cons front word rest others separate nonempty unbroken ends _ induction =>
      -- Either a separator was passed before, or one stands in front of this word.
      have passed : (separated || !front.isEmpty) = true := by
        cases front with
        | cons => simp
        | nil =>
            rcases List.exists_cons_of_ne_nil nonempty with ⟨first, more, rfl⟩
            have begins := unbroken first List.mem_cons_self
            simpa [begins] using setOff first rfl
      rw [writeKey_separators_append_written separate, passed, writeKey_begin nonempty unbroken,
        induction fun letter first => Or.inr (ends letter first), List.flatMap_cons]
      rfl

theorem HasWords.writeKey_eq {letters : List Char} {titleWords : List (List Char)}
    (hasWords : HasWords letters titleWords) : writeKey false false letters =
      joinWords titleWords := by
  cases hasWords with
  | none separate => exact writeKey_separators separate false false
  | cons separate nonempty unbroken ends hasWords =>
      rw [writeKey_separators_append separate, writeKey_begin nonempty unbroken, joinWords_cons,
        hasWords.writeKey_written fun letter first => Or.inr (ends letter first)]
      rfl

theorem HasWords.key_eq {title : String} {titleWords : List (List Char)}
    (hasWords : HasWords title.toList titleWords) :
    key title = String.ofList (joinWords titleWords) := by
  rw [key, hasWords.writeKey_eq]

theorem HasWords.joinWords_eq_nil_iff {letters : List Char} {titleWords : List (List Char)}
    (hasWords : HasWords letters titleWords) :
    joinWords titleWords = [] ↔ ∀ letter ∈ letters, isSeparator letter = true := by
  cases hasWords with
  | none separate => exact ⟨fun _ => separate, fun _ => rfl⟩
  | @cons front word rest others _ nonempty unbroken =>
      rcases List.exists_cons_of_ne_nil nonempty with ⟨first, more, rfl⟩
      have begins := unbroken first List.mem_cons_self
      constructor
      · intro empty
        rw [joinWords_cons, List.flatMap_cons] at empty
        simp [upperCase_ne_nil] at empty
      · intro separate
        rw [separate first (by simp)] at begins
        cases begins

/-- A title has exactly one list of words, and its key is these words in upper case, with one
underscore between two of them. So whatever stands between, before and behind the words makes no
difference; and the key is empty exactly if there are no words. -/
theorem key_spells_words (title : String) :
    (∀ titleWords, HasWords title.toList titleWords ↔ titleWords = words title.toList) ∧
      key title = String.ofList
        (['_'].intercalate ((words title.toList).map (·.flatMap upperCase))) ∧
      (∀ (respelled : String) titleWords, HasWords title.toList titleWords →
        HasWords respelled.toList titleWords → key respelled = key title) ∧
      (key title = "" ↔ ∀ letter ∈ title.toList, isSeparator letter = true) := by
  have own : HasWords title.toList (words title.toList) := hasWords_words title.toList
  refine ⟨fun titleWords => hasWords_iff, own.key_eq, ?_, ?_⟩
  · intro respelled titleWords hasWords respells
    rw [respells.key_eq, hasWords.key_eq]
  · rw [own.key_eq, ← String.ofList_nil, String.ofList_inj]
    exact own.joinWords_eq_nil_iff

/-- A ligature and a sharp s become two letters each, and blanks need not be plain spaces. -/
theorem key_spells_words_expanded :
    let title := "\u3000ﬁnance -\u2003_straße-"
    let respelled := "ﬁnance straße"
    let titleWords := ["ﬁnance".toList, "straße".toList]
    HasWords title.toList titleWords ∧ HasWords respelled.toList titleWords ∧
      key title = "FINANCE_STRASSE" ∧ key respelled = key title ∧ key "_\u3000-" = "" := by
  intro title respelled titleWords
  rcases key_spells_words title with ⟨unique, spells, same, -⟩
  have hasWords : HasWords title.toList titleWords := (unique titleWords).mpr (by decide +kernel)
  have respells : HasWords respelled.toList titleWords := hasWords_iff.mpr (by decide +kernel)
  have expanded : (['_'].intercalate ((words title.toList).map (·.flatMap upperCase))) =
      "FINANCE_STRASSE".toList := by decide +kernel
  refine ⟨hasWords, respells, ?_, same respelled titleWords hasWords respells,
    (key_spells_words "_\u3000-").2.2.2.mpr (List.all_eq_true.mp (by decide +kernel))⟩
  rw [spells, expanded, String.ofList_toList]

end Title
end Entitlement
