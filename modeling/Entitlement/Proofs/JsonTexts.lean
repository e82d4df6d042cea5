import Entitlement.Json.Printer
import Entitlement.Json.Reader

/-! # What is printed in JSON is read back

A printed text is cut into the tokens of the value, whatever follows it, and the tokens are put
together to the value again. This is so for all values without numbers that are kept as written,
if no object has two members of the same name. -/

namespace Entitlement.Json

/-! ## Texts in quotation marks -/

theorem hexValue?_hexDigit {high low : Nat} (highFits : high < 16) (lowFits : low < 16) :
    hexValue? ['0', '0', hexDigit high, hexDigit low] = some (16 * high + low) := by
  have all : ∀ high < 16, ∀ low < 16,
      hexValue? ['0', '0', hexDigit high, hexDigit low] = some (16 * high + low) := by decide
  exact all high highFits low lowFits

theorem cutQuoted_escape (before : List Token) (text rest : List Char) (letter : Char) :
    cutQuoted before text none (escape letter ++ rest) =
      cutQuoted before (letter :: text) none rest := by
  have same : Char.ofNat letter.toNat = letter := Char.ofNat_toNat letter
  rw [escape]
  split
  · rename_i quote
    rw [quote]
    rfl
  split
  · rename_i slash
    rw [slash]
    rfl
  split
  · rename_i code
    rw [← same, code]
    rfl
  split
  · rename_i code
    rw [← same, code]
    rfl
  split
  · rename_i newline
    rw [newline]
    rfl
  split
  · rename_i carriage
    rw [carriage]
    rfl
  split
  · rename_i tab
    rw [tab]
    rfl
  split
  · rename_i low
    have digits := hexValue?_hexDigit (by omega : letter.toNat / 16 < 16)
      (by omega : letter.toNat % 16 < 16)
    have whole : 16 * (letter.toNat / 16) + letter.toNat % 16 = letter.toNat := by omega
    rw [whole] at digits
    simp only [List.cons_append, List.nil_append]
    rw [cutQuoted.eq_def]
    simp only [digits, same]
    rw [if_neg (by omega), if_neg (by omega)]
  · rename_i noQuote noSlash _ _ _ _ _ notLow
    have plain :
        (Option.isSome (none : Option Nat) || decide (letter.toNat < 32) || letter == '\\') =
          false := by
      simp [noSlash, Nat.le_of_not_lt notLow]
    rw [List.cons_append, List.nil_append, cutQuoted.eq_def]
    split
    · rename_i equal
      cases equal
    · rename_i equal
      cases equal
      exact absurd rfl noSlash
    · rename_i equal
      cases equal
      exact absurd rfl noSlash
    · rename_i equal
      cases equal
      rw [plain, if_neg Bool.false_ne_true, if_neg noQuote]

theorem cutQuoted_flatMap_escape (before : List Token) (letters text rest : List Char) :
    cutQuoted before text none (letters.flatMap escape ++ '"' :: rest) =
      cut (.scalar (.text (String.ofList (text.reverse ++ letters))) :: before) [] rest := by
  induction letters generalizing text with
  | nil =>
      rw [List.append_nil, List.flatMap_nil, List.nil_append, cutQuoted.eq_def]
      simp
  | cons letter letters induction =>
      rw [List.flatMap_cons, List.append_assoc, cutQuoted_escape, induction, List.reverse_cons,
        List.append_assoc, List.singleton_append]

theorem cut_quote (before : List Token) (text : String) (rest : List Char) :
    cut before [] ((quote text).toList ++ rest) = cut (.scalar (.text text) :: before) [] rest := by
  have quoted : (quote text).toList ++ rest =
      '"' :: (text.toList.flatMap escape ++ '"' :: rest) := by
    simp [quote]
  have whole := cutQuoted_flatMap_escape before text.toList [] rest
  rw [List.reverse_nil, List.nil_append, String.ofList_toList] at whole
  rw [quoted, ← whole]
  rfl

/-! ## Bare words -/

def inWord (letter : Char) : Bool :=
  letter.isAlphanum || letter == '-' || letter == '+' || letter == '.'

def EndsWord (rest : List Char) : Prop :=
  ∀ letter ∈ rest.head?, inWord letter = false

theorem cut_append_word (before : List Token) {letters : List Char}
    (all : ∀ letter ∈ letters, inWord letter = true) (word rest : List Char) :
    cut before word (letters ++ rest) = cut before (letters.reverse ++ word) rest := by
  induction letters generalizing word with
  | nil => rfl
  | cons letter letters induction =>
      rcases List.forall_mem_cons.mp all with ⟨here, later⟩
      have known :
          (letter.isAlphanum || letter == '-' || letter == '+' || letter == '.') = true := here
      rw [List.cons_append, cut, if_pos known, induction later, List.reverse_cons, List.append_assoc,
        List.singleton_append]

theorem endWord_of_scalarOf? (before : List Token) {letters : List Char} {value : Json}
    (reads : scalarOf? letters = some value) (nonempty : letters ≠ []) :
    endWord before letters.reverse = some (.scalar value :: before) := by
  cases reversed : letters.reverse with
  | nil => exact absurd (List.reverse_eq_nil_iff.mp reversed) nonempty
  | cons last others =>
      rw [endWord, ← reversed, List.reverse_reverse, reads]
      · rfl
      · intro none
        cases none

theorem cut_word (before : List Token) {letters : List Char} {value : Json}
    (reads : scalarOf? letters = some value) (nonempty : letters ≠ [])
    (all : ∀ letter ∈ letters, inWord letter = true) {rest : List Char} (ends : EndsWord rest) :
    cut before [] (letters ++ rest) = cut (.scalar value :: before) [] rest := by
  have ended := endWord_of_scalarOf? before reads nonempty
  rw [cut_append_word before all, List.append_nil]
  cases rest with
  | nil =>
      rw [cut, cut, ended]
      rfl
  | cons letter rest =>
      have notWord :
          ¬ (letter.isAlphanum || letter == '-' || letter == '+' || letter == '.') = true := by
        have here := ends letter rfl
        rw [inWord] at here
        simp [here]
      rw [cut, cut, if_neg notWord, if_neg notWord, ended]
      rfl

/-! ## Numbers -/

theorem dropDigits_digits {digits : List Char} (nonempty : digits ≠ [])
    (all : ∀ digit ∈ digits, digit.isDigit = true) : dropDigits digits = (true, []) := by
  have rest : digits.dropWhile Char.isDigit = [] := by
    have dropped : (digits ++ []).dropWhile Char.isDigit = [].dropWhile Char.isDigit :=
      List.dropWhile_append_of_pos all
    rwa [List.append_nil] at dropped
  cases digits with
  | nil => exact absurd rfl nonempty
  | cons digit digits =>
      rw [dropDigits, rest, List.head?_cons, Option.any_some, all digit List.mem_cons_self]

/-- Digits are a number, with or without a minus before them, unless there is a zero too many. -/
theorem isNumber_digits {digits : List Char} (nonempty : digits ≠ [])
    (all : ∀ digit ∈ digits, digit.isDigit = true)
    (leading : ∀ next rest, digits ≠ '0' :: next :: rest) :
    isNumber digits = true ∧ isNumber ('-' :: digits) = true := by
  have dropped := dropDigits_digits nonempty all
  have unsigned : ∀ rest, digits ≠ '-' :: rest := by
    intro rest equal
    rw [equal] at all
    exact absurd (all '-' List.mem_cons_self) (by decide)
  constructor
  · rw [isNumber.eq_def]
    simp [dropDigits_digits nonempty all]
  · rw [isNumber.eq_def]
    simp [dropDigits_digits nonempty all]

theorem head_toDigits {number : Nat} (positive : 0 < number) :
    (Nat.toDigits 10 number).head? ≠ some '0' := by
  induction number using Nat.strongRecOn with
  | ind number induction =>
      rw [Nat.toDigits_eq_if (by decide)]
      split
      · rename_i small
        have all : ∀ digit < 10, 0 < digit → digit.digitChar ≠ '0' := by decide
        simpa using all number small positive
      · rename_i large
        have earlier := induction (number / 10) (by omega) (by omega)
        cases digits : Nat.toDigits 10 (number / 10) with
        | nil => exact absurd digits Nat.toDigits_ne_nil
        | cons digit others =>
            rw [digits] at earlier
            simpa using earlier

theorem isNumber_toDigits (number : Nat) :
    isNumber (Nat.toDigits 10 number) = true ∧ isNumber ('-' :: Nat.toDigits 10 number) = true := by
  apply isNumber_digits Nat.toDigits_ne_nil
  · exact fun digit member => Nat.isDigit_of_mem_toDigits (by decide) (by decide) member
  · intro next rest equal
    rcases Nat.eq_zero_or_pos number with rfl | positive
    · cases equal
    · apply head_toDigits positive
      rw [equal]
      rfl

theorem wholeValue_toDigits (number : Nat) : wholeValue (Nat.toDigits 10 number) = number :=
  Nat.ofDigitChars_ten_toDigits

theorem all_isDigit_toDigits (number : Nat) : (Nat.toDigits 10 number).all Char.isDigit = true :=
  List.all_eq_true.mpr fun _ member => Nat.isDigit_of_mem_toDigits (by decide) (by decide) member

theorem numberOf_toDigits {number : Nat} (fits : number ≤ Width.max64) :
    numberOf (Nat.toDigits 10 number) = .integer number := by
  have unsigned : ∀ rest, Nat.toDigits 10 number ≠ '-' :: rest := by
    intro rest equal
    have all := all_isDigit_toDigits number
    rw [equal] at all
    exact absurd all (by simp)
  have bounds : Width.minSigned64 ≤ (number : Int) ∧ (number : Int) ≤ Width.max64 := by
    simp only [Width.minSigned64, Width.max64] at fits ⊢
    omega
  rw [numberOf.eq_def]
  simp [all_isDigit_toDigits, wholeValue_toDigits, bounds]

theorem numberOf_minus_toDigits {number : Nat} (positive : 0 < number)
    (fits : Width.minSigned64 ≤ -(number : Int)) :
    numberOf ('-' :: Nat.toDigits 10 number) = .integer (-(number : Int)) := by
  have bounds : Width.minSigned64 ≤ -(number : Int) ∧ -(number : Int) ≤ Width.max64 := by
    simp only [Width.minSigned64, Width.max64] at fits ⊢
    omega
  have notZero : number ≠ 0 := by omega
  rw [numberOf.eq_def]
  simp [all_isDigit_toDigits, wholeValue_toDigits, bounds, notZero]

theorem scalarOf?_of_isNumber {letters : List Char} (isNumber : isNumber letters = true)
    (first : ∀ letter ∈ letters.head?, letter.isDigit = true ∨ letter = '-') :
    scalarOf? letters = some (numberOf letters) := by
  have noName : ∀ letter ∈ letters.head?, letter ≠ 'n' ∧ letter ≠ 't' ∧ letter ≠ 'f' := by
    intro letter isFirst
    rcases first letter isFirst with isDigit | rfl
    · refine ⟨?_, ?_, ?_⟩
      · rintro rfl
        cases isDigit
      · rintro rfl
        cases isDigit
      · rintro rfl
        cases isDigit
    · decide
  rw [scalarOf?, if_neg, if_neg, if_neg, if_pos isNumber]
  · intro equal
    exact (noName 'f' (by rw [equal]; rfl)).2.2 rfl
  · intro equal
    exact (noName 't' (by rw [equal]; rfl)).2.1 rfl
  · intro equal
    exact (noName 'n' (by rw [equal]; rfl)).1 rfl

theorem scalarOf?_toString {value : Int} (fits : Width.minSigned64 ≤ value ∧ value ≤ Width.max64) :
    scalarOf? (toString value).toList = some (.integer value) ∧
      (toString value).toList ≠ [] ∧ ∀ letter ∈ (toString value).toList, inWord letter = true := by
  have inDigits : ∀ number : Nat, ∀ letter ∈ Nat.toDigits 10 number, inWord letter = true := by
    intro number letter member
    have isDigit := Nat.isDigit_of_mem_toDigits (by decide) (by decide) member
    simp [inWord, Char.isAlphanum, isDigit]
  have isFirst : ∀ number : Nat, ∀ letter ∈ (Nat.toDigits 10 number).head?,
      letter.isDigit = true ∨ letter = '-' := by
    intro number letter first
    have member := List.mem_of_mem_head? first
    exact Or.inl (Nat.isDigit_of_mem_toDigits (by decide) (by decide) member)
  cases value with
  | ofNat number =>
      have letters : (toString (Int.ofNat number)).toList = Nat.toDigits 10 number := by
        change (Nat.repr number).toList = _
        rw [Nat.repr_eq_ofList_toDigits, String.toList_ofList]
      have small : number ≤ Width.max64 := by
        have most := fits.2
        rw [Int.ofNat_eq_natCast] at most
        omega
      rw [letters, scalarOf?_of_isNumber (isNumber_toDigits number).1 (isFirst number),
        numberOf_toDigits small]
      exact ⟨rfl, Nat.toDigits_ne_nil, inDigits number⟩
  | negSucc number =>
      have letters :
          (toString (Int.negSucc number)).toList = '-' :: Nat.toDigits 10 (number + 1) := by
        change ("-" ++ Nat.repr (number + 1)).toList = _
        rw [String.toList_append, Nat.repr_eq_ofList_toDigits, String.toList_ofList]
        simp
      have bounds : Width.minSigned64 ≤ -((number + 1 : Nat) : Int) := fits.1
      rw [letters, scalarOf?_of_isNumber (isNumber_toDigits (number + 1)).2 (by simp),
        numberOf_minus_toDigits (by omega) bounds]
      refine ⟨rfl, List.cons_ne_nil _ _, List.forall_mem_cons.mpr ⟨by decide, ?_⟩⟩
      exact inDigits (number + 1)

/-! ## Values -/

inductive Printable : Json → Prop where
  | null : Printable .null
  | bool (value : Bool) : Printable (.bool value)
  | integer {value : Int} (fits : Width.minSigned64 ≤ value ∧ value ≤ Width.max64) :
      Printable (.integer value)
  | text (value : String) : Printable (.text value)
  | list {items : List Json} (all : ∀ item ∈ items, Printable item) : Printable (.list items)
  | object {members : List (String × Json)} (distinct : (members.map (·.1)).Nodup)
      (all : ∀ member ∈ members, Printable member.2) : Printable (.object members)

mutual
def tokens : Json → List Token
  | .list items => .openList :: (itemTokens items ++ [.closeList])
  | .object members => .openObject :: (memberTokens members ++ [.closeObject])
  | .null => [.scalar .null]
  | .bool value => [.scalar (.bool value)]
  | .integer value => [.scalar (.integer value)]
  | .decimal literal => [.scalar (.decimal literal)]
  | .text value => [.scalar (.text value)]

def itemTokens : List Json → List Token
  | [] => []
  | [item] => tokens item
  | item :: rest => tokens item ++ .comma :: itemTokens rest

def memberTokens : List (String × Json) → List Token
  | [] => []
  | [(name, value)] => .scalar (.text name) :: .colon :: tokens value
  | (name, value) :: rest =>
      .scalar (.text name) :: .colon :: (tokens value ++ .comma :: memberTokens rest)
end

def CutsInto (value : Json) : Prop :=
  ∀ before rest, EndsWord rest →
    cut before [] (value.compact.toList ++ rest) = cut (value.tokens.reverse ++ before) [] rest

theorem endsWord_of {letter : Char} (notWord : inWord letter = false) (rest : List Char) :
    EndsWord (letter :: rest) := by
  intro first isFirst
  cases isFirst
  exact notWord

theorem cut_items {items : List Json} (all : ∀ item ∈ items, CutsInto item) (before : List Token)
    {rest : List Char} (ends : EndsWord rest) :
    cut before [] ((compactItems items).toList ++ rest) =
      cut ((itemTokens items).reverse ++ before) [] rest := by
  induction items generalizing before with
  | nil => rfl
  | cons item items induction =>
      rcases List.forall_mem_cons.mp all with ⟨here, later⟩
      cases items with
      | nil => exact here before rest ends
      | cons next items =>
          have comma (before rest) :
              cut before [] (',' :: rest) = cut (.comma :: before) [] rest := rfl
          have letters : (compactItems (item :: next :: items)).toList ++ rest =
              item.compact.toList ++ (',' :: ((compactItems (next :: items)).toList ++ rest)) := by
            simp [compactItems]
          have whole : itemTokens (item :: next :: items) =
              item.tokens ++ .comma :: itemTokens (next :: items) := rfl
          rw [letters, here before _ (endsWord_of (by decide) _), comma, induction later, whole]
          simp

theorem cut_members {members : List (String × Json)} (all : ∀ member ∈ members, CutsInto member.2)
    (before : List Token) {rest : List Char} (ends : EndsWord rest) :
    cut before [] ((compactMembers members).toList ++ rest) =
      cut ((memberTokens members).reverse ++ before) [] rest := by
  have comma : ∀ before rest, cut before [] (',' :: rest) = cut (.comma :: before) [] rest :=
    fun _ _ => rfl
  have colon : ∀ before rest, cut before [] (':' :: rest) = cut (.colon :: before) [] rest :=
    fun _ _ => rfl
  induction members generalizing before with
  | nil => rfl
  | cons member members induction =>
      rcases member with ⟨name, value⟩
      rcases List.forall_mem_cons.mp all with ⟨here, later⟩
      cases members with
      | nil =>
          have letters : (compactMembers [(name, value)]).toList ++ rest =
              (quote name).toList ++ (':' :: (value.compact.toList ++ rest)) := by
            simp [compactMembers]
          rw [letters, cut_quote, colon, here _ rest ends, memberTokens]
          simp
      | cons next members =>
          have letters : (compactMembers ((name, value) :: next :: members)).toList ++ rest =
              (quote name).toList ++ (':' :: (value.compact.toList ++
                (',' :: ((compactMembers (next :: members)).toList ++ rest)))) := by
            simp [compactMembers]
          have whole : memberTokens ((name, value) :: next :: members) =
              .scalar (.text name) :: .colon ::
                (value.tokens ++ .comma :: memberTokens (next :: members)) := rfl
          rw [letters, cut_quote, colon, here _ _ (endsWord_of (by decide) _), comma,
            induction later, whole]
          simp

theorem Printable.cutsInto {value : Json} (printable : Printable value) : CutsInto value := by
  induction printable with
  | null => exact fun before rest ends => cut_word before rfl (by decide) (List.all_eq_true.mp rfl) ends
  | bool value =>
      cases value with
      | false => exact fun before rest ends => cut_word before rfl (by decide) (List.all_eq_true.mp rfl) ends
      | true => exact fun before rest ends => cut_word before rfl (by decide) (List.all_eq_true.mp rfl) ends
  | integer fits =>
      rcases scalarOf?_toString fits with ⟨reads, nonempty, all⟩
      exact fun before rest ends => cut_word before reads nonempty all ends
  | text value => exact fun before rest _ => cut_quote before value rest
  | list all induction =>
      rename_i items
      intro before rest ends
      have letters : (compact (.list items)).toList ++ rest =
          '[' :: ((compactItems items).toList ++ (']' :: rest)) := by
        simp [compact]
      have opened : ∀ rest, cut before [] ('[' :: rest) = cut (.openList :: before) [] rest :=
        fun _ => rfl
      have closed (before rest) :
          cut before [] (']' :: rest) = cut (.closeList :: before) [] rest := rfl
      rw [letters, opened, cut_items induction _ (endsWord_of (by decide) _), closed, tokens]
      simp
  | object distinct all induction =>
      rename_i members
      intro before rest ends
      have letters : (compact (.object members)).toList ++ rest =
          '\x7b' :: ((compactMembers members).toList ++ ('\x7d' :: rest)) := by
        simp [compact]
      have opened : ∀ rest, cut before [] ('\x7b' :: rest) = cut (.openObject :: before) [] rest :=
        fun _ => rfl
      have closed : ∀ before rest,
          cut before [] ('\x7d' :: rest) = cut (.closeObject :: before) [] rest := fun _ _ => rfl
      rw [letters, opened, cut_members induction _ (endsWord_of (by decide) _), closed, tokens]
      simp

/-! ## Putting tokens together -/

def Assembles (value : Json) : Prop :=
  ∀ frames expected, expected = .value ∨ expected = .valueOrEnd →
    value.tokens.foldlM Assembly.step ⟨frames, expected⟩ = some (Assembly.finish value frames)

theorem assembles_scalar {value : Json} (scalar : value.tokens = [.scalar value]) :
    Assembles value := by
  intro frames expected place
  rw [scalar]
  rcases place with rfl | rfl
  · rfl
  · rfl

theorem foldlM_itemTokens {item : Json} {items : List Json}
    (all : ∀ other ∈ item :: items, Assembles other) (frames : List Frame) (acc : List Json)
    {expected : Expected} (place : expected = .value ∨ expected = .valueOrEnd) :
    (itemTokens (item :: items)).foldlM Assembly.step ⟨.list acc :: frames, expected⟩ =
      some ⟨.list ((item :: items).reverse ++ acc) :: frames, .commaOrEnd⟩ := by
  induction items generalizing item acc expected with
  | nil => exact all item List.mem_cons_self _ expected place
  | cons next items induction =>
      rcases List.forall_mem_cons.mp all with ⟨here, later⟩
      have whole : itemTokens (item :: next :: items) =
          item.tokens ++ .comma :: itemTokens (next :: items) := rfl
      rw [whole, List.foldlM_append, here _ expected place]
      have rest := induction later (item :: acc) (Or.inl rfl)
      rw [List.reverse_cons, List.append_assoc, List.singleton_append]
      exact rest

theorem putMember_new {name : String} {members : List (String × Json)}
    (isNew : name ∉ members.map (·.1)) (value : Json) :
    putMember name value members = (name, value) :: members := by
  rw [putMember, if_neg]
  intro known
  rcases List.any_eq_true.mp known with ⟨member, isMember, equal⟩
  apply isNew
  rw [← beq_iff_eq.mp equal]
  exact List.mem_map_of_mem isMember

theorem foldlM_memberTokens {member : String × Json} {members acc : List (String × Json)}
    (all : ∀ other ∈ member :: members, Assembles other.2)
    (distinct : ((member :: members).map (·.1) ++ acc.map (·.1)).Nodup) (frames : List Frame)
    (name : String) {expected : Expected} (place : expected = .name ∨ expected = .nameOrEnd) :
    (memberTokens (member :: members)).foldlM Assembly.step ⟨.object acc name :: frames, expected⟩ =
      some ⟨.object ((member :: members).reverse ++ acc) "" :: frames, .commaOrEnd⟩ := by
  have named : ∀ acc name expected, expected = Expected.name ∨ expected = .nameOrEnd →
      ∀ other rest, (Token.scalar (.text other) :: .colon :: rest).foldlM Assembly.step
        ⟨.object acc name :: frames, expected⟩ =
          rest.foldlM Assembly.step ⟨.object acc other :: frames, .value⟩ := by
    intro acc name expected place other rest
    rcases place with rfl | rfl
    · rfl
    · rfl
  induction members generalizing member acc name expected with
  | nil =>
      have isNew : member.1 ∉ acc.map (·.1) := (List.nodup_cons.mp distinct).1
      have whole : memberTokens [member] =
          .scalar (.text member.1) :: .colon :: member.2.tokens := rfl
      rw [whole, named acc name expected place,
        all member List.mem_cons_self _ .value (Or.inl rfl), Assembly.finish,
        putMember_new isNew]
      rfl
  | cons next members induction =>
      rcases List.forall_mem_cons.mp all with ⟨here, later⟩
      have moved : ((next :: members).map (·.1) ++ (member :: acc).map (·.1)).Nodup :=
        (List.perm_middle.nodup_iff).mpr distinct
      have isNew : member.1 ∉ acc.map (·.1) := fun known =>
        (List.nodup_cons.mp distinct).1 (List.mem_append_right _ known)
      have whole : memberTokens (member :: next :: members) = .scalar (.text member.1) :: .colon ::
          (member.2.tokens ++ .comma :: memberTokens (next :: members)) := rfl
      have rest := induction later moved "" (Or.inl rfl)
      rw [whole, named acc name expected place, List.foldlM_append,
        here _ .value (Or.inl rfl), Assembly.finish, putMember_new isNew, List.reverse_cons,
        List.append_assoc, List.singleton_append]
      exact rest

theorem Printable.assembles {value : Json} (printable : Printable value) : Assembles value := by
  induction printable with
  | null | bool | integer | text => exact assembles_scalar rfl
  | list all induction =>
      rename_i items
      intro frames expected place
      have opened : ∀ rest, (Token.openList :: rest).foldlM Assembly.step ⟨frames, expected⟩ =
          rest.foldlM Assembly.step ⟨.list [] :: frames, .valueOrEnd⟩ := by
        rcases place with rfl | rfl
        · exact fun _ => rfl
        · exact fun _ => rfl
      rw [tokens, opened, List.foldlM_append]
      cases items with
      | nil => rfl
      | cons item items =>
          rw [foldlM_itemTokens induction frames [] (Or.inr rfl), List.append_nil]
          change some (Assembly.finish (.list (item :: items).reverse.reverse) frames) = _
          rw [List.reverse_reverse]
  | object distinct all induction =>
      rename_i members
      intro frames expected place
      have opened : ∀ rest, (Token.openObject :: rest).foldlM Assembly.step ⟨frames, expected⟩ =
          rest.foldlM Assembly.step ⟨.object [] "" :: frames, .nameOrEnd⟩ := by
        rcases place with rfl | rfl
        · exact fun _ => rfl
        · exact fun _ => rfl
      rw [tokens, opened, List.foldlM_append]
      cases members with
      | nil => rfl
      | cons member members =>
          rw [foldlM_memberTokens induction (by simpa using distinct) frames "" (Or.inr rfl),
            List.append_nil]
          change some (Assembly.finish (.object (member :: members).reverse.reverse) frames) = _
          rw [List.reverse_reverse]

/-! ## Texts -/

theorem read?_compact {value : Json} (printable : Printable value) :
    read? value.compact = some value := by
  have cuts := printable.cutsInto [] [] (fun _ none => by cases none)
  rw [List.append_nil, List.append_nil] at cuts
  have ended : cut value.tokens.reverse [] [] = some value.tokens := by
    rw [cut, endWord, Option.map_some, List.reverse_reverse]
  have assembled := printable.assembles [] .value (Or.inl rfl)
  rw [read?, cuts, ended]
  simp only [Option.bind_eq_bind, Option.bind_some, assembled]
  rfl

end Entitlement.Json
