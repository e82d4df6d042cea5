import Entitlement.Wire.Field
import Mathlib.Data.List.Forall2
import Mathlib.Data.Nat.Digits.Defs

/-! # Spellings

How numbers, fields and messages can be spelled in bytes. A spelling need not be the one that is
written: a number may have zeros at its high end, and fields with unknown numbers may stand
anywhere. Each reader accepts exactly the inputs that begin with a spelling, and it leaves what
follows. -/

namespace Entitlement.Wire

variable {α : Type}

def Takes (read? : Bytes → Option (α × Bytes)) (Spells : α → Bytes → Prop) : Prop :=
  ∀ input value rest,
    read? input = some (value, rest) ↔ ∃ spelling, Spells value spelling ∧ input = spelling ++ rest

theorem Takes.append {read? : Bytes → Option (α × Bytes)} {Spells : α → Bytes → Prop}
    (takes : Takes read? Spells) {value : α} {spelling : Bytes} (spelled : Spells value spelling)
    (rest : Bytes) : read? (spelling ++ rest) = some (value, rest) :=
  (takes _ _ _).mpr ⟨spelling, spelled, rfl⟩

/-! ## Numbers -/

namespace Varint

/-- Seven bits to a byte, lowest bits first; every byte but the last has its top bit set. There
are at most ten bytes, and the number has at most 64 bits. -/
structure Spells (number : Nat) (bytes : Bytes) : Prop where
  continued : ∃ opening last, bytes = opening ++ [last] ∧ (∀ byte ∈ opening, 128 ≤ byte.toNat) ∧
    last.toNat < 128
  atMostTen : bytes.length ≤ 10
  isValue : number = Nat.ofDigits 128 (bytes.map (·.toNat % 128))
  fits : number ≤ Width.max64

def room (place : Nat) : Nat := 2 ^ (64 - 7 * place)

theorem room_nine : room 9 = 2 := rfl

theorem room_succ {place : Nat} (early : place < 9) : room place = 128 * room (place + 1) := by
  rw [room, room, show 64 - 7 * place = 7 + (64 - 7 * (place + 1)) by omega, Nat.pow_add]

theorem lt_room {place : Nat} (early : place < 9) : 128 < room place := by
  have isLarge : 2 ^ 8 ≤ room place := Nat.pow_le_pow_right (by decide) (by omega)
  omega

theorem readFrom?_of_last {place : Nat} (early : place ≤ 9) {byte : UInt8}
    (isLast : byte.toNat < 128) (rest : Bytes) :
    readFrom? place (byte :: rest) =
      if byte.toNat < room place then some (byte.toNat, rest) else none := by
  have fits : (place = 9 ∧ 2 ≤ byte.toNat) ↔ ¬byte.toNat < room place := by
    rcases Nat.lt_or_eq_of_le early with earlier | rfl
    · have := lt_room earlier
      omega
    · rw [room_nine]
      omega
  simp only [readFrom?, fits, if_pos isLast, ite_not]

theorem readFrom?_of_continued {place : Nat} (early : place ≤ 9) {byte : UInt8}
    (continued : 128 ≤ byte.toNat) (rest : Bytes) :
    readFrom? place (byte :: rest) =
      if place < 9 then
        (readFrom? (place + 1) rest).map fun read => (byte.toNat % 128 + 128 * read.1, read.2)
      else none := by
  have isLate : (place = 9 ∧ 2 ≤ byte.toNat) ↔ ¬place < 9 := by omega
  have isDigit : byte.toNat - 128 = byte.toNat % 128 := by
    have := byte.toNat_lt
    omega
  simp only [readFrom?, isLate, if_neg (Nat.not_lt_of_le continued), ite_not, isDigit]

theorem readFrom?_eq_some_iff {place : Nat} (early : place ≤ 9) (input : Bytes) (number : Nat)
    (rest : Bytes) :
    readFrom? place input = some (number, rest) ↔
      ∃ opening last, input = opening ++ last :: rest ∧ (∀ byte ∈ opening, 128 ≤ byte.toNat) ∧
        last.toNat < 128 ∧ place + opening.length ≤ 9 ∧
        number = Nat.ofDigits 128 ((opening ++ [last]).map (·.toNat % 128)) ∧
        number < room place := by
  induction input generalizing place number with
  | nil => simp [readFrom?]
  | cons byte input induction =>
      rcases Nat.lt_or_ge byte.toNat 128 with isLast | continued
      · have isDigit : byte.toNat % 128 = byte.toNat := Nat.mod_eq_of_lt isLast
        rw [readFrom?_of_last early isLast, Option.ite_none_right_eq_some]
        constructor
        · rintro ⟨fits, same⟩
          cases same
          exact ⟨[], byte, rfl, by simp, isLast, early, by simp [isDigit], fits⟩
        · rintro ⟨opening, last, isInput, continued, -, -, rfl, fits⟩
          cases opening with
          | nil =>
              cases isInput
              simpa [isDigit] using fits
          | cons first opening =>
              cases isInput
              exact absurd isLast (Nat.not_lt_of_le (continued byte List.mem_cons_self))
      · rw [readFrom?_of_continued early continued, Option.ite_none_right_eq_some]
        constructor
        · rintro ⟨earlier, accepted⟩
          rcases Option.map_eq_some_iff.mp accepted with ⟨⟨high, left⟩, isRead, same⟩
          cases same
          have later : place + 1 ≤ 9 := earlier
          rcases (induction later high).mp isRead with
            ⟨opening, last, rfl, areContinued, isLast, bounded, isHigh, fits⟩
          have isRoom := room_succ earlier
          refine ⟨byte :: opening, last, rfl, ?_, isLast, ?_, ?_, ?_⟩
          · simpa [continued] using areContinued
          · simp only [List.length_cons]
            omega
          · simp [Nat.ofDigits_cons, isHigh]
          · omega
        · rintro ⟨opening, last, isInput, areContinued, isLast, bounded, isNumber, fits⟩
          cases opening with
          | nil =>
              cases isInput
              exact absurd isLast (Nat.not_lt_of_le continued)
          | cons first opening =>
              cases isInput
              simp only [List.length_cons] at bounded
              have later : place + 1 ≤ 9 := by omega
              have isRoom := room_succ later
              simp only [List.cons_append, List.map_cons, Nat.ofDigits_cons] at isNumber
              have isRead := (induction later
                (Nat.ofDigits 128 ((opening ++ [last]).map (·.toNat % 128)))).mpr
                ⟨opening, last, rfl,
                  fun other isOther => areContinued other (List.mem_cons_of_mem _ isOther), isLast,
                  by omega, rfl, by omega⟩
              exact ⟨later, by rw [isRead, isNumber]; rfl⟩

theorem takes : Takes read? Spells := by
  intro input number rest
  rw [read?, readFrom?_eq_some_iff (Nat.zero_le 9)]
  constructor
  · rintro ⟨opening, last, rfl, continued, isLast, bounded, isNumber, fits⟩
    refine ⟨opening ++ [last], ⟨⟨opening, last, rfl, continued, isLast⟩, ?_, isNumber, ?_⟩, ?_⟩
    · simp only [List.length_append, List.length_singleton]
      omega
    · exact Nat.le_of_lt_succ fits
    · simp
  · rintro ⟨spelling, ⟨⟨opening, last, rfl, continued, isLast⟩, bounded, isNumber, fits⟩, rfl⟩
    refine ⟨opening, last, by simp, continued, isLast, ?_, isNumber, Nat.lt_succ_of_le fits⟩
    simp only [List.length_append, List.length_singleton] at bounded
    omega

end Varint

/-! ## Keys and payloads -/

theorem Kind.ofCode?_eq_some_iff (code : Nat) (kind : Kind) :
    ofCode? code = some kind ↔ kind.code = code := by
  constructor
  · intro known
    unfold ofCode? at known
    split at known <;> cases known <;> rfl
  · rintro rfl
    cases kind <;> rfl

theorem Kind.code_lt (kind : Kind) : kind.code < 8 := by cases kind <;> decide

structure Key.Spells (key : Key) (bytes : Bytes) : Prop where
  numbered : key.number ≠ 0
  fits : 8 * key.number + key.kind.code ≤ Width.max32
  isNumber : Varint.Spells (8 * key.number + key.kind.code) bytes

theorem Key.takes : Takes Key.read? Key.Spells := by
  intro input key rest
  have isCode := key.kind.code_lt
  rw [Key.read?]
  constructor
  · intro accepted
    split at accepted
    · cases accepted
    · rename_i code left isRead
      rw [Option.ite_none_left_eq_some, not_or, Nat.not_lt] at accepted
      rcases accepted with ⟨⟨numbered, fits⟩, isKnown⟩
      rcases Option.map_eq_some_iff.mp isKnown with ⟨kind, known, same⟩
      cases same
      rw [Kind.ofCode?_eq_some_iff] at known
      have isCode : 8 * (code / 8) + kind.code = code := by omega
      rcases (Varint.takes _ _ _).mp isRead with ⟨spelling, spelled, rfl⟩
      exact ⟨spelling, ⟨numbered, by rwa [isCode], by rwa [isCode]⟩, rfl⟩
  · rintro ⟨spelling, spelled, rfl⟩
    have isKind : Kind.ofCode? ((8 * key.number + key.kind.code) % 8) = some key.kind := by
      rw [Kind.ofCode?_eq_some_iff]
      omega
    have isNumber : (8 * key.number + key.kind.code) / 8 = key.number := by omega
    simp only [Varint.takes.append spelled.isNumber, isNumber, isKind, Option.map_some]
    rw [if_neg (not_or.mpr ⟨spelled.numbered, Nat.not_lt.mpr spelled.fits⟩)]

inductive Payload.Spells : Kind → Payload → Bytes → Prop
  | number {value : Nat} {bytes : Bytes} (spelled : Varint.Spells value bytes) :
      Payload.Spells .varint (.number value) bytes
  | eightBytes {bytes : Bytes} (eight : bytes.length = 8) :
      Payload.Spells .eightBytes (.eightBytes bytes) bytes
  | counted {bytes count : Bytes} (spelled : Varint.Spells bytes.length count) :
      Payload.Spells .counted (.counted bytes) (count ++ bytes)
  | fourBytes {bytes : Bytes} (four : bytes.length = 4) :
      Payload.Spells .fourBytes (.fourBytes bytes) bytes

theorem splitOff?_eq_some_iff (count : Nat) (input bytes rest : Bytes) :
    splitOff? count input = some (bytes, rest) ↔ bytes.length = count ∧ input = bytes ++ rest := by
  rw [splitOff?, Option.ite_none_right_eq_some]
  constructor
  · rintro ⟨enough, same⟩
    cases same
    exact ⟨List.length_take_of_le enough, (List.take_append_drop count input).symm⟩
  · rintro ⟨rfl, rfl⟩
    simp

theorem Payload.takes (kind : Kind) : Takes (readPlain? kind) (Payload.Spells kind) := by
  intro input payload rest
  constructor
  · intro accepted
    cases kind with
    | varint =>
        rcases Option.map_eq_some_iff.mp accepted with ⟨⟨value, left⟩, isRead, same⟩
        cases same
        rcases (Varint.takes _ _ _).mp isRead with ⟨spelling, spelled, rfl⟩
        exact ⟨spelling, .number spelled, rfl⟩
    | eightBytes =>
        rcases Option.map_eq_some_iff.mp accepted with ⟨⟨bytes, left⟩, isSplit, same⟩
        cases same
        rcases (splitOff?_eq_some_iff _ _ _ _).mp isSplit with ⟨eight, rfl⟩
        exact ⟨bytes, .eightBytes eight, rfl⟩
    | counted =>
        rcases Option.bind_eq_some_iff.mp accepted with ⟨⟨count, left⟩, isRead, accepted⟩
        rcases Option.bind_eq_some_iff.mp accepted with ⟨⟨bytes, after⟩, isSplit, same⟩
        cases same
        rcases (splitOff?_eq_some_iff _ _ _ _).mp isSplit with ⟨rfl, rfl⟩
        rcases (Varint.takes _ _ _).mp isRead with ⟨spelling, spelled, rfl⟩
        exact ⟨spelling ++ bytes, .counted spelled, (List.append_assoc ..).symm⟩
    | fourBytes =>
        rcases Option.map_eq_some_iff.mp accepted with ⟨⟨bytes, left⟩, isSplit, same⟩
        cases same
        rcases (splitOff?_eq_some_iff _ _ _ _).mp isSplit with ⟨four, rfl⟩
        exact ⟨bytes, .fourBytes four, rfl⟩
    | groupStart | groupEnd => cases accepted
  · rintro ⟨spelling, spelled, rfl⟩
    cases spelled with
    | number spelled => simp [readPlain?, Varint.takes.append spelled]
    | eightBytes eight =>
        simp [readPlain?, (splitOff?_eq_some_iff _ _ _ _).mpr ⟨eight, rfl⟩]
    | counted spelled =>
        simp [readPlain?, Varint.takes.append spelled,
          (splitOff?_eq_some_iff _ _ _ _).mpr ⟨rfl, rfl⟩]
    | fourBytes four => simp [readPlain?, (splitOff?_eq_some_iff _ _ _ _).mpr ⟨four, rfl⟩]

/-! ## Groups -/

/-- Rows of fields that can be passed over, whatever their numbers. They and the fields of the
groups among them fill at most `depth` levels. -/
inductive Passable : Nat → Bytes → Prop
  | nothing {depth : Nat} : Passable depth []
  | plain {depth : Nat} {key : Key} {payload : Payload} {start bytes rest : Bytes}
      (opened : key.Spells start) (spelled : payload.Spells key.kind bytes)
      (others : Passable (depth + 1) rest) : Passable (depth + 1) (start ++ bytes ++ rest)
  | group {depth number : Nat} {start inside stop rest : Bytes}
      (opened : Key.Spells ⟨number, .groupStart⟩ start) (within : Passable depth inside)
      (closed : Key.Spells ⟨number, .groupEnd⟩ stop) (others : Passable (depth + 1) rest) :
      Passable (depth + 1) (start ++ inside ++ stop ++ rest)

theorem Payload.Spells.not_group {kind : Kind} {payload : Payload} {bytes : Bytes}
    (spelled : payload.Spells kind bytes) : kind ≠ .groupStart ∧ kind ≠ .groupEnd := by
  cases spelled <;> decide

theorem skipGroups?_of_read {input rest : Bytes} {key : Key}
    (isRead : Key.read? input = some (key, rest)) (depth innermost : Nat) (others : List Nat) :
    skipGroups? depth (innermost :: others) input =
      if key.kind = .groupEnd then
        if key.number = innermost then skipGroups? depth others rest else none
      else if depth ≤ others.length + 1 then none
      else if key.kind = .groupStart then
        skipGroups? depth (key.number :: innermost :: others) rest
      else
        (Payload.readPlain? key.kind rest).bind fun passed =>
          skipGroups? depth (innermost :: others) passed.2 := by
  rw [skipGroups?]
  split
  · rename_i fails
    cases fails.symm.trans isRead
  · rename_i read
    cases read.symm.trans isRead
    congr! 3
    split
    · rename_i fails
      rw [fails, Option.bind_none]
    · rename_i passed
      rw [passed, Option.bind_some]

theorem skipGroups?_passable {levels : Nat} {inside : Bytes} (passable : Passable levels inside)
    {depth innermost : Nat} {others : List Nat} (isLevels : levels = depth - (others.length + 1))
    (rest : Bytes) :
    skipGroups? depth (innermost :: others) (inside ++ rest) =
      skipGroups? depth (innermost :: others) rest := by
  induction passable generalizing innermost others rest with
  | nothing => rfl
  | plain opened spelled _ passes =>
      simp only [List.append_assoc]
      rw [skipGroups?_of_read (Key.takes.append opened _), if_neg spelled.not_group.2,
        if_neg (by omega), if_neg spelled.not_group.1, (Payload.takes _).append spelled,
        Option.bind_some, passes isLevels]
  | group opened _ closed _ passesWithin passes =>
      simp only [List.append_assoc]
      rw [skipGroups?_of_read (Key.takes.append opened _), if_neg (by simp), if_neg (by omega),
        if_pos rfl, passesWithin (by simp only [List.length_cons]; omega),
        skipGroups?_of_read (Key.takes.append closed _), if_pos rfl, if_pos rfl, passes isLevels]

/-- What is left of open groups: the fields left in the innermost one, its end, and so on
outwards. -/
inductive Closes (depth : Nat) : List Nat → Bytes → Prop
  | done : Closes depth [] []
  | innermost {number : Nat} {others : List Nat} {inside stop rest : Bytes}
      (within : Passable (depth - (others.length + 1)) inside)
      (closed : Key.Spells ⟨number, .groupEnd⟩ stop) (outwards : Closes depth others rest) :
      Closes depth (number :: others) (inside ++ stop ++ rest)

section

variable {depth innermost : Nat} {others : List Nat} {start spelling : Bytes}
  (isDeep : ¬depth ≤ others.length + 1)

include isDeep

theorem Closes.plain {key : Key} {payload : Payload} {bytes : Bytes} (opened : key.Spells start)
    (spelled : payload.Spells key.kind bytes)
    (closes : Closes depth (innermost :: others) spelling) :
    Closes depth (innermost :: others) (start ++ (bytes ++ spelling)) := by
  rcases closes with _ | @⟨_, _, inside, stop, rest, within, closed, outwards⟩
  have isLevels : depth - (others.length + 1) = depth - (others.length + 2) + 1 := by omega
  rw [isLevels] at within
  have rearranged : start ++ (bytes ++ (inside ++ stop ++ rest)) =
      start ++ bytes ++ inside ++ stop ++ rest := by simp
  rw [rearranged]
  refine .innermost ?_ closed outwards
  rw [isLevels]
  exact .plain opened spelled within

theorem Closes.group {number : Nat} (opened : Key.Spells ⟨number, .groupStart⟩ start)
    (closes : Closes depth (number :: innermost :: others) spelling) :
    Closes depth (innermost :: others) (start ++ spelling) := by
  rcases closes with _ | @⟨_, _, inside, stop, _, within, closed, outwards⟩
  rcases outwards with _ | @⟨_, _, after, ending, rest, following, ended, outwards⟩
  have isLevels : depth - (others.length + 1) = depth - (others.length + 2) + 1 := by omega
  rw [isLevels] at following
  have rearranged : start ++ (inside ++ stop ++ (after ++ ending ++ rest)) =
      start ++ inside ++ stop ++ after ++ ending ++ rest := by simp
  rw [rearranged]
  refine .innermost ?_ ended outwards
  rw [isLevels]
  exact .group opened within closed following

end

theorem skipGroups?_eq_some_iff (depth : Nat) (opened : List Nat) (input rest : Bytes) :
    skipGroups? depth opened input = some rest ↔
      ∃ spelling, Closes depth opened spelling ∧ input = spelling ++ rest := by
  constructor
  · intro accepted
    fun_induction skipGroups? depth opened input with
    | case1 =>
        cases accepted
        exact ⟨[], .done, rfl⟩
    | case3 input others key left isRead isEnd induction =>
        rcases induction accepted with ⟨spelling, closes, rfl⟩
        rcases (Key.takes _ _ _).mp isRead with ⟨stop, closed, rfl⟩
        have isKey : key = ⟨key.number, .groupEnd⟩ := by rw [← isEnd]
        exact ⟨[] ++ stop ++ spelling, .innermost .nothing (isKey ▸ closed) closes, by simp⟩
    | case6 input innermost others key left isRead _ isDeep isStart induction =>
        rcases induction accepted with ⟨spelling, closes, rfl⟩
        rcases (Key.takes _ _ _).mp isRead with ⟨start, opened, rfl⟩
        have isKey : key = ⟨key.number, .groupStart⟩ := by rw [← isStart]
        exact ⟨start ++ spelling, .group isDeep (isKey ▸ opened) closes, by simp⟩
    | case8 input innermost others key left isRead _ isDeep _ payload after isPassed induction =>
        rcases induction accepted with ⟨spelling, closes, rfl⟩
        rcases (Key.takes _ _ _).mp isRead with ⟨start, opened, rfl⟩
        rcases (Payload.takes _ _ _ _).mp isPassed with ⟨bytes, spelled, rfl⟩
        exact ⟨start ++ (bytes ++ spelling), .plain isDeep opened spelled closes, by simp⟩
    | case2 | case4 | case5 | case7 => cases accepted
  · rintro ⟨spelling, closes, rfl⟩
    induction closes with
    | done => rw [List.nil_append, skipGroups?]
    | innermost within closed _ continues =>
        simp only [List.append_assoc]
        rw [skipGroups?_passable within rfl, skipGroups?_of_read (Key.takes.append closed _),
          if_pos rfl, if_pos rfl, continues]

/-! ## Fields and messages -/

/-- A field that lies within fewer than `depth` groups. Those with `counted` numbers hold counted
bytes, whatever kind is spelled with the number. -/
inductive Field.Spells (depth : Nat) (counted : List Nat) : Field → Bytes → Prop
  | counted {number : Nat} {kind : Kind} {payload : Payload} {start bytes : Bytes}
      (isCounted : number ∈ counted) (opened : Key.Spells ⟨number, kind⟩ start)
      (spelled : payload.Spells .counted bytes) :
      Field.Spells depth counted ⟨number, payload⟩ (start ++ bytes)
  | plain {number : Nat} {kind : Kind} {payload : Payload} {start bytes : Bytes}
      (notCounted : number ∉ counted) (opened : Key.Spells ⟨number, kind⟩ start)
      (spelled : payload.Spells kind bytes) :
      Field.Spells depth counted ⟨number, payload⟩ (start ++ bytes)
  | group {number : Nat} {start inside stop : Bytes} (notCounted : number ∉ counted)
      (opened : Key.Spells ⟨number, .groupStart⟩ start) (within : Passable (depth - 1) inside)
      (closed : Key.Spells ⟨number, .groupEnd⟩ stop) :
      Field.Spells depth counted ⟨number, .group⟩ (start ++ (inside ++ stop))

variable {depth : Nat} {counted : List Nat}

theorem Field.takes : Takes (Field.read? depth counted) (Field.Spells depth counted) := by
  intro input field rest
  constructor
  · intro accepted
    rw [Field.read?] at accepted
    split at accepted
    · cases accepted
    · rename_i key left isRead
      rcases (Key.takes _ _ _).mp isRead with ⟨start, opened, rfl⟩
      split at accepted
      · rename_i isCounted
        rcases Option.map_eq_some_iff.mp accepted with ⟨⟨payload, after⟩, isPassed, same⟩
        cases same
        rcases (Payload.takes _ _ _ _).mp isPassed with ⟨bytes, spelled, rfl⟩
        exact ⟨start ++ bytes, .counted isCounted opened spelled, by simp⟩
      · rename_i notCounted
        split at accepted
        · rename_i isStart
          rcases Option.map_eq_some_iff.mp accepted with ⟨after, isSkipped, same⟩
          cases same
          have isKey : key = ⟨key.number, .groupStart⟩ := by rw [← isStart]
          rcases (skipGroups?_eq_some_iff _ _ _ _).mp isSkipped with ⟨spelling, closes, rfl⟩
          rcases closes with _ | @⟨_, _, inside, stop, _, within, closed, outwards⟩
          cases outwards
          exact ⟨start ++ (inside ++ stop), .group notCounted (isKey ▸ opened) within closed,
            by simp⟩
        · rcases Option.map_eq_some_iff.mp accepted with ⟨⟨payload, after⟩, isPassed, same⟩
          cases same
          rcases (Payload.takes _ _ _ _).mp isPassed with ⟨bytes, spelled, rfl⟩
          exact ⟨start ++ bytes, .plain notCounted opened spelled, by simp⟩
  · rintro ⟨spelling, spelled, rfl⟩
    cases spelled with
    | counted isCounted opened spelled =>
        simp only [Field.read?, List.append_assoc, Key.takes.append opened, if_pos isCounted,
          (Payload.takes _).append spelled, Option.map_some]
    | plain notCounted opened spelled =>
        simp only [Field.read?, List.append_assoc, Key.takes.append opened, if_neg notCounted,
          if_neg spelled.not_group.1, (Payload.takes _).append spelled, Option.map_some]
    | @group _ _ inside stop notCounted opened within closed =>
        have isSkipped : skipGroups? depth [_] (inside ++ (stop ++ rest)) = some rest :=
          (skipGroups?_eq_some_iff _ _ _ _).mpr
            ⟨inside ++ stop ++ [], .innermost within closed .done, by simp⟩
        simp only [Field.read?, List.append_assoc, Key.takes.append opened, if_neg notCounted,
          reduceIte, isSkipped, Option.map_some]

def Message.Spells (depth : Nat) (counted : List Nat) (fields : List Field) (bytes : Bytes) :
    Prop :=
  ∃ pieces, List.Forall₂ (Field.Spells depth counted) fields pieces ∧ bytes = pieces.flatten

theorem readMessage?_eq_some_iff (input : Bytes) (fields : List Field) :
    readMessage? depth counted input = some fields ↔
      Message.Spells depth counted fields input := by
  constructor
  · intro accepted
    fun_induction readMessage? depth counted input generalizing fields with
    | case1 =>
        cases accepted
        exact ⟨[], .nil, rfl⟩
    | case2 => cases accepted
    | case3 input _ field left isRead induction =>
        rcases Option.map_eq_some_iff.mp accepted with ⟨others, areRead, rfl⟩
        rcases induction others areRead with ⟨pieces, areSpelled, rfl⟩
        rcases (Field.takes _ _ _).mp isRead with ⟨piece, spelled, rfl⟩
        exact ⟨piece :: pieces, .cons spelled areSpelled, rfl⟩
  · rintro ⟨pieces, areSpelled, rfl⟩
    induction areSpelled with
    | nil => rw [List.flatten_nil, readMessage?, if_pos rfl]
    | @cons field piece _ pieces spelled _ induction =>
        have isRead := Field.takes.append spelled pieces.flatten
        have shorter := Field.read?_length isRead
        have isFilled : piece ++ pieces.flatten ≠ [] := by
          intro isEmpty
          simp [isEmpty] at shorter
        rw [List.flatten_cons, readMessage?, if_neg isFilled]
        split
        · rename_i fails
          cases fails.symm.trans isRead
        · rename_i read
          cases read.symm.trans isRead
          rw [induction, Option.map_some]

/-! ## What is written -/

namespace Varint

theorem write_length {number count : Nat} (fits : number < 128 ^ (count + 1)) :
    (write number).length ≤ count + 1 := by
  induction count generalizing number with
  | zero =>
      rw [write, if_pos (by simpa using fits)]
      rfl
  | succ count induction =>
      rw [write]
      split
      · simp
      · rw [Nat.pow_succ] at fits
        have := induction (Nat.div_lt_of_lt_mul (Nat.mul_comm _ _ ▸ fits))
        simpa using this

theorem spells_write {number : Nat} (fits : number ≤ Width.max64) :
    Spells number (write number) where
  continued := by
    clear fits
    fun_induction write number with
    | case1 number small =>
        refine ⟨[], UInt8.ofNat number, rfl, by simp, ?_⟩
        rw [UInt8.toNat_ofNat']
        omega
    | case2 number _ induction =>
        rcases induction with ⟨opening, last, isWritten, continued, isLast⟩
        refine ⟨_ :: opening, last, by rw [isWritten]; rfl, ?_, isLast⟩
        rw [List.forall_mem_cons]
        refine ⟨?_, continued⟩
        rw [UInt8.toNat_ofNat']
        omega
  atMostTen := write_length (Nat.lt_of_le_of_lt fits (by decide))
  isValue := by
    clear fits
    fun_induction write number with
    | case1 number small =>
        simp only [List.map_cons, List.map_nil, Nat.ofDigits_singleton, UInt8.toNat_ofNat']
        omega
    | case2 number _ induction =>
        rw [List.map_cons, Nat.ofDigits_cons, ← induction, UInt8.toNat_ofNat']
        omega
  fits := fits

end Varint

theorem Key.spells_write {key : Key} (numbered : key.number ≠ 0)
    (fits : 8 * key.number + key.kind.code ≤ Width.max32) : key.Spells key.write :=
  ⟨numbered, fits, Varint.spells_write (Nat.le_trans fits (by decide))⟩

def Payload.Fits : Payload → Prop
  | .number value => value ≤ Width.max64
  | .eightBytes bytes => bytes.length = 8
  | .counted bytes => bytes.length ≤ Width.max64
  | .group => True
  | .fourBytes bytes => bytes.length = 4

theorem Field.spells_write {field : Field} (numbered : field.number ≠ 0)
    (small : 8 * field.number + 5 ≤ Width.max32) (fits : field.payload.Fits)
    (isCounted : field.number ∈ counted → ∃ bytes, field.payload = .counted bytes) :
    field.Spells depth counted field.write := by
  rcases field with ⟨number, payload⟩
  have isKey (kind : Kind) : Key.Spells ⟨number, kind⟩ (Key.write ⟨number, kind⟩) := by
    refine Key.spells_write numbered (Nat.le_trans ?_ small)
    cases kind <;> simp [Kind.code]
  have isField {kind : Kind} {bytes : Bytes} (spelled : payload.Spells kind bytes) :
      Field.Spells depth counted ⟨number, payload⟩ (Key.write ⟨number, kind⟩ ++ bytes) := by
    by_cases isMember : number ∈ counted
    · rcases isCounted isMember with ⟨content, rfl⟩
      cases spelled with
      | counted spelled => exact .counted isMember (isKey .counted) (.counted spelled)
    · exact .plain isMember (isKey kind) spelled
  cases payload with
  | number value => exact isField (.number (Varint.spells_write fits))
  | eightBytes bytes => exact isField (.eightBytes fits)
  | counted bytes =>
      have isSpelled := isField (.counted (Varint.spells_write fits))
      rwa [← List.append_assoc] at isSpelled
  | group =>
      refine .group (fun isMember => ?_) (isKey .groupStart) .nothing (isKey .groupEnd)
      rcases isCounted isMember with ⟨bytes, isBytes⟩
      cases isBytes
  | fourBytes bytes => exact isField (.fourBytes fits)

theorem Message.spells_write {fields : List Field}
    (areSpelled : ∀ field ∈ fields, field.Spells depth counted field.write) :
    Message.Spells depth counted fields (writeMessage fields) := by
  refine ⟨fields.map Field.write, ?_, List.flatMap_def⟩
  rw [List.forall₂_map_right_iff, List.forall₂_same]
  exact areSpelled

end Entitlement.Wire
