import Entitlement.Json.Record
import Entitlement.Width

/-! # Readers of fields

From an object, a reader takes the members with the names of its fields, wherever they stand. What
it lets through, from an object or from a list, has the properties that the readers of its fields
ensure. -/

namespace Entitlement

/-! ## Fields of objects -/

namespace Json

def Yields {α : Type} (reader : FieldReader α) (members : List (String × Json)) (value : α) :
    Prop :=
  reader.run (.named members) = some (value, .named members)

section

variable {α β : Type} {members : List (String × Json)} {name : String}
  {read? : Json → Option α} {value : α}

theorem yields_pure (value : α) : Yields (pure value) members value := rfl

theorem Yields.bind {first : FieldReader α} {next : α → FieldReader β} {result : β}
    (yields : Yields first members value) (rest : Yields (next value) members result) :
    Yields (first >>= next) members result := by
  rw [Yields, StateT.run_bind, yields]
  exact rest

theorem yields_required {member : Json} (reads : read? member = some value)
    (found : members.lookup name = some member) :
    Yields (Fields.required name read?) members value := by
  have next : (Fields.next? name).run (.named members) = some (some member, .named members) := by
    rw [← found]
    rfl
  rw [Yields, Fields.required, StateT.run_bind, next]
  simp [reads]

theorem yields_defaulted {member : Json} {default : α} (reads : read? member = some value)
    (found : members.lookup name = some member) :
    Yields (Fields.defaulted name read? default) members value := by
  have next : (Fields.next? name).run (.named members) = some (some member, .named members) := by
    rw [← found]
    rfl
  rw [Yields, Fields.defaulted, StateT.run_bind, next]
  simp [reads]

theorem nullable?_of_some {member : Json} (notNull : read? .null = none)
    (reads : read? member = some value) : nullable? read? member = some (some value) := by
  cases member with
  | null =>
      rw [notNull] at reads
      cases reads
  | bool | integer | decimal | text | list | object => simp [nullable?, reads]

theorem yields_optional {write : α → Json} {value? : Option α} (notNull : read? .null = none)
    (reads : ∀ value ∈ value?, read? (write value) = some value)
    (found : members.lookup name = value?.map write) :
    Yields (Fields.optional name read?) members value? := by
  cases value? with
  | none =>
      have next : Fields.next? name (.named members) = some (none, .named members) := by
        rw [Fields.next?, found]
        rfl
      simp only [Yields, StateT.run, Fields.optional, next]
  | some value =>
      have next : Fields.next? name (.named members) = some (some (write value), .named members) := by
        rw [Fields.next?, found]
        rfl
      simp only [Yields, StateT.run, Fields.optional, next, nullable?_of_some notNull (reads value rfl),
        Option.map_some]

theorem record?_of_yields {reader : FieldReader α} (yields : Yields reader members value) :
    record? reader (.object members) = some value := by
  rw [record?]
  simp only [Fields.of?, Option.bind_eq_bind, Option.bind_some]
  rw [yields]
  rfl

theorem lookup_optionalMember (other : String) (write : α → Json) (value? : Option α) :
    (optionalMember name write value?).lookup other =
      if other = name then value?.map write else none := by
  cases value? with
  | none => simp [optionalMember]
  | some value =>
      by_cases equal : other = name
      · simp [optionalMember, equal]
      · simp [optionalMember, List.lookup_cons, beq_false_of_ne equal, equal]

end

/-! ## What readers let through -/

structure Ensures {α : Type} (reader : FieldReader α) (property : α → Prop) : Prop where
  holds : ∀ fields value rest, reader.run fields = some (value, rest) → property value

section

variable {α β : Type} {name : String} {read? : Json → Option α} {property : α → Prop}

theorem ensures_pure {value : α} (holds : property value) : Ensures (pure value) property := by
  constructor
  intro fields other rest given
  cases given
  exact holds

theorem Ensures.bind {first : FieldReader α} {next : α → FieldReader β} {result : β → Prop}
    (ensures : Ensures first property) (rest : ∀ value, property value → Ensures (next value) result) :
    Ensures (first >>= next) result := by
  constructor
  intro fields value left given
  rw [StateT.run_bind] at given
  rcases Option.bind_eq_some_iff.mp given with ⟨⟨found, later⟩, here, there⟩
  exact (rest found (ensures.holds fields found later here)).holds later value left there

theorem Ensures.skip {first : FieldReader α} {next : α → FieldReader β} {result : β → Prop}
    (rest : ∀ value, Ensures (next value) result) : Ensures (first >>= next) result :=
  Ensures.bind (⟨fun _ _ _ _ => trivial⟩ : Ensures first fun _ => True) fun value _ => rest value

theorem ensures_lift {value? : Option α} (holds : ∀ value, value? = some value → property value) :
    Ensures (StateT.lift value?) property := by
  constructor
  intro fields value rest given
  rcases Option.bind_eq_some_iff.mp given with ⟨found, here, there⟩
  cases there
  exact holds value here

theorem ensures_required (holds : ∀ json value, read? json = some value → property value) :
    Ensures (Fields.required name read?) property := by
  apply Ensures.skip
  intro found
  cases found with
  | none => exact ⟨fun _ _ _ none => by cases none⟩
  | some member => exact ensures_lift (holds member)

theorem ensures_defaulted {default : α}
    (holds : ∀ json value, read? json = some value → property value)
    (byDefault : property default) : Ensures (Fields.defaulted name read? default) property := by
  apply Ensures.skip
  intro found
  cases found with
  | none => exact ensures_pure byDefault
  | some member => exact ensures_lift (holds member)

theorem ensures_optional (holds : ∀ json value, read? json = some value → property value) :
    Ensures (Fields.optional name read?) fun value? => ∀ value ∈ value?, property value := by
  constructor
  intro fields value? rest given value isValue
  cases isValue
  rw [StateT.run, Fields.optional] at given
  split at given
  · rename_i member later here
    rcases Option.map_eq_some_iff.mp given with ⟨found, reads, equal⟩
    cases equal
    rw [nullable?.eq_def] at reads
    split at reads
    · cases reads
    · rcases Option.map_eq_some_iff.mp reads with ⟨other, readsOther, equal⟩
      cases equal
      exact holds _ _ readsOther
  · cases given
  · cases given

theorem of_record? {reader : FieldReader α} (ensures : Ensures reader property) {json : Json}
    {value : α} (reads : record? reader json = some value) : property value := by
  rw [record?] at reads
  rcases Option.bind_eq_some_iff.mp reads with ⟨start, -, later⟩
  rcases Option.bind_eq_some_iff.mp later with ⟨⟨result, rest⟩, here, there⟩
  rcases Option.bind_eq_some_iff.mp there with ⟨_, -, equal⟩
  cases equal
  exact ensures.holds start value rest here

end
end Json

/-! ## Values of fields -/

theorem Json.text?_text (value : String) : text? (.text value) = some value := rfl

theorem Json.bool?_bool (value : Bool) : bool? (.bool value) = some value := rfl

def Width.Fits64 (value : Int) : Prop :=
  Width.minSigned64 ≤ value ∧ value ≤ Width.maxSigned64

namespace Json

theorem integer?_integer {value : Int} (fits : Width.Fits64 value) :
    integer? (.integer value) = some value :=
  if_pos fits

theorem fits64_of_integer? (json : Json) (value : Int) (reads : integer? json = some value) :
    Width.Fits64 value := by
  cases json with
  | integer number =>
      rw [integer?, between?] at reads
      split at reads
      · rename_i within
        cases reads
        exact within
      · cases reads
  | null | bool | decimal | text | list | object => cases reads

theorem natural?_integer {most value : Nat} (fits : value ≤ most) :
    natural? most (.integer value) = some value := by
  rw [natural?, between?, if_pos (by omega)]
  rfl

theorem le_of_natural? {most : Nat} (json : Json) (value : Nat)
    (reads : natural? most json = some value) : value ≤ most := by
  cases json with
  | integer number =>
      rw [natural?, between?] at reads
      split at reads
      · rename_i within
        cases reads
        omega
      · cases reads
  | null | bool | decimal | text | list | object => cases reads

end Json

end Entitlement
