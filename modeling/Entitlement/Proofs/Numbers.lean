import Entitlement.Store.Supply

/-! # Numbers in the order of the counter

The counter of a store gives out 1, 2, 3 and so on up to the largest number, goes on with
the smallest one, and comes to 0 last of all. As long as it has not come full circle, every
number that it gives out is new. -/

namespace Entitlement.Store

namespace Supply

def ordinal (id : Int) : Int := id % ((Width.max64 + 1 : Nat) : Int)

def Lasts (supply : Supply) (count : Nat) : Prop :=
  ordinal supply.lastId + count ≤ Width.max64

/-- A number chosen elsewhere is larger than all numbers given out or kept so far, and none
of them comes after it in the order of the counter. -/
def IsBehind (supply : Supply) (id : Int) : Prop :=
  supply.lastId < id ∧ ordinal supply.lastId < ordinal id

/-- The counter has reached the place of a number: if the number was ever in use, the
counter will not give it out again. -/
def Covers (supply : Supply) (id : Int) : Prop :=
  ordinal id ≤ ordinal supply.lastId

def LeadsTo (supply later : Supply) : Prop :=
  ordinal supply.lastId ≤ ordinal later.lastId

instance (supply : Supply) (count : Nat) : Decidable (supply.Lasts count) :=
  inferInstanceAs (Decidable (_ ≤ _))

instance (supply : Supply) (id : Int) : Decidable (supply.IsBehind id) :=
  inferInstanceAs (Decidable (_ ∧ _))

instance (supply : Supply) (id : Int) : Decidable (supply.Covers id) :=
  inferInstanceAs (Decidable (_ ≤ _))

theorem ordinal_signed64 (value : Int) : ordinal (Width.signed64 value) = ordinal value :=
  Int.bmod_emod

/-! ## Order -/

theorem LeadsTo.refl (supply : Supply) : supply.LeadsTo supply :=
  Int.le_refl _

theorem LeadsTo.trans {first second third : Supply} (earlier : first.LeadsTo second)
    (later : second.LeadsTo third) : first.LeadsTo third :=
  Int.le_trans earlier later

theorem Covers.mono {supply later : Supply} {id : Int} (covers : supply.Covers id)
    (leads : supply.LeadsTo later) : later.Covers id :=
  Int.le_trans covers leads

theorem Lasts.mono {supply : Supply} {count fewer : Nat} (lasts : supply.Lasts count)
    (less : fewer ≤ count) : supply.Lasts fewer := by
  rw [Lasts] at lasts ⊢
  omega

/-! ## Giving out a number -/

theorem ordinal_takeId {supply : Supply} {count : Nat} (lasts : supply.Lasts (count + 1)) :
    ordinal supply.takeId.1 = ordinal supply.lastId + 1 := by
  change ordinal (Width.signed64 (supply.lastId + 1)) = _
  rw [ordinal_signed64]
  simp only [Lasts, ordinal] at lasts ⊢
  have modulus : ((Width.max64 + 1 : Nat) : Int) = 18446744073709551616 := rfl
  have largest : (Width.max64 : Int) = 18446744073709551615 := rfl
  rw [modulus, largest] at lasts
  rw [modulus]
  omega

theorem lasts_takeId {supply : Supply} {count : Nat} (lasts : supply.Lasts (count + 1)) :
    supply.takeId.2.Lasts count := by
  have next := ordinal_takeId lasts
  change ordinal supply.takeId.1 + count ≤ _
  simp only [Lasts] at lasts
  omega

theorem leadsTo_takeId {supply : Supply} {count : Nat} (lasts : supply.Lasts (count + 1)) :
    supply.LeadsTo supply.takeId.2 := by
  have next := ordinal_takeId lasts
  change ordinal supply.lastId ≤ ordinal supply.takeId.1
  omega

theorem covers_takeId (supply : Supply) : supply.takeId.2.Covers supply.takeId.1 :=
  Int.le_refl _

theorem not_covers_takeId {supply : Supply} {count : Nat} (lasts : supply.Lasts (count + 1)) :
    ¬ supply.Covers supply.takeId.1 := by
  have next := ordinal_takeId lasts
  simp only [Covers]
  omega

/-! ## Keeping a number -/

theorem lastId_keepId {supply : Supply} {id : Int} (behind : supply.IsBehind id) :
    (supply.keepId id).lastId = id :=
  Int.max_eq_right (Int.le_of_lt behind.1)

theorem leadsTo_keepId {supply : Supply} {id : Int} (behind : supply.IsBehind id) :
    supply.LeadsTo (supply.keepId id) := by
  rw [LeadsTo, lastId_keepId behind]
  exact Int.le_of_lt behind.2

theorem covers_keepId {supply : Supply} {id : Int} (behind : supply.IsBehind id) :
    (supply.keepId id).Covers id :=
  Int.le_of_eq (congrArg ordinal (lastId_keepId behind).symm)

theorem not_covers_of_isBehind {supply : Supply} {id : Int} (behind : supply.IsBehind id) :
    ¬ supply.Covers id :=
  Int.not_le.mpr behind.2

/-! ## Rows that are stored directly -/

def numberFor (supply : Supply) (chosen : Int) : Int × Supply :=
  if chosen = 0 then supply.takeId else (chosen, supply.keepId chosen)

def Admits (supply : Supply) (chosen : Int) : Prop :=
  if chosen = 0 then supply.Lasts 1 else supply.IsBehind chosen

instance (supply : Supply) (chosen : Int) : Decidable (supply.Admits chosen) :=
  inferInstanceAs (Decidable (if chosen = 0 then supply.Lasts 1 else supply.IsBehind chosen))

theorem numberFor_spec {supply : Supply} {chosen : Int} (admits : supply.Admits chosen) :
    supply.LeadsTo (supply.numberFor chosen).2 ∧
      ¬ supply.Covers (supply.numberFor chosen).1 ∧
      (supply.numberFor chosen).2.Covers (supply.numberFor chosen).1 := by
  rw [Admits] at admits
  rw [numberFor]
  split at admits
  · rename_i unchosen
    rw [if_pos unchosen]
    exact ⟨leadsTo_takeId admits, not_covers_takeId admits, covers_takeId supply⟩
  · rename_i isChosen
    rw [if_neg isChosen]
    exact ⟨leadsTo_keepId admits, not_covers_of_isBehind admits, covers_keepId admits⟩

end Supply

/-! ## The next numbers -/

def numbersAfter (last : Int) : Nat → List Int
  | 0 => []
  | count + 1 => Width.signed64 (last + 1) :: numbersAfter (Width.signed64 (last + 1)) count

theorem numbersAfter_sublist (last : Int) (count : Nat) :
    (numbersAfter last count).Sublist (numbersAfter last (count + 1)) := by
  induction count generalizing last with
  | zero => exact List.nil_sublist _
  | succ count induction => exact (induction _).cons_cons _

end Entitlement.Store
