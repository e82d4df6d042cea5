import Entitlement.Width

/-! # JSON values

Values keep the order of their members, because that order shows when they are
printed. Whole numbers of at most 64 bits are told apart from all other numbers:
only the former are ever identifiers or counts. -/

namespace Entitlement

inductive Json where
  | null
  | bool (value : Bool)
  | integer (value : Int)
  | decimal (literal : String)
  | text (value : String)
  | list (items : List Json)
  | object (members : List (String × Json))

namespace Json

instance : Inhabited Json := ⟨.null⟩

def member? (name : String) : Json → Option Json
  | .object members => members.lookup name
  | _ => none

def text? : Json → Option String
  | .text value => some value
  | _ => none

def bool? : Json → Option Bool
  | .bool value => some value
  | _ => none

def between? (least most : Int) : Json → Option Int
  | .integer value => if least ≤ value ∧ value ≤ most then some value else none
  | _ => none

def integer? (value : Json) : Option Int :=
  value.between? Width.minSigned64 Width.maxSigned64

def natural? (most : Nat) (value : Json) : Option Nat :=
  (value.between? 0 most).map Int.toNat

def listOf? {α : Type} (read? : Json → Option α) : Json → Option (List α)
  | .list items => items.mapM read?
  | _ => none

def nullable? {α : Type} (read? : Json → Option α) : Json → Option (Option α)
  | .null => some none
  | value => (read? value).map some

def optionalMember {α : Type} (name : String) (write : α → Json) : Option α → List (String × Json)
  | none => []
  | some value => [(name, write value)]

end Json
end Entitlement
