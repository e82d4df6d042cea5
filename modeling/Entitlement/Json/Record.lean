import Entitlement.Json.Basic

/-! # Records in JSON

A record is written as an object and may also be read from a list of its fields
in order. In an object, members that the record does not know are ignored, and an
optional field may be null or missing; in a list, only fields with a default may
be missing, at the end, and nothing may be left over. -/

namespace Entitlement.Json

inductive Fields where
  | named (members : List (String × Json))
  | ordered (items : List Json)

abbrev FieldReader := StateT Fields Option

namespace Fields

def of? : Json → Option Fields
  | .object members => some (.named members)
  | .list items => some (.ordered items)
  | _ => none

def next? (name : String) : FieldReader (Option Json) := fun fields =>
  match fields with
  | .named members => some (members.lookup name, .named members)
  | .ordered [] => some (none, .ordered [])
  | .ordered (item :: rest) => some (some item, .ordered rest)

variable {α : Type}

def required (name : String) (read? : Json → Option α) : FieldReader α := do
  match ← next? name with
  | some value => StateT.lift (read? value)
  | none => failure

def optional (name : String) (read? : Json → Option α) : FieldReader (Option α) := fun fields =>
  match next? name fields with
  | some (some value, rest) => (nullable? read? value).map (·, rest)
  | some (none, .named members) => some (none, .named members)
  | _ => none

def defaulted (name : String) (read? : Json → Option α) (default : α) : FieldReader α := do
  match ← next? name with
  | some value => StateT.lift (read? value)
  | none => pure default

def done : FieldReader Unit := fun fields =>
  match fields with
  | .ordered (_ :: _) => none
  | rest => some ((), rest)

end Fields

def record? {α : Type} (fields : FieldReader α) (value : Json) : Option α := do
  let start ← Fields.of? value
  let (result, rest) ← fields.run start
  let _ ← Fields.done rest
  some result

/-! ## Choices -/

/-- The word that a choice between bare words is made with: the word itself, or the name of
the only member of an object, whose value has to be one that says nothing more. -/
def choiceWhere? (saysNothing : Json → Bool) : Json → Option String
  | .text word => some word
  | .object [(word, value)] => if saysNothing value then some word else none
  | _ => none

def choice? (value : Json) : Option String :=
  value.choiceWhere? fun
    | .null => true
    | _ => false

/-- The word of a choice within an object whose members are set aside before they are read.
There, an empty object says nothing more either. -/
def asideChoice? (value : Json) : Option String :=
  value.choiceWhere? fun
    | .null | .object [] => true
    | _ => false

end Entitlement.Json
