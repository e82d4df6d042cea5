import Entitlement.Json.Record

/-! # Decisions

The outcome of an access check. A denial is an outcome like any other; a check
that could not be made at all has no outcome. -/

namespace Entitlement

inductive GrantReason where
  | superAdmin
  | noneSentinel
  | permission
deriving DecidableEq

namespace GrantReason

def all : List GrantReason := [superAdmin, noneSentinel, permission]

def name : GrantReason → String
  | superAdmin => "super_admin"
  | noneSentinel => "none_sentinel"
  | permission => "permission"

def ofName? (text : String) : Option GrantReason :=
  all.find? (·.name == text)

def toJson (reason : GrantReason) : Json := .text reason.name

def ofJson? (value : Json) : Option GrantReason :=
  (Json.choice? value).bind ofName?

def ofAside? (value : Json) : Option GrantReason :=
  (Json.asideChoice? value).bind ofName?

end GrantReason

inductive Decision where
  | granted (userId : Int) (reason : GrantReason)
  | denied
deriving DecidableEq

namespace Decision

def isAllowed : Decision → Bool
  | granted _ _ => true
  | denied => false

def userId? : Decision → Option Int
  | granted userId _ => some userId
  | denied => none

def reason? : Decision → Option GrantReason
  | granted _ reason => some reason
  | denied => none

def outcome : Decision → String
  | granted _ reason => reason.name
  | denied => "denied"

def toJson : Decision → Json
  | granted userId reason =>
      .object [("decision", .text "granted"), ("userId", .integer userId),
        ("reason", reason.toJson)]
  | denied => .object [("decision", .text "denied")]

open Json.Fields in
def grantedFields : Json.FieldReader Decision := do
  let userId ← required "userId" Json.integer?
  let reason ← required "reason" GrantReason.ofAside?
  return granted userId reason

/-- Reads the JSON form. The kind of decision may stand anywhere in an object; in a
list it comes first, with the fields of that kind after it. -/
def ofJson? : Json → Option Decision
  | .object members => do
      match ← members.lookup "decision" with
      | .text "granted" => Json.record? grantedFields (.object members)
      | .text "denied" => some denied
      | _ => none
  | .list (.text "granted" :: items) => Json.record? grantedFields (.list items)
  | .list [.text "denied"] => some denied
  | _ => none

end Decision
end Entitlement
