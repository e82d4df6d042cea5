import Entitlement.Fault
import Entitlement.Instant.Json
import Entitlement.Key

/-! # Users

Users belong to another service; here they are only looked up. Only an active user
may do anything at all. -/

namespace Entitlement

inductive UserStatus where
  | active
  | inactive
  | unverified
  | banned
  | unknown
deriving DecidableEq

namespace UserStatus

def all : List UserStatus := [active, inactive, unverified, banned, unknown]

theorem mem_all (status : UserStatus) : status ∈ all := by
  cases status <;> decide

def name : UserStatus → String
  | active => "ACTIVE"
  | inactive => "INACTIVE"
  | unverified => "UNVERIFIED"
  | banned => "BANNED"
  | unknown => "UNKNOWN"

def ofName? (text : String) : Option UserStatus :=
  all.find? (·.name == text)

def read (text : String) : Except UnknownKey UserStatus :=
  match ofName? text with
  | some status => .ok status
  | none => .error ⟨text⟩

/-- Lets only active users through. A state that is not known counts as inactive. -/
def requireActive (status : UserStatus) (uuid : Uuid) : Except Fault Unit :=
  match status with
  | active => .ok ()
  | inactive | unknown => .error (.inactive uuid.text)
  | unverified => .error (.unverified uuid.text)
  | banned => .error (.banned uuid.text)

def toJson (status : UserStatus) : Json := .text status.name

def ofJson? (value : Json) : Option UserStatus :=
  (Json.choice? value).bind ofName?

end UserStatus

structure User where
  id : Int
  uuid : Uuid
  status : UserStatus
deriving DecidableEq

namespace User

def toJson (user : User) : Json :=
  .object [("id", .integer user.id), ("uuid", user.uuid.toJson), ("status", user.status.toJson)]

open Json.Fields in
def fields : Json.FieldReader User := do
  let id ← required "id" Json.integer?
  let uuid ← required "uuid" Uuid.ofJson?
  let status ← required "status" UserStatus.ofJson?
  return { id, uuid, status }

def ofJson? (value : Json) : Option User := Json.record? fields value

end User
end Entitlement
