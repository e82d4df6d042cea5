import Entitlement.Json.Basic

/-! # Faults

Everything that can go wrong with a request. A fault carries texts only, so that
it can be sent to another service and put together again from its key and its
attributes. The cause of a technical failure is not part of it. -/

namespace Entitlement

inductive Fault where
  | server (operation : String)
  | notFound (entity id : String)
  | roleExists (key : String)
  | notDeletable (entity id : String)
  | noRows (operation : String)
  | invalidBody (field reason : String)
  | inactive (uuid : String)
  | unverified (uuid : String)
  | banned (uuid : String)
deriving DecidableEq

namespace Fault

def key : Fault → String
  | server _ => "server_error"
  | notFound _ _ => "record_not_found"
  | roleExists _ => "role_existed"
  | notDeletable _ _ => "is_not_deletable"
  | noRows _ => "no_rows_effected"
  | invalidBody _ _ => "invalid_request_body"
  | inactive _ => "user_inactive"
  | unverified _ => "user_unverified"
  | banned _ => "user_is_banned"

def attributes : Fault → List (String × String)
  | server operation | noRows operation => [("operation", operation)]
  | notFound entity id | notDeletable entity id => [("entity", entity), ("id", id)]
  | roleExists key => [("key", key)]
  | invalidBody field reason => [("field", field), ("reason", reason)]
  | inactive uuid | unverified uuid | banned uuid => [("uuid", uuid)]

def message : Fault → String
  | server operation => "Server error during " ++ operation
  | notFound entity id => entity ++ " not found: " ++ id
  | roleExists key => "Role with key " ++ key ++ " already exists"
  | notDeletable entity id => entity ++ " " ++ id ++ " is not deletable"
  | noRows operation => "No rows affected by " ++ operation
  | invalidBody field reason => "Invalid request body: " ++ field ++ " " ++ reason
  | inactive uuid => "User " ++ uuid ++ " is inactive"
  | unverified uuid => "User " ++ uuid ++ " is not verified"
  | banned uuid => "User " ++ uuid ++ " is banned"

def remote : Fault := server "remote"

/-- Puts a fault together from its key and attributes. A missing attribute is
empty; an unknown key is a technical failure, never a refusal. -/
def ofParts (key : String) (attribute? : String → Option String) : Fault :=
  let part (name : String) : String := (attribute? name).getD ""
  match key with
  | "record_not_found" => notFound (part "entity") (part "id")
  | "role_existed" => roleExists (part "key")
  | "is_not_deletable" => notDeletable (part "entity") (part "id")
  | "no_rows_effected" => noRows (part "operation")
  | "invalid_request_body" => invalidBody (part "field") (part "reason")
  | "user_inactive" => inactive (part "uuid")
  | "user_unverified" => unverified (part "uuid")
  | "user_is_banned" => banned (part "uuid")
  | "server_error" => server (part "operation")
  | _ => remote

def isRetryable : Fault → Bool
  | server _ => true
  | _ => false

def httpStatus : Fault → Nat
  | server _ => 500
  | notFound _ _ | noRows _ => 404
  | roleExists _ => 409
  | notDeletable _ _ => 422
  | invalidBody _ _ => 400
  | inactive _ | unverified _ | banned _ => 403

/-- The JSON form: the key in the member `message_key`, then the parts of the fault. -/
def toJson : Fault → Json
  | server operation => .object
      [("message_key", .text "server_error"), ("operation", .text operation)]
  | notFound entity id => .object
      [("message_key", .text "record_not_found"), ("entity", .text entity), ("id", .text id)]
  | roleExists key => .object
      [("message_key", .text "role_existed"), ("key", .text key)]
  | notDeletable entity id => .object
      [("message_key", .text "is_not_deletable"), ("entity", .text entity), ("id", .text id)]
  | noRows operation => .object
      [("message_key", .text "no_rows_effected"), ("operation", .text operation)]
  | invalidBody field reason => .object
      [("message_key", .text "invalid_request_body"), ("field", .text field),
        ("reason", .text reason)]
  | inactive uuid => .object [("message_key", .text "user_inactive"), ("uuid", .text uuid)]
  | unverified uuid => .object [("message_key", .text "user_unverified"), ("uuid", .text uuid)]
  | banned uuid => .object [("message_key", .text "user_is_banned"), ("uuid", .text uuid)]

end Fault
end Entitlement
