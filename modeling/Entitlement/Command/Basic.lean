import Entitlement.Key
import Entitlement.Text.UpperCase
import Entitlement.Uuid.Reading

/-! # Commands

What an administrator can ask the program to do. -/

namespace Entitlement

def PermissionKey.ofArgument (argument : String) : Except UnknownKey PermissionKey :=
  read (Text.toUpperCase argument)

inductive Command where
  | migrate
  | seed
  | roles
  | permissions
  | check (userUuid : String) (required : List PermissionKey)
  | assignDefault (userId : Int)
  | syncPermissions (roleUuid : Uuid) (permissionUuids : List String)
deriving DecidableEq

namespace Command

def name : Command → String
  | migrate => "migrate"
  | seed => "seed"
  | roles => "roles"
  | permissions => "permissions"
  | check _ _ => "check"
  | assignDefault _ => "assign-default"
  | syncPermissions _ _ => "sync-permissions"

end Command
end Entitlement
