import Entitlement.Json.Record

/-! # Keys of roles and permissions

Roles and permissions are identified outside by names from two fixed sets. Both
sets are listed in a fixed order. -/

namespace Entitlement

structure UnknownKey where
  text : String
deriving DecidableEq

def UnknownKey.message (unknown : UnknownKey) : String :=
  "Unknown key: " ++ unknown.text

/-! ## Role keys -/

inductive RoleKey where
  | superAdmin
  | admin
  | manager
  | accountant
  | supplier
  | sales
  | staff
  | user
deriving DecidableEq

namespace RoleKey

def all : List RoleKey :=
  [superAdmin, admin, manager, accountant, supplier, sales, staff, user]

theorem mem_all (key : RoleKey) : key ∈ all := by
  cases key <;> decide

def name : RoleKey → String
  | superAdmin => "SUPER_ADMIN"
  | admin => "ADMIN"
  | manager => "MANAGER"
  | accountant => "ACCOUNTANT"
  | supplier => "SUPPLIER"
  | sales => "SALES"
  | staff => "STAFF"
  | user => "USER"

def ofName? (text : String) : Option RoleKey :=
  all.find? (·.name == text)

def read (text : String) : Except UnknownKey RoleKey :=
  match ofName? text with
  | some key => .ok key
  | none => .error ⟨text⟩

def toJson (key : RoleKey) : Json := .text key.name

def ofJson? (value : Json) : Option RoleKey :=
  (Json.choice? value).bind ofName?

def ofAside? (value : Json) : Option RoleKey :=
  (Json.asideChoice? value).bind ofName?

end RoleKey

/-! ## Permission keys -/

inductive PermissionKey where
  | none
  | readUser
  | createUser
  | updateUser
  | deleteUser
  | banUser
  | readRole
  | createRole
  | updateRole
  | deleteRole
  | assignRole
  | readPermission
  | assignPermission
deriving DecidableEq

namespace PermissionKey

def all : List PermissionKey :=
  [none, readUser, createUser, updateUser, deleteUser, banUser, readRole, createRole, updateRole,
    deleteRole, assignRole, readPermission, assignPermission]

theorem mem_all (key : PermissionKey) : key ∈ all := by
  cases key <;> decide

def name : PermissionKey → String
  | none => "NONE"
  | readUser => "READ_USER"
  | createUser => "CREATE_USER"
  | updateUser => "UPDATE_USER"
  | deleteUser => "DELETE_USER"
  | banUser => "BAN_USER"
  | readRole => "READ_ROLE"
  | createRole => "CREATE_ROLE"
  | updateRole => "UPDATE_ROLE"
  | deleteRole => "DELETE_ROLE"
  | assignRole => "ASSIGN_ROLE"
  | readPermission => "READ_PERMISSION"
  | assignPermission => "ASSIGN_PERMISSION"

def ofName? (text : String) : Option PermissionKey :=
  all.find? (·.name == text)

def read (text : String) : Except UnknownKey PermissionKey :=
  match ofName? text with
  | some key => .ok key
  | Option.none => .error ⟨text⟩

def group : PermissionKey → String
  | none => "general"
  | readUser | createUser | updateUser | deleteUser | banUser => "user"
  | readRole | createRole | updateRole | deleteRole | assignRole => "role"
  | readPermission | assignPermission => "permission"

def isSentinel (key : PermissionKey) : Bool :=
  key == none

def toJson (key : PermissionKey) : Json := .text key.name

def ofJson? (value : Json) : Option PermissionKey :=
  (Json.choice? value).bind ofName?

end PermissionKey
end Entitlement
