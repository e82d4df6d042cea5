import Entitlement.Permission
import Entitlement.Role
import Entitlement.Text.Blank

/-! # Statements

What is sent to the database: a text with numbered places, and the parameters that go
into the places. Every statement that is ever sent is listed here. -/

namespace Entitlement.Database

inductive Parameter where
  | null
  | integer (value : Int)
  | text (value : String)
  | bool (value : Bool)
  | uuid (value : Uuid)
  | moment (value : Instant)
  | integers (values : List Int)
  | uuids (values : List Uuid)
deriving DecidableEq

def Parameter.ofInstant (moment : Instant) : Parameter :=
  .moment moment.toMicroseconds

def Parameter.toJson : Parameter → Json
  | null => .null
  | integer value => .integer value
  | text value => .text value
  | bool value => .bool value
  | uuid value => value.toJson
  | moment value => value.toJson
  | integers values => .list (values.map Json.integer)
  | uuids values => .list (values.map Uuid.toJson)

structure Statement where
  text : String
  parameters : List Parameter := []
deriving DecidableEq

namespace Statement

def toJson (statement : Statement) : Json :=
  .list (.text statement.text :: statement.parameters.map Parameter.toJson)

def verb (statement : Statement) : String :=
  String.ofList
    ((statement.text.toList.dropWhile Text.isBlank).takeWhile fun letter => !Text.isBlank letter)

/-! ## Transactions -/

def begin : Statement := ⟨"BEGIN", []⟩

def commit : Statement := ⟨"COMMIT", []⟩

def rollback : Statement := ⟨"ROLLBACK", []⟩

def isBoundary (statement : Statement) : Bool :=
  statement = begin || statement = commit || statement = rollback

/-! ## Roles -/

def roleColumns : String :=
  "id, uuid, title, key, description, is_default, created_at, updated_at, deleted_at, deleted_by"

def insertRole (role : Role) : Statement where
  text := "INSERT INTO roles (uuid, title, key, description, is_default, created_at, updated_at) " ++
    "VALUES ($1, $2, $3, $4, $5, $6, $7) RETURNING " ++ roleColumns
  parameters := [.uuid role.uuid, .text role.title, .text role.key.name, .text role.description,
    .bool role.isDefault, .ofInstant role.createdAt, .ofInstant role.updatedAt]

def roleByUuid (uuid : Uuid) : Statement where
  text := "SELECT " ++ roleColumns ++ " FROM roles WHERE uuid = $1 AND deleted_at IS NULL"
  parameters := [.uuid uuid]

def liveRoles : Statement where
  text := "SELECT " ++ roleColumns ++ " FROM roles WHERE deleted_at IS NULL ORDER BY id ASC"

def updateRole (role : Role) (uuid : Uuid) : Statement where
  text := "UPDATE roles SET title = $1, key = $2, description = $3, is_default = $4, " ++
    "updated_at = NOW() WHERE uuid = $5 AND deleted_at IS NULL RETURNING " ++ roleColumns
  parameters := [.text role.title, .text role.key.name, .text role.description,
    .bool role.isDefault, .uuid uuid]

def deleteRole (uuid : Uuid) (deletedBy : Int) : Statement where
  text := "UPDATE roles SET deleted_at = NOW(), deleted_by = $2 " ++
    "WHERE uuid = $1 AND is_default = FALSE AND deleted_at IS NULL"
  parameters := [.uuid uuid, .integer deletedBy]

def keyInUse (key : RoleKey) (exclude : Option Uuid) : Statement where
  text := "SELECT EXISTS (SELECT 1 FROM roles WHERE key = $1 AND deleted_at IS NULL " ++
    "AND ($2::uuid IS NULL OR uuid <> $2))"
  parameters := [.text key.name, (exclude.map Parameter.uuid).getD .null]

def roleByKey (key : RoleKey) : Statement where
  text := "SELECT " ++ roleColumns ++ " FROM roles WHERE key = $1 AND deleted_at IS NULL"
  parameters := [.text key.name]

def permissionsOfRole (roleId : Int) : Statement where
  text := "SELECT p.id, p.uuid, p.title, p.key, p.group_name, p.description, " ++
    "p.created_at, p.updated_at, p.deleted_at FROM permissions p " ++
    "JOIN role_permissions rp ON rp.permission_id = p.id " ++
    "WHERE rp.role_id = $1 AND p.deleted_at IS NULL ORDER BY p.id ASC"
  parameters := [.integer roleId]

def detachPermissions (roleId : Int) : Statement where
  text := "DELETE FROM role_permissions WHERE role_id = $1"
  parameters := [.integer roleId]

def attachPermissions (roleId : Int) (permissionIds : List Int) : Statement where
  text := "INSERT INTO role_permissions (role_id, permission_id) " ++
    "SELECT $1, unnest($2::bigint[]) ON CONFLICT DO NOTHING"
  parameters := [.integer roleId, .integers permissionIds]

def roleKeysOf (userId : Int) : Statement where
  text := "SELECT DISTINCT r.key FROM access_controls ac JOIN roles r ON r.id = ac.role_id " ++
    "WHERE ac.user_id = $1 AND ac.deleted_at IS NULL AND r.deleted_at IS NULL"
  parameters := [.integer userId]

/-! ## Permissions -/

def permissionColumns : String :=
  "id, uuid, title, key, group_name, description, created_at, updated_at, deleted_at"

def permissionKeysOf (userId : Int) : Statement where
  text := "SELECT p.key FROM access_controls ac " ++
    "JOIN role_permissions rp ON rp.role_id = ac.role_id " ++
    "JOIN roles r ON r.id = ac.role_id AND r.deleted_at IS NULL " ++
    "JOIN permissions p ON p.id = rp.permission_id " ++
    "WHERE ac.user_id = $1 AND ac.deleted_at IS NULL AND p.deleted_at IS NULL " ++
    "UNION SELECT p.key FROM access_controls ac JOIN permissions p ON p.id = ac.permission_id " ++
    "WHERE ac.user_id = $1 AND ac.deleted_at IS NULL AND p.deleted_at IS NULL"
  parameters := [.integer userId]

def livePermissions : Statement where
  text := "SELECT " ++ permissionColumns ++
    " FROM permissions WHERE deleted_at IS NULL ORDER BY id ASC"

def permissionIds (uuids : List Uuid) : Statement where
  text := "SELECT id FROM permissions WHERE uuid = ANY($1) AND deleted_at IS NULL ORDER BY id ASC"
  parameters := [.uuids uuids]

def insertPermission (permission : Permission) : Statement where
  text := "INSERT INTO permissions " ++
    "(uuid, title, key, group_name, description, created_at, updated_at) " ++
    "VALUES ($1, $2, $3, $4, $5, $6, $7) RETURNING " ++ permissionColumns
  parameters := [.uuid permission.uuid, .text permission.title, .text permission.key.name,
    .text permission.group, .text permission.description, .ofInstant permission.createdAt,
    .ofInstant permission.updatedAt]

/-! ## Grants -/

def revokeGrants (userId : Int) : Statement where
  text := "UPDATE access_controls SET deleted_at = NOW() WHERE user_id = $1 AND deleted_at IS NULL"
  parameters := [.integer userId]

def grantRoles (userId : Int) (roleIds : List Int) : Statement where
  text := "INSERT INTO access_controls (user_id, role_id) " ++
    "SELECT $1, role_id FROM (SELECT DISTINCT unnest($2::bigint[]) AS role_id) ids"
  parameters := [.integer userId, .integers roleIds]

def grantPermissions (userId : Int) (permissionIds : List Int) : Statement where
  text := "INSERT INTO access_controls (user_id, permission_id) " ++
    "SELECT $1, ids.permission_id " ++
    "FROM (SELECT DISTINCT unnest($2::bigint[]) AS permission_id) ids " ++
    "WHERE NOT EXISTS ( SELECT 1 FROM access_controls ac " ++
    "WHERE ac.user_id = $1 AND ac.permission_id = ids.permission_id AND ac.deleted_at IS NULL )"
  parameters := [.integer userId, .integers permissionIds]

def grantsOf (userId : Int) : Statement where
  text := "SELECT id, user_id, role_id, permission_id, created_at, deleted_at " ++
    "FROM access_controls WHERE user_id = $1 AND deleted_at IS NULL ORDER BY id ASC"
  parameters := [.integer userId]

/-! ## Users and tables -/

def userByUuid (uuid : Uuid) : Statement where
  text := "SELECT id, uuid, status FROM users WHERE uuid = $1"
  parameters := [.uuid uuid]

/-- Creates all tables and indexes that do not exist yet. Live roles, and live
permissions, have different keys. -/
def createTables : Statement where
  text := "
CREATE TABLE IF NOT EXISTS users (
    id BIGSERIAL PRIMARY KEY,
    uuid UUID NOT NULL UNIQUE,
    status TEXT NOT NULL DEFAULT 'UNVERIFIED',
    created_at TIMESTAMPTZ NOT NULL DEFAULT NOW()
);

CREATE TABLE IF NOT EXISTS roles (
    id BIGSERIAL PRIMARY KEY,
    uuid UUID NOT NULL UNIQUE,
    title TEXT NOT NULL,
    key TEXT NOT NULL,
    description TEXT NOT NULL DEFAULT '',
    is_default BOOLEAN NOT NULL DEFAULT FALSE,
    created_at TIMESTAMPTZ NOT NULL DEFAULT NOW(),
    updated_at TIMESTAMPTZ NOT NULL DEFAULT NOW(),
    deleted_at TIMESTAMPTZ,
    deleted_by BIGINT
);
CREATE UNIQUE INDEX IF NOT EXISTS idx_roles_live_key ON roles(key) WHERE deleted_at IS NULL;

CREATE TABLE IF NOT EXISTS permissions (
    id BIGSERIAL PRIMARY KEY,
    uuid UUID NOT NULL UNIQUE,
    title TEXT NOT NULL,
    key TEXT NOT NULL,
    group_name TEXT NOT NULL DEFAULT '',
    description TEXT NOT NULL DEFAULT '',
    created_at TIMESTAMPTZ NOT NULL DEFAULT NOW(),
    updated_at TIMESTAMPTZ NOT NULL DEFAULT NOW(),
    deleted_at TIMESTAMPTZ
);
CREATE UNIQUE INDEX IF NOT EXISTS idx_permissions_live_key ON permissions(key) WHERE deleted_at IS NULL;

CREATE TABLE IF NOT EXISTS role_permissions (
    role_id BIGINT NOT NULL REFERENCES roles(id),
    permission_id BIGINT NOT NULL REFERENCES permissions(id),
    created_at TIMESTAMPTZ NOT NULL DEFAULT NOW(),
    PRIMARY KEY (role_id, permission_id)
);

CREATE TABLE IF NOT EXISTS access_controls (
    id BIGSERIAL PRIMARY KEY,
    user_id BIGINT NOT NULL,
    role_id BIGINT REFERENCES roles(id),
    permission_id BIGINT REFERENCES permissions(id),
    created_at TIMESTAMPTZ NOT NULL DEFAULT NOW(),
    deleted_at TIMESTAMPTZ,
    CHECK ((role_id IS NULL) <> (permission_id IS NULL))
);
CREATE INDEX IF NOT EXISTS idx_access_controls_user ON access_controls(user_id) WHERE deleted_at IS NULL;
"

end Statement
end Entitlement.Database
