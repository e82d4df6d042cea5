import Entitlement.Call
import Entitlement.Database.Link

/-! # Transactions

A unit of work on the database is one transaction. It is idle until it is begun, and
over once it has been committed or rolled back, whether or not the database took part. -/

namespace Entitlement.Database

inductive Stage where
  | idle
  | active
  | finalized
deriving DecidableEq

structure Transaction where
  stage : Stage
  link : Link

namespace Transaction

open Entitlement.Action

/-! ## Beginning and ending -/

def begin : Action Transaction Unit :=
  ofOutcome fun transaction =>
    if transaction.stage = .idle ∧ transaction.link.isFree then
      let (answer, link) := transaction.link.exchange .begin
      match answer with
      | .refused _ => (.error Operation.begin.failure, { transaction with link })
      | _ => (.ok (), { stage := .active, link := { link with held := link.held + 1 } })
    else (.error Operation.begin.failure, transaction)

/-- Ends an active transaction with a statement. It is over even if the statement
fails. -/
def finalize (operation : Operation) (statement : Statement) : Action Transaction Unit :=
  ofOutcome fun transaction =>
    if transaction.stage = .active then
      let (answer, link) := transaction.link.exchange statement
      let after : Transaction :=
        { stage := .finalized, link := { link with held := link.held - 1 } }
      match answer with
      | .refused _ => (.error operation.failure, after)
      | _ => (.ok (), after)
    else (.error operation.failure, transaction)

def commit : Action Transaction Unit := finalize .commit .commit

def rollback : Action Transaction Unit := finalize .rollback .rollback

def abandon (transaction : Transaction) : Transaction :=
  (rollback.outcome transaction).2

def enter (area : Area) : Action Transaction Unit :=
  reading fun transaction =>
    if transaction.stage = .active then .ok () else .error (Operation.enter area).failure

/-! ## Statements -/

/-- Sends a statement within the transaction. If the database refuses it because a key
would occur twice, the fault is `repeated`. -/
def ask (operation : Operation) (statement : Statement) (repeated : Fault) :
    Action Transaction Answer :=
  ofOutcome fun transaction =>
    if transaction.stage = .active then
      let (answer, link) := transaction.link.exchange statement
      let after := { transaction with link }
      match answer with
      | .refused state =>
          (.error (if state = Answer.repeatedKeyState then repeated else operation.failure), after)
      | answer => (.ok answer, after)
    else (.error operation.failure, transaction)

def askPlainly (operation : Operation) (statement : Statement) : Action Transaction Answer :=
  ask operation statement operation.failure

variable {α : Type}

def orFail (operation : Operation) : Option α → Action Transaction α
  | some value => pure value
  | none => throw operation.failure

def readAll (operation : Operation) (read? : Row → Option α) (answer : Answer) :
    Action Transaction (List α) :=
  orFail operation (answer.rowList.mapM read?)

def readFirst (operation : Operation) (read? : Row → Option α) (answer : Answer) :
    Action Transaction (Option α) :=
  match answer.rowList with
  | [] => pure none
  | row :: _ => some <$> orFail operation (read? row)

def readOne (operation : Operation) (read? : Row → Option α) (answer : Answer) :
    Action Transaction α :=
  orFail operation (answer.rowList.head?.bind read?)

/-! ## Calls -/

def roleByUuid (uuid : Uuid) : Action Transaction Role := do
  let answer ← askPlainly .roleByUuid (.roleByUuid uuid)
  match ← readFirst .roleByUuid Row.role? answer with
  | some role => pure role
  | none => throw (Fault.notFound "role" uuid.text)

def updateRole (role : Role) (uuid : Uuid) : Action Transaction Role := do
  let answer ← ask .updateRole (.updateRole role uuid) (.roleExists role.key.name)
  match ← readFirst .updateRole Row.role? answer with
  | some changed => pure changed
  | none => throw (Fault.noRows Operation.updateRole.name)

def deleteRole (uuid : Uuid) (deletedBy : Int) : Action Transaction Unit := do
  let answer ← askPlainly .deleteRole (.deleteRole uuid deletedBy)
  if answer.count = 0 then
    throw (Fault.notDeletable "role" uuid.text)

def roleWithPermissions (uuid : Uuid) : Action Transaction RoleWithPermissions := do
  let role ← roleByUuid uuid
  let answer ← askPlainly .roleWithPermissions (.permissionsOfRole role.id)
  let permissions ← readAll .roleWithPermissions Row.permission? answer
  return { role, permissions }

def replacePermissions (roleId : Int) (permissionIds : List Int) : Action Transaction Unit := do
  let _ ← askPlainly .replacePermissions (.detachPermissions roleId)
  if !permissionIds.isEmpty then
    let _ ← askPlainly .replacePermissions (.attachPermissions roleId permissionIds)

def roleKeysOf (userId : Int) : Action Transaction (List RoleKey) := do
  let answer ← askPlainly .roleKeysOf (.roleKeysOf userId)
  let names ← readAll .roleKeysOf (Row.first? Cell.text?) answer
  return names.filterMap RoleKey.ofName?

def permissionKeysOf (userId : Int) : Action Transaction (List PermissionKey) := do
  let answer ← askPlainly .permissionKeysOf (.permissionKeysOf userId)
  let names ← readAll .permissionKeysOf (Row.first? Cell.text?) answer
  return names.filterMap PermissionKey.ofName?

/-- The numbers of the live permissions among some identifiers; for none, nothing is
sent. -/
def permissionIds (uuids : List Uuid) : Action Transaction (List Int) := do
  if uuids.isEmpty then
    return []
  let answer ← askPlainly .permissionIds (.permissionIds uuids)
  readAll .permissionIds (Row.first? Cell.integer?) answer

def assignRoles (userId : Int) (roleIds : List Int) : Action Transaction Unit := do
  let _ ← askPlainly .assignRoles (.revokeGrants userId)
  if !roleIds.isEmpty then
    let _ ← askPlainly .assignRoles (.grantRoles userId roleIds)

/-- Grants those of some permissions that a user does not hold directly; for none,
nothing is sent. -/
def grantPermissions (userId : Int) (permissionIds : List Int) : Action Transaction Unit := do
  if !permissionIds.isEmpty then
    let _ ← askPlainly .grantPermissions (.grantPermissions userId permissionIds)

def perform {α : Type} : Call α → Action Transaction α
  | .createRole role => do
      let answer ← ask .createRole (.insertRole role) (.roleExists role.key.name)
      readOne .createRole Row.role? answer
  | .roleByUuid uuid => roleByUuid uuid
  | .liveRoles => askPlainly .liveRoles .liveRoles >>= readAll .liveRoles Row.role?
  | .updateRole role uuid => updateRole role uuid
  | .deleteRole uuid deletedBy => deleteRole uuid deletedBy
  | .keyInUse key exclude =>
      askPlainly .keyInUse (.keyInUse key exclude) >>= readOne .keyInUse (Row.first? Cell.bool?)
  | .roleByKey key => askPlainly .roleByKey (.roleByKey key) >>= readFirst .roleByKey Row.role?
  | .roleWithPermissions uuid => roleWithPermissions uuid
  | .replacePermissions roleId permissionIds => replacePermissions roleId permissionIds
  | .roleKeysOf userId => roleKeysOf userId
  | .permissionKeysOf userId => permissionKeysOf userId
  | .livePermissions =>
      askPlainly .livePermissions .livePermissions >>= readAll .livePermissions Row.permission?
  | .permissionIds uuids => permissionIds uuids
  | .createPermission permission =>
      askPlainly .createPermission (.insertPermission permission) >>=
        readOne .createPermission Row.permission?
  | .assignRoles userId roleIds => assignRoles userId roleIds
  | .grantPermissions userId permissionIds => grantPermissions userId permissionIds
  | .grantsOf userId => askPlainly .grantsOf (.grantsOf userId) >>= readAll .grantsOf Row.grant?

end Transaction
end Entitlement.Database
