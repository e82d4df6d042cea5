import Entitlement.Database.Desk
import Entitlement.Proofs.Names
import Entitlement.Service.Access

/-! # Access checks on the database

Whatever the database answers, an access check lets nobody through but an active user who
holds the role that allows everything, or who holds a required permission, or of whom nothing
is required. What the database says about states and keys is free text: a text that is not the
name of a key counts for nothing, and a text that is not the name of a state for an inactive
user. An answer that cannot be read ends the check. -/

namespace Entitlement

/-! ## Names -/

theorem mem_filterMap_ofName?_iff {κ : Type} {ofName? : String → Option κ} {name : κ → String}
    (known : ∀ text key, ofName? text = some key ↔ name key = text) (texts : List String)
    (key : κ) : key ∈ texts.filterMap ofName? ↔ name key ∈ texts := by
  simp [known]

def decisionFor (userId : Int) (required : List PermissionKey) (texts : List String) : Decision :=
  if .none ∈ required then .granted userId .noneSentinel
  else if ∃ key ∈ required, key.name ∈ texts then .granted userId .permission
  else .denied

theorem decide_filterMap_ofName? (userId : Int) (required : List PermissionKey)
    (texts : List String) :
    Service.decide userId required (texts.filterMap PermissionKey.ofName?) =
      decisionFor userId required texts := by
  have held : ∀ key, key ∈ texts.filterMap PermissionKey.ofName? ↔ key.name ∈ texts :=
    mem_filterMap_ofName?_iff PermissionKey.ofName?_eq_some_iff texts
  simp only [Service.decide, decisionFor, List.contains_iff_mem, List.any_eq_true, held]

namespace Database

/-! ## What an answer says -/

/-- The texts in the first column of an answer; none if the statement was refused, or if not
every row begins with a text. -/
def Answer.texts? : Answer → Option (List String)
  | .refused _ => none
  | answer => answer.rowList.mapM (Row.first? Cell.text?)

def Answer.rows? : Answer → Option (List Row)
  | .refused _ => none
  | answer => some answer.rowList

namespace Link

/-- The rows that are found for a user; none if there is no connection to ask on or the
statement is refused. -/
def userRows? (link : Link) (uuid : Uuid) : Option (List Row) :=
  if link.isFree then (link.server link.sent (.userByUuid uuid)).rows? else none

def roleTexts? (link : Link) (uuid : Uuid) (userId : Int) : Option (List String) :=
  (link.server (link.sent ++ [.userByUuid uuid]) (.roleKeysOf userId)).texts?

def permissionTexts? (link : Link) (uuid : Uuid) (userId : Int) : Option (List String) :=
  (link.server (link.sent ++ [.userByUuid uuid, .roleKeysOf userId])
    (.permissionKeysOf userId)).texts?

structure Finds (link : Link) (text : String) (uuid : Uuid) (status : String) (user : User) :
    Prop where
  reads : Uuid.read text = .ok uuid
  found : ∃ row rest, link.userRows? uuid = some (row :: rest) ∧ row.user? = some user ∧
    row.required? "status" Cell.text? = some status

def FailsFor (link : Link) (uuid : Uuid) : Prop :=
  link.userRows? uuid = none ∨
    ∃ row rest, link.userRows? uuid = some (row :: rest) ∧ row.user? = none

end Link

theorem Row.status_of_user? {row : Row} {user : User} (readable : row.user? = some user) :
    ∃ text, row.required? "status" Cell.text? = some text ∧
      user.status = (UserStatus.ofName? text).getD .unknown := by
  simp only [Row.user?, Option.bind_eq_bind, Option.bind_eq_some_iff, Option.pure_def,
    Option.some.injEq] at readable
  rcases readable with ⟨text, isText, id, -, uuid, -, rfl⟩
  exact ⟨text, isText, rfl⟩

/-! ## Single steps -/

namespace Transaction

theorem outcome_askPlainly {transaction : Transaction} (active : transaction.stage = .active)
    (operation : Operation) (statement : Statement) :
    (askPlainly operation statement).outcome transaction =
      match transaction.link.server transaction.link.sent statement with
      | .refused _ => (.error operation.failure,
          { transaction with link := (transaction.link.exchange statement).2 })
      | answer => (.ok answer,
          { transaction with link := (transaction.link.exchange statement).2 }) := by
  rw [askPlainly, ask, Action.outcome_ofOutcome, if_pos active]
  simp only [Link.exchange]
  cases transaction.link.server transaction.link.sent statement with
  | rows | affected => rfl
  | refused state => simp

theorem outcome_readKeys {κ : Type} {transaction : Transaction}
    (active : transaction.stage = .active) (operation : Operation) (statement : Statement)
    (ofName? : String → Option κ) :
    (do
      let answer ← askPlainly operation statement
      let names ← readAll operation (Row.first? Cell.text?) answer
      return names.filterMap ofName? : Action Transaction (List κ)).outcome transaction =
      (match (transaction.link.server transaction.link.sent statement).texts? with
        | some texts => .ok (texts.filterMap ofName?)
        | none => .error operation.failure,
        { transaction with link := (transaction.link.exchange statement).2 }) := by
  rw [Action.outcome_bind, outcome_askPlainly active]
  rcases transaction.link.server transaction.link.sent statement with rows | count | state
  · simp only [readAll, Answer.texts?]
    cases (Answer.rows rows).rowList.mapM (Row.first? Cell.text?) <;> rfl
  · rfl
  · rfl

end Transaction
namespace Desk

def after (desk : Desk) (statement : Statement) : Desk :=
  { desk with shared := { desk.shared with link := (desk.shared.link.exchange statement).2 } }

section

variable {desk : Desk} (active : desk.stage = .active)

include active

theorem outcome_enter (area : Area) : (backend.enter area).outcome desk = (.ok (), desk) := by
  simp only [backend, onTransaction, Action.onPart, Transaction.enter, Action.outcome_ofOutcome,
    Action.outcome_reading, if_pos active]

theorem outcome_roleKeysOf (userId : Int) :
    (backend.call (.roleKeysOf userId)).outcome desk =
      (match (desk.shared.link.server desk.shared.link.sent (.roleKeysOf userId)).texts? with
        | some texts => .ok (texts.filterMap RoleKey.ofName?)
        | none => .error Operation.roleKeysOf.failure, desk.after (.roleKeysOf userId)) := by
  change (onTransaction (Transaction.roleKeysOf userId)).outcome desk = _
  rw [onTransaction, Action.onPart, Action.outcome_ofOutcome, Transaction.roleKeysOf,
    Transaction.outcome_readKeys active]
  rfl

theorem outcome_permissionKeysOf (userId : Int) :
    (backend.call (.permissionKeysOf userId)).outcome desk =
      (match (desk.shared.link.server desk.shared.link.sent
          (.permissionKeysOf userId)).texts? with
        | some texts => .ok (texts.filterMap PermissionKey.ofName?)
        | none => .error Operation.permissionKeysOf.failure,
        desk.after (.permissionKeysOf userId)) := by
  change (onTransaction (Transaction.permissionKeysOf userId)).outcome desk = _
  rw [onTransaction, Action.onPart, Action.outcome_ofOutcome, Transaction.permissionKeysOf,
    Transaction.outcome_readKeys active]
  rfl

end

theorem outcome_countDecision (desk : Desk) (decision : Decision) :
    (backend.countDecision decision).outcome desk =
      (.ok (), { desk with shared := { desk.shared with
        station := desk.shared.station.note (.decided decision) } }) := rfl

theorem outcome_userByUuid (desk : Desk) {text : String} {uuid : Uuid}
    (reads : Uuid.read text = .ok uuid) :
    (backend.userByUuid text).outcome desk =
      (match desk.shared.link.userRows? uuid with
        | none => .error Operation.userByUuid.failure
        | some [] => .error (.notFound "user" uuid.text)
        | some (row :: _) =>
            match row.user? with
            | some user => .ok user
            | none => .error Operation.userByUuid.failure,
        if desk.shared.link.isFree then desk.after (.userByUuid uuid) else desk) := by
  change (onLink (Link.userByUuid text)).outcome desk = _
  simp only [onLink, Action.onPart, Action.outcome_ofOutcome, Link.userByUuid, reads,
    Action.outcome_bind, Link.ask, Link.userRows?]
  by_cases free : desk.shared.link.isFree = true
  · simp only [if_pos free, Link.exchange]
    rcases desk.shared.link.server desk.shared.link.sent (.userByUuid uuid) with
      rows | count | state
    · rcases rows with _ | ⟨row, rest⟩
      · rfl
      · simp only [Answer.rowList, Answer.rows?]
        cases row.user? <;> rfl
    · rfl
    · rfl
  · simp only [if_neg free]

end Desk

def refusal (status : String) (uuid : Uuid) : Fault :=
  if status = "UNVERIFIED" then .unverified uuid.text
  else if status = "BANNED" then .banned uuid.text
  else .inactive uuid.text

/-- Only one text lets a user through; all but two others stand for an inactive user, whether
they are known or not. -/
theorem requireActive_ofName? (text : String) (uuid : Uuid) :
    ((UserStatus.ofName? text).getD .unknown).requireActive uuid =
      if text = "ACTIVE" then .ok () else .error (refusal text uuid) := by
  rcases known : UserStatus.ofName? text with _ | status
  · have unnamed : ∀ status : UserStatus, text ≠ status.name := by
      intro status same
      rw [(UserStatus.ofName?_eq_some_iff text status).mpr same.symm] at known
      cases known
    have notActive : text ≠ "ACTIVE" := unnamed .active
    have notUnverified : text ≠ "UNVERIFIED" := unnamed .unverified
    have notBanned : text ≠ "BANNED" := unnamed .banned
    rw [if_neg notActive, refusal, if_neg notUnverified, if_neg notBanned]
    rfl
  · rw [← (UserStatus.ofName?_eq_some_iff text status).mp known]
    cases status <;> rfl

namespace Desk

theorem outcome_activeUser_of_finds {desk : Desk} {text status : String} {uuid : Uuid}
    {user : User} (finds : desk.shared.link.Finds text uuid status user) :
    (Service.activeUser backend text).outcome desk =
      (if status = "ACTIVE" then .ok user else .error (refusal status user.uuid),
        desk.after (.userByUuid uuid)) := by
  rcases finds.found with ⟨row, rest, found, readable, isText⟩
  have free : desk.shared.link.isFree = true := by
    by_contra full
    rw [Link.userRows?, if_neg full] at found
    cases found
  have isStatus : user.status = (UserStatus.ofName? status).getD .unknown := by
    rcases Row.status_of_user? readable with ⟨other, isOther, named⟩
    cases isText.symm.trans isOther
    exact named
  simp only [Service.activeUser, Action.outcome_bind, outcome_userByUuid desk finds.reads, found,
    readable, if_pos free, Action.outcome_ofExcept, isStatus, requireActive_ofName?]
  by_cases isActive : status = "ACTIVE"
  · simp [isActive]
  · simp [isActive]

/-! ## All courses of a check -/

end Desk

/-- What a check can end in once an active user was found, and which statements it sends
then, with what the database must have answered for that. -/
inductive Inquiry (link : Link) (uuid : Uuid) (user : User) (required : List PermissionKey) :
    Except Fault Decision → List Statement → Prop
  | unreadableRoles (fails : link.roleTexts? uuid user.id = none) :
      Inquiry link uuid user required (.error (.server "role.get_role_keys"))
        [.roleKeysOf user.id]
  | superAdmin (roleTexts : List String) (isRead : link.roleTexts? uuid user.id = some roleTexts)
      (held : "SUPER_ADMIN" ∈ roleTexts) :
      Inquiry link uuid user required (.ok (.granted user.id .superAdmin)) [.roleKeysOf user.id]
  | unreadablePermissions (roleTexts : List String)
      (isRead : link.roleTexts? uuid user.id = some roleTexts)
      (notHeld : "SUPER_ADMIN" ∉ roleTexts) (fails : link.permissionTexts? uuid user.id = none) :
      Inquiry link uuid user required (.error (.server "permission.get_user_permission_keys"))
        [.roleKeysOf user.id, .permissionKeysOf user.id]
  | decided (roleTexts permissionTexts : List String)
      (isRead : link.roleTexts? uuid user.id = some roleTexts)
      (notHeld : "SUPER_ADMIN" ∉ roleTexts)
      (areRead : link.permissionTexts? uuid user.id = some permissionTexts) :
      Inquiry link uuid user required (.ok (decisionFor user.id required permissionTexts))
        [.roleKeysOf user.id, .permissionKeysOf user.id]

inductive Course (link : Link) (text : String) (required : List PermissionKey) :
    Except Fault Decision → List Statement → Prop
  | misspelt (misspelling : Uuid.Misspelling) (misspells : Uuid.read text = .error misspelling) :
      Course link text required (.error (.invalidBody "user_uuid" misspelling.message)) []
  | unreadableUser (uuid : Uuid) (reads : Uuid.read text = .ok uuid) (fails : link.FailsFor uuid)
      (sent : List Statement) (atMost : sent.Sublist [.userByUuid uuid]) :
      Course link text required (.error (.server "user.get_by_uuid")) sent
  | noUser (uuid : Uuid) (reads : Uuid.read text = .ok uuid)
      (none : link.userRows? uuid = some []) :
      Course link text required (.error (.notFound "user" uuid.text)) [.userByUuid uuid]
  | refused (uuid : Uuid) (status : String) (user : User)
      (finds : link.Finds text uuid status user) (notActive : status ≠ "ACTIVE") :
      Course link text required (.error (refusal status user.uuid)) [.userByUuid uuid]
  | active (uuid : Uuid) (user : User) (finds : link.Finds text uuid "ACTIVE" user)
      (result : Except Fault Decision) (sent : List Statement)
      (inquiry : Inquiry link uuid user required result sent) :
      Course link text required result (.userByUuid uuid :: sent)

namespace Desk

theorem inquiry_of_active {desk : Desk} (active : desk.stage = .active) {text : String}
    {uuid : Uuid} {user : User} (finds : desk.shared.link.Finds text uuid "ACTIVE" user)
    (required : List PermissionKey) :
    ∃ sent, ((Service.checkAccess backend text required).outcome desk).2.shared.link.sent =
        desk.shared.link.sent ++ .userByUuid uuid :: sent ∧
      Inquiry desk.shared.link uuid user required
        ((Service.checkAccess backend text required).outcome desk).1 sent := by
  have isFound := outcome_activeUser_of_finds finds
  rw [if_pos rfl] at isFound
  have afterUser : (desk.after (.userByUuid uuid)).stage = .active := active
  have afterRoles : ((desk.after (.userByUuid uuid)).after (.roleKeysOf user.id)).stage =
    .active := active
  have roleAnswer : ((desk.after (.userByUuid uuid)).shared.link.server
      (desk.after (.userByUuid uuid)).shared.link.sent (.roleKeysOf user.id)).texts? =
    desk.shared.link.roleTexts? uuid user.id := rfl
  have permissionAnswer :
      (((desk.after (.userByUuid uuid)).after (.roleKeysOf user.id)).shared.link.server
        ((desk.after (.userByUuid uuid)).after (.roleKeysOf user.id)).shared.link.sent
          (.permissionKeysOf user.id)).texts? =
        desk.shared.link.permissionTexts? uuid user.id := by
    simp [after, Link.exchange, Link.permissionTexts?]
  have held : ∀ texts : List String,
      (texts.filterMap RoleKey.ofName?).contains .superAdmin = true ↔ "SUPER_ADMIN" ∈ texts := by
    intro texts
    rw [List.contains_iff_mem]
    exact mem_filterMap_ofName?_iff RoleKey.ofName?_eq_some_iff texts .superAdmin
  simp only [Service.checkAccess, Action.outcome_bind, isFound, outcome_enter afterUser,
    outcome_roleKeysOf afterUser, roleAnswer]
  rcases roles : desk.shared.link.roleTexts? uuid user.id with _ | roleTexts
  · exact ⟨_, List.append_assoc _ _ _, .unreadableRoles roles⟩
  · by_cases isSuperAdmin : "SUPER_ADMIN" ∈ roleTexts
    · simp only [(held roleTexts).mpr isSuperAdmin, if_true]
      exact ⟨_, List.append_assoc _ _ _, .superAdmin roleTexts roles isSuperAdmin⟩
    · simp only [(held roleTexts).not.mpr isSuperAdmin, Bool.false_eq_true, if_false,
        Action.outcome_bind, outcome_enter afterRoles, outcome_permissionKeysOf afterRoles,
        permissionAnswer]
      rcases permissions : desk.shared.link.permissionTexts? uuid user.id with
        _ | permissionTexts
      · refine ⟨_, ?_, .unreadablePermissions roleTexts roles isSuperAdmin permissions⟩
        simp [after, Link.exchange]
      · simp only [Action.outcome_pure, outcome_countDecision, decide_filterMap_ofName?]
        refine ⟨_, ?_, .decided roleTexts permissionTexts roles isSuperAdmin permissions⟩
        simp [after, Link.exchange]

theorem outcome_checkAccess_of_error {desk later : Desk} {text : String} {fault : Fault}
    (fails : (Service.activeUser backend text).outcome desk = (.error fault, later))
    (required : List PermissionKey) :
    (Service.checkAccess backend text required).outcome desk = (.error fault, later) := by
  simp only [Service.checkAccess, Action.outcome_bind, fails]

theorem course_of_nobody (desk : Desk) {text : String} {uuid : Uuid}
    (reads : Uuid.read text = .ok uuid)
    (nobody : desk.shared.link.FailsFor uuid ∨ desk.shared.link.userRows? uuid = some [])
    (required : List PermissionKey) :
    ∃ sent, ((Service.checkAccess backend text required).outcome desk).2.shared.link.sent =
        desk.shared.link.sent ++ sent ∧
      Course desk.shared.link text required
        ((Service.checkAccess backend text required).outcome desk).1 sent := by
  have asked := outcome_userByUuid desk reads
  by_cases free : desk.shared.link.isFree = true
  · rw [if_pos free] at asked
    rcases nobody with fails | none
    · have refused : (Service.activeUser backend text).outcome desk =
          (.error Operation.userByUuid.failure, desk.after (.userByUuid uuid)) := by
        rcases fails with unanswered | ⟨row, rest, found, unreadable⟩
        · simp only [Service.activeUser, Action.outcome_bind, asked, unanswered]
        · simp only [Service.activeUser, Action.outcome_bind, asked, found, unreadable]
      rw [outcome_checkAccess_of_error refused]
      exact ⟨_, rfl, .unreadableUser uuid reads fails _ (List.Sublist.refl _)⟩
    · have missing : (Service.activeUser backend text).outcome desk =
          (.error (.notFound "user" uuid.text), desk.after (.userByUuid uuid)) := by
        simp only [Service.activeUser, Action.outcome_bind, asked, none]
      rw [outcome_checkAccess_of_error missing]
      exact ⟨_, rfl, .noUser uuid reads none⟩
  · have unanswered : desk.shared.link.userRows? uuid = none := if_neg free
    have refused : (Service.activeUser backend text).outcome desk =
        (.error Operation.userByUuid.failure, desk) := by
      simp only [Service.activeUser, Action.outcome_bind, asked, unanswered, if_neg free]
    rw [outcome_checkAccess_of_error refused]
    exact ⟨[], (List.append_nil _).symm,
      .unreadableUser uuid reads (Or.inl unanswered) [] (List.nil_sublist _)⟩

theorem checkAccess_course {desk : Desk} (active : desk.stage = .active) (text : String)
    (required : List PermissionKey) :
    ∃ sent, ((Service.checkAccess backend text required).outcome desk).2.shared.link.sent =
        desk.shared.link.sent ++ sent ∧
      Course desk.shared.link text required
        ((Service.checkAccess backend text required).outcome desk).1 sent := by
  rcases reads : Uuid.read text with misspelling | uuid
  · have misspelt : (backend.userByUuid text).outcome desk =
        (.error (.invalidBody "user_uuid" misspelling.message), desk) := by
      change (onLink (Link.userByUuid text)).outcome desk = _
      simp only [onLink, Action.onPart, Action.outcome_ofOutcome, Link.userByUuid, reads]
      rfl
    have fails : (Service.activeUser backend text).outcome desk =
        (.error (.invalidBody "user_uuid" misspelling.message), desk) := by
      simp only [Service.activeUser, Action.outcome_bind, misspelt]
    rw [outcome_checkAccess_of_error fails]
    exact ⟨[], (List.append_nil _).symm, .misspelt misspelling reads⟩
  · rcases found : desk.shared.link.userRows? uuid with _ | _ | ⟨row, rest⟩
    · exact course_of_nobody desk reads (Or.inl (Or.inl found)) required
    · exact course_of_nobody desk reads (Or.inr found) required
    · rcases readable : row.user? with _ | user
      · exact course_of_nobody desk reads (Or.inl (Or.inr ⟨row, rest, found, readable⟩)) required
      · rcases Row.status_of_user? readable with ⟨status, isText, -⟩
        have finds : desk.shared.link.Finds text uuid status user :=
          ⟨reads, row, rest, found, readable, isText⟩
        by_cases isActive : status = "ACTIVE"
        · subst isActive
          rcases inquiry_of_active active finds required with ⟨sent, isSent, inquiry⟩
          exact ⟨_, isSent, .active uuid user finds _ sent inquiry⟩
        · have fails := outcome_activeUser_of_finds finds
          rw [if_neg isActive] at fails
          rw [outcome_checkAccess_of_error fails]
          exact ⟨_, rfl, .refused uuid status user finds isActive⟩

end Desk
theorem Link.Finds.unique {link : Link} {text status otherStatus : String}
    {uuid otherUuid : Uuid} {user otherUser : User} (finds : link.Finds text uuid status user)
    (other : link.Finds text otherUuid otherStatus otherUser) :
    uuid = otherUuid ∧ status = otherStatus ∧ user = otherUser := by
  rcases finds with ⟨reads, row, rest, found, readable, isText⟩
  rcases other with ⟨otherReads, otherRow, otherRest, otherFound, otherReadable, otherIsText⟩
  cases reads.symm.trans otherReads
  cases found.symm.trans otherFound
  cases readable.symm.trans otherReadable
  cases isText.symm.trans otherIsText
  exact ⟨rfl, rfl, rfl⟩

theorem Link.Finds.not_nobody {link : Link} {text status : String} {uuid other : Uuid}
    {user : User} (finds : link.Finds text uuid status user) (reads : Uuid.read text = .ok other) :
    ¬ link.FailsFor other ∧ link.userRows? other ≠ some [] := by
  rcases finds with ⟨isRead, row, rest, found, readable, -⟩
  cases isRead.symm.trans reads
  refine ⟨fun fails => ?_, fun none => ?_⟩
  · rcases fails with unanswered | ⟨otherRow, otherRest, otherFound, unreadable⟩
    · cases found.symm.trans unanswered
    · cases found.symm.trans otherFound
      cases readable.symm.trans unreadable
  · cases found.symm.trans none

/-! ## What that means -/

section

variable {link : Link} {text : String} {required : List PermissionKey}
  {result : Except Fault Decision} {sent : List Statement}

theorem Course.of_finds (course : Course link text required result sent) {uuid : Uuid}
    {status : String} {user : User} (finds : link.Finds text uuid status user) :
    (status ≠ "ACTIVE" → result = .error (refusal status user.uuid) ∧ sent = [.userByUuid uuid]) ∧
      (status = "ACTIVE" → ∃ later, sent = .userByUuid uuid :: later ∧
        Inquiry link uuid user required result later) := by
  cases course with
  | misspelt misspelling misspells => cases misspells.symm.trans finds.reads
  | unreadableUser other reads fails => exact absurd fails (finds.not_nobody reads).1
  | noUser other reads none => exact absurd none (finds.not_nobody reads).2
  | refused other otherStatus otherUser otherFinds notActive =>
      rcases finds.unique otherFinds with ⟨rfl, rfl, rfl⟩
      exact ⟨fun _ => ⟨rfl, rfl⟩, fun isActive => absurd isActive notActive⟩
  | active other otherUser otherFinds _ later inquiry =>
      rcases finds.unique otherFinds with ⟨rfl, rfl, rfl⟩
      exact ⟨fun notActive => absurd rfl notActive, fun _ => ⟨later, rfl, inquiry⟩⟩

theorem Course.of_fails (course : Course link text required result sent) {uuid : Uuid}
    (reads : Uuid.read text = .ok uuid) (fails : link.FailsFor uuid) :
    result = .error (.server "user.get_by_uuid") := by
  cases course with
  | misspelt misspelling misspells => cases misspells.symm.trans reads
  | unreadableUser => rfl
  | noUser other otherReads none =>
      cases otherReads.symm.trans reads
      rcases fails with unanswered | ⟨row, rest, found, -⟩
      · cases none.symm.trans unanswered
      · cases none.symm.trans found
  | refused other status user finds => exact absurd fails (finds.not_nobody reads).1
  | active other user finds => exact absurd fails (finds.not_nobody reads).1

theorem Inquiry.result_eq {uuid : Uuid} {user : User}
    (inquiry : Inquiry link uuid user required result sent) :
    result = match link.roleTexts? uuid user.id, link.permissionTexts? uuid user.id with
      | none, _ => .error (.server "role.get_role_keys")
      | some roleTexts, permissionTexts? =>
          if "SUPER_ADMIN" ∈ roleTexts then .ok (.granted user.id .superAdmin)
          else match permissionTexts? with
            | none => .error (.server "permission.get_user_permission_keys")
            | some permissionTexts => .ok (decisionFor user.id required permissionTexts) := by
  cases inquiry with
  | unreadableRoles fails => simp only [fails]
  | superAdmin roleTexts isRead held => simp only [isRead, if_pos held]
  | unreadablePermissions roleTexts isRead notHeld fails =>
      simp only [isRead, if_neg notHeld, fails]
  | decided roleTexts permissionTexts isRead notHeld areRead =>
      simp only [isRead, if_neg notHeld, areRead]

end

/-! ## What is sent -/

theorem Statement.permissionKeysOf_ne_userByUuid (userId : Int) (uuid : Uuid) :
    permissionKeysOf userId ≠ userByUuid uuid := by
  have different : (permissionKeysOf 0).text ≠ (userByUuid (.ofNat 0)).text := by decide +kernel
  intro same
  have sameText := congrArg Statement.text same
  exact different sameText

theorem Statement.roleKeysOf_ne_userByUuid (userId : Int) (uuid : Uuid) :
    roleKeysOf userId ≠ userByUuid uuid := by
  have different : (roleKeysOf 0).text ≠ (userByUuid (.ofNat 0)).text := by decide +kernel
  intro same
  have sameText := congrArg Statement.text same
  exact different sameText

theorem Statement.permissionKeysOf_ne_roleKeysOf (userId otherId : Int) :
    permissionKeysOf userId ≠ roleKeysOf otherId := by
  have different : (permissionKeysOf 0).text ≠ (roleKeysOf 0).text := by decide +kernel
  intro same
  have sameText := congrArg Statement.text same
  exact different sameText

theorem Statement.roleKeysOf_inj {userId otherId : Int}
    (same : roleKeysOf userId = roleKeysOf otherId) : userId = otherId := by
  have sameParameters : [Parameter.integer userId] = [.integer otherId] :=
    congrArg Statement.parameters same
  simpa using sameParameters

theorem Statement.permissionKeysOf_inj {userId otherId : Int}
    (same : permissionKeysOf userId = permissionKeysOf otherId) : userId = otherId := by
  have sameParameters : [Parameter.integer userId] = [.integer otherId] :=
    congrArg Statement.parameters same
  simpa using sameParameters

section

variable {link : Link} {text : String} {required : List PermissionKey}
  {result : Except Fault Decision} {sent : List Statement}

/-- The question for permissions follows exactly if the answer about roles can be read and the
role that allows everything is not in it. -/
theorem Inquiry.sent_eq {uuid : Uuid} {user : User}
    (inquiry : Inquiry link uuid user required result sent) :
    (sent = [.roleKeysOf user.id, .permissionKeysOf user.id] ∧
        ∃ roleTexts, link.roleTexts? uuid user.id = some roleTexts ∧ "SUPER_ADMIN" ∉ roleTexts) ∨
      sent = [.roleKeysOf user.id] ∧
        ∀ roleTexts, link.roleTexts? uuid user.id = some roleTexts → "SUPER_ADMIN" ∈ roleTexts := by
  cases inquiry with
  | unreadableRoles fails =>
      exact Or.inr ⟨rfl, fun roleTexts isRead => by cases fails.symm.trans isRead⟩
  | superAdmin roleTexts isRead held =>
      refine Or.inr ⟨rfl, fun otherTexts otherRead => ?_⟩
      cases isRead.symm.trans otherRead
      exact held
  | unreadablePermissions roleTexts isRead notHeld | decided roleTexts _ isRead notHeld =>
      exact Or.inl ⟨rfl, roleTexts, isRead, notHeld⟩

theorem Course.of_sent (course : Course link text required result sent) {statement : Statement}
    (isSent : statement ∈ sent) :
    (∃ uuid, statement = .userByUuid uuid) ∨
      ∃ uuid user later, link.Finds text uuid "ACTIVE" user ∧ sent = .userByUuid uuid :: later ∧
        statement ∈ later ∧ Inquiry link uuid user required result later := by
  cases course with
  | misspelt => cases isSent
  | unreadableUser uuid _ _ _ atMost =>
      exact Or.inl ⟨uuid, List.mem_singleton.mp (atMost.subset isSent)⟩
  | noUser uuid | refused uuid => exact Or.inl ⟨uuid, List.mem_singleton.mp isSent⟩
  | active uuid user finds _ later inquiry =>
      rcases List.mem_cons.mp isSent with isFirst | isLater
      · exact Or.inl ⟨uuid, isFirst⟩
      · exact Or.inr ⟨uuid, user, later, finds, rfl, isLater, inquiry⟩

theorem Course.permissionKeysOf_mem_iff (course : Course link text required result sent) :
    (∃ userId, .permissionKeysOf userId ∈ sent) ↔
      ∃ uuid user roleTexts, link.Finds text uuid "ACTIVE" user ∧
        link.roleTexts? uuid user.id = some roleTexts ∧ "SUPER_ADMIN" ∉ roleTexts := by
  constructor
  · intro asks
    rcases asks with ⟨userId, isSent⟩
    rcases course.of_sent isSent with ⟨uuid, same⟩ | ⟨uuid, user, later, finds, -, isLater, inquiry⟩
    · exact absurd same (Statement.permissionKeysOf_ne_userByUuid userId uuid)
    · rcases inquiry.sent_eq with ⟨-, roleTexts, isRead, notHeld⟩ | ⟨rfl, -⟩
      · exact ⟨uuid, user, roleTexts, finds, isRead, notHeld⟩
      · exact absurd (List.mem_singleton.mp isLater)
          (Statement.permissionKeysOf_ne_roleKeysOf userId user.id)
  · intro asks
    rcases asks with ⟨uuid, user, roleTexts, finds, isRead, notHeld⟩
    rcases (course.of_finds finds).2 rfl with ⟨later, rfl, inquiry⟩
    rcases inquiry.sent_eq with ⟨rfl, -⟩ | ⟨-, onlyHeld⟩
    · exact ⟨user.id, by simp⟩
    · exact absurd (onlyHeld roleTexts isRead) notHeld

theorem Course.userId_eq (course : Course link text required result sent) {userId : Int}
    (isSent : .roleKeysOf userId ∈ sent ∨ .permissionKeysOf userId ∈ sent) :
    ∃ uuid user, link.Finds text uuid "ACTIVE" user ∧ userId = user.id := by
  rcases isSent with asksRoles | asksPermissions
  · rcases course.of_sent asksRoles with
      ⟨uuid, same⟩ | ⟨uuid, user, later, finds, -, isLater, inquiry⟩
    · exact absurd same (Statement.roleKeysOf_ne_userByUuid userId uuid)
    · refine ⟨uuid, user, finds, ?_⟩
      rcases inquiry.sent_eq with ⟨rfl, -⟩ | ⟨rfl, -⟩
      · rcases List.mem_pair.mp isLater with same | same
        · exact Statement.roleKeysOf_inj same
        · exact absurd same.symm (Statement.permissionKeysOf_ne_roleKeysOf user.id userId)
      · exact Statement.roleKeysOf_inj (List.mem_singleton.mp isLater)
  · rcases course.of_sent asksPermissions with
      ⟨uuid, same⟩ | ⟨uuid, user, later, finds, -, isLater, inquiry⟩
    · exact absurd same (Statement.permissionKeysOf_ne_userByUuid userId uuid)
    · refine ⟨uuid, user, finds, ?_⟩
      rcases inquiry.sent_eq with ⟨rfl, -⟩ | ⟨rfl, -⟩
      · rcases List.mem_pair.mp isLater with same | same
        · exact absurd same (Statement.permissionKeysOf_ne_roleKeysOf userId user.id)
        · exact Statement.permissionKeysOf_inj same
      · exact absurd (List.mem_singleton.mp isLater)
          (Statement.permissionKeysOf_ne_roleKeysOf userId user.id)

theorem Course.of_granted (course : Course link text required result sent) {userId : Int}
    {reason : GrantReason} (granted : result = .ok (.granted userId reason)) :
    ∃ uuid user, link.Finds text uuid "ACTIVE" user ∧ userId = user.id ∧
      ∃ roleTexts, link.roleTexts? uuid user.id = some roleTexts ∧
        ("SUPER_ADMIN" ∈ roleTexts ∨
          ∃ permissionTexts, link.permissionTexts? uuid user.id = some permissionTexts ∧
            (.none ∈ required ∨ ∃ key ∈ required, key.name ∈ permissionTexts)) := by
  subst granted
  cases course with
  | active uuid user finds _ later inquiry =>
      refine ⟨uuid, user, finds, ?_⟩
      generalize isResult : Except.ok (Decision.granted userId reason) = result at inquiry
      cases inquiry with
      | unreadableRoles | unreadablePermissions => cases isResult
      | superAdmin roleTexts isRead held =>
          cases isResult
          exact ⟨rfl, roleTexts, isRead, Or.inl held⟩
      | decided roleTexts permissionTexts isRead notHeld areRead =>
          rw [decisionFor] at isResult
          split at isResult
          · rename_i unrestricted
            cases isResult
            exact ⟨rfl, roleTexts, isRead, Or.inr ⟨permissionTexts, areRead, Or.inl unrestricted⟩⟩
          · split at isResult
            · rename_i shared
              cases isResult
              exact ⟨rfl, roleTexts, isRead, Or.inr ⟨permissionTexts, areRead, Or.inr shared⟩⟩
            · cases isResult

end

namespace Desk

/-- Whatever a database answers, a check fails closed. Access is granted only to a user whose
state is `ACTIVE`, and only if `SUPER_ADMIN` is among the role keys, or the permission keys can
be read and nothing is required or a required key is among them. Any other state ends the
check before anything is asked about roles. What is not the name of a key counts for nothing:
it neither lets anybody through nor ends the check. An answer that is a refusal or cannot be
read is a failure of the operation that asked, never a decision. Permissions are asked for
exactly if the role keys can be read and `SUPER_ADMIN` is not among them, and all questions
about roles and permissions are for the user that was found. -/
theorem checkAccess_fails_closed {desk : Desk} (active : desk.stage = .active) (text : String)
    (required : List PermissionKey) :
    let link := desk.shared.link
    let outcome := (Service.checkAccess backend text required).outcome desk
    ∃ sent, outcome.2.shared.link.sent = link.sent ++ sent ∧
      (∀ userId reason, outcome.1 = .ok (.granted userId reason) →
        ∃ uuid user, link.Finds text uuid "ACTIVE" user ∧ userId = user.id ∧
          ∃ roleTexts, link.roleTexts? uuid user.id = some roleTexts ∧
            ("SUPER_ADMIN" ∈ roleTexts ∨
              ∃ permissionTexts, link.permissionTexts? uuid user.id = some permissionTexts ∧
                (.none ∈ required ∨ ∃ key ∈ required, key.name ∈ permissionTexts))) ∧
      (∀ uuid status user, link.Finds text uuid status user → status ≠ "ACTIVE" →
        outcome.1 = .error (refusal status user.uuid) ∧ sent = [.userByUuid uuid]) ∧
      (∀ uuid, Uuid.read text = .ok uuid → link.FailsFor uuid →
        outcome.1 = .error (.server "user.get_by_uuid")) ∧
      (∀ uuid user, link.Finds text uuid "ACTIVE" user →
        (link.roleTexts? uuid user.id = none →
          outcome.1 = .error (.server "role.get_role_keys")) ∧
        ∀ roleTexts, link.roleTexts? uuid user.id = some roleTexts →
          ("SUPER_ADMIN" ∈ roleTexts → outcome.1 = .ok (.granted user.id .superAdmin)) ∧
          ("SUPER_ADMIN" ∉ roleTexts → link.permissionTexts? uuid user.id = none →
            outcome.1 = .error (.server "permission.get_user_permission_keys")) ∧
          ∀ permissionTexts, "SUPER_ADMIN" ∉ roleTexts →
            link.permissionTexts? uuid user.id = some permissionTexts →
              outcome.1 = .ok (decisionFor user.id required permissionTexts)) ∧
      ((∃ userId, .permissionKeysOf userId ∈ sent) ↔
        ∃ uuid user roleTexts, link.Finds text uuid "ACTIVE" user ∧
          link.roleTexts? uuid user.id = some roleTexts ∧ "SUPER_ADMIN" ∉ roleTexts) ∧
      ∀ userId, .roleKeysOf userId ∈ sent ∨ .permissionKeysOf userId ∈ sent →
        ∃ uuid user, link.Finds text uuid "ACTIVE" user ∧ userId = user.id := by
  dsimp only
  rcases checkAccess_course active text required with ⟨sent, isSent, course⟩
  refine ⟨sent, isSent, fun _ _ => course.of_granted, ?_, fun _ => course.of_fails, ?_,
    course.permissionKeysOf_mem_iff, fun _ => course.userId_eq⟩
  · intro uuid status user finds
    exact (course.of_finds finds).1
  · intro uuid user finds
    rcases (course.of_finds finds).2 rfl with ⟨later, -, inquiry⟩
    have result := inquiry.result_eq
    refine ⟨fun fails => ?_, fun roleTexts isRead => ⟨fun held => ?_, fun notHeld fails => ?_,
      fun permissionTexts notHeld areRead => ?_⟩⟩
    · simpa only [fails] using result
    · simpa only [isRead, if_pos held] using result
    · simpa only [isRead, if_neg notHeld, fails] using result
    · simpa only [isRead, if_neg notHeld, areRead] using result

/-- A desk on a database that knows an active user with a role and a permission that are known
here, and with one of each that are not. -/
def newerDesk : Desk where
  stage := .active
  shared := {
    link := {
      server := Server.ofAnswers [
        .rows [⟨[("id", .integer 7), ("uuid", .uuid (.ofNat 9)), ("status", .text "ACTIVE")]⟩],
        .rows [⟨[("key", .text "ROOT")]⟩, ⟨[("key", .text "STAFF")]⟩],
        .rows [⟨[("key", .text "FLY")]⟩, ⟨[("key", .text "READ_ROLE")]⟩]] []
      sent := []
      capacity := 2
      held := 1 }
    ambient := ⟨fun reading => ⟨reading, 0⟩, 0, Uuid.random, 0⟩
    station := ⟨.memory .empty, none, []⟩ }

theorem checkAccess_fails_closed_newerDesk :
    ∃ sent, ((Service.checkAccess backend (Uuid.ofNat 9).text [.readRole]).outcome
        newerDesk).2.shared.link.sent = sent ∧
      ((Service.checkAccess backend (Uuid.ofNat 9).text [.readRole]).outcome newerDesk).1 =
        .ok (.granted 7 .permission) ∧
      .permissionKeysOf 7 ∈ sent := by
  have finds : newerDesk.shared.link.Finds (Uuid.ofNat 9).text (.ofNat 9) "ACTIVE"
      ⟨7, .ofNat 9, .active⟩ := by
    refine ⟨by decide, _, [], rfl, by decide, by decide⟩
  have roles : newerDesk.shared.link.roleTexts? (.ofNat 9) 7 = some ["ROOT", "STAFF"] := by decide
  have permissions : newerDesk.shared.link.permissionTexts? (.ofNat 9) 7 =
    some ["FLY", "READ_ROLE"] := by decide
  have active : newerDesk.stage = .active := rfl
  rcases checkAccess_fails_closed active (Uuid.ofNat 9).text [.readRole] with
    ⟨sent, isSent, -, -, -, decided, asks, ids⟩
  refine ⟨sent, isSent, ?_, ?_⟩
  · exact ((decided _ _ finds).2 _ roles).2.2 _ (by decide) permissions
  · rcases asks.mpr ⟨_, _, _, finds, roles, by decide⟩ with ⟨userId, isAsked⟩
    rcases ids userId (Or.inr isAsked) with ⟨uuid, user, otherFinds, rfl⟩
    rcases finds.unique otherFinds with ⟨-, -, rfl⟩
    exact isAsked

end Desk
end Database
end Entitlement
