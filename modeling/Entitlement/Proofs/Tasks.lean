import Entitlement.Proofs.Creations

/-! # Tasks

A service asks its backend for one thing after the other, and whatever else is under way can go
on in between: other services in the same unit or in others, beginnings, commits and rollbacks.
Here services are taken apart into what they ask for, so that any number of them can take turns.
A service refers only to rows that it was told of by its own unit. That is why references stay
intact however the services take turns. -/

namespace Entitlement

open Store

universe u

/-! ## Programs -/

inductive Request : Type → Type 1 where
  | enter (area : Area) : Request Unit
  | call {α : Type} (call : Call α) : Request α
  | now : Request Instant
  | freshUuid : Request Uuid
  | userByUuid (text : String) : Request User
  | cachedKey (uuid : String) : Request (Option RoleKey)
  | offerKeys (batch : KeyBatch) : Request Unit
  | countDecision (decision : Decision) : Request Unit

def Request.perform {m : Type → Type u} (backend : Backend m) {α : Type} : Request α → m α
  | enter area => backend.enter area
  | call asked => backend.call asked
  | now => backend.now
  | freshUuid => backend.freshUuid
  | userByUuid text => backend.userByUuid text
  | cachedKey uuid => backend.cachedKey uuid
  | offerKeys batch => backend.offerKeys batch
  | countDecision decision => backend.countDecision decision

/-- What is left of a service: it has ended, or it asks for something and goes on with the
answer. -/
inductive Program (α : Type) : Type 1 where
  | ended (result : Except Fault α)
  | ask {β : Type} (request : Request β) (next : Except Fault β → Program α)

namespace Program

variable {α β : Type}

protected def bind (program : Program α) (next : α → Program β) : Program β :=
  match program with
  | ended (.ok value) => next value
  | ended (.error fault) => ended (.error fault)
  | ask request rest => ask request fun answer => (rest answer).bind next

def recover (program : Program α) (handler : Fault → Program α) : Program α :=
  match program with
  | ended (.ok value) => ended (.ok value)
  | ended (.error fault) => handler fault
  | ask request rest => ask request fun answer => (rest answer).recover handler

instance : Monad Program where
  pure value := ended (.ok value)
  bind := Program.bind

instance : MonadExceptOf Fault Program where
  throw fault := ended (.error fault)
  tryCatch := recover

def request (request : Request α) : Program α :=
  ask request ended

def backend : Backend Program where
  enter area := request (.enter area)
  call call := request (.call call)
  now := request .now
  freshUuid := request .freshUuid
  userByUuid text := request (.userByUuid text)
  cachedKey uuid := request (.cachedKey uuid)
  offerKeys batch := request (.offerKeys batch)
  countDecision decision := request (.countDecision decision)

def outcome : Program α → Desk → Except Fault α × Desk
  | ended result, desk => (result, desk)
  | ask request next, desk =>
      let (answer, later) := (request.perform Desk.backend).outcome desk
      (next answer).outcome later

end Program

/-! ## Tasks -/

inductive Task : Type → Type where
  | createRole (input : RoleInput) : Task Role
  | getRole (uuid : Uuid) : Task Role
  | listRoles : Task (List Role)
  | updateRole (uuid : Uuid) (input : RoleInput) : Task Role
  | deleteRole (uuid : Uuid) (deletedBy : Int) : Task Unit
  | getPermissions (uuid : Uuid) : Task RoleWithPermissions
  | syncPermissions (uuid : Uuid) (permissionUuids : List String) : Task RoleWithPermissions
  | listPermissions : Task (List Permission)
  | createPermission (permission : Permission) : Task Permission
  | checkAccess (userUuid : String) (required : List PermissionKey) : Task Decision
  | effectivePermissions (userUuid : String) : Task (List PermissionKey)
  | assignUserRole (userId : Int) : Task Role
  | assignRoles (userId : Int) (roleUuids : List String) : Task (List Role)
  | grantPermissions (userId : Int) (permissionUuids : List String) : Task Nat
  | seed : Task Service.SeedReport

def Task.perform {m : Type → Type u} [Monad m] [MonadExceptOf Fault m] (backend : Backend m)
    {α : Type} : Task α → m α
  | createRole input => Service.createRole backend input
  | getRole uuid => Service.getRole backend uuid
  | listRoles => Service.listRoles backend
  | updateRole uuid input => Service.updateRole backend uuid input
  | deleteRole uuid deletedBy => Service.deleteRole backend uuid deletedBy
  | getPermissions uuid => Service.getPermissions backend uuid
  | syncPermissions uuid permissionUuids => Service.syncPermissions backend uuid permissionUuids
  | listPermissions => Service.listPermissions backend
  | createPermission permission => do
      backend.enter .permissions
      backend.call (.createPermission permission)
  | checkAccess userUuid required => Service.checkAccess backend userUuid required
  | effectivePermissions userUuid => Service.effectivePermissions backend userUuid
  | assignUserRole userId => Service.assignUserRole backend userId
  | assignRoles userId roleUuids => Service.assignRoles backend userId roleUuids
  | grantPermissions userId permissionUuids =>
      Service.grantPermissions backend userId permissionUuids
  | seed => Service.seed backend

/-! ## Tasks that nothing interrupts -/

namespace Program

variable {α β : Type}

def alone (program : Program α) : Action Desk α :=
  Action.ofOutcome program.outcome

def servedBy {σ : Type} (served : Backend (Action σ)) : Program α → Action σ α
  | ended result => MonadExcept.ofExcept result
  | ask request next => Action.ofOutcome fun state =>
      let (answer, later) := (request.perform served).outcome state
      ((next answer).servedBy served).outcome later

theorem alone_eq_servedBy (program : Program α) :
    program.alone = program.servedBy Desk.backend := by
  funext desk
  change program.outcome desk = (program.servedBy Desk.backend).outcome desk
  induction program generalizing desk with
  | ended result => exact (Action.outcome_ofExcept result desk).symm
  | ask request next induction => exact induction _ _

section

variable {σ : Type} (served : Backend (Action σ))

@[simp] theorem servedBy_pure (value : α) :
    (pure value : Program α).servedBy served = pure value := rfl

@[simp] theorem servedBy_throw (fault : Fault) :
    (throw fault : Program α).servedBy served = throw fault := rfl

@[simp] theorem servedBy_ofExcept (result : Except Fault α) :
    (MonadExcept.ofExcept result : Program α).servedBy served = MonadExcept.ofExcept result := by
  cases result <;> rfl

@[simp] theorem servedBy_bind (program : Program α) (next : α → Program β) :
    (program >>= next).servedBy served =
      program.servedBy served >>= fun value => (next value).servedBy served := by
  funext state
  change ((program.bind next).servedBy served).outcome state =
    (program.servedBy served >>= fun value => (next value).servedBy served).outcome state
  rw [Action.outcome_bind]
  induction program generalizing state with
  | ended result => cases result <;> rfl
  | ask request rest induction => exact induction _ _

@[simp] theorem servedBy_ite (condition : Prop) [Decidable condition] (yes no : Program α) :
    (if condition then yes else no).servedBy served =
      if condition then yes.servedBy served else no.servedBy served :=
  apply_ite (servedBy served) condition yes no

theorem servedBy_mapM_loop (f : α → Program β) (items : List α) (values : List β) :
    (List.mapM.loop f items values).servedBy served =
      List.mapM.loop (fun item => (f item).servedBy served) items values := by
  induction items generalizing values with
  | nil => rfl
  | cons item items induction => simp only [List.mapM.loop, servedBy_bind, induction]

@[simp] theorem servedBy_mapM (f : α → Program β) (items : List α) :
    (items.mapM f).servedBy served = items.mapM fun item => (f item).servedBy served :=
  servedBy_mapM_loop served f items []

theorem servedBy_request (asked : Request α) :
    (request asked).servedBy served = asked.perform served := by
  funext state
  exact Action.outcome_ofExcept _ _

@[simp] theorem servedBy_enter (area : Area) :
    (backend.enter area).servedBy served = served.enter area := servedBy_request served _

@[simp] theorem servedBy_call (call : Call α) :
    (backend.call call).servedBy served = served.call call := servedBy_request served _

@[simp] theorem servedBy_now : backend.now.servedBy served = served.now := servedBy_request served _

@[simp] theorem servedBy_freshUuid : backend.freshUuid.servedBy served = served.freshUuid :=
  servedBy_request served _

@[simp] theorem servedBy_userByUuid (text : String) :
    (backend.userByUuid text).servedBy served = served.userByUuid text := servedBy_request served _

@[simp] theorem servedBy_cachedKey (uuid : String) :
    (backend.cachedKey uuid).servedBy served = served.cachedKey uuid := servedBy_request served _

@[simp] theorem servedBy_offerKeys (batch : KeyBatch) :
    (backend.offerKeys batch).servedBy served = served.offerKeys batch := servedBy_request served _

@[simp] theorem servedBy_countDecision (decision : Decision) :
    (backend.countDecision decision).servedBy served = served.countDecision decision :=
  servedBy_request served _

end

end Program

section

variable {σ : Type} (served : Backend (Action σ))

namespace Service

theorem servedBy_seedPermissions (keys : List PermissionKey) (index : PermissionIndex)
    (created : Nat) : (seedPermissions Program.backend index created keys).servedBy served =
      seedPermissions served index created keys := by
  induction keys generalizing index created with
  | nil => rfl
  | cons key keys induction => simp [seedPermissions, induction]

theorem servedBy_seedRoles (definitions : List RoleDefinition) (index : PermissionIndex)
    (created : Nat) : (seedRoles Program.backend index created definitions).servedBy served =
      seedRoles served index created definitions := by
  induction definitions generalizing created with
  | nil => rfl
  | cons definition definitions induction => simp [seedRoles, seedRole, induction]

end Service

theorem Task.servedBy_perform {α : Type} (task : Task α) :
    (task.perform Program.backend).servedBy served = task.perform served := by
  cases task with
  | updateRole uuid input =>
      simp only [perform, Service.updateRole, Program.servedBy_bind, Program.servedBy_ofExcept,
        Program.servedBy_cachedKey]
      congr! with title cached
      cases cached <;> simp
  | assignUserRole userId =>
      simp only [perform, Service.assignUserRole, Service.userRole, Program.servedBy_bind,
        Program.servedBy_enter, Program.servedBy_call, Program.servedBy_pure]
      congr! with _ found
      cases found <;> rfl
  | seed =>
      simp [perform, Service.seed, Service.servedBy_seedPermissions, Service.servedBy_seedRoles]
  | createRole | getRole | listRoles | deleteRole | getPermissions | syncPermissions
  | listPermissions | createPermission | checkAccess | effectivePermissions | assignRoles
  | grantPermissions =>
      simp [perform, Service.createRole, Service.getRole, Service.listRoles, Service.deleteRole,
        Service.getPermissions, Service.syncPermissions, Service.listPermissions,
        Service.checkAccess, Service.activeUser, Service.effectivePermissions,
        Service.assignRoles, Service.grantPermissions]

end

/-- A task that is taken apart and carried out without interruption does what it does when it is
carried out at once. -/
theorem Task.alone_perform {α : Type} (task : Task α) :
    (task.perform Program.backend).alone = task.perform Desk.backend := by
  rw [Program.alone_eq_servedBy, task.servedBy_perform]

/-! ## Being told of rows -/

def Call.told {α : Type} : Call α → α → List Reference
  | createRole _, role => [(.role, role.id)]
  | roleByUuid _, role => [(.role, role.id)]
  | roleByKey _, found => found.toList.map fun role => (.role, role.id)
  | livePermissions, permissions => permissions.map fun permission => (.permission, permission.id)
  | permissionIds _, ids => ids.map (.permission, ·)
  | createPermission _, permission => [(.permission, permission.id)]
  | _, _ => []

def Request.references {α : Type} : Request α → List Reference
  | call asked => asked.references
  | _ => []

def Request.told {α : Type} : Request α → α → List Reference
  | call asked, answer => asked.told answer
  | _, _ => []

namespace Program

variable {α β : Type}

/-- Whatever it is answered, a program that was told of some rows refers only to those and to
rows that it is told of later; and if it ends well, something holds of the rows that it was told
of and its result. -/
def Informed (ends : List Reference → α → Prop) (known : List Reference) : Program α → Prop
  | ended (.ok value) => ends known value
  | ended (.error _) => True
  | ask request next =>
      (∀ reference ∈ request.references, reference ∈ known) ∧
        (∀ fault, (next (.error fault)).Informed ends known) ∧
        ∀ answer, (next (.ok answer)).Informed ends (known ++ request.told answer)

variable {ends : List Reference → α → Prop} {known : List Reference}

@[simp] theorem informed_pure (value : α) :
    (pure value : Program α).Informed ends known ↔ ends known value := Iff.rfl

@[simp] theorem informed_throw (fault : Fault) :
    (throw fault : Program α).Informed ends known := True.intro

theorem informed_bind {ends : List Reference → β → Prop} (program : Program α)
    (next : α → Program β) (known : List Reference) :
    (program >>= next).Informed ends known ↔
      program.Informed (fun known value => (next value).Informed ends known) known := by
  change (program.bind next).Informed ends known ↔ _
  induction program generalizing known with
  | ended result => cases result <;> exact Iff.rfl
  | ask request rest induction =>
      simp only [Program.bind, Informed, induction]

theorem informed_ofExcept (result : Except Fault α) :
    (MonadExcept.ofExcept result : Program α).Informed ends known ↔
      ∀ value, result = .ok value → ends known value := by
  cases result with
  | error fault => simp [MonadExcept.ofExcept]
  | ok value => simp [MonadExcept.ofExcept]

theorem informed_request {request : Request α} (unconcerned : request.references = [])
    (untold : ∀ answer, request.told answer = []) :
    (Program.request request).Informed ends known ↔ ∀ answer, ends known answer := by
  simp [Program.request, Informed, unconcerned, untold]

@[simp] theorem informed_enter {ends : List Reference → Unit → Prop} (area : Area) :
    (backend.enter area).Informed ends known ↔ ends known () :=
  (informed_request rfl fun _ => rfl).trans ⟨fun every => every (), fun holds _ => holds⟩

@[simp] theorem informed_call (call : Call α) :
    (backend.call call).Informed ends known ↔
      (∀ reference ∈ call.references, reference ∈ known) ∧
        ∀ answer, ends (known ++ call.told answer) answer := by
  simp [backend, request, Informed, Request.references, Request.told]

@[simp] theorem informed_now {ends : List Reference → Instant → Prop} :
    backend.now.Informed ends known ↔ ∀ answer, ends known answer :=
  informed_request rfl fun _ => rfl

@[simp] theorem informed_freshUuid {ends : List Reference → Uuid → Prop} :
    backend.freshUuid.Informed ends known ↔ ∀ answer, ends known answer :=
  informed_request rfl fun _ => rfl

@[simp] theorem informed_userByUuid {ends : List Reference → User → Prop} (text : String) :
    (backend.userByUuid text).Informed ends known ↔ ∀ answer, ends known answer :=
  informed_request rfl fun _ => rfl

@[simp] theorem informed_cachedKey {ends : List Reference → Option RoleKey → Prop}
    (uuid : String) : (backend.cachedKey uuid).Informed ends known ↔ ∀ answer, ends known answer :=
  informed_request rfl fun _ => rfl

@[simp] theorem informed_offerKeys {ends : List Reference → Unit → Prop} (batch : KeyBatch) :
    (backend.offerKeys batch).Informed ends known ↔ ends known () :=
  (informed_request rfl fun _ => rfl).trans ⟨fun every => every (), fun holds _ => holds⟩

@[simp] theorem informed_countDecision {ends : List Reference → Unit → Prop}
    (decision : Decision) : (backend.countDecision decision).Informed ends known ↔ ends known () :=
  (informed_request rfl fun _ => rfl).trans ⟨fun every => every (), fun holds _ => holds⟩

theorem Informed.imp {program : Program α} {weaker : List Reference → α → Prop}
    (informed : program.Informed ends known)
    (implies : ∀ told value, known ⊆ told → ends told value → weaker told value) :
    program.Informed weaker known := by
  induction program generalizing known with
  | ended result =>
      cases result with
      | error => exact True.intro
      | ok value => exact implies known value (List.Subset.refl known) informed
  | ask request rest induction =>
      refine ⟨informed.1, fun fault => induction _ (informed.2.1 fault) implies, fun answer => ?_⟩
      apply induction _ (informed.2.2 answer)
      intro told value sub
      exact implies told value (List.Subset.trans (List.subset_append_left _ _) sub)

end Program

/-! ## What services refer to -/

namespace Program

variable {α β : Type} {f : α → Program β} {name : β → Reference}

theorem informed_mapM_loop
    (tells : ∀ item known, (f item).Informed (fun told value => name value ∈ told) known)
    (items : List α) {values : List β} {known : List Reference}
    (areKnown : ∀ value ∈ values, name value ∈ known) :
    (List.mapM.loop f items values).Informed
      (fun told values => ∀ value ∈ values, name value ∈ told) known := by
  induction items generalizing values known with
  | nil => exact fun value member => areKnown value (List.mem_reverse.mp member)
  | cons item items induction =>
      rw [List.mapM.loop, informed_bind]
      apply (tells item known).imp
      intro told value sub isTold
      apply induction
      intro other member
      rcases List.mem_cons.mp member with rfl | member
      · exact isTold
      · exact sub (areKnown other member)

/-- A program that goes through a list and is told of a row for each item knows all those rows
in the end. -/
theorem informed_mapM
    (tells : ∀ item known, (f item).Informed (fun told value => name value ∈ told) known)
    (items : List α) (known : List Reference) :
    (items.mapM f).Informed (fun told values => ∀ value ∈ values, name value ∈ told) known :=
  informed_mapM_loop tells items fun _ none => by cases none

end Program

namespace Service

open Program

variable {known : List Reference}

theorem informed_createRole (input : RoleInput) :
    (createRole Program.backend input).Informed (fun _ _ => True) known := by
  simp only [createRole, informed_bind, informed_ofExcept, informed_enter, informed_call,
    Call.references]
  intro title _ key _
  refine ⟨by simp, fun used => ?_⟩
  split
  · simp [informed_bind]
  · simp [informed_bind, Call.references]

theorem informed_listRoles : (listRoles Program.backend).Informed (fun _ _ => True) known := by
  simp only [listRoles, informed_bind, informed_enter, informed_call, Call.references]
  refine ⟨by simp, fun roles => ?_⟩
  split
  · simp [informed_bind]
  · simp

theorem informed_updateRole (uuid : Uuid) (input : RoleInput) :
    (updateRole Program.backend uuid input).Informed (fun _ _ => True) known := by
  have withKey : ∀ (title : String) (key : RoleKey) (known : List Reference), (do
      Program.backend.enter .roles
      if ← Program.backend.call (.keyInUse key (some uuid)) then
        throw (Fault.roleExists key.name)
      let now ← Program.backend.now
      Program.backend.call (.updateRole (requestedRole title key input uuid now) uuid) :
        Program Role).Informed (fun _ _ => True) known := by
    intro title key known
    simp only [informed_bind, informed_enter, informed_call, Call.references]
    refine ⟨by simp, fun used => ?_⟩
    split
    · simp [informed_bind]
    · simp [informed_bind, Call.references]
  simp only [updateRole, informed_bind, informed_ofExcept, informed_cachedKey]
  intro title _ cached
  cases cached with
  | none =>
      rw [informed_bind, informed_ofExcept]
      exact fun key _ => withKey title key known
  | some key => exact withKey title key known

theorem informed_syncPermissions (uuid : Uuid) (permissionUuids : List String) :
    (syncPermissions Program.backend uuid permissionUuids).Informed (fun _ _ => True) known := by
  simp only [syncPermissions, informed_bind, informed_ofExcept, informed_enter, informed_call,
    Call.references, Call.told]
  intro uuids _
  refine ⟨by simp, fun ids => ⟨by simp, fun role => ⟨fun reference isNamed => ?_, by simp⟩⟩⟩
  rcases List.mem_cons.mp isNamed with rfl | isNamed
  · simp
  · exact List.mem_append_left _ (List.mem_append_right _ isNamed)

theorem informed_activeUser (text : String) :
    (activeUser Program.backend text).Informed (fun _ _ => True) known := by
  simp [activeUser, informed_bind, informed_ofExcept]

theorem informed_checkAccess (text : String) (required : List PermissionKey) :
    (checkAccess Program.backend text required).Informed (fun _ _ => True) known := by
  rw [checkAccess, informed_bind]
  apply (informed_activeUser text).imp
  intro told user _ _
  rw [informed_bind, informed_enter, informed_bind, informed_call]
  refine ⟨by simp [Call.references], fun roleKeys => ?_⟩
  split <;> simp [informed_bind, Call.references]

theorem informed_effectivePermissions (text : String) :
    (effectivePermissions Program.backend text).Informed (fun _ _ => True) known := by
  rw [effectivePermissions, informed_bind]
  apply (informed_activeUser text).imp
  intro told user _ _
  simp [informed_bind, Call.references]

theorem informed_assignUserRole (userId : Int) :
    (assignUserRole Program.backend userId).Informed (fun _ _ => True) known := by
  simp only [assignUserRole, userRole, informed_bind, informed_enter, informed_call,
    Call.references, Call.told]
  refine ⟨by simp, fun found => ?_⟩
  cases found with
  | none => exact informed_throw _
  | some role => simp

theorem informed_assignRoles (userId : Int) (roleUuids : List String) :
    (assignRoles Program.backend userId roleUuids).Informed (fun _ _ => True) known := by
  simp only [assignRoles, informed_bind, informed_ofExcept, informed_enter]
  intro uuids _
  have tells : ∀ uuid known, (Program.backend.call (.roleByUuid uuid)).Informed
      (fun told (role : Role) => (Kind.role, role.id) ∈ told) known := by
    simp [Call.references, Call.told]
  apply (informed_mapM tells uuids known).imp
  intro told roles _ areTold
  simp only [informed_call, Call.references]
  refine ⟨fun reference isNamed => ?_, by simp⟩
  rw [List.map_map] at isNamed
  rcases List.mem_map.mp isNamed with ⟨role, member, rfl⟩
  exact areTold role member

theorem informed_grantPermissions (userId : Int) (permissionUuids : List String) :
    (grantPermissions Program.backend userId permissionUuids).Informed (fun _ _ => True) known := by
  simp only [grantPermissions, informed_bind, informed_ofExcept, informed_enter, informed_call,
    Call.references, Call.told]
  intro uuids _
  refine ⟨by simp, fun ids => ⟨fun reference isNamed => ?_, by simp⟩⟩
  exact List.mem_append_right _ isNamed

/-! ### Seeding -/

def PermissionIndex.IsKnown (index : PermissionIndex) (known : List Reference) : Prop :=
  ∀ entry ∈ index, (Kind.permission, entry.2) ∈ known

theorem PermissionIndex.IsKnown.mono {index : PermissionIndex} {told : List Reference}
    (isKnown : index.IsKnown known) (sub : known ⊆ told) : index.IsKnown told :=
  fun entry member => sub (isKnown entry member)

theorem PermissionIndex.IsKnown.lookup {index : PermissionIndex} (isKnown : index.IsKnown known)
    {key : PermissionKey} {id : Int} (found : index.lookup key = some id) :
    (Kind.permission, id) ∈ known := by
  rcases List.lookup_eq_some_iff.mp found with ⟨before, after, rfl, -⟩
  exact isKnown (key, id) (by simp)

theorem PermissionIndex.isKnown_of (permissions : List Permission) :
    (of permissions).IsKnown
      (permissions.map fun permission => (Kind.permission, permission.id)) := by
  intro entry member
  rw [of, List.foldl_flip_cons_eq_append, List.append_nil, List.mem_reverse] at member
  rcases List.mem_map.mp member with ⟨permission, isListed, rfl⟩
  exact List.mem_map.mpr ⟨permission, isListed, rfl⟩

theorem informed_seedPermissions (keys : List PermissionKey) {index : PermissionIndex}
    (created : Nat) (isKnown : index.IsKnown known) :
    (seedPermissions Program.backend index created keys).Informed
      (fun told result => result.1.IsKnown told) known := by
  induction keys generalizing index created known with
  | nil => exact isKnown
  | cons key keys induction =>
      rw [seedPermissions]
      split
      · exact induction created isKnown
      · simp only [informed_bind, informed_now, informed_freshUuid, informed_call,
          Call.references, Call.told]
        intro now uuid
        refine ⟨by simp, fun permission => induction (created + 1) ?_⟩
        intro entry member
        rcases List.mem_cons.mp member with rfl | member
        · simp
        · exact List.mem_append_left _ (isKnown entry member)

theorem informed_seedRole {index : PermissionIndex} (isKnown : index.IsKnown known)
    (definition : RoleDefinition) :
    (seedRole Program.backend index definition).Informed (fun _ _ => True) known := by
  simp only [seedRole, informed_bind, informed_call, Call.references]
  refine ⟨by simp, fun found => ?_⟩
  split
  · simp
  · simp only [informed_bind, informed_now, informed_freshUuid, informed_call, Call.references,
      Call.told]
    intro now uuid
    refine ⟨by simp, fun role => ⟨fun reference isNamed => ?_, by simp⟩⟩
    rcases List.mem_cons.mp isNamed with rfl | isNamed
    · simp
    · rcases List.mem_map.mp isNamed with ⟨id, isAttached, rfl⟩
      rcases List.mem_filterMap.mp isAttached with ⟨key, -, found⟩
      exact List.mem_append_left _ (List.mem_append_left _ (isKnown.lookup found))

theorem informed_seedRoles (definitions : List RoleDefinition) {index : PermissionIndex}
    (created : Nat) (isKnown : index.IsKnown known) :
    (seedRoles Program.backend index created definitions).Informed (fun _ _ => True) known := by
  induction definitions generalizing created known with
  | nil => exact True.intro
  | cons definition definitions induction =>
      rw [seedRoles, informed_bind]
      apply (informed_seedRole isKnown definition).imp
      intro told isNew sub _
      exact induction _ (isKnown.mono sub)

theorem informed_seed : (seed Program.backend).Informed (fun _ _ => True) known := by
  simp only [seed, informed_bind, informed_enter, informed_call, Call.references, Call.told]
  refine ⟨by simp, fun permissions => ?_⟩
  have isKnown := (PermissionIndex.isKnown_of permissions).mono
    (List.subset_append_right known _)
  apply (informed_seedPermissions seededKeys 0 isKnown).imp
  intro told result _ isTold
  exact (informed_seedRoles roleDefinitions 0 isTold).imp fun _ _ _ _ => True.intro

end Service

theorem Task.informed {α : Type} (task : Task α) :
    (task.perform Program.backend).Informed (fun _ _ => True) [] := by
  cases task with
  | createRole | listRoles | updateRole | syncPermissions | checkAccess | effectivePermissions
  | assignUserRole | assignRoles | grantPermissions | seed =>
      simp only [perform, Service.informed_createRole, Service.informed_listRoles,
        Service.informed_updateRole, Service.informed_syncPermissions,
        Service.informed_checkAccess, Service.informed_effectivePermissions,
        Service.informed_assignUserRole, Service.informed_assignRoles,
        Service.informed_grantPermissions, Service.informed_seed]
  | getRole | deleteRole | getPermissions | listPermissions | createPermission =>
      simp [perform, Service.getRole, Service.deleteRole, Service.getPermissions,
        Service.listPermissions, Program.informed_bind, Call.references]

end Entitlement
