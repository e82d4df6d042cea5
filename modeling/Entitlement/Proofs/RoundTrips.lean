import Entitlement.Decision
import Entitlement.Grant
import Entitlement.Proofs.FieldReaders
import Entitlement.Proofs.JsonTexts
import Entitlement.Proofs.Moments
import Entitlement.Proofs.Names
import Entitlement.Role
import Entitlement.Settings.Json
import Entitlement.User

/-! # What is written in JSON reads back

Records are written with all members that they have, and each of them is found again under its
name. Numbers that are read have the width of their fields, so a record that was read in whatever
form is written in the one form that reads back. Only moments have to be plain. -/

namespace Entitlement

/-! ## Identifiers -/

namespace Uuid

theorem digitValue?_digitChar (digit : Fin 16) : digitValue? (digitChar digit) = some digit := by
  revert digit
  decide

theorem ofPlain?_digits (uuid : Uuid) : ofPlain? (uuid.digits.map digitChar) = some uuid := by
  have values : ∀ digits : List (Fin 16),
      (digits.map digitChar).mapM digitValue? = some digits := by
    intro digits
    induction digits with
    | nil => rfl
    | cons digit digits induction =>
        rw [List.map_cons, List.mapM_cons, digitValue?_digitChar, induction]
        rfl
  rw [ofPlain?, values, Option.bind_some, ofDigits?, dif_pos uuid.length_digits]

theorem ofPlain?_of_hyphen {letters : List Char} (hyphen : '-' ∈ letters) :
    ofPlain? letters = none := by
  have noValues : letters.mapM digitValue? = none := by
    induction letters with
    | nil => cases hyphen
    | cons letter letters induction =>
        rw [List.mapM_cons]
        rcases List.mem_cons.mp hyphen with rfl | later
        · rfl
        · rw [induction later]
          cases digitValue? letter <;> rfl
  rw [ofPlain?, noValues, Option.bind_none]

theorem ofHyphenated?_groups {first second third fourth fifth : List Char}
    (length₁ : first.length = 8) (length₂ : second.length = 4) (length₃ : third.length = 4)
    (length₄ : fourth.length = 4) (length₅ : fifth.length = 12) :
    ofHyphenated? (first ++ '-' :: second ++ '-' :: third ++ '-' :: fourth ++ '-' :: fifth) =
      ofPlain? (first ++ second ++ third ++ fourth ++ fifth) := by
  simp [ofHyphenated?, length₁, length₂, length₃, length₄, length₅, List.drop_append,
    List.drop_eq_nil_of_le]

theorem ofText?_text (uuid : Uuid) : ofText? uuid.text = some uuid := by
  have hyphen : '-' ∈ uuid.letters := by simp [letters]
  have hyphenated : ofHyphenated? uuid.letters = some uuid := by
    rw [letters]
    rw [ofHyphenated?_groups, ← List.take_add, ← List.take_add, ← List.take_add,
      List.take_append_drop, ofPlain?_digits]
    all_goals simp [uuid.length_digits]
  rw [ofText?, text, String.toList_ofList, ofLetters?, ofPlain?_of_hyphen hyphen, hyphenated]
  rfl

theorem ofJson?_toJson (uuid : Uuid) : ofJson? uuid.toJson = some uuid := ofText?_text uuid

end Uuid

theorem Instant.ofJson?_toJson {moment : Instant} (plain : moment.IsPlain) :
    ofJson? moment.toJson = some moment := ofText?_text plain

/-! ## Names -/

theorem RoleKey.ofJson?_toJson (key : RoleKey) : ofJson? key.toJson = some key :=
  (ofName?_eq_some_iff key.name key).mpr rfl

theorem RoleKey.ofAside?_toJson (key : RoleKey) : ofAside? key.toJson = some key :=
  (ofName?_eq_some_iff key.name key).mpr rfl

theorem PermissionKey.ofJson?_toJson (key : PermissionKey) : ofJson? key.toJson = some key :=
  (ofName?_eq_some_iff key.name key).mpr rfl

theorem UserStatus.ofJson?_toJson (status : UserStatus) : ofJson? status.toJson = some status :=
  (ofName?_eq_some_iff status.name status).mpr rfl

theorem GrantReason.ofAside?_toJson (reason : GrantReason) : ofAside? reason.toJson = some reason :=
  (ofName?_eq_some_iff reason.name reason).mpr rfl

theorem Dialect.format?_toJson (dialect : Dialect) (format : Logging.Format) :
    dialect.format? format.toJson = some format :=
  (Logging.Format.ofName?_eq_some_iff format.name format).mpr rfl

/-! ## Round trips -/

/-- Values read back as they were written, if their numbers fit and their moments are plain. The
numbers of whatever is read fit. -/
structure RoundTrips {α : Type} (write : α → Json) (read? : Json → Option α)
    (fits plain : α → Prop) : Prop where
  reads : ∀ value, fits value → plain value → read? (write value) = some value
  printable : ∀ value, fits value → (write value).Printable
  fitting : ∀ json value, read? json = some value → fits value

open Json

theorem Json.printable_integer {value : Int} (fits : Width.Fits64 value) :
    Printable (.integer value) := by
  apply Printable.integer
  simp only [Width.Fits64, Width.minSigned64, Width.maxSigned64, Width.max64] at fits ⊢
  omega

theorem Json.printable_natural {value : Nat} (fits : value ≤ Width.max64) :
    Printable (.integer value) := by
  apply Printable.integer
  simp only [Width.minSigned64]
  omega

theorem Json.printable_optionalMember {α : Type} {name : String} {write : α → Json}
    {value? : Option α} (printable : ∀ value ∈ value?, (write value).Printable) :
    ∀ member ∈ optionalMember name write value?, member.2.Printable := by
  cases value? with
  | none => exact fun _ none => by cases none
  | some value => exact List.forall_mem_singleton.mpr (printable value rfl)

/-! ### Roles -/

structure Role.Fits (role : Role) : Prop where
  id : Width.Fits64 role.id
  deletedBy : ∀ author ∈ role.deletedBy, Width.Fits64 author

structure Role.IsPlain (role : Role) : Prop where
  createdAt : role.createdAt.IsPlain
  updatedAt : role.updatedAt.IsPlain
  deletedAt : ∀ moment ∈ role.deletedAt, moment.IsPlain

theorem Role.yields_fields {role : Role} (fits : role.Fits) (plain : role.IsPlain)
    {key? : Json → Option RoleKey} (reads : ∀ key, key? (RoleKey.toJson key) = some key)
    {others : List (String × Json)} (noDeletion : others.lookup "deletedAt" = none)
    (noAuthor : others.lookup "deletedBy" = none) :
    Yields (fields key?) (role.members ++ others) role := by
  rw [fields]
  apply Yields.bind (yields_required (integer?_integer fits.id) ?_)
  apply Yields.bind (yields_required (Uuid.ofJson?_toJson role.uuid) ?_)
  apply Yields.bind (yields_required (text?_text role.title) ?_)
  apply Yields.bind (yields_required (reads role.key) ?_)
  apply Yields.bind (yields_required (text?_text role.description) ?_)
  apply Yields.bind (yields_required (bool?_bool role.isDefault) ?_)
  apply Yields.bind (yields_required (Instant.ofJson?_toJson plain.createdAt) ?_)
  apply Yields.bind (yields_required (Instant.ofJson?_toJson plain.updatedAt) ?_)
  apply Yields.bind (yields_optional rfl
    (fun moment present => Instant.ofJson?_toJson (plain.deletedAt moment present)) ?_)
  apply Yields.bind (yields_optional rfl
    (fun author present => integer?_integer (fits.deletedBy author present)) ?_)
  apply yields_pure
  all_goals simp [members, List.lookup_append, List.lookup_cons, lookup_optionalMember, noDeletion,
    noAuthor]

theorem Role.printable_members {role : Role} (fits : role.Fits) :
    ∀ member ∈ role.members, member.2.Printable := by
  have author : ∀ author ∈ role.deletedBy, Printable (.integer author) :=
    fun author present => printable_integer (fits.deletedBy author present)
  have moment : ∀ moment ∈ role.deletedAt, Printable (Instant.toJson moment) :=
    fun moment _ => .text moment.text
  simp only [members, List.forall_mem_append, List.forall_mem_cons]
  exact ⟨⟨⟨printable_integer fits.id, .text _, .text _, .text _, .text _, .bool _, .text _, .text _,
    List.forall_mem_nil _⟩, printable_optionalMember moment⟩, printable_optionalMember author⟩

theorem Role.ensures_fields (key? : Json → Option RoleKey) : Ensures (fields key?) Role.Fits := by
  rw [fields]
  apply Ensures.bind (ensures_required fits64_of_integer?)
  intro id fitsId
  iterate 8 (apply Ensures.skip; intro _)
  apply Ensures.bind (ensures_optional fits64_of_integer?)
  intro author fitsAuthor
  exact ensures_pure ⟨fitsId, fitsAuthor⟩

theorem Role.roundTrips : RoundTrips toJson ofJson? Fits IsPlain where
  reads := by
    intro role fits plain
    have yields := yields_fields fits plain RoleKey.ofJson?_toJson List.lookup_nil List.lookup_nil
    rw [List.append_nil] at yields
    exact record?_of_yields yields
  printable := by
    intro role fits
    apply Printable.object _ (Role.printable_members fits)
    cases deletedAt : role.deletedAt <;> cases deletedBy : role.deletedBy <;>
      simp [members, optionalMember, deletedAt, deletedBy]
  fitting := fun _ _ reads => of_record? (ensures_fields RoleKey.ofJson?) reads

theorem RoleInput.roundTrips : RoundTrips toJson ofJson? (fun _ => True) (fun _ => True) where
  reads := by
    intro input _ _
    apply record?_of_yields
    rw [fields]
    apply Yields.bind (yields_required (text?_text input.title) ?_)
    apply Yields.bind (yields_defaulted (text?_text input.description) ?_)
    apply Yields.bind (yields_defaulted (bool?_bool input.isDefault) ?_)
    apply yields_pure
    all_goals simp [List.lookup_cons]
  printable := by
    intro input _
    apply Printable.object (by simp)
    simp only [List.forall_mem_cons]
    exact ⟨.text _, .text _, .bool _, List.forall_mem_nil _⟩
  fitting := fun _ _ _ => trivial

/-! ### Permissions -/

structure Permission.Fits (permission : Permission) : Prop where
  id : Width.Fits64 permission.id

structure Permission.IsPlain (permission : Permission) : Prop where
  createdAt : permission.createdAt.IsPlain
  updatedAt : permission.updatedAt.IsPlain
  deletedAt : ∀ moment ∈ permission.deletedAt, moment.IsPlain

theorem Permission.roundTrips : RoundTrips toJson ofJson? Fits IsPlain where
  reads := by
    intro permission fits plain
    apply record?_of_yields
    rw [fields]
    apply Yields.bind (yields_required (integer?_integer fits.id) ?_)
    apply Yields.bind (yields_required (Uuid.ofJson?_toJson permission.uuid) ?_)
    apply Yields.bind (yields_required (text?_text permission.title) ?_)
    apply Yields.bind (yields_required (PermissionKey.ofJson?_toJson permission.key) ?_)
    apply Yields.bind (yields_required (text?_text permission.group) ?_)
    apply Yields.bind (yields_required (text?_text permission.description) ?_)
    apply Yields.bind (yields_required (Instant.ofJson?_toJson plain.createdAt) ?_)
    apply Yields.bind (yields_required (Instant.ofJson?_toJson plain.updatedAt) ?_)
    apply Yields.bind (yields_optional rfl
      (fun moment present => Instant.ofJson?_toJson (plain.deletedAt moment present)) ?_)
    apply yields_pure
    all_goals simp [List.lookup_cons, lookup_optionalMember]
  printable := by
    intro permission fits
    have moment : ∀ moment ∈ permission.deletedAt, Printable (Instant.toJson moment) :=
      fun moment _ => .text moment.text
    apply Printable.object
    · cases deletedAt : permission.deletedAt <;> simp [optionalMember]
    · simp only [List.forall_mem_append, List.forall_mem_cons]
      exact ⟨⟨printable_integer fits.id, .text _, .text _, .text _, .text _, .text _, .text _,
        .text _, List.forall_mem_nil _⟩, printable_optionalMember moment⟩
  fitting := by
    intro json permission reads
    apply of_record? _ reads
    rw [fields]
    apply Ensures.bind (ensures_required fits64_of_integer?)
    intro id fitsId
    iterate 8 (apply Ensures.skip; intro _)
    exact ensures_pure ⟨fitsId⟩

structure Attachment.Fits (attachment : Attachment) : Prop where
  roleId : Width.Fits64 attachment.roleId
  permissionId : Width.Fits64 attachment.permissionId

theorem Attachment.roundTrips : RoundTrips toJson ofJson? Fits (fun _ => True) where
  reads := by
    intro attachment fits _
    apply record?_of_yields
    rw [fields]
    apply Yields.bind (yields_required (integer?_integer fits.roleId) ?_)
    apply Yields.bind (yields_required (integer?_integer fits.permissionId) ?_)
    apply yields_pure
    all_goals simp [List.lookup_cons]
  printable := by
    intro attachment fits
    apply Printable.object (by simp)
    simp only [List.forall_mem_cons]
    exact ⟨printable_integer fits.roleId, printable_integer fits.permissionId,
      List.forall_mem_nil _⟩
  fitting := by
    intro json attachment reads
    apply of_record? _ reads
    rw [fields]
    apply Ensures.bind (ensures_required fits64_of_integer?)
    intro roleId fitsRole
    apply Ensures.bind (ensures_required fits64_of_integer?)
    intro permissionId fitsPermission
    exact ensures_pure ⟨fitsRole, fitsPermission⟩

/-! ### Roles with their permissions -/

structure RoleWithPermissions.Fits (bundle : RoleWithPermissions) : Prop where
  role : bundle.role.Fits
  permissions : ∀ permission ∈ bundle.permissions, permission.Fits

structure RoleWithPermissions.IsPlain (bundle : RoleWithPermissions) : Prop where
  role : bundle.role.IsPlain
  permissions : ∀ permission ∈ bundle.permissions, permission.IsPlain

theorem RoundTrips.mapM {α : Type} {write : α → Json} {read? : Json → Option α}
    {fits plain : α → Prop}
    (roundTrips : RoundTrips write read? fits plain) {values : List α}
    (allFit : ∀ value ∈ values, fits value) (allPlain : ∀ value ∈ values, plain value) :
    (values.map write).mapM read? = some values := by
  induction values with
  | nil => rfl
  | cons value values induction =>
      rcases List.forall_mem_cons.mp allFit with ⟨fitsHere, fitLater⟩
      rcases List.forall_mem_cons.mp allPlain with ⟨plainHere, plainLater⟩
      rw [List.map_cons, List.mapM_cons, roundTrips.reads value fitsHere plainHere,
        induction fitLater plainLater]
      rfl

theorem RoundTrips.fitting_mapM {α : Type} {write : α → Json} {read? : Json → Option α}
    {fits plain : α → Prop} (roundTrips : RoundTrips write read? fits plain) {items : List Json}
    {values : List α} (reads : items.mapM read? = some values) : ∀ value ∈ values, fits value := by
  induction items generalizing values with
  | nil =>
      cases reads
      simp
  | cons item items induction =>
      rw [List.mapM_cons] at reads
      rcases Option.bind_eq_some_iff.mp reads with ⟨value, here, later⟩
      rcases Option.bind_eq_some_iff.mp later with ⟨others, there, equal⟩
      cases equal
      exact List.forall_mem_cons.mpr ⟨roundTrips.fitting item value here, induction there⟩

theorem RoleWithPermissions.roundTrips : RoundTrips toJson ofJson? Fits IsPlain where
  reads := by
    intro bundle fits plain
    have listed : (bundle.role.members ++
        [("permissions", Json.list (bundle.permissions.map Permission.toJson))]).lookup
          "permissions" = some (.list (bundle.permissions.map Permission.toJson)) := by
      simp [Role.members, List.lookup_append, List.lookup_cons, lookup_optionalMember]
    have permissions := Permission.roundTrips.mapM fits.permissions plain.permissions
    have role := record?_of_yields (Role.yields_fields fits.role plain.role RoleKey.ofAside?_toJson
      (by simp [List.lookup_cons] : List.lookup "deletedAt"
        [("permissions", Json.list (bundle.permissions.map Permission.toJson))] = none)
      (by simp [List.lookup_cons]))
    rw [toJson, ofJson?, listed]
    simp only [Option.bind_eq_bind, Option.bind_some, listOf?, permissions, role]
  printable := by
    intro bundle fits
    apply Printable.object
    · cases deletedAt : bundle.role.deletedAt <;> cases deletedBy : bundle.role.deletedBy <;>
        simp [Role.members, optionalMember, deletedAt, deletedBy]
    · refine List.forall_mem_append.mpr
        ⟨Role.printable_members fits.role, List.forall_mem_singleton.mpr (.list ?_)⟩
      intro item isItem
      rcases List.mem_map.mp isItem with ⟨permission, member, rfl⟩
      exact Permission.roundTrips.printable permission (fits.permissions permission member)
  fitting := by
    intro json bundle reads
    cases json with
    | object members =>
        rcases Option.bind_eq_some_iff.mp reads with ⟨permissions, listed, later⟩
        rcases Option.bind_eq_some_iff.mp later with ⟨role, here, equal⟩
        rcases Option.bind_eq_some_iff.mp listed with ⟨member, -, items⟩
        cases equal
        refine ⟨of_record? (Role.ensures_fields RoleKey.ofAside?) here, ?_⟩
        cases member with
        | list items => exact Permission.roundTrips.fitting_mapM items
        | null | bool | integer | decimal | text | object => cases items
    | null | bool | integer | decimal | text | list => cases reads

/-! ### Grants -/

structure Grant.Fits (grant : Grant) : Prop where
  id : Width.Fits64 grant.id
  userId : Width.Fits64 grant.userId
  roleId : ∀ id ∈ grant.roleId, Width.Fits64 id
  permissionId : ∀ id ∈ grant.permissionId, Width.Fits64 id

structure Grant.IsPlain (grant : Grant) : Prop where
  createdAt : grant.createdAt.IsPlain
  deletedAt : ∀ moment ∈ grant.deletedAt, moment.IsPlain

theorem Grant.roundTrips : RoundTrips toJson ofJson? Fits IsPlain where
  reads := by
    intro grant fits plain
    apply record?_of_yields
    rw [fields]
    apply Yields.bind (yields_required (integer?_integer fits.id) ?_)
    apply Yields.bind (yields_required (integer?_integer fits.userId) ?_)
    apply Yields.bind (yields_optional rfl
      (fun id present => integer?_integer (fits.roleId id present)) ?_)
    apply Yields.bind (yields_optional rfl
      (fun id present => integer?_integer (fits.permissionId id present)) ?_)
    apply Yields.bind (yields_required (Instant.ofJson?_toJson plain.createdAt) ?_)
    apply Yields.bind (yields_optional rfl
      (fun moment present => Instant.ofJson?_toJson (plain.deletedAt moment present)) ?_)
    apply yields_pure
    all_goals simp [List.lookup_append, List.lookup_cons, lookup_optionalMember]
  printable := by
    intro grant fits
    have number : ∀ {id? : Option Int}, (∀ id ∈ id?, Width.Fits64 id) →
        ∀ id ∈ id?, Printable (.integer id) :=
      fun allFit id present => printable_integer (allFit id present)
    have moment : ∀ moment ∈ grant.deletedAt, Printable (Instant.toJson moment) :=
      fun moment _ => .text moment.text
    apply Printable.object
    · cases roleId : grant.roleId <;> cases permissionId : grant.permissionId <;>
        cases deletedAt : grant.deletedAt <;> simp [optionalMember]
    · simp only [List.forall_mem_append, List.forall_mem_cons]
      exact ⟨⟨⟨⟨⟨printable_integer fits.id, printable_integer fits.userId, List.forall_mem_nil _⟩,
        printable_optionalMember (number fits.roleId)⟩,
        printable_optionalMember (number fits.permissionId)⟩, .text _, List.forall_mem_nil _⟩,
        printable_optionalMember moment⟩
  fitting := by
    intro json grant reads
    apply of_record? _ reads
    rw [fields]
    apply Ensures.bind (ensures_required fits64_of_integer?)
    intro id fitsId
    apply Ensures.bind (ensures_required fits64_of_integer?)
    intro userId fitsUser
    apply Ensures.bind (ensures_optional fits64_of_integer?)
    intro roleId fitsRole
    apply Ensures.bind (ensures_optional fits64_of_integer?)
    intro permissionId fitsPermission
    iterate 2 (apply Ensures.skip; intro _)
    exact ensures_pure ⟨fitsId, fitsUser, fitsRole, fitsPermission⟩

/-! ### Decisions and users -/

def Decision.Fits (decision : Decision) : Prop :=
  ∀ userId ∈ decision.userId?, Width.Fits64 userId

theorem Decision.ensures_grantedFields : Ensures grantedFields Decision.Fits := by
  rw [grantedFields]
  apply Ensures.bind (ensures_required fits64_of_integer?)
  intro userId fitsUser
  apply Ensures.skip
  intro reason
  apply ensures_pure
  intro other isUser
  cases isUser
  exact fitsUser

theorem Decision.roundTrips : RoundTrips toJson ofJson? Fits (fun _ => True) where
  reads := by
    intro decision fits _
    cases decision with
    | granted userId reason =>
        have kind : List.lookup "decision" [("decision", Json.text "granted"),
            ("userId", .integer userId), ("reason", reason.toJson)] = some (.text "granted") := by
          simp
        have reads : record? grantedFields (toJson (.granted userId reason)) =
            some (.granted userId reason) := by
          apply record?_of_yields
          rw [grantedFields]
          apply Yields.bind (yields_required (integer?_integer (fits userId rfl)) ?_)
          apply Yields.bind (yields_required (GrantReason.ofAside?_toJson reason) ?_)
          apply yields_pure
          all_goals simp [List.lookup_cons]
        rw [toJson, ofJson?, kind]
        exact reads
    | denied =>
        have kind : List.lookup "decision" [("decision", Json.text "denied")] =
            some (.text "denied") := by simp
        rw [toJson, ofJson?, kind]
        rfl
  printable := by
    intro decision fits
    cases decision with
    | granted userId reason =>
        apply Printable.object (by simp)
        simp only [List.forall_mem_cons]
        exact ⟨.text _, printable_integer (fits userId rfl), .text _, List.forall_mem_nil _⟩
    | denied => exact .object (by simp) (List.forall_mem_singleton.mpr (.text _))
  fitting := by
    intro json decision reads
    have nobody : Fits .denied := fun _ none => by cases none
    rw [ofJson?.eq_def] at reads
    split at reads
    · rcases Option.bind_eq_some_iff.mp reads with ⟨kind, -, later⟩
      split at later
      · exact of_record? ensures_grantedFields later
      · cases later
        exact nobody
      · cases later
    · exact of_record? ensures_grantedFields reads
    · cases reads
      exact nobody
    · cases reads

structure User.Fits (user : User) : Prop where
  id : Width.Fits64 user.id

theorem User.roundTrips : RoundTrips toJson ofJson? Fits (fun _ => True) where
  reads := by
    intro user fits _
    apply record?_of_yields
    rw [fields]
    apply Yields.bind (yields_required (integer?_integer fits.id) ?_)
    apply Yields.bind (yields_required (Uuid.ofJson?_toJson user.uuid) ?_)
    apply Yields.bind (yields_required (UserStatus.ofJson?_toJson user.status) ?_)
    apply yields_pure
    all_goals simp [List.lookup_cons]
  printable := by
    intro user fits
    apply Printable.object (by simp)
    simp only [List.forall_mem_cons]
    exact ⟨printable_integer fits.id, .text _, .text _, List.forall_mem_nil _⟩
  fitting := by
    intro json user reads
    apply of_record? _ reads
    rw [fields]
    apply Ensures.bind (ensures_required fits64_of_integer?)
    intro id fitsId
    iterate 2 (apply Ensures.skip; intro _)
    exact ensures_pure ⟨fitsId⟩

/-! ### Settings -/

structure DatabaseSettings.Fits (settings : DatabaseSettings) : Prop where
  maxConnections : settings.maxConnections ≤ Width.max32
  acquireTimeout : settings.acquireTimeout ≤ Width.max64

theorem DatabaseSettings.roundTrips : RoundTrips toJson (record? fields) Fits (fun _ => True) where
  reads := by
    intro settings fits _
    apply record?_of_yields
    rw [fields]
    apply Yields.bind (yields_defaulted (text?_text settings.url) ?_)
    apply Yields.bind (yields_defaulted (natural?_integer fits.maxConnections) ?_)
    apply Yields.bind (yields_defaulted (natural?_integer fits.acquireTimeout) ?_)
    apply yields_pure
    all_goals simp [List.lookup_cons]
  printable := by
    intro settings fits
    have most := Nat.le_trans fits.maxConnections (by decide : Width.max32 ≤ Width.max64)
    apply Printable.object (by simp)
    simp only [List.forall_mem_cons]
    exact ⟨.text _, printable_natural most, printable_natural fits.acquireTimeout,
      List.forall_mem_nil _⟩
  fitting := by
    intro json settings reads
    apply of_record? _ reads
    rw [fields]
    apply Ensures.skip
    intro _
    apply Ensures.bind (ensures_defaulted le_of_natural? (by decide))
    intro maxConnections fitsMost
    apply Ensures.bind (ensures_defaulted le_of_natural? (by decide))
    intro acquireTimeout fitsTimeout
    exact ensures_pure ⟨fitsMost, fitsTimeout⟩

structure CacheServerSettings.Fits (settings : CacheServerSettings) : Prop where
  lifetime : settings.lifetime ≤ Width.max64

theorem CacheServerSettings.roundTrips :
    RoundTrips toJson (record? fields) Fits (fun _ => True) where
  reads := by
    intro settings fits _
    apply record?_of_yields
    rw [fields]
    apply Yields.bind (yields_defaulted (text?_text settings.url) ?_)
    apply Yields.bind (yields_defaulted (text?_text settings.nameSpace) ?_)
    apply Yields.bind (yields_defaulted (natural?_integer fits.lifetime) ?_)
    apply yields_pure
    all_goals simp [List.lookup_cons]
  printable := by
    intro settings fits
    apply Printable.object (by simp)
    simp only [List.forall_mem_cons]
    exact ⟨.text _, .text _, printable_natural fits.lifetime, List.forall_mem_nil _⟩
  fitting := by
    intro json settings reads
    apply of_record? _ reads
    rw [fields]
    iterate 2 (apply Ensures.skip; intro _)
    apply Ensures.bind (ensures_defaulted le_of_natural? (by decide))
    intro lifetime fitsLifetime
    exact ensures_pure ⟨fitsLifetime⟩

structure RoleCacheSettings.Fits (settings : RoleCacheSettings) : Prop where
  queueCapacity : settings.queueCapacity ≤ Width.max64
  taskTimeout : settings.taskTimeout ≤ Width.max64

theorem RoleCacheSettings.roundTrips :
    RoundTrips toJson (record? fields) Fits (fun _ => True) where
  reads := by
    intro settings fits _
    apply record?_of_yields
    rw [fields]
    apply Yields.bind (yields_defaulted (bool?_bool settings.enabled) ?_)
    apply Yields.bind (yields_defaulted (natural?_integer fits.queueCapacity) ?_)
    apply Yields.bind (yields_defaulted (natural?_integer fits.taskTimeout) ?_)
    apply yields_pure
    all_goals simp [List.lookup_cons]
  printable := by
    intro settings fits
    apply Printable.object (by simp)
    simp only [List.forall_mem_cons]
    exact ⟨.bool _, printable_natural fits.queueCapacity, printable_natural fits.taskTimeout,
      List.forall_mem_nil _⟩
  fitting := by
    intro json settings reads
    apply of_record? _ reads
    rw [fields]
    apply Ensures.skip
    intro _
    apply Ensures.bind (ensures_defaulted le_of_natural? (by decide))
    intro queueCapacity fitsCapacity
    apply Ensures.bind (ensures_defaulted le_of_natural? (by decide))
    intro taskTimeout fitsTimeout
    exact ensures_pure ⟨fitsCapacity, fitsTimeout⟩

theorem LogSettings.roundTrips :
    RoundTrips toJson (record? (fields .json)) (fun _ => True) (fun _ => True) where
  reads := by
    intro settings _ _
    apply record?_of_yields
    rw [fields]
    apply Yields.bind (yields_defaulted (Dialect.format?_toJson .json settings.format) ?_)
    apply Yields.bind (yields_defaulted (text?_text settings.level) ?_)
    apply yields_pure
    all_goals simp [List.lookup_cons]
  printable := by
    intro settings _
    apply Printable.object (by simp)
    simp only [List.forall_mem_cons]
    exact ⟨.text _, .text _, List.forall_mem_nil _⟩
  fitting := fun _ _ _ => trivial

theorem SeedSettings.roundTrips :
    RoundTrips toJson (record? fields) (fun _ => True) (fun _ => True) where
  reads := by
    intro settings _ _
    apply record?_of_yields
    rw [fields]
    apply Yields.bind (yields_defaulted (bool?_bool settings.onStartup) ?_)
    apply yields_pure
    simp
  printable := fun _ _ => .object (by simp) (List.forall_mem_singleton.mpr (.bool _))
  fitting := fun _ _ _ => trivial

structure Settings.Fits (settings : Settings) : Prop where
  database : settings.database.Fits
  cacheServer : settings.cacheServer.Fits
  roleCache : settings.roleCache.Fits

theorem Settings.roundTrips : RoundTrips toJson ofJson? Fits (fun _ => True) where
  reads := by
    intro settings fits _
    have database := DatabaseSettings.roundTrips.reads _ fits.database trivial
    have cacheServer := CacheServerSettings.roundTrips.reads _ fits.cacheServer trivial
    have roleCache := RoleCacheSettings.roundTrips.reads _ fits.roleCache trivial
    have log := LogSettings.roundTrips.reads settings.log trivial trivial
    have seed := SeedSettings.roundTrips.reads settings.seed trivial trivial
    change record? (fields .json) _ = some settings
    apply record?_of_yields
    rw [fields]
    apply Yields.bind (yields_defaulted database ?_)
    apply Yields.bind (yields_defaulted cacheServer ?_)
    apply Yields.bind (yields_defaulted roleCache ?_)
    apply Yields.bind (yields_defaulted log ?_)
    apply Yields.bind (yields_defaulted seed ?_)
    apply yields_pure
    all_goals simp [List.lookup_cons]
  printable := by
    intro settings fits
    apply Printable.object (by simp)
    simp only [List.forall_mem_cons]
    exact ⟨DatabaseSettings.roundTrips.printable _ fits.database,
      CacheServerSettings.roundTrips.printable _ fits.cacheServer,
      RoleCacheSettings.roundTrips.printable _ fits.roleCache,
      LogSettings.roundTrips.printable _ trivial, SeedSettings.roundTrips.printable _ trivial,
      List.forall_mem_nil _⟩
  fitting := by
    intro json settings reads
    change record? (fields .json) json = some settings at reads
    apply of_record? _ reads
    rw [fields]
    apply Ensures.bind
      (ensures_defaulted DatabaseSettings.roundTrips.fitting ⟨by decide, by decide⟩)
    intro database fitsDatabase
    apply Ensures.bind (ensures_defaulted CacheServerSettings.roundTrips.fitting ⟨by decide⟩)
    intro cacheServer fitsServer
    apply Ensures.bind
      (ensures_defaulted RoleCacheSettings.roundTrips.fitting ⟨by decide, by decide⟩)
    intro roleCache fitsCache
    iterate 2 (apply Ensures.skip; intro _)
    exact ensures_pure ⟨fitsDatabase, fitsServer, fitsCache⟩

/-! ## All types -/

/-- Decoding undoes encoding: a value with numbers that fit and plain moments reads back from what
is written, and from its text, as it was. Whatever else is read as a value with plain moments is
written in a form that reads back as the same value. -/
structure ReadsBack {α : Type} (write : α → Json) (read? : Json → Option α)
    (fits plain : α → Prop) : Prop where
  written : ∀ value, fits value → plain value → read? (write value) = some value ∧
    (Json.read? (write value).compact).bind read? = some value
  normal : ∀ json value, read? json = some value → plain value →
    read? (write value) = some value ∧ (Json.read? (write value).compact).bind read? = some value

theorem RoundTrips.readsBack {α : Type} {write : α → Json} {read? : Json → Option α}
    {fits plain : α → Prop} (roundTrips : RoundTrips write read? fits plain) :
    ReadsBack write read? fits plain := by
  have written : ∀ value, fits value → plain value → read? (write value) = some value ∧
      (Json.read? (write value).compact).bind read? = some value := by
    intro value isFit isPlain
    have reads := roundTrips.reads value isFit isPlain
    rw [read?_compact (roundTrips.printable value isFit)]
    exact ⟨reads, reads⟩
  exact ⟨written, fun json value reads => written value (roundTrips.fitting json value reads)⟩

theorem json_reads_back :
    ReadsBack Role.toJson Role.ofJson? Role.Fits Role.IsPlain ∧
      ReadsBack RoleInput.toJson RoleInput.ofJson? (fun _ => True) (fun _ => True) ∧
      ReadsBack RoleWithPermissions.toJson RoleWithPermissions.ofJson? RoleWithPermissions.Fits
        RoleWithPermissions.IsPlain ∧
      ReadsBack Permission.toJson Permission.ofJson? Permission.Fits Permission.IsPlain ∧
      ReadsBack Attachment.toJson Attachment.ofJson? Attachment.Fits (fun _ => True) ∧
      ReadsBack Grant.toJson Grant.ofJson? Grant.Fits Grant.IsPlain ∧
      ReadsBack Decision.toJson Decision.ofJson? Decision.Fits (fun _ => True) ∧
      ReadsBack User.toJson User.ofJson? User.Fits (fun _ => True) ∧
      ReadsBack Settings.toJson Settings.ofJson? Settings.Fits (fun _ => True) :=
  ⟨Role.roundTrips.readsBack, RoleInput.roundTrips.readsBack,
    RoleWithPermissions.roundTrips.readsBack, Permission.roundTrips.readsBack,
    Attachment.roundTrips.readsBack, Grant.roundTrips.readsBack, Decision.roundTrips.readsBack,
    User.roundTrips.readsBack, Settings.roundTrips.readsBack⟩

end Entitlement
