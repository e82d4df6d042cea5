import Entitlement.Proofs.FieldReaders
import Entitlement.Proofs.Names
import Entitlement.Settings.Loading

/-! # What a settings file says

A settings file is a table of sections, each of which is a table of settings. What it does not
mention is as it is by default. A list may stand in for such a table, with its items in the place
of the values under the known names. -/

namespace Entitlement

open Toml

/-! ## Fields by name or by place -/

namespace Json.Fields

variable {α : Type}

def part? (fields : Fields) (place : Nat) (name : String) : Option Json :=
  match fields with
  | .named members => members.lookup name
  | .ordered items => items[place]?

def after (fields : Fields) (count : Nat) : Fields :=
  match fields with
  | .named members => .named members
  | .ordered items => .ordered (items.drop count)

def pick? (fields : Fields) (place : Nat) (name : String) (read? : Json → Option α)
    (default : α) : Option α :=
  match fields.part? place name with
  | some value => read? value
  | none => some default

theorem after_zero (fields : Fields) : fields.after 0 = fields := by
  cases fields <;> rfl

theorem run_defaulted (fields : Fields) (place : Nat) (name : String) (read? : Json → Option α)
    (default : α) :
    (defaulted name read? default).run (fields.after place) =
      (fields.pick? place name read? default).map (·, fields.after (place + 1)) := by
  have next : (next? name).run (fields.after place) =
      some (fields.part? place name, fields.after (place + 1)) := by
    cases fields with
    | named members => rfl
    | ordered items =>
        simp only [after, part?, StateT.run, next?]
        cases left : items.drop place with
        | nil =>
            have short := List.drop_eq_nil_iff.mp left
            simp [List.getElem?_eq_none short, List.drop_eq_nil_of_le (Nat.le_succ_of_le short)]
        | cons item rest =>
            have found : items[place]? = some item := by
              rw [← List.head?_drop, left]
              rfl
            rw [found, ← List.drop_drop, left]
            rfl
  rw [defaulted, StateT.run_bind, next, pick?]
  cases fields.part? place name with
  | none => rfl
  | some value =>
      simp only [Option.bind_eq_bind, Option.bind_some]
      cases read? value <;> rfl

theorem pick?_eq_some_iff {fields : Fields} {place : Nat} {name : String}
    {read? : Json → Option α} {default value : α} :
    fields.pick? place name read? default = some value ↔
      match fields.part? place name with
      | some part => read? part = some value
      | none => value = default := by
  rw [pick?]
  split
  · rfl
  · rw [Option.some.injEq, eq_comm]

theorem exists_run_defaulted_iff {β : Type} {fields : Fields} {place : Nat} {name : String}
    {read? : Json → Option α} {default : α} {next : α → FieldReader β} {result : β} :
    (∃ rest, (defaulted name read? default >>= next).run (fields.after place) =
        some (result, rest)) ↔
      ∃ value, fields.pick? place name read? default = some value ∧
        ∃ rest, (next value).run (fields.after (place + 1)) = some (result, rest) := by
  rw [StateT.run_bind, run_defaulted]
  cases fields.pick? place name read? default with
  | none => simp
  | some value => simp

theorem exists_run_pure_iff {fields : Fields} {value result : α} :
    (∃ rest, StateT.run (pure value : FieldReader α) fields = some (result, rest)) ↔
      value = result := by
  simp

end Json.Fields

/-! ## Parts of a file -/

namespace Toml.Tree

def part? (tree : Tree) (place : Nat) (name : String) : Option Tree :=
  match tree with
  | table _ members => (members.find? (·.1.text = name)).map (·.2)
  | list _ items => items[place]?
  | leaf _ _ => none

/-- Whether settings can be looked for in a value. They can in a date, but are not there. -/
def IsRecord : Tree → Prop
  | table _ _ | list _ _ | leaf _ (.moment _) => True
  | leaf _ _ => False

def IsEmpty : Tree → Prop
  | table _ members => members = []
  | list _ items => items = []
  | leaf _ _ => False

theorem lookup_membersToJson (members : List (Name × Tree)) (name : String) :
    (membersToJson members).lookup name =
      ((members.find? (·.1.text = name)).map (·.2)).map toJson := by
  induction members with
  | nil => rfl
  | cons member members induction =>
      rcases member with ⟨first, tree⟩
      rw [membersToJson, List.lookup_cons, List.find?_cons]
      by_cases equal : name = first.text
      · simp [equal]
      · simp [beq_false_of_ne equal, Ne.symm equal, induction]

theorem getElem?_itemsToJson (items : List Tree) (place : Nat) :
    (itemsToJson items)[place]? = items[place]?.map toJson := by
  induction items generalizing place with
  | nil => rfl
  | cons item items induction =>
      cases place with
      | zero => rfl
      | succ place => exact induction place

/-- The fields of a record are its parts. A date has a field of its own, which is no setting. -/
theorem exists_fields_iff (tree : Tree) :
    (∃ fields, Json.Fields.of? tree.toJson = some fields) ↔ tree.IsRecord := by
  cases tree with
  | table spot members => simp [toJson, Json.Fields.of?, IsRecord]
  | list spot items => simp [toJson, Json.Fields.of?, IsRecord]
  | leaf spot scalar => cases scalar <;> simp [toJson, Scalar.toJson, Json.Fields.of?, IsRecord]

theorem part?_fields {tree : Tree} {fields : Json.Fields}
    (isFields : Json.Fields.of? tree.toJson = some fields) (place : Nat) {name : String}
    (known : name ≠ "moment") : fields.part? place name = (tree.part? place name).map toJson := by
  cases tree with
  | table spot members =>
      cases isFields
      exact lookup_membersToJson members name
  | list spot items =>
      cases isFields
      exact getElem?_itemsToJson items place
  | leaf spot scalar =>
      cases scalar with
      | moment literal =>
          cases isFields
          simp [Json.Fields.part?, part?, List.lookup_cons, beq_false_of_ne known]
      | text | truth | integer | decimal => cases isFields

end Toml.Tree

/-! ## Settings in a file -/

namespace Setting

variable {α : Type}

def sectionKey : Setting α → Nat × String
  | databaseUrl | maxConnections | acquireTimeout => (0, "database")
  | cacheUrl | nameSpace | lifetime => (1, "redis")
  | cacheEnabled | queueCapacity | taskTimeout => (2, "role_cache")
  | logFormat | logLevel => (3, "logging")
  | seedOnStartup => (4, "seed")

def key : Setting α → Nat × String
  | databaseUrl | cacheUrl => (0, "url")
  | maxConnections => (1, "max_connections")
  | acquireTimeout => (2, "acquire_timeout_secs")
  | nameSpace => (1, "key_prefix")
  | lifetime => (2, "ttl_secs")
  | cacheEnabled => (0, "enabled")
  | queueCapacity => (1, "queue_capacity")
  | taskTimeout => (2, "task_timeout_ms")
  | logFormat => (0, "format")
  | logLevel => (1, "level")
  | seedOnStartup => (0, "on_startup")

/-- A value of a file is the value of a setting: a text, a whole number that is neither negative
nor too large, or a truth value. A log format may also be the name of a table or list of nothing
that stands alone in a table. -/
def IsWritten (tree : Tree) : Setting α → α → Prop
  | databaseUrl | cacheUrl | nameSpace | logLevel => fun value =>
      ∃ spot, tree = .leaf spot (.text value)
  | maxConnections => isNumber Width.max32
  | acquireTimeout | lifetime | queueCapacity | taskTimeout => isNumber Width.max64
  | cacheEnabled | seedOnStartup => fun value => ∃ spot, tree = .leaf spot (.truth value)
  | logFormat => fun format =>
      (∃ spot, tree = .leaf spot (.text format.name)) ∨
        ∃ spot name inner, tree = .table spot [(name, inner)] ∧ name.text = format.name ∧
          inner.IsEmpty
where
  isNumber (most value : Nat) : Prop :=
    value ≤ most ∧ ∃ spot, tree = .leaf spot (.integer value)

def IsGivenIn (tree : Tree) (setting : Setting α) (value : α) : Prop :=
  match tree.part? setting.key.1 setting.key.2 with
  | some part => setting.IsWritten part value
  | none => value = setting.get {}

def IsGiven (file : Tree) (setting : Setting α) (value : α) : Prop :=
  match file.part? setting.sectionKey.1 setting.sectionKey.2 with
  | some tree => setting.IsGivenIn tree value
  | none => value = setting.get {}

def read? : Setting α → Json → Option α
  | databaseUrl | cacheUrl | nameSpace | logLevel => Json.text?
  | maxConnections => Json.natural? Width.max32
  | acquireTimeout | lifetime | queueCapacity | taskTimeout => Json.natural? Width.max64
  | cacheEnabled | seedOnStartup => Json.bool?
  | logFormat => Dialect.file.format?

theorem text?_toJson_eq_some_iff (tree : Tree) (value : String) :
    tree.toJson.text? = some value ↔ ∃ spot, tree = .leaf spot (.text value) := by
  cases tree with
  | table | list => simp [Tree.toJson, Json.text?]
  | leaf spot scalar => cases scalar <;> simp [Tree.toJson, Scalar.toJson, Json.text?]

theorem bool?_toJson_eq_some_iff (tree : Tree) (value : Bool) :
    tree.toJson.bool? = some value ↔ ∃ spot, tree = .leaf spot (.truth value) := by
  cases tree with
  | table | list => simp [Tree.toJson, Json.bool?]
  | leaf spot scalar => cases scalar <;> simp [Tree.toJson, Scalar.toJson, Json.bool?]

theorem natural?_toJson_eq_some_iff (tree : Tree) (most value : Nat) :
    tree.toJson.natural? most = some value ↔
      value ≤ most ∧ ∃ spot, tree = .leaf spot (.integer value) := by
  cases tree with
  | table | list => simp [Tree.toJson, Json.natural?, Json.between?]
  | leaf spot scalar =>
      cases scalar with
      | text | truth | decimal | moment =>
          simp [Tree.toJson, Scalar.toJson, Json.natural?, Json.between?]
      | integer number =>
          have same : (0 ≤ number ∧ number ≤ most) ∧ number.toNat = value ↔
              value ≤ most ∧ number = value := by omega
          simpa [Tree.toJson, Scalar.toJson, Json.natural?, Json.between?, and_assoc] using same

theorem isUnit_toJson_iff (tree : Tree) : Dialect.file.isUnit tree.toJson ↔ tree.IsEmpty := by
  cases tree with
  | leaf spot scalar =>
      cases scalar <;> simp [Tree.toJson, Scalar.toJson, Dialect.file, Tree.IsEmpty]
  | list spot items =>
      cases items <;> simp [Tree.toJson, Tree.itemsToJson, Dialect.file, Tree.IsEmpty]
  | table spot members =>
      cases members <;> simp [Tree.toJson, Tree.membersToJson, Dialect.file, Tree.IsEmpty]

theorem format?_toJson_eq_some_iff (tree : Tree) (format : Logging.Format) :
    Dialect.file.format? tree.toJson = some format ↔
      (∃ spot, tree = .leaf spot (.text format.name)) ∨
        ∃ spot name inner, tree = .table spot [(name, inner)] ∧ name.text = format.name ∧
          inner.IsEmpty := by
  rw [Dialect.format?, Option.bind_eq_some_iff]
  simp only [Logging.Format.ofName?_eq_some_iff]
  cases tree with
  | leaf spot scalar =>
      cases scalar <;>
        simp [Tree.toJson, Scalar.toJson, Json.choiceWhere?, Dialect.file, eq_comm]
  | list spot items => simp [Tree.toJson, Json.choiceWhere?]
  | table spot members =>
      rcases members with _ | ⟨⟨name, inner⟩, _ | ⟨other, members⟩⟩
      · simp [Tree.toJson, Tree.membersToJson, Json.choiceWhere?]
      · simp [Tree.toJson, Tree.membersToJson, Json.choiceWhere?, isUnit_toJson_iff, and_comm]
      · simp [Tree.toJson, Tree.membersToJson, Json.choiceWhere?]

theorem read?_toJson_eq_some_iff {setting : Setting α} {tree : Tree} {value : α} :
    setting.read? tree.toJson = some value ↔ setting.IsWritten tree value := by
  cases setting with
  | databaseUrl | cacheUrl | nameSpace | logLevel => exact text?_toJson_eq_some_iff tree value
  | maxConnections | acquireTimeout | lifetime | queueCapacity | taskTimeout =>
      exact natural?_toJson_eq_some_iff tree _ value
  | cacheEnabled | seedOnStartup => exact bool?_toJson_eq_some_iff tree value
  | logFormat => exact format?_toJson_eq_some_iff tree value

theorem pick?_eq_some_iff {setting : Setting α} {tree : Tree} {fields : Json.Fields} {value : α}
    (isFields : Json.Fields.of? tree.toJson = some fields) :
    fields.pick? setting.key.1 setting.key.2 setting.read? (setting.get {}) = some value ↔
      setting.IsGivenIn tree value := by
  have known : setting.key.2 ≠ "moment" := by cases setting <;> decide
  rw [Json.Fields.pick?_eq_some_iff, Tree.part?_fields isFields setting.key.1 known, IsGivenIn]
  cases tree.part? setting.key.1 setting.key.2 with
  | none => rfl
  | some part => exact read?_toJson_eq_some_iff

end Setting

/-! ## Sections -/

section

variable {σ : Type} {tree : Tree}

theorem Dialect.record?_toJson_eq_some_iff {reader : Json.FieldReader σ} {result : σ}
    {holds : Prop} (reads : ∀ fields, Json.Fields.of? tree.toJson = some fields →
      ((∃ rest, reader.run (fields.after 0) = some (result, rest)) ↔ holds)) :
    Dialect.file.record? reader tree.toJson = some result ↔ tree.IsRecord ∧ holds := by
  rw [← Tree.exists_fields_iff, Dialect.record?]
  cases isFields : Json.Fields.of? tree.toJson with
  | none => simp
  | some fields =>
      have start := reads fields isFields
      rw [Json.Fields.after_zero] at start
      simp [Dialect.file, ← start, Option.bind_eq_some_iff]

theorem DatabaseSettings.record?_eq_some_iff {settings : DatabaseSettings} :
    Dialect.file.record? fields tree.toJson = some settings ↔ tree.IsRecord ∧
      Setting.databaseUrl.IsGivenIn tree settings.url ∧
      Setting.maxConnections.IsGivenIn tree settings.maxConnections ∧
      Setting.acquireTimeout.IsGivenIn tree settings.acquireTimeout := by
  apply Dialect.record?_toJson_eq_some_iff
  intro start isFields
  simp only [fields, Json.Fields.exists_run_defaulted_iff, Json.Fields.exists_run_pure_iff,
    ← Setting.pick?_eq_some_iff isFields]
  rcases settings with ⟨url, maxConnections, acquireTimeout⟩
  simp only [mk.injEq]
  constructor
  · rintro ⟨_, isUrl, _, isMaxConnections, _, isAcquireTimeout, rfl, rfl, rfl⟩
    exact ⟨isUrl, isMaxConnections, isAcquireTimeout⟩
  · rintro ⟨isUrl, isMaxConnections, isAcquireTimeout⟩
    exact ⟨_, isUrl, _, isMaxConnections, _, isAcquireTimeout, rfl, rfl, rfl⟩

theorem CacheServerSettings.record?_eq_some_iff {settings : CacheServerSettings} :
    Dialect.file.record? fields tree.toJson = some settings ↔ tree.IsRecord ∧
      Setting.cacheUrl.IsGivenIn tree settings.url ∧
      Setting.nameSpace.IsGivenIn tree settings.nameSpace ∧
      Setting.lifetime.IsGivenIn tree settings.lifetime := by
  apply Dialect.record?_toJson_eq_some_iff
  intro start isFields
  simp only [fields, Json.Fields.exists_run_defaulted_iff, Json.Fields.exists_run_pure_iff,
    ← Setting.pick?_eq_some_iff isFields]
  rcases settings with ⟨url, nameSpace, lifetime⟩
  simp only [mk.injEq]
  constructor
  · rintro ⟨_, isUrl, _, isNameSpace, _, isLifetime, rfl, rfl, rfl⟩
    exact ⟨isUrl, isNameSpace, isLifetime⟩
  · rintro ⟨isUrl, isNameSpace, isLifetime⟩
    exact ⟨_, isUrl, _, isNameSpace, _, isLifetime, rfl, rfl, rfl⟩

theorem RoleCacheSettings.record?_eq_some_iff {settings : RoleCacheSettings} :
    Dialect.file.record? fields tree.toJson = some settings ↔ tree.IsRecord ∧
      Setting.cacheEnabled.IsGivenIn tree settings.enabled ∧
      Setting.queueCapacity.IsGivenIn tree settings.queueCapacity ∧
      Setting.taskTimeout.IsGivenIn tree settings.taskTimeout := by
  apply Dialect.record?_toJson_eq_some_iff
  intro start isFields
  simp only [fields, Json.Fields.exists_run_defaulted_iff, Json.Fields.exists_run_pure_iff,
    ← Setting.pick?_eq_some_iff isFields]
  rcases settings with ⟨enabled, queueCapacity, taskTimeout⟩
  simp only [mk.injEq]
  constructor
  · rintro ⟨_, isEnabled, _, isQueueCapacity, _, isTaskTimeout, rfl, rfl, rfl⟩
    exact ⟨isEnabled, isQueueCapacity, isTaskTimeout⟩
  · rintro ⟨isEnabled, isQueueCapacity, isTaskTimeout⟩
    exact ⟨_, isEnabled, _, isQueueCapacity, _, isTaskTimeout, rfl, rfl, rfl⟩

theorem LogSettings.record?_eq_some_iff {settings : LogSettings} :
    Dialect.file.record? (fields .file) tree.toJson = some settings ↔ tree.IsRecord ∧
      Setting.logFormat.IsGivenIn tree settings.format ∧
      Setting.logLevel.IsGivenIn tree settings.level := by
  apply Dialect.record?_toJson_eq_some_iff
  intro start isFields
  simp only [fields, Json.Fields.exists_run_defaulted_iff, Json.Fields.exists_run_pure_iff,
    ← Setting.pick?_eq_some_iff isFields]
  rcases settings with ⟨format, level⟩
  simp only [mk.injEq]
  constructor
  · rintro ⟨_, isFormat, _, isLevel, rfl, rfl⟩
    exact ⟨isFormat, isLevel⟩
  · rintro ⟨isFormat, isLevel⟩
    exact ⟨_, isFormat, _, isLevel, rfl, rfl⟩

theorem SeedSettings.record?_eq_some_iff {settings : SeedSettings} :
    Dialect.file.record? fields tree.toJson = some settings ↔ tree.IsRecord ∧
      Setting.seedOnStartup.IsGivenIn tree settings.onStartup := by
  apply Dialect.record?_toJson_eq_some_iff
  intro start isFields
  simp only [fields, Json.Fields.exists_run_defaulted_iff, Json.Fields.exists_run_pure_iff,
    ← Setting.pick?_eq_some_iff isFields]
  rcases settings with ⟨onStartup⟩
  simp only [mk.injEq]
  constructor
  · rintro ⟨_, isOnStartup, rfl⟩
    exact isOnStartup
  · exact fun isOnStartup => ⟨_, isOnStartup, rfl⟩

end

/-! ## All settings -/

namespace Setting

theorem forall_iff {holds : Sigma Setting → Prop} :
    (∀ setting, holds setting) ↔
      (holds ⟨_, databaseUrl⟩ ∧ holds ⟨_, maxConnections⟩ ∧ holds ⟨_, acquireTimeout⟩) ∧
      (holds ⟨_, cacheUrl⟩ ∧ holds ⟨_, nameSpace⟩ ∧ holds ⟨_, lifetime⟩) ∧
      (holds ⟨_, cacheEnabled⟩ ∧ holds ⟨_, queueCapacity⟩ ∧ holds ⟨_, taskTimeout⟩) ∧
      (holds ⟨_, logFormat⟩ ∧ holds ⟨_, logLevel⟩) ∧ holds ⟨_, seedOnStartup⟩ := by
  constructor
  · exact fun all => ⟨⟨all _, all _, all _⟩, ⟨all _, all _, all _⟩, ⟨all _, all _, all _⟩,
      ⟨all _, all _⟩, all _⟩
  · rintro ⟨⟨url, most, wait⟩, ⟨cacheUrl, nameSpace, lifetime⟩, ⟨enabled, capacity, timeout⟩,
      ⟨format, level⟩, seed⟩ ⟨_, setting⟩
    cases setting <;> assumption

def SaysSection (file : Tree) (settings : Settings) (key : Nat × String) : Prop :=
  (∀ tree ∈ file.part? key.1 key.2, tree.IsRecord) ∧
    ∀ setting : Sigma Setting, setting.2.sectionKey = key →
      setting.2.IsGiven file (setting.2.get settings)

theorem pick?_section_iff {σ : Type} {reader : Json.FieldReader σ} {default value : σ}
    {settings : Settings} {place : Nat} {name : String} {file : Tree} {fields : Json.Fields}
    (isFields : Json.Fields.of? file.toJson = some fields) (known : name ≠ "moment")
    (reads : ∀ tree : Tree, Dialect.file.record? reader tree.toJson = some value ↔
      tree.IsRecord ∧ ∀ setting : Sigma Setting, setting.2.sectionKey = (place, name) →
        setting.2.IsGivenIn tree (setting.2.get settings))
    (isDefault : value = default ↔ ∀ setting : Sigma Setting,
      setting.2.sectionKey = (place, name) → setting.2.get settings = setting.2.get {}) :
    fields.pick? place name (Dialect.file.record? reader) default = some value ↔
      SaysSection file settings (place, name) := by
  have given : ∀ setting : Sigma Setting, setting.2.sectionKey = (place, name) →
      (setting.2.IsGiven file (setting.2.get settings) ↔
        match file.part? place name with
        | some tree => setting.2.IsGivenIn tree (setting.2.get settings)
        | none => setting.2.get settings = setting.2.get {}) := by
    intro setting isThere
    rw [IsGiven, isThere]
  rw [Json.Fields.pick?_eq_some_iff, Tree.part?_fields isFields place known, SaysSection]
  cases found : file.part? place name with
  | none =>
      simp only [found] at given
      simpa using isDefault.trans
        (forall₂_congr fun setting isThere => (given setting isThere).symm)
  | some tree =>
      simp only [found] at given
      simpa using (reads tree).trans (and_congr_right fun _ =>
        forall₂_congr fun setting isThere => (given setting isThere).symm)

end Setting

namespace Settings

structure IsSaid (file : Tree) (settings : Settings) : Prop where
  isRecord : file.IsRecord
  sections : ∀ setting : Sigma Setting,
    ∀ tree ∈ file.part? setting.2.sectionKey.1 setting.2.sectionKey.2, tree.IsRecord
  values : ∀ setting : Sigma Setting, setting.2.IsGiven file (setting.2.get settings)

section

variable {file : Tree} {start : Json.Fields} (isFields : Json.Fields.of? file.toJson = some start)
  {settings : Settings}

include isFields

theorem pick?_database_iff :
    start.pick? 0 "database" (Dialect.file.record? DatabaseSettings.fields) {} =
      some settings.database ↔ Setting.SaysSection file settings (0, "database") := by
  apply Setting.pick?_section_iff isFields (by decide)
  · intro tree
    rw [DatabaseSettings.record?_eq_some_iff]
    simp [Setting.forall_iff, Setting.sectionKey, Setting.get]
  · rcases settings with ⟨⟨url, most, wait⟩, _, _, _, _⟩
    simp [Setting.forall_iff, Setting.sectionKey, Setting.get]

theorem pick?_cacheServer_iff :
    start.pick? 1 "redis" (Dialect.file.record? CacheServerSettings.fields) {} =
      some settings.cacheServer ↔ Setting.SaysSection file settings (1, "redis") := by
  apply Setting.pick?_section_iff isFields (by decide)
  · intro tree
    rw [CacheServerSettings.record?_eq_some_iff]
    simp [Setting.forall_iff, Setting.sectionKey, Setting.get]
  · rcases settings with ⟨_, ⟨url, nameSpace, lifetime⟩, _, _, _⟩
    simp [Setting.forall_iff, Setting.sectionKey, Setting.get]

theorem pick?_roleCache_iff :
    start.pick? 2 "role_cache" (Dialect.file.record? RoleCacheSettings.fields) {} =
      some settings.roleCache ↔ Setting.SaysSection file settings (2, "role_cache") := by
  apply Setting.pick?_section_iff isFields (by decide)
  · intro tree
    rw [RoleCacheSettings.record?_eq_some_iff]
    simp [Setting.forall_iff, Setting.sectionKey, Setting.get]
  · rcases settings with ⟨_, _, ⟨enabled, capacity, timeout⟩, _, _⟩
    simp [Setting.forall_iff, Setting.sectionKey, Setting.get]

theorem pick?_log_iff :
    start.pick? 3 "logging" (Dialect.file.record? (LogSettings.fields .file)) {} =
      some settings.log ↔ Setting.SaysSection file settings (3, "logging") := by
  apply Setting.pick?_section_iff isFields (by decide)
  · intro tree
    rw [LogSettings.record?_eq_some_iff]
    simp [Setting.forall_iff, Setting.sectionKey, Setting.get]
  · rcases settings with ⟨_, _, _, ⟨format, level⟩, _⟩
    simp [Setting.forall_iff, Setting.sectionKey, Setting.get]

theorem pick?_seed_iff :
    start.pick? 4 "seed" (Dialect.file.record? SeedSettings.fields) {} =
      some settings.seed ↔ Setting.SaysSection file settings (4, "seed") := by
  apply Setting.pick?_section_iff isFields (by decide)
  · intro tree
    rw [SeedSettings.record?_eq_some_iff]
    simp [Setting.forall_iff, Setting.sectionKey, Setting.get]
  · rcases settings with ⟨_, _, _, _, ⟨onStartup⟩⟩
    simp [Setting.forall_iff, Setting.sectionKey, Setting.get]

end

theorem read?_file_eq_some_iff {file : Tree} {settings : Settings} :
    read? .file file.toJson = some settings ↔ IsSaid file settings := by
  have reads : read? .file file.toJson = some settings ↔ file.IsRecord ∧
      Setting.SaysSection file settings (0, "database") ∧
      Setting.SaysSection file settings (1, "redis") ∧
      Setting.SaysSection file settings (2, "role_cache") ∧
      Setting.SaysSection file settings (3, "logging") ∧
      Setting.SaysSection file settings (4, "seed") := by
    apply Dialect.record?_toJson_eq_some_iff
    intro start isFields
    simp only [fields, Json.Fields.exists_run_defaulted_iff, Json.Fields.exists_run_pure_iff,
      ← pick?_database_iff isFields, ← pick?_cacheServer_iff isFields,
      ← pick?_roleCache_iff isFields, ← pick?_log_iff isFields, ← pick?_seed_iff isFields]
    constructor
    · rintro ⟨_, database, _, cacheServer, _, roleCache, _, log, _, seed, rfl⟩
      exact ⟨database, cacheServer, roleCache, log, seed⟩
    · rintro ⟨database, cacheServer, roleCache, log, seed⟩
      exact ⟨_, database, _, cacheServer, _, roleCache, _, log, _, seed, rfl⟩
  rw [reads]
  constructor
  · rintro ⟨isRecord, database, cacheServer, roleCache, log, seed⟩
    have said : ∀ setting : Sigma Setting,
        Setting.SaysSection file settings setting.2.sectionKey :=
      Setting.forall_iff.mpr ⟨⟨database, database, database⟩,
        ⟨cacheServer, cacheServer, cacheServer⟩, ⟨roleCache, roleCache, roleCache⟩,
        ⟨log, log⟩, seed⟩
    exact ⟨isRecord, fun setting => (said setting).1, fun setting => (said setting).2 setting rfl⟩
  · rintro ⟨isRecord, sections, values⟩
    have said : ∀ setting : Sigma Setting,
        Setting.SaysSection file settings setting.2.sectionKey :=
      fun setting => ⟨sections setting, fun other _ => values other⟩
    exact ⟨isRecord, said ⟨_, .databaseUrl⟩, said ⟨_, .cacheUrl⟩, said ⟨_, .cacheEnabled⟩,
      said ⟨_, .logFormat⟩, said ⟨_, .seedOnStartup⟩⟩

/-! ## Values at fault -/

theorem recordMisfit?_eq_none {κ : Type} {misfit? : κ → Tree → Option Spot}
    {fields : List (String × κ)} {tree : Tree} (none : recordMisfit? misfit? fields tree = none) :
    tree.IsRecord ∧ ∀ place name kind, fields[place]? = some (name, kind) →
      fields.lookup name = some kind → ∀ part, tree.part? place name = some part →
        misfit? kind part = .none := by
  cases tree with
  | table spot members =>
      refine ⟨True.intro, fun place name kind _ known part found => ?_⟩
      rcases Option.map_eq_some_iff.mp found with ⟨member, isMember, rfl⟩
      have named : member.1.text = name := by simpa using List.find?_some isMember
      have here := List.findSome?_eq_none_iff.mp none member (List.mem_of_find?_eq_some isMember)
      simpa [named, known] using here
  | list spot items =>
      refine ⟨True.intro, fun place name kind isField _ part found => ?_⟩
      have paired : ((name, kind), part) ∈ fields.zip items :=
        List.mem_of_getElem? (List.getElem?_zip_eq_some.mpr ⟨isField, found⟩)
      exact List.findSome?_eq_none_iff.mp none _ paired
  | leaf spot scalar =>
      cases scalar with
      | moment literal => exact ⟨True.intro, fun _ _ _ _ _ _ found => by cases found⟩
      | text | truth | integer | decimal => cases none

end Settings

def Setting.kind {α : Type} : Setting α → Settings.Kind
  | databaseUrl | cacheUrl | nameSpace | logLevel => .text
  | maxConnections => .number Width.max32
  | acquireTimeout | lifetime | queueCapacity | taskTimeout => .number Width.max64
  | cacheEnabled | seedOnStartup => .truth
  | logFormat => .format

namespace Settings

theorem exists_isWritten {α : Type} {setting : Setting α} {tree : Tree}
    (none : setting.kind.misfit? tree = none) : ∃ value, setting.IsWritten tree value := by
  have same : setting.kind.fits tree.toJson = (setting.read? tree.toJson).isSome := by
    cases setting <;> rfl
  have fits : setting.kind.fits tree.toJson := by
    rw [Kind.misfit?.eq_def] at none
    split at none
    · assumption
    · split at none <;> cases none
  rw [same] at fits
  rcases Option.isSome_iff_exists.mp fits with ⟨value, reads⟩
  exact ⟨value, Setting.read?_toJson_eq_some_iff.mp reads⟩

theorem exists_isGiven {α : Type} {setting : Setting α} {file : Tree}
    (fits : ∀ tree, file.part? setting.sectionKey.1 setting.sectionKey.2 = some tree →
      ∀ part, tree.part? setting.key.1 setting.key.2 = some part →
        setting.kind.misfit? part = none) :
    ∃ value, setting.IsGiven file value := by
  cases isTree : file.part? setting.sectionKey.1 setting.sectionKey.2 with
  | none => exact ⟨setting.get {}, by rw [Setting.IsGiven, isTree]⟩
  | some tree =>
      cases isPart : tree.part? setting.key.1 setting.key.2 with
      | none =>
          exact ⟨setting.get {}, by simp [Setting.IsGiven, isTree, Setting.IsGivenIn, isPart]⟩
      | some part =>
          rcases exists_isWritten (fits tree isTree part isPart) with ⟨value, isWritten⟩
          exact ⟨value, by simpa [Setting.IsGiven, isTree, Setting.IsGivenIn, isPart]⟩

theorem exists_get_eq (value : (setting : Sigma Setting) → setting.1) :
    ∃ settings : Settings, ∀ setting : Sigma Setting, setting.2.get settings = value setting := by
  refine ⟨{
    database := ⟨value ⟨_, .databaseUrl⟩, value ⟨_, .maxConnections⟩, value ⟨_, .acquireTimeout⟩⟩
    cacheServer := ⟨value ⟨_, .cacheUrl⟩, value ⟨_, .nameSpace⟩, value ⟨_, .lifetime⟩⟩
    roleCache := ⟨value ⟨_, .cacheEnabled⟩, value ⟨_, .queueCapacity⟩, value ⟨_, .taskTimeout⟩⟩
    log := ⟨value ⟨_, .logFormat⟩, value ⟨_, .logLevel⟩⟩
    seed := ⟨value ⟨_, .seedOnStartup⟩⟩ }, ?_⟩
  rintro ⟨_, setting⟩
  cases setting <;> rfl

theorem recordMisfit?_eq_some {file : Tree} (nothing : ∀ settings, ¬ IsSaid file settings) :
    recordMisfit? (recordMisfit? Kind.misfit?) sections file = some (misfit file) := by
  cases found : recordMisfit? (recordMisfit? Kind.misfit?) sections file with
  | some spot => rw [misfit, found, Option.getD_some]
  | none =>
      rcases recordMisfit?_eq_none found with ⟨isRecord, ofSections⟩
      have ofSection : ∀ (setting : Sigma Setting) tree,
          file.part? setting.2.sectionKey.1 setting.2.sectionKey.2 = some tree →
            tree.IsRecord ∧ ∀ part, tree.part? setting.2.key.1 setting.2.key.2 = some part →
              setting.2.kind.misfit? part = none := by
        rintro ⟨_, setting⟩ tree isTree
        cases setting
        all_goals
          rcases recordMisfit?_eq_none (ofSections _ _ _ rfl rfl tree isTree) with
            ⟨isRecord, ofParts⟩
          exact ⟨isRecord, fun part isPart => ofParts _ _ _ rfl rfl part isPart⟩
      have given : ∀ setting : Sigma Setting, ∃ value, setting.2.IsGiven file value :=
        fun setting => exists_isGiven fun tree isTree => (ofSection setting tree isTree).2
      choose value isGiven using given
      rcases exists_get_eq value with ⟨settings, isValue⟩
      exact absurd ⟨isRecord, fun setting tree isTree => (ofSection setting tree isTree).1,
        fun setting => (isValue setting).symm ▸ isGiven setting⟩ (nothing settings)

end Settings
end Entitlement
