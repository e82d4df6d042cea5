import Entitlement.Proofs.SettingsFiles
import Mathlib.Data.List.Nodup

/-! # Layers of settings

A settings file, or else the defaults, makes the lowest layer, and every variable replaces the one
setting that it belongs to. The layers are told apart by their faults: a file that cannot be read
comes before variables that say nothing, and these come before rules that are broken. A variable
whose value is not a text counts as not set. -/

namespace Entitlement

/-! ## What texts stand for -/

namespace Text

def StandsFor (most : Nat) (text : String) (value : Nat) : Prop :=
  ∃ digits : List Char, (text.toList = digits ∨ text.toList = '+' :: digits) ∧ digits ≠ [] ∧
    (∀ digit ∈ digits, digit.isDigit) ∧ value = Nat.ofDigitChars 10 digits 0 ∧ value ≤ most

theorem digitsValue?_eq_some_iff (digits : List Char) (value : Nat) :
    digitsValue? digits = some value ↔
      digits ≠ [] ∧ (∀ digit ∈ digits, digit.isDigit) ∧ value = Nat.ofDigitChars 10 digits 0 := by
  cases digits with
  | nil => simp only [digitsValue?, reduceCtorEq, ne_eq, not_true_eq_false, false_and]
  | cons digit digits =>
      rw [digitsValue?, Option.ite_none_right_eq_some, List.all_eq_true, Option.some.injEq,
        eq_comm (a := value)]
      · exact ⟨fun reads => ⟨List.cons_ne_nil digit digits, reads⟩, And.right⟩
      · exact List.cons_ne_nil digit digits

theorem natural?_eq_some_iff {most : Nat} {text : String} {value : Nat} :
    natural? most text = some value ↔ StandsFor most text value := by
  constructor
  · intro reads
    obtain ⟨found, isFound, fits⟩ := Option.bind_eq_some_iff.mp reads
    obtain ⟨small, same⟩ := Option.ite_none_right_eq_some.mp fits
    cases same
    split at isFound
    next digits plus =>
      obtain ⟨nonempty, allDigits, isValue⟩ := (digitsValue?_eq_some_iff digits value).mp isFound
      exact ⟨digits, .inr plus, nonempty, allDigits, isValue, small⟩
    next =>
      obtain ⟨nonempty, allDigits, isValue⟩ := (digitsValue?_eq_some_iff _ value).mp isFound
      exact ⟨text.toList, .inl rfl, nonempty, allDigits, isValue, small⟩
  · rintro ⟨digits, spelled, nonempty, allDigits, isValue, small⟩
    have found := (digitsValue?_eq_some_iff digits value).mpr ⟨nonempty, allDigits, isValue⟩
    apply Option.bind_eq_some_iff.mpr ⟨value, ?_, if_pos small⟩
    rcases spelled with plain | plus
    · split
      next rest plus =>
        -- A plus sign is no digit.
        have sign : '+' ∈ digits := by rw [← plain, plus]; exact List.mem_cons_self
        exact absurd (allDigits '+' sign) (by decide)
      next => rwa [plain]
    · rwa [plus]

end Text

namespace Logging.Format

def CalledBy (word : String) : Format → Prop
  | text => word = "text" ∨ word = "pretty"
  | json => word = "json"

def wordOf (input : String) : String :=
  (Text.trim input).map Char.toLower

theorem read_eq (input : String) :
    read input = if wordOf input = "pretty" then .ok text else
      match ofName? (wordOf input) with
      | some format => .ok format
      | none => .error ⟨wordOf input⟩ := rfl

theorem read_eq_ok_iff {input : String} {format : Format} :
    read input = .ok format ↔ format.CalledBy (wordOf input) := by
  rw [read_eq]
  split
  next pretty => cases format <;> simp [CalledBy, pretty]
  next other =>
    have named := ofName?_eq_some_iff (wordOf input) format
    cases format <;> split <;> simp_all [CalledBy, name, eq_comm]

theorem eq_wordOf_of_read_eq_error {input : String} {unknown : UnknownFormat}
    (fails : read input = .error unknown) : unknown = ⟨wordOf input⟩ := by
  rw [read_eq] at fails
  split at fails
  · cases fails
  · split at fails <;> cases fails
    rfl

end Logging.Format

namespace Setting

variable {α β : Type}

/-- What the text of a variable stands for. Texts stand for themselves; all else may have blanks
around it. -/
def Denotes (text : String) : Setting α → α → Prop
  | databaseUrl | cacheUrl | nameSpace | logLevel => fun value => value = text
  | maxConnections => Text.StandsFor Width.max32 (Text.trim text)
  | acquireTimeout | lifetime | queueCapacity | taskTimeout =>
      Text.StandsFor Width.max64 (Text.trim text)
  | cacheEnabled | seedOnStartup => fun value =>
      Text.trim text = if value then "true" else "false"
  | logFormat => Logging.Format.CalledBy (Logging.Format.wordOf text)

def fault (name text : String) : Setting α → SettingsFault
  | logFormat => .badFormat ⟨Logging.Format.wordOf text⟩
  | _ => .badVariable name text

theorem number_eq_ok_iff {most value : Nat} {name text : String} :
    ofText.number name text most = .ok value ↔ Text.StandsFor most (Text.trim text) value := by
  rw [← Text.natural?_eq_some_iff, ofText.number]
  cases Text.natural? most (Text.trim text) <;> simp

theorem truth?_eq_some_iff {text : String} {value : Bool} :
    truth? text = some value ↔ text = if value then "true" else "false" := by
  unfold truth?
  split_ifs <;> cases value <;> simp_all

theorem ofText_eq_ok_iff (name : String) {setting : Setting α} {text : String} {value : α} :
    setting.ofText name text = .ok value ↔ setting.Denotes text value := by
  cases setting with
  | databaseUrl | cacheUrl | nameSpace | logLevel => simp [ofText, Denotes, eq_comm]
  | maxConnections | acquireTimeout | lifetime | queueCapacity | taskTimeout =>
      rw [ofText, Denotes]
      exact number_eq_ok_iff
  | cacheEnabled | seedOnStartup =>
      rw [Denotes, ofText]
      cases outcome : truth? (Text.trim text) <;> simp [← truth?_eq_some_iff, outcome]
  | logFormat =>
      rw [Denotes, ← Logging.Format.read_eq_ok_iff, ofText]
      cases Logging.Format.read text <;> simp [Except.mapError]

theorem eq_fault_of_ofText_eq_error {setting : Setting α} {name text : String}
    {fault : SettingsFault} (fails : setting.ofText name text = .error fault) :
    fault = setting.fault name text := by
  cases setting with
  | databaseUrl | cacheUrl | nameSpace | logLevel => cases fails
  | maxConnections | acquireTimeout | lifetime | queueCapacity | taskTimeout =>
      rw [ofText, ofText.number] at fails
      split at fails <;> cases fails
      rfl
  | cacheEnabled | seedOnStartup =>
      rw [ofText] at fails
      split at fails <;> cases fails
      rfl
  | logFormat =>
      rw [ofText] at fails
      cases outcome : Logging.Format.read text with
      | ok format => rw [outcome] at fails; cases fails
      | error unknown =>
          rw [outcome, Logging.Format.eq_wordOf_of_read_eq_error outcome] at fails
          cases fails
          rfl

theorem Denotes.unique {setting : Setting α} {text : String} {first second : α}
    (denotes : setting.Denotes text first) (denotesToo : setting.Denotes text second) :
    first = second := by
  rw [← ofText_eq_ok_iff ""] at denotes denotesToo
  exact Except.ok.inj (denotes.symm.trans denotesToo)

theorem ofText_eq_error_iff {setting : Setting α} {name text : String} {fault : SettingsFault} :
    setting.ofText name text = .error fault ↔
      (∀ value, ¬ setting.Denotes text value) ∧ fault = setting.fault name text := by
  constructor
  · intro fails
    constructor
    · intro value denotes
      rw [(ofText_eq_ok_iff name).mpr denotes] at fails
      cases fails
    · exact eq_fault_of_ofText_eq_error fails
  · rintro ⟨nothing, rfl⟩
    cases outcome : setting.ofText name text with
    | ok value => exact absurd ((ofText_eq_ok_iff name).mp outcome) (nothing value)
    | error fault => rw [eq_fault_of_ofText_eq_error outcome]

/-! ## Settings are apart -/

@[simp] theorem get_put (setting : Setting α) (value : α) (settings : Settings) :
    setting.get (setting.put value settings) = value := by
  cases setting <;> rfl

@[simp] theorem put_get (setting : Setting α) (settings : Settings) :
    setting.put (setting.get settings) settings = settings := by
  cases setting <;> rfl

theorem get_put_of_ne {setting : Setting α} {other : Setting β}
    (apart : (⟨β, other⟩ : Sigma Setting) ≠ ⟨α, setting⟩) (value : α) (settings : Settings) :
    other.get (setting.put value settings) = other.get settings := by
  cases setting <;> cases other <;> first | rfl | exact absurd rfl apart

theorem ext_get {left right : Settings}
    (same : ∀ setting : Sigma Setting, setting.2.get left = setting.2.get right) :
    left = right := by
  have everywhere {α : Type} (setting : Setting α) : setting.get left = setting.get right :=
    same ⟨α, setting⟩
  rw [Settings.mk.injEq, DatabaseSettings.mk.injEq, CacheServerSettings.mk.injEq,
    RoleCacheSettings.mk.injEq, LogSettings.mk.injEq, SeedSettings.mk.injEq]
  exact ⟨⟨everywhere databaseUrl, everywhere maxConnections, everywhere acquireTimeout⟩,
    ⟨everywhere cacheUrl, everywhere nameSpace, everywhere lifetime⟩,
    ⟨everywhere cacheEnabled, everywhere queueCapacity, everywhere taskTimeout⟩,
    ⟨everywhere logFormat, everywhere logLevel⟩, everywhere seedOnStartup⟩

def all : List (Sigma Setting) :=
  [⟨_, databaseUrl⟩, ⟨_, maxConnections⟩, ⟨_, acquireTimeout⟩, ⟨_, cacheUrl⟩, ⟨_, nameSpace⟩,
    ⟨_, lifetime⟩, ⟨_, cacheEnabled⟩, ⟨_, queueCapacity⟩, ⟨_, taskTimeout⟩, ⟨_, logFormat⟩,
    ⟨_, logLevel⟩, ⟨_, seedOnStartup⟩]

theorem mem_all (setting : Sigma Setting) : setting ∈ all := by
  obtain ⟨_, setting⟩ := setting
  cases setting <;> simp [all]

theorem map_variableEnd_all : all.map (·.2.variableEnd) = variableEnds := rfl

theorem nodup_map_variableEnd : (all.map (·.2.variableEnd)).Nodup := by
  rw [map_variableEnd_all]
  decide

theorem nodup_all : all.Nodup := .of_map _ nodup_map_variableEnd

theorem eq_of_variableEnd_eq {setting other : Sigma Setting}
    (same : setting.2.variableEnd = other.2.variableEnd) : setting = other :=
  List.inj_on_of_nodup_map nodup_map_variableEnd (mem_all setting) (mem_all other) same

end Setting

/-! ## Variables -/

namespace Environment

def equalsSign : UInt8 := 0x3d

def partsOf? (entry : Bytes) : Option (Bytes × Bytes) :=
  match entry.dropWhile (· ≠ equalsSign) with
  | [] => none
  | _ :: value => some (entry.takeWhile (· ≠ equalsSign), value)

def bindings (environment : Environment) : List (Bytes × Bytes) :=
  environment.entries.filterMap partsOf?

theorem partsOf?_eq_some_iff {entry name value : Bytes} (noEquals : equalsSign ∉ name) :
    partsOf? entry = some (name, value) ↔ name ++ equalsSign :: value = entry := by
  constructor
  · intro parted
    rw [partsOf?] at parted
    split at parted
    · cases parted
    · rename_i sign rest found
      obtain ⟨rfl, rfl⟩ := Prod.mk.inj (Option.some.inj parted)
      have isSign : sign = equalsSign := by
        have fails := List.head?_dropWhile_not (· ≠ equalsSign) entry
        rw [found] at fails
        simpa using fails
      subst isSign
      rw [← found, List.takeWhile_append_dropWhile]
  · rintro rfl
    have passes : ∀ byte ∈ name, decide (byte ≠ equalsSign) = true := fun byte member =>
      decide_eq_true (ne_of_mem_of_not_mem member noEquals)
    rw [partsOf?, List.dropWhile_append_of_pos passes, List.takeWhile_append_of_pos passes]
    simp

theorem value?_eq_lookup (environment : Environment) {name : String}
    (noEquals : equalsSign ∉ Text.bytes name) :
    environment.value? name = environment.bindings.lookup (Text.bytes name) := by
  have sign : Text.bytes "=" = [equalsSign] := by decide +kernel
  have begins : ∀ entry value, (Text.bytes (name ++ "=")).isPrefixOf? entry = some value ↔
      partsOf? entry = some (Text.bytes name, value) := by
    intro entry value
    rw [partsOf?_eq_some_iff noEquals, List.isPrefixOf?_eq_some_iff_append_eq, Text.bytes_append,
      sign, List.append_assoc, List.singleton_append]
  rcases environment with ⟨entries⟩
  rw [value?, bindings]
  dsimp only
  induction entries with
  | nil => rfl
  | cons entry entries induction =>
      rw [List.findSome?_cons, List.filterMap_cons]
      cases found : (Text.bytes (name ++ "=")).isPrefixOf? entry with
      | some value => simp [(begins entry value).mp found]
      | none =>
          rw [induction]
          cases parted : partsOf? entry with
          | none => rfl
          | some parts =>
              have other : Text.bytes name ≠ parts.1 := by
                intro equal
                rw [(begins entry parts.2).mpr (by rw [parted, equal])] at found
                cases found
              rcases parts with ⟨first, value⟩
              rw [List.lookup_cons, beq_false_of_ne other]

end Environment

/-! ## Layers -/

inductive Settings.ReadsAs (folder : Folder) (path : String) :
    Except SettingsFault Settings → Prop where
  | unreadable {fault : PathFault} (fails : folder.read path = .error fault) :
      ReadsAs folder path (.error (.unreadableFile fault))
  | malformed {content : String} {spot : Toml.Spot} (reads : folder.read path = .ok content)
      (fails : Toml.read content = .error spot) :
      ReadsAs folder path (.error (.malformedFile (.of content.toList spot)))
  | misfit {content : String} {file : Toml.Tree} {spot : Toml.Spot}
      (reads : folder.read path = .ok content) (parses : Toml.read content = .ok file)
      (nothing : ∀ settings, ¬ Settings.IsSaid file settings)
      (first : recordMisfit? (recordMisfit? Kind.misfit?) sections file = some spot) :
      ReadsAs folder path (.error (.malformedFile (.of content.toList spot)))
  | settings {content : String} {file : Toml.Tree} {settings : Settings}
      (reads : folder.read path = .ok content) (parses : Toml.read content = .ok file)
      (said : Settings.IsSaid file settings) : ReadsAs folder path (.ok settings)

namespace SettingsSource

variable {α : Type} (source : SettingsSource)

def binding? (ending : String) : Option String :=
  (source.environment.bindings.lookup (Text.bytes (source.variableName ending))).bind
    Text.ofBytes?

def candidates : List String :=
  source.path.toList ++ (source.binding? "CONFIG").toList ++ searchPaths

/-- The lowest layer: what the first file says that is there, or the defaults if there is none. -/
inductive StartsWith : Except SettingsFault Settings → Prop where
  | file {before after : List String} {path : String} {result : Except SettingsFault Settings}
      (order : source.candidates = before ++ path :: after)
      (noneBefore : ∀ earlier ∈ before, ¬ source.folder.hasPath earlier)
      (isThere : source.folder.hasPath path)
      (reads : Settings.ReadsAs source.folder path result) : StartsWith result
  | defaults (noneThere : ∀ path ∈ source.candidates, ¬ source.folder.hasPath path) :
      StartsWith (.ok {})

def text? (setting : Setting α) : Option String :=
  source.binding? setting.variableEnd

def Gives (setting : Setting α) (below value : α) : Prop :=
  match source.text? setting with
  | some text => setting.Denotes text value
  | none => value = below

def Refuses (setting : Setting α) (fault : SettingsFault) : Prop :=
  ∃ text, source.text? setting = some text ∧ (∀ value, ¬ setting.Denotes text value) ∧
    fault = setting.fault (source.variableName setting.variableEnd) text

def FirstRefuses (settings : List (Sigma Setting)) (fault : SettingsFault) : Prop :=
  ∃ before setting after, settings = before ++ setting :: after ∧
    (∀ earlier ∈ before, ∀ fault, ¬ source.Refuses earlier.2 fault) ∧
    source.Refuses setting.2 fault

def Merges (below merged : Settings) : Prop :=
  ∀ setting : Sigma Setting,
    source.Gives setting.2 (setting.2.get below) (setting.2.get merged)

inductive Loads : Except SettingsFault Settings → Prop where
  | badFile {fault : SettingsFault} (start : source.StartsWith (.error fault)) :
      Loads (.error fault)
  | badVariable {file : Settings} {fault : SettingsFault}
      (start : source.StartsWith (.ok file))
      (refuses : source.FirstRefuses Setting.all fault) :
      Loads (.error fault)
  | brokenRule {file merged : Settings} {rule : Settings.Rule}
      (start : source.StartsWith (.ok file)) (merges : source.Merges file merged)
      (broken : merged.brokenRule? = some rule) :
      Loads (.error (.broken rule))
  | loaded {file merged : Settings} (start : source.StartsWith (.ok file))
      (merges : source.Merges file merged) (keeps : merged.brokenRule? = none) :
      Loads (.ok merged)

theorem firstRefuses_cons {setting : Sigma Setting} {others : List (Sigma Setting)}
    {fault : SettingsFault} :
    source.FirstRefuses (setting :: others) fault ↔
      source.Refuses setting.2 fault ∨
        (∀ found, ¬ source.Refuses setting.2 found) ∧ source.FirstRefuses others fault := by
  constructor
  · rintro ⟨before, first, after, order, noneBefore, refuses⟩
    cases before with
    | nil =>
        cases order
        exact .inl refuses
    | cons earlier before =>
        cases order
        obtain ⟨silent, noneBefore⟩ := List.forall_mem_cons.mp noneBefore
        exact .inr ⟨silent, before, first, after, rfl, noneBefore, refuses⟩
  · rintro (refuses | ⟨silent, before, first, after, rfl, noneBefore, refuses⟩)
    · exact ⟨[], setting, others, rfl, List.forall_mem_nil _, refuses⟩
    · have noneBefore := List.forall_mem_cons.mpr ⟨silent, noneBefore⟩
      exact ⟨setting :: before, first, after, rfl, noneBefore, refuses⟩

theorem variableName_inj {first second : String} :
    source.variableName first = source.variableName second ↔ first = second := by
  simp only [variableName, ← String.toList_inj, String.toList_append, List.append_cancel_left_eq]

theorem binding?_changed {changed : Environment} {ending other : String} (apart : ending ≠ other)
    (elsewhere : ∀ name, name ≠ Text.bytes (source.variableName other) →
      changed.bindings.lookup name = source.environment.bindings.lookup name) :
    { source with environment := changed }.binding? ending = source.binding? ending := by
  have otherName : Text.bytes (source.variableName ending) ≠
      Text.bytes (source.variableName other) :=
    mt (Text.bytes_inj.trans source.variableName_inj).mp apart
  exact congrArg (·.bind Text.ofBytes?) (elsewhere _ otherName)

theorem textOf?_eq {source : SettingsSource}
    (noEquals : Environment.equalsSign ∉ Text.bytes source.start) {ending : String}
    (plain : Environment.equalsSign ∉ Text.bytes ending) :
    source.textOf? ending = source.binding? ending := by
  have underscore : Environment.equalsSign ∉ Text.bytes "_" := by decide +kernel
  have named : Environment.equalsSign ∉ Text.bytes (source.variableName ending) := by
    rw [variableName, Text.bytes_append, Text.bytes_append, List.mem_append, List.mem_append]
    exact not_or.mpr ⟨not_or.mpr ⟨noEquals, underscore⟩, plain⟩
  rw [textOf?, Environment.lookup, Environment.value?_eq_lookup _ named, binding?]

theorem textOf?_config_eq {source : SettingsSource}
    (noEquals : Environment.equalsSign ∉ Text.bytes source.start) :
    source.textOf? "CONFIG" = source.binding? "CONFIG" :=
  textOf?_eq noEquals (by decide +kernel)

theorem textOf?_variableEnd_eq {source : SettingsSource}
    (noEquals : Environment.equalsSign ∉ Text.bytes source.start) (setting : Setting α) :
    source.textOf? setting.variableEnd = source.text? setting :=
  textOf?_eq noEquals (by cases setting <;> decide +kernel)

theorem gives_unique {source changed : SettingsSource} {setting : Setting α}
    {below first second : α} (same : changed.text? setting = source.text? setting)
    (gives : source.Gives setting below first) (givesToo : changed.Gives setting below second) :
    second = first := by
  rw [Gives] at gives givesToo
  rw [same] at givesToo
  cases isSet : source.text? setting with
  | none =>
      rw [isSet] at gives givesToo
      exact givesToo.trans gives.symm
  | some text =>
      rw [isSet] at gives givesToo
      exact givesToo.unique gives

end SettingsSource

namespace Settings

/-! ### The lowest layer -/

theorem ofFile_eq_iff {folder : Folder} {path : String} {result : Except SettingsFault Settings} :
    ofFile folder path = result ↔ ReadsAs folder path result := by
  constructor
  · rintro rfl
    rw [ofFile]
    cases reads : folder.read path with
    | error fault => exact .unreadable reads
    | ok content =>
        dsimp only
        cases parses : Toml.read content with
        | error spot => exact .malformed reads parses
        | ok file =>
            dsimp only
            cases found : read? .file file.toJson with
            | some settings => exact .settings reads parses (read?_file_eq_some_iff.mp found)
            | none =>
                have nothing : ∀ settings, ¬ IsSaid file settings := by
                  intro settings said
                  rw [read?_file_eq_some_iff.mpr said] at found
                  cases found
                exact .misfit reads parses nothing (recordMisfit?_eq_some nothing)
  · intro readsAs
    cases readsAs with
    | unreadable fails => rw [ofFile, fails]
    | malformed reads fails => simp only [ofFile, reads, fails]
    | misfit reads parses nothing first =>
        have found : read? .file _ = none :=
          Option.eq_none_iff_forall_not_mem.mpr fun settings isRead =>
            nothing settings (read?_file_eq_some_iff.mp isRead)
        rw [recordMisfit?_eq_some nothing] at first
        simp only [ofFile, reads, parses, found, Option.some.inj first]
    | settings reads parses said =>
        simp only [ofFile, reads, parses, read?_file_eq_some_iff.mpr said]

/-! ### Loading step by step -/

variable {α : Type} (source : SettingsSource)

def lowest : Except SettingsFault Settings :=
  match source.path? with
  | some path => ofFile source.folder path
  | none => .ok {}

def overrides (settings : List (Sigma Setting)) (below : Settings) :
    Except SettingsFault Settings :=
  settings.foldlM (fun merged setting => override source setting.2 merged) below

theorem overrideAll_eq (below : Settings) :
    overrideAll source below = overrides source Setting.all below := by
  simp [overrideAll, overrides, Setting.all]

theorem overrides_cons (setting : Sigma Setting) (others : List (Sigma Setting))
    (below : Settings) :
    overrides source (setting :: others) below =
      override source setting.2 below >>= overrides source others :=
  List.foldlM_cons

def ruled (settings : Settings) : Except SettingsFault Settings :=
  match settings.brokenRule? with
  | some rule => .error (.broken rule)
  | none => .ok settings

theorem load_eq :
    load source = lowest source >>= fun file => overrideAll source file >>= ruled := by
  unfold load lowest
  cases source.path? with
  | none | some path =>
      apply congrArg (bind _)
      funext file
      apply congrArg (bind _)
      funext merged
      unfold ruled
      cases merged.brokenRule? <;> rfl

theorem load_of_lowest {file : Settings} (isLowest : lowest source = .ok file) :
    load source = overrideAll source file >>= ruled := by
  rw [load_eq, isLowest]
  exact pure_bind file _

section

variable {source : SettingsSource}
  (noEquals : Environment.equalsSign ∉ Text.bytes source.start)

include noEquals

theorem path?_eq : source.path? = source.candidates.find? source.folder.hasPath := by
  rw [SettingsSource.path?, SettingsSource.textOf?_config_eq noEquals]
  rfl

theorem startsWith_iff {start : Except SettingsFault Settings} :
    source.StartsWith start ↔ lowest source = start := by
  constructor
  · intro starts
    cases starts with
    | file order noneBefore isThere reads =>
        have first : source.path? = some _ :=
          (path?_eq noEquals).trans (List.find?_eq_some_iff_append.mpr
            ⟨isThere, _, _, order, by simpa using noneBefore⟩)
        rw [lowest, first]
        exact ofFile_eq_iff.mpr reads
    | defaults noneThere =>
        rw [lowest, path?_eq noEquals, List.find?_eq_none.mpr noneThere]
  · rintro rfl
    rw [lowest, path?_eq noEquals]
    cases found : source.candidates.find? source.folder.hasPath with
    | some path =>
        obtain ⟨isThere, before, after, order, noneBefore⟩ :=
          List.find?_eq_some_iff_append.mp found
        exact .file order (by simpa using noneBefore) isThere (ofFile_eq_iff.mp rfl)
    | none => exact .defaults (List.find?_eq_none.mp found)

/-! ### One variable -/

theorem override_eq_ok_iff {setting : Setting α} {settings merged : Settings} :
    override source setting settings = .ok merged ↔
      ∃ value, source.Gives setting (setting.get settings) value ∧
        setting.put value settings = merged := by
  rw [override, SettingsSource.textOf?_variableEnd_eq noEquals]
  unfold SettingsSource.Gives
  cases source.text? setting with
  | none => simp
  | some text =>
      simp only [← Setting.ofText_eq_ok_iff (source.variableName setting.variableEnd)]
      cases setting.ofText (source.variableName setting.variableEnd) text <;>
        simp [Except.map]

theorem override_eq_error_iff (settings : Settings) {setting : Setting α}
    {fault : SettingsFault} :
    override source setting settings = .error fault ↔ source.Refuses setting fault := by
  rw [override, SettingsSource.textOf?_variableEnd_eq noEquals]
  unfold SettingsSource.Refuses
  cases source.text? setting with
  | none => simp
  | some text =>
      simp only [Option.some.injEq, exists_eq_left', ← Setting.ofText_eq_error_iff]
      cases setting.ofText (source.variableName setting.variableEnd) text <;>
        simp [Except.map]

/-! ### All variables -/

theorem overrides_cons_eq_ok_iff {setting : Sigma Setting} {others : List (Sigma Setting)}
    {below merged : Settings} :
    overrides source (setting :: others) below = .ok merged ↔
      ∃ value, source.Gives setting.2 (setting.2.get below) value ∧
        overrides source others (setting.2.put value below) = .ok merged := by
  rw [overrides_cons]
  constructor
  · intro isMerged
    cases outcome : override source setting.2 below with
    | error fault =>
        rw [outcome] at isMerged
        cases isMerged
    | ok first =>
        obtain ⟨value, gives, rfl⟩ := (override_eq_ok_iff noEquals).mp outcome
        rw [outcome] at isMerged
        exact ⟨value, gives, isMerged⟩
  · rintro ⟨value, gives, isMerged⟩
    rw [(override_eq_ok_iff noEquals).mpr ⟨value, gives, rfl⟩]
    exact isMerged

theorem overrides_eq_ok_iff {settings : List (Sigma Setting)} (distinct : settings.Nodup)
    {below merged : Settings} :
    overrides source settings below = .ok merged ↔
      (∀ setting ∈ settings,
        source.Gives setting.2 (setting.2.get below) (setting.2.get merged)) ∧
      ∀ setting ∉ settings, setting.2.get merged = setting.2.get below := by
  induction settings generalizing below with
  | nil =>
      constructor
      · intro unchanged
        cases unchanged
        exact ⟨List.forall_mem_nil _, fun _ _ => rfl⟩
      · rintro ⟨-, unchanged⟩
        have same : below = merged :=
          Setting.ext_get fun setting => (unchanged setting List.not_mem_nil).symm
        rw [same]
        rfl
  | cons setting others induction =>
      obtain ⟨notOther, distinct⟩ := List.nodup_cons.mp distinct
      rw [overrides_cons_eq_ok_iff noEquals]
      simp only [induction distinct]
      constructor
      · rintro ⟨value, gives, givesOthers, unchanged⟩
        have first : setting.2.get merged = value := by
          rw [unchanged setting notOther, Setting.get_put]
        constructor
        · intro other isMember
          rcases List.mem_cons.mp isMember with rfl | isOther
          · rwa [first]
          · rw [← Setting.get_put_of_ne (ne_of_mem_of_not_mem isOther notOther) value]
            exact givesOthers other isOther
        · intro other isNone
          obtain ⟨apart, notOther⟩ := not_or.mp (mt List.mem_cons.mpr isNone)
          rw [unchanged other notOther, Setting.get_put_of_ne apart]
      · rintro ⟨gives, unchanged⟩
        obtain ⟨givesFirst, givesOthers⟩ := List.forall_mem_cons.mp gives
        apply Exists.intro (setting.2.get merged)
        apply And.intro givesFirst
        constructor
        · intro other isOther
          rw [Setting.get_put_of_ne (ne_of_mem_of_not_mem isOther notOther)]
          exact givesOthers other isOther
        · intro other isNone
          by_cases same : other = setting
          · rw [same, Setting.get_put]
          · rw [Setting.get_put_of_ne same]
            exact unchanged other (List.not_mem_cons_of_ne_of_not_mem same isNone)

theorem overrides_eq_error_iff {settings : List (Sigma Setting)} {below : Settings}
    {fault : SettingsFault} :
    overrides source settings below = .error fault ↔ source.FirstRefuses settings fault := by
  induction settings generalizing below with
  | nil => simp [overrides, SettingsSource.FirstRefuses, pure, Except.pure]
  | cons setting others induction =>
      rw [overrides_cons, SettingsSource.firstRefuses_cons]
      simp only [← override_eq_error_iff noEquals below]
      cases override source setting.2 below with
      | error found =>
          constructor
          · intro fails
            cases fails
            exact .inl rfl
          · rintro (fails | ⟨silent, -⟩)
            · cases fails
              rfl
            · exact absurd rfl (silent found)
      | ok merged =>
          change overrides source others merged = .error fault ↔ _
          simp [induction]

theorem overrideAll_eq_ok_iff {below merged : Settings} :
    overrideAll source below = .ok merged ↔ source.Merges below merged := by
  rw [overrideAll_eq, overrides_eq_ok_iff noEquals Setting.nodup_all]
  simp [SettingsSource.Merges, Setting.mem_all]

theorem overrideAll_eq_error_iff {below : Settings} {fault : SettingsFault} :
    overrideAll source below = .error fault ↔ source.FirstRefuses Setting.all fault := by
  rw [overrideAll_eq, overrides_eq_error_iff noEquals]

/-! ### All layers -/

theorem load_of_merges {file merged : Settings} (isLowest : lowest source = .ok file)
    (merges : source.Merges file merged) : load source = ruled merged := by
  rw [load_of_lowest source isLowest, (overrideAll_eq_ok_iff noEquals).mpr merges]
  exact pure_bind merged ruled

theorem loads_load : source.Loads (load source) := by
  cases isLowest : lowest source with
  | error fault =>
      rw [load_eq, isLowest]
      exact .badFile ((startsWith_iff noEquals).mpr isLowest)
  | ok file =>
      have start := (startsWith_iff noEquals).mpr isLowest
      cases isMerged : overrideAll source file with
      | error fault =>
          rw [load_of_lowest source isLowest, isMerged]
          exact .badVariable start ((overrideAll_eq_error_iff noEquals).mp isMerged)
      | ok merged =>
          have merges := (overrideAll_eq_ok_iff noEquals).mp isMerged
          rw [load_of_merges noEquals isLowest merges, ruled]
          split
          next rule broken => exact .brokenRule start merges broken
          next keeps => exact .loaded start merges keeps

theorem load_eq_of_loads {result : Except SettingsFault Settings} (loads : source.Loads result) :
    load source = result := by
  cases loads with
  | badFile start =>
      rw [load_eq, (startsWith_iff noEquals).mp start]
      rfl
  | badVariable start refuses =>
      rw [load_of_lowest source ((startsWith_iff noEquals).mp start),
        (overrideAll_eq_error_iff noEquals).mpr refuses]
      rfl
  | brokenRule start merges broken =>
      rw [load_of_merges noEquals ((startsWith_iff noEquals).mp start) merges, ruled, broken]
  | loaded start merges keeps =>
      rw [load_of_merges noEquals ((startsWith_iff noEquals).mp start) merges, ruled, keeps]

/-! ### Variables apart -/

theorem lowest_changed {changed : Environment}
    (sameFile : { source with environment := changed }.binding? "CONFIG" =
      source.binding? "CONFIG") :
    lowest { source with environment := changed } = lowest source := by
  have noEqualsToo : Environment.equalsSign ∉
      Text.bytes { source with environment := changed }.start := noEquals
  have samePath : { source with environment := changed }.path? = source.path? := by
    rw [path?_eq noEquals, path?_eq noEqualsToo, SettingsSource.candidates, sameFile]
    rfl
  unfold lowest
  rw [samePath]

theorem exists_of_load_eq_ok {settings : Settings} (loaded : load source = .ok settings) :
    ∃ file, lowest source = .ok file ∧ source.Merges file settings ∧
      settings.brokenRule? = none := by
  have loads := loads_load noEquals
  rw [loaded] at loads
  cases loads with
  | loaded start merges keeps => exact ⟨_, (startsWith_iff noEquals).mp start, merges, keeps⟩

theorem get_load_changed {setting other : Sigma Setting} (apart : setting ≠ other)
    {changed : Environment}
    (elsewhere : ∀ name, name ≠ Text.bytes (source.variableName other.2.variableEnd) →
      changed.bindings.lookup name = source.environment.bindings.lookup name)
    {before after : Settings} (loadedBefore : load source = .ok before)
    (loadedAfter : load { source with environment := changed } = .ok after) :
    setting.2.get after = setting.2.get before := by
  have noEqualsToo : Environment.equalsSign ∉
      Text.bytes { source with environment := changed }.start := noEquals
  obtain ⟨file, isLowest, merges, -⟩ := exists_of_load_eq_ok noEquals loadedBefore
  obtain ⟨fileToo, isLowestToo, mergesToo, -⟩ := exists_of_load_eq_ok noEqualsToo loadedAfter
  have noSetting : "CONFIG" ≠ other.2.variableEnd := by
    intro same
    have isEnd := List.mem_map_of_mem (f := (·.2.variableEnd)) (Setting.mem_all other)
    rw [← same, Setting.map_variableEnd_all] at isEnd
    exact absurd isEnd (by decide)
  have sameFile : file = fileToo := by
    rw [lowest_changed noEquals (source.binding?_changed noSetting elsewhere), isLowest]
      at isLowestToo
    exact Except.ok.inj isLowestToo
  subst sameFile
  have sameText := source.binding?_changed (mt Setting.eq_of_variableEnd_eq apart) elsewhere
  exact SettingsSource.gives_unique sameText (merges setting) (mergesToo setting)

end

/-- Loading gives what the layers come to, where the names of variables have no equals sign.
Settings that are given out keep all rules, and no variable matters to a setting that is not its
own. -/
theorem load_by_layers (noEquals : Environment.equalsSign ∉ Text.bytes source.start) :
    (∀ result, load source = result ↔ source.Loads result) ∧
      (∀ settings, load source = .ok settings → settings.brokenRule? = none) ∧
      ∀ (setting other : Sigma Setting) (changed : Environment) (before after : Settings),
        setting ≠ other →
        (∀ name, name ≠ Text.bytes (source.variableName other.2.variableEnd) →
          changed.bindings.lookup name = source.environment.bindings.lookup name) →
        load source = .ok before → load { source with environment := changed } = .ok after →
        setting.2.get after = setting.2.get before := by
  refine ⟨fun result => ⟨?_, load_eq_of_loads noEquals⟩, ?_, ?_⟩
  · rintro rfl
    exact loads_load noEquals
  · intro settings loaded
    obtain ⟨_, _, _, keeps⟩ := exists_of_load_eq_ok noEquals loaded
    exact keeps
  · intro setting other changed before after apart elsewhere
    exact get_load_changed noEquals apart elsewhere

def laidOut (others : List String) : SettingsSource where
  folder := .ofPaths [("warden.toml", .file (Text.bytes
    "[database]\nurl = \" \"\nmax_connections = 3\n\n[logging]\nlevel = \"debug\"\n"))]
  environment := ⟨(Text.bytes "WARDEN_SEED_ON_STARTUP=" ++ [0xff]) :: others.map Text.bytes⟩

/-- The file breaks a rule, whatever is logged, until a variable says where the database is. A
variable that says nothing comes before that. -/
theorem load_by_layers_laid_out :
    (laidOut ["WARDEN_LOG_LEVEL=trace"]).Loads (.error (.broken .databaseUrl)) ∧
      (laidOut ["WARDEN_LOG_LEVEL=trace", "WARDEN_DATABASE_URL=db"]).Loads
        (.ok { database := { url := "db", maxConnections := 3 }, log := { level := "trace" } }) ∧
      (laidOut ["WARDEN_LOG_FORMAT= XML "]).Loads (.error (.badFormat ⟨"xml"⟩)) := by
  have noEquals : ∀ others, Environment.equalsSign ∉ Text.bytes (laidOut others).start := by
    intro others
    change Environment.equalsSign ∉ Text.bytes "WARDEN"
    decide +kernel
  exact ⟨((load_by_layers _ (noEquals _)).1 _).mp (by decide +kernel),
    ((load_by_layers _ (noEquals _)).1 _).mp (by decide +kernel),
    ((load_by_layers _ (noEquals _)).1 _).mp (by decide +kernel)⟩

/-- A variable that is set, but not to a text, is passed over. And where the names of variables
have an equals sign, another variable is taken for one that is not set. -/
theorem variables_mistaken :
    let odd : SettingsSource := laidOut ["WARDEN_DATABASE_URL=db"]
    let parted : SettingsSource :=
      { folder := ⟨[]⟩, environment := ⟨[Text.bytes "A=B_LOG_LEVEL=trace"]⟩, start := "A=B" }
    (odd.environment.bindings.lookup (Text.bytes "WARDEN_SEED_ON_STARTUP") = some [0xff] ∧
        ((load odd).map (Setting.seedOnStartup.get ·)).toOption = some false) ∧
      parted.environment.bindings.lookup (Text.bytes "A=B_LOG_LEVEL") = none ∧
        load parted = .ok { log := { level := "trace" } } := by
  decide +kernel

end Settings

end Entitlement
