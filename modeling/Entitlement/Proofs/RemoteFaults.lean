import Entitlement.Proofs.Spellings
import Entitlement.Wire.Status
import Mathlib.Data.List.Induction
import Mathlib.Data.List.Perm.Basic

/-! # Faults from other services

What another service answers is bytes of any kind. A fault that it reports is understood only if
the bytes are details with a key that is known here; everything else is a technical failure. A
fault that is reported in the usual way is always understood, in whatever order its attributes
are written, and also if a newer service adds fields and attributes. -/

namespace Entitlement

/-! ## Parts of a fault -/

def Fault.businessKeys : List String :=
  ["record_not_found", "role_existed", "is_not_deletable", "no_rows_effected",
    "invalid_request_body", "user_inactive", "user_unverified", "user_is_banned"]

theorem Fault.ofParts_key (fault : Fault) {attribute? : String → Option String}
    (filled : ∀ entry ∈ fault.attributes, (attribute? entry.1).getD "" = entry.2) :
    ofParts fault.key attribute? = fault := by
  cases fault <;> simp_all [ofParts, key, attributes]

theorem Fault.ofParts_of_business {key : String} (business : key ∈ businessKeys)
    (attribute? : String → Option String) :
    (ofParts key attribute?).key = key ∧
      ∀ entry ∈ (ofParts key attribute?).attributes,
        entry.2 = (attribute? entry.1).getD "" := by
  simp only [businessKeys, List.mem_cons, List.not_mem_nil, or_false] at business
  rcases business with rfl | rfl | rfl | rfl | rfl | rfl | rfl | rfl <;>
    simp [ofParts, Fault.key, attributes]

theorem Fault.filter_attributes (fault : Fault) {entry : String × String}
    (isOwn : entry ∈ fault.attributes) :
    fault.attributes.filter (·.1 = entry.1) = [entry] := by
  cases fault <;> simp only [attributes, List.mem_cons, List.not_mem_nil, or_false] at isOwn
  all_goals
    rcases isOwn with rfl | rfl <;> simp [attributes]

theorem Fault.ofParts_of_unknown {key : String} (unknown : key ∉ "server_error" :: businessKeys)
    (attribute? : String → Option String) : ofParts key attribute? = .server "remote" := by
  simp only [businessKeys, List.mem_cons, List.not_mem_nil, or_false, not_or] at unknown
  unfold ofParts
  split <;> simp_all [remote]

theorem Fault.isRetryable_of_business {fault : Fault} (business : fault.key ∈ businessKeys) :
    fault.isRetryable = false := by
  cases fault with
  | server => exact absurd business (show "server_error" ∉ businessKeys by decide)
  | _ => rfl

namespace Wire

/-! ## Texts -/

theorem Detail.payloadText?_eq_some_iff (payload : Payload) (text : String) :
    payloadText? payload = some text ↔ payload = .counted (Text.bytes text) := by
  cases payload <;> simp [payloadText?, Text.ofBytes?_eq_some_iff]

/-! ## What fields say -/

def payloads (number : Nat) (fields : List Field) : List Payload :=
  (fields.filter (·.number = number)).map (·.payload)

/-- All fields with a number hold texts, of which the last one counts; without any, it is another
text that counts. -/
def Says (otherwise : String) (number : Nat) (fields : List Field) (text : String) : Prop :=
  ∃ texts : List String,
    payloads number fields = texts.map (fun said => .counted (Text.bytes said)) ∧
      text = texts.getLast?.getD otherwise

section

variable {number : Nat} {field : Field} {fields : List Field} {otherwise text : String}

theorem payloads_cons_self (isNumber : field.number = number) :
    payloads number (field :: fields) = field.payload :: payloads number fields := by
  simp [payloads, isNumber]

theorem payloads_cons_other (other : field.number ≠ number) :
    payloads number (field :: fields) = payloads number fields := by
  simp [payloads, other]

theorem says_nil : Says otherwise number [] text ↔ text = otherwise := by
  simp [Says, payloads]

theorem says_cons_self (isNumber : field.number = number) :
    Says otherwise number (field :: fields) text ↔
      ∃ said, field.payload = .counted (Text.bytes said) ∧ Says said number fields text := by
  simp only [Says, payloads_cons_self isNumber]
  constructor
  · rintro ⟨_ | ⟨said, texts⟩, areSaid, isLast⟩
    · cases areSaid
    · rw [List.map_cons, List.cons.injEq] at areSaid
      exact ⟨said, areSaid.1, texts, areSaid.2, by
        rwa [List.getLast?_cons, Option.getD_some] at isLast⟩
  · rintro ⟨said, isSaid, texts, areSaid, isLast⟩
    exact ⟨said :: texts, by rw [isSaid, areSaid, List.map_cons], by
      rwa [List.getLast?_cons, Option.getD_some]⟩

theorem says_cons_other (other : field.number ≠ number) :
    Says otherwise number (field :: fields) text ↔ Says otherwise number fields text := by
  simp only [Says, payloads_cons_other other]

end

/-! ## Details -/

namespace Detail

def SpellsAttribute (entry : String × String) (payload : Payload) : Prop :=
  ∃ bytes fields, payload = .counted bytes ∧
    Message.Spells (groupDepth - 1) [] fields bytes ∧
    Says "" 1 fields entry.1 ∧ Says "" 2 fields entry.2

/-- Details are a message with the key in field 1 and an attribute in each field 2. All other
fields are passed over. -/
def Spells (detail : Detail) (bytes : Bytes) : Prop :=
  ∃ fields, Message.Spells groupDepth [2] fields bytes ∧ Says "" 1 fields detail.key ∧
    List.Forall₂ SpellsAttribute detail.attributes (payloads 2 fields)

def valueOf (detail : Detail) (name : String) : String :=
  (((detail.attributes.filter (·.1 = name)).getLast?).map Prod.snd).getD ""

theorem foldlM_stepAttribute (fields : List Field) (start entry : String × String) :
    fields.foldlM stepAttribute start = some entry ↔
      Says start.1 1 fields entry.1 ∧ Says start.2 2 fields entry.2 := by
  induction fields generalizing start with
  | nil => simp [says_nil, Prod.ext_iff, eq_comm]
  | cons field fields induction =>
      simp only [List.foldlM_cons, Option.bind_eq_bind, Option.bind_eq_some_iff, induction]
      rw [stepAttribute]
      split
      · rename_i isName
        have notValue : field.number ≠ 2 := by simp [isName]
        simp [says_cons_self isName, says_cons_other notValue, payloadText?_eq_some_iff,
          ← and_assoc, exists_and_right]
      · rename_i isValue
        have notName : field.number ≠ 1 := by simp [isValue]
        simp [says_cons_self isValue, says_cons_other notName, payloadText?_eq_some_iff,
          and_left_comm]
      · rename_i notName notValue
        simp [says_cons_other notName, says_cons_other notValue]

theorem attributeOf?_eq_some_iff (payload : Payload) (entry : String × String) :
    attributeOf? payload = some entry ↔ SpellsAttribute entry payload := by
  cases payload with
  | counted bytes =>
      rw [attributeOf?, Option.bind_eq_bind, Option.bind_eq_some_iff]
      simp [SpellsAttribute, readMessage?_eq_some_iff, foldlM_stepAttribute]
  | number | eightBytes | group | fourBytes => simp [attributeOf?, SpellsAttribute]

theorem foldlM_step (fields : List Field) (start detail : Detail) :
    fields.foldlM step start = some detail ↔
      Says start.key 1 fields detail.key ∧
        ∃ entries, List.Forall₂ SpellsAttribute entries (payloads 2 fields) ∧
          detail.attributes = start.attributes ++ entries := by
  induction fields generalizing start with
  | nil =>
      rcases start with ⟨key, attributes⟩
      rcases detail with ⟨otherKey, otherAttributes⟩
      simp [says_nil, payloads, eq_comm]
  | cons field fields induction =>
      simp only [List.foldlM_cons, Option.bind_eq_bind, Option.bind_eq_some_iff, induction]
      rw [step]
      split
      · rename_i isKey
        have notAttribute : field.number ≠ 2 := by simp [isKey]
        simp [says_cons_self isKey, payloads_cons_other notAttribute, payloadText?_eq_some_iff,
          ← and_assoc, exists_and_right]
      · rename_i isAttribute
        have notKey : field.number ≠ 1 := by simp [isAttribute]
        simp only [payloads_cons_self isAttribute, says_cons_other notKey,
          Option.map_eq_some_iff, attributeOf?_eq_some_iff, List.forall₂_cons_right_iff]
        constructor
        · rintro ⟨_, ⟨entry, spelled, rfl⟩, isSaid, entries, areSpelled, isAll⟩
          exact ⟨isSaid, entry :: entries, ⟨entry, entries, spelled, areSpelled, rfl⟩,
            by simpa using isAll⟩
        · rintro ⟨isSaid, _, ⟨entry, entries, spelled, areSpelled, rfl⟩, isAll⟩
          exact ⟨_, ⟨entry, spelled, rfl⟩, isSaid, entries, areSpelled, by simpa using isAll⟩
      · rename_i notKey notAttribute
        simp [says_cons_other notKey, payloads_cons_other notAttribute]

theorem read?_eq_some_iff (input : Bytes) (detail : Detail) :
    read? input = some detail ↔ detail.Spells input := by
  simp only [read?, ofFields?, Option.bind_eq_some_iff, readMessage?_eq_some_iff, foldlM_step,
    Spells, List.nil_append]
  simp

theorem lookup_reverse (entries : List (String × String)) (name : String) :
    entries.reverse.lookup name =
      ((entries.filter (·.1 = name)).getLast?).map Prod.snd := by
  induction entries using List.reverseRecOn with
  | nil => rfl
  | append_singleton entries entry induction =>
      rw [List.reverse_append, List.reverse_singleton, List.singleton_append, List.lookup_cons,
        induction, List.filter_append]
      by_cases isNamed : entry.1 = name
      · simp [isNamed]
      · have notNamed : (name == entry.1) = false := beq_false_of_ne (Ne.symm isNamed)
        simp [isNamed, notNamed]

theorem attribute?_getD (detail : Detail) (name : String) :
    (detail.attribute? name).getD "" = detail.valueOf name := by
  rw [attribute?, lookup_reverse, valueOf]

end Detail

/-! ## Failing safe -/

namespace Status

theorem fault_of_spells {status : Status} {detail : Detail}
    (spelled : detail.Spells status.details) : status.fault = detail.fault := by
  rw [fault, (Detail.read?_eq_some_iff _ _).mpr spelled]
  split
  · rename_i isEmpty
    rw [isEmpty] at spelled
    have isNothing : detail = ⟨"", []⟩ := by
      have isRead := (Detail.read?_eq_some_iff _ _).mpr spelled
      have isNothing : Detail.read? [] = some ⟨"", []⟩ := by
        simp [Detail.read?, readMessage?, Detail.ofFields?]
      rw [isNothing] at isRead
      exact (Option.some.inj isRead).symm
    rw [isNothing]
    rfl
  · rfl

theorem fault_of_unreadable {status : Status}
    (unreadable : ¬∃ detail : Detail, detail.Spells status.details) :
    status.fault = .server "remote" := by
  have isUnread : Detail.read? status.details = none := by
    rw [Option.eq_none_iff_forall_ne_some]
    intro detail isRead
    exact unreadable ⟨detail, (Detail.read?_eq_some_iff _ _).mp isRead⟩
  rw [fault, isUnread]
  exact ite_self _

/-- Whatever another service answers, it is taken for a fault other than a technical failure only
if its bytes are details with the key of such a fault. The fault then has this key, and its values
are those of the attributes, empty where they are missing. A technical failure keeps its
operation; an unknown key, bytes that are no details and no bytes at all are the technical failure
of a remote service, which may be tried again. Neither the code nor the message matters. -/
theorem fault_fails_safe (status : Status) :
    (∀ code message, ({ status with code, message } : Status).fault = status.fault) ∧
      (status.fault.isRetryable = false ↔
        ∃ detail : Detail, detail.Spells status.details ∧ detail.key ∈ Fault.businessKeys) ∧
      (∀ detail : Detail, detail.Spells status.details →
        (detail.key ∈ Fault.businessKeys →
          status.fault.key = detail.key ∧
            ∀ entry ∈ status.fault.attributes, entry.2 = detail.valueOf entry.1) ∧
        (detail.key = "server_error" → status.fault = .server (detail.valueOf "operation")) ∧
        (detail.key ∉ "server_error" :: Fault.businessKeys → status.fault = .server "remote")) ∧
      ((¬∃ detail : Detail, detail.Spells status.details) → status.fault = .server "remote") ∧
      (status.details = [] → status.fault = .server "remote") := by
  have business (detail : Detail) (spelled : detail.Spells status.details)
      (isBusiness : detail.key ∈ Fault.businessKeys) : status.fault.key = detail.key ∧
        ∀ entry ∈ status.fault.attributes, entry.2 = detail.valueOf entry.1 := by
    simp only [fault_of_spells spelled, ← Detail.attribute?_getD]
    exact Fault.ofParts_of_business isBusiness detail.attribute?
  have technical (detail : Detail) (spelled : detail.Spells status.details)
      (isTechnical : detail.key = "server_error") :
      status.fault = .server (detail.valueOf "operation") := by
    rw [fault_of_spells spelled, Detail.fault, isTechnical, ← Detail.attribute?_getD]
    rfl
  have unknown (detail : Detail) (spelled : detail.Spells status.details)
      (isUnknown : detail.key ∉ "server_error" :: Fault.businessKeys) :
      status.fault = .server "remote" := by
    rw [fault_of_spells spelled]
    exact Fault.ofParts_of_unknown isUnknown detail.attribute?
  refine ⟨fun _ _ => rfl, ⟨fun notRetryable => ?_, ?_⟩, fun detail spelled =>
    ⟨business detail spelled, technical detail spelled, unknown detail spelled⟩,
    fault_of_unreadable, fun isEmpty => if_pos isEmpty⟩
  · by_contra noBusiness
    have isServer : ∃ operation, status.fault = .server operation := by
      by_cases readable : ∃ detail : Detail, detail.Spells status.details
      · rcases readable with ⟨detail, spelled⟩
        by_cases isTechnical : detail.key = "server_error"
        · exact ⟨_, technical detail spelled isTechnical⟩
        · refine ⟨_, unknown detail spelled ?_⟩
          rw [List.mem_cons, not_or]
          exact ⟨isTechnical, fun isBusiness => noBusiness ⟨detail, spelled, isBusiness⟩⟩
      · exact ⟨_, fault_of_unreadable readable⟩
    rcases isServer with ⟨operation, isServer⟩
    rw [isServer] at notRetryable
    cases notRetryable
  · rintro ⟨detail, spelled, isBusiness⟩
    refine Fault.isRetryable_of_business ?_
    rwa [(business detail spelled isBusiness).1]

example : (⟨.notFound, "", [0x0a, 0x05, 0x61]⟩ : Status).fault = .server "remote" ∧
    (⟨.notFound, "", [0x0a, 0x01, 0xc3]⟩ : Status).fault = .server "remote" := by
  decide +kernel

end Status

/-! ## Surviving the way -/

section

variable {depth : Nat} {counted : List Nat}

theorem Field.Spells.fits {field : Field} {bytes : Bytes}
    (spelled : field.Spells depth counted bytes) : field.payload.Fits := by
  have payloadFits {kind : Kind} {payload : Payload} {content : Bytes}
      (spelled : payload.Spells kind content) : payload.Fits := by
    cases spelled with
    | number spelled | counted spelled => exact spelled.fits
    | eightBytes length | fourBytes length => exact length
  cases spelled with
  | counted _ _ spelled | plain _ _ spelled => exact payloadFits spelled
  | group => trivial

theorem Message.Spells.fits {fields : List Field} {bytes : Bytes}
    (spelled : Message.Spells depth counted fields bytes) :
    ∀ field ∈ fields, field.payload.Fits := by
  rcases spelled with ⟨pieces, areSpelled, -⟩
  induction areSpelled with
  | nil => simp
  | cons spelled _ induction => exact List.forall_mem_cons.mpr ⟨spelled.fits, induction⟩

theorem length_le_writeMessage {fields : List Field} {number : Nat} {bytes : Bytes}
    (isField : ⟨number, .counted bytes⟩ ∈ fields) :
    bytes.length ≤ (writeMessage fields).length := by
  have isPart : (Field.write ⟨number, .counted bytes⟩).length ≤ (writeMessage fields).length := by
    rw [writeMessage, List.flatMap_def]
    exact (List.sublist_flatten_of_mem (List.mem_map_of_mem isField)).length_le
  refine Nat.le_trans ?_ isPart
  simp only [Field.write, List.length_append]
  omega

end

/-! ### Written texts -/

theorem payloads_append (number : Nat) (fields others : List Field) :
    payloads number (fields ++ others) = payloads number fields ++ payloads number others := by
  simp [payloads]

theorem payloads_textField (number other : Nat) (text : String) :
    payloads number (Detail.textField other text) =
      if other = number ∧ text.isEmpty = false then [.counted (Text.bytes text)] else [] := by
  rw [Detail.textField, payloads]
  cases text.isEmpty <;> by_cases same : other = number <;> simp [same]

theorem mem_textField {number : Nat} {text : String} {field : Field}
    (isField : field ∈ Detail.textField number text) :
    field = ⟨number, .counted (Text.bytes text)⟩ := by
  rw [Detail.textField] at isField
  split at isField
  · cases isField
  · exact List.mem_singleton.mp isField

theorem says_of_written {number : Nat} {fields : List Field} {text : String}
    (written : payloads number fields =
      if text.isEmpty = false then [.counted (Text.bytes text)] else []) :
    Says "" number fields text := by
  by_cases isEmpty : text.isEmpty = false
  · exact ⟨[text], by rw [written, if_pos isEmpty]; rfl, rfl⟩
  · refine ⟨[], by rw [written, if_neg isEmpty]; rfl, ?_⟩
    simpa using isEmpty

namespace Detail

def IsTextual (field : Field) : Prop :=
  (field.number = 1 ∨ field.number = 2) ∧ ∃ bytes, field.payload = .counted bytes

theorem IsTextual.spells_write {depth : Nat} {counted : List Nat} {field : Field}
    (isTextual : IsTextual field) (fits : field.payload.Fits) :
    field.Spells depth counted field.write := by
  rcases isTextual with ⟨isNumber, bytes, isCounted⟩
  have small : field.number ≤ 2 := by omega
  refine Field.spells_write (by omega) ?_ fits fun _ => ⟨bytes, isCounted⟩
  simp only [Width.max32]
  omega

theorem spells_writeMessage {depth : Nat} {counted : List Nat} {fields : List Field}
    (areTextual : ∀ field ∈ fields, IsTextual field)
    (fits : (writeMessage fields).length ≤ Width.max64) :
    Message.Spells depth counted fields (writeMessage fields) := by
  refine Message.spells_write fun ⟨number, payload⟩ isField => ?_
  rcases areTextual _ isField with ⟨isNumber, bytes, rfl⟩
  exact IsTextual.spells_write ⟨isNumber, bytes, rfl⟩
    (Nat.le_trans (length_le_writeMessage isField) fits)

theorem isTextual_textField {number : Nat} (isNumber : number = 1 ∨ number = 2) {text : String}
    {field : Field} (isField : field ∈ textField number text) : IsTextual field := by
  rw [mem_textField isField]
  exact ⟨isNumber, _, rfl⟩

theorem isTextual_fields (detail : Detail) : ∀ field ∈ detail.fields, IsTextual field := by
  intro field isField
  rcases List.mem_append.mp isField with isKey | isAttribute
  · exact isTextual_textField (Or.inl rfl) isKey
  · rcases List.mem_map.mp isAttribute with ⟨entry, -, rfl⟩
    exact ⟨Or.inr rfl, _, rfl⟩

theorem spellsAttribute_attributeField {entry : String × String}
    (fits : (attributeField entry).payload.Fits) :
    SpellsAttribute entry (attributeField entry).payload := by
  refine ⟨_, textField 1 entry.1 ++ textField 2 entry.2, rfl, spells_writeMessage ?_ fits,
    says_of_written ?_, says_of_written ?_⟩
  · intro field isField
    rcases List.mem_append.mp isField with isName | isValue
    · exact isTextual_textField (Or.inl rfl) isName
    · exact isTextual_textField (Or.inr rfl) isValue
  · simp [payloads_append, payloads_textField]
  · simp [payloads_append, payloads_textField]

end Detail

/-- A field that a newer service may send together with a fault: one with a number that is
unknown here, or an attribute with a name that the fault does not use. -/
def Field.IsForeignTo (fault : Fault) (field : Field) : Prop :=
  3 ≤ field.number ∨ field.number = 2 ∧
    ∃ entry, Detail.SpellsAttribute entry field.payload ∧
      entry.1 ∉ fault.attributes.map Prod.fst

section

variable {fault : Fault} {extra fields : List Field} {details : Bytes}

theorem payloads_one_foreign (foreign : ∀ field ∈ extra, field.IsForeignTo fault) :
    payloads 1 extra = [] := by
  rw [payloads, List.map_eq_nil_iff, List.filter_eq_nil_iff]
  intro field isExtra
  rcases foreign field isExtra with isUnknown | ⟨isAttribute, -⟩
  · simp only [decide_eq_true_eq]
    omega
  · simp [isAttribute]

theorem exists_foreign_attributes (foreign : ∀ field ∈ extra, field.IsForeignTo fault) :
    ∃ entries, List.Forall₂ Detail.SpellsAttribute entries (payloads 2 extra) ∧
      ∀ entry ∈ entries, entry.1 ∉ fault.attributes.map Prod.fst := by
  induction extra with
  | nil => exact ⟨[], .nil, by simp⟩
  | cons field extra induction =>
      rcases List.forall_mem_cons.mp foreign with ⟨isForeign, areForeign⟩
      rcases induction areForeign with ⟨entries, areSpelled, areUnused⟩
      rcases isForeign with isUnknown | ⟨isAttribute, entry, spelled, unused⟩
      · rw [payloads_cons_other (by omega)]
        exact ⟨entries, areSpelled, areUnused⟩
      · rw [payloads_cons_self isAttribute]
        exact ⟨entry :: entries, .cons spelled areSpelled,
          List.forall_mem_cons.mpr ⟨unused, areUnused⟩⟩

theorem payloads_one_ofFault (fault : Fault) :
    payloads 1 (Detail.ofFault fault).fields = [.counted (Text.bytes fault.key)] := by
  have isFilled : fault.key.isEmpty = false := by cases fault <;> rfl
  have noOther : payloads 1 (fault.attributes.map Detail.attributeField) = [] := by
    rw [payloads, List.map_eq_nil_iff, List.filter_eq_nil_iff]
    intro field isAttribute
    rcases List.mem_map.mp isAttribute with ⟨entry, -, rfl⟩
    simp [Detail.attributeField]
  rw [Detail.fields, payloads_append, payloads_textField]
  simp [Detail.ofFault, isFilled, noOther]

theorem payloads_two_ofFault (fault : Fault) :
    payloads 2 (Detail.ofFault fault).fields =
      fault.attributes.map fun entry => (Detail.attributeField entry).payload := by
  rw [Detail.fields, payloads_append, payloads_textField]
  simp [Detail.ofFault, payloads, Detail.attributeField, List.filter_map, Function.comp_def]

end

theorem Detail.valueOf_of_perm {fault : Fault} {detail : Detail} {foreign : List (String × String)}
    (isMixed : detail.attributes.Perm (fault.attributes ++ foreign))
    (areUnused : ∀ entry ∈ foreign, entry.1 ∉ fault.attributes.map Prod.fst)
    {entry : String × String} (isOwn : entry ∈ fault.attributes) :
    detail.valueOf entry.1 = entry.2 := by
  have noForeign : foreign.filter (·.1 = entry.1) = [] := by
    rw [List.filter_eq_nil_iff]
    intro other isForeign
    rw [decide_eq_true_eq]
    exact fun same => areUnused other isForeign (same ▸ List.mem_map_of_mem isOwn)
  have isFound : detail.attributes.filter (·.1 = entry.1) = [entry] := by
    have found := isMixed.filter (·.1 = entry.1)
    rwa [List.filter_append, Fault.filter_attributes fault isOwn, noForeign, List.append_nil,
      List.perm_singleton] at found
  rw [valueOf, isFound]
  rfl

namespace Status

theorem fault_of_mixed {fault : Fault} {extra fields : List Field} {status : Status}
    (foreign : ∀ field ∈ extra, field.IsForeignTo fault)
    (isMixed : fields.Perm ((Detail.ofFault fault).fields ++ extra))
    (spelled : Message.Spells Detail.groupDepth [2] fields status.details) :
    status.fault = fault := by
  have arePayloads (number : Nat) : (payloads number fields).Perm
      (payloads number (Detail.ofFault fault).fields ++ payloads number extra) := by
    rw [← payloads_append]
    exact (isMixed.filter _).map _
  have isKey : payloads 1 fields = [.counted (Text.bytes fault.key)] := by
    have found := arePayloads 1
    rwa [payloads_one_ofFault, payloads_one_foreign foreign, List.append_nil,
      List.perm_singleton] at found
  have ownSpelled : List.Forall₂ Detail.SpellsAttribute fault.attributes
      (payloads 2 (Detail.ofFault fault).fields) := by
    rw [payloads_two_ofFault, List.forall₂_map_right_iff, List.forall₂_same]
    refine fun entry isOwn => Detail.spellsAttribute_attributeField (spelled.fits _ ?_)
    refine isMixed.mem_iff.mpr (List.mem_append_left _ ?_)
    exact List.mem_append_right _ (List.mem_map_of_mem isOwn)
  rcases exists_foreign_attributes foreign with ⟨others, othersSpelled, areUnused⟩
  have allSpelled := List.rel_append ownSpelled othersSpelled
  rcases List.perm_comp_forall₂ (arePayloads 2) allSpelled.flip with ⟨entries, areSpelled, areOwn⟩
  have detailSpelled : Detail.Spells ⟨fault.key, entries⟩ status.details :=
    ⟨fields, spelled, ⟨[fault.key], isKey, rfl⟩, areSpelled.flip⟩
  rw [fault_of_spells detailSpelled]
  refine Fault.ofParts_key fault fun entry isOwn => ?_
  rw [Detail.attribute?_getD, Detail.valueOf_of_perm areOwn areUnused isOwn]

/-- A fault that is reported to another service is the same fault there. The attributes may be
written in any order, and there may be unknown fields and attributes as well. The bound is the
largest number of bytes that can be counted. -/
theorem fault_survives (fault : Fault) :
    ((ofFault fault).details.length ≤ Width.max64 → (ofFault fault).fault = fault) ∧
      ∀ (extra fields : List Field) (details : Bytes),
        (∀ field ∈ extra, field.IsForeignTo fault) →
        fields.Perm ((Detail.ofFault fault).fields ++ extra) →
        Message.Spells Detail.groupDepth [2] fields details →
        ({ ofFault fault with details } : Status).fault = fault := by
  refine ⟨fun fits => ?_, fun extra fields details foreign isMixed spelled =>
    fault_of_mixed foreign isMixed spelled⟩
  have noExtra : (Detail.ofFault fault).fields.Perm ((Detail.ofFault fault).fields ++ []) := by
    rw [List.append_nil]
  exact fault_of_mixed (by simp) noExtra
    (Detail.spells_writeMessage (Detail.isTextual_fields _) fits)

/-- What a newer service may add to a fault: two unknown fields and the attribute `actor`. -/
def newerFields : List Field :=
  [⟨16, .fourBytes [1, 2, 3, 4]⟩, ⟨3, .number 300⟩, Detail.attributeField ("actor", "")]

def fromNewerService : Status where
  code := .notFound
  message := " not found: Zoë"
  details := writeMessage (newerFields ++ (Detail.ofFault (.notFound "" "Zoë")).fields.reverse)

theorem fault_survives_fromNewerService :
    (ofFault (.notFound "" "Zoë")).fault = .notFound "" "Zoë" ∧
      fromNewerService.fault = .notFound "" "Zoë" := by
  rcases fault_survives (.notFound "" "Zoë") with ⟨plainly, mixed⟩
  have actorFits : (Detail.attributeField ("actor", "")).payload.Fits := by
    simp only [Payload.Fits, Detail.attributeField]
    decide +kernel
  have fits : (ofFault (.notFound "" "Zoë")).details.length ≤ Width.max64 := by decide +kernel
  have ownSpelled : Message.Spells 0 [] (Detail.ofFault (.notFound "" "Zoë")).fields
      (ofFault (.notFound "" "Zoë")).details :=
    Detail.spells_writeMessage (Detail.isTextual_fields _) fits
  refine ⟨plainly fits, mixed newerFields _ fromNewerService.details ?_
    (((List.reverse_perm _).append_left _).trans List.perm_append_comm) ?_⟩
  · have isForeign : (Detail.attributeField ("actor", "")).IsForeignTo (.notFound "" "Zoë") :=
      Or.inr ⟨rfl, _, Detail.spellsAttribute_attributeField actorFits, by decide⟩
    rw [newerFields, List.forall_mem_cons, List.forall_mem_cons, List.forall_mem_singleton]
    exact ⟨Or.inl (by decide), Or.inl (by decide), isForeign⟩
  · refine Message.spells_write (List.forall_mem_append.mpr ⟨?_, fun field isOwn => ?_⟩)
    · rw [newerFields, List.forall_mem_cons, List.forall_mem_cons, List.forall_mem_singleton]
      exact ⟨Field.spells_write (by decide) (by decide) rfl fun isTwo => absurd isTwo (by decide),
        Field.spells_write (by decide) (by decide) (by decide : 300 ≤ Width.max64)
          fun isTwo => absurd isTwo (by decide),
        Detail.IsTextual.spells_write ⟨Or.inr rfl, _, rfl⟩ actorFits⟩
    · rw [List.mem_reverse] at isOwn
      exact (Detail.isTextual_fields _ field isOwn).spells_write (ownSpelled.fits field isOwn)

end Status
end Wire
end Entitlement
