import Entitlement.Proofs.JsonTexts
import Entitlement.Proofs.RemoteFaults
import Entitlement.Proofs.Rows

/-! # Faults in JSON

A fault in JSON is its key and its attributes, each under a name of its own, and nothing else. The
fault is put together again from them, in whatever order they stand and whatever else stands
beside them. -/

namespace Entitlement

/-! ## Members -/

namespace Json

def HasMembersOf (whole part : Json) : Prop :=
  ∀ name member, part.member? name = some member → whole.member? name = some member

theorem member?_object_of_mem {members : List (String × Json)}
    (distinct : (members.map (·.1)).Nodup) {member : String × Json} (isMember : member ∈ members) :
    (object members).member? member.1 = some member.2 := by
  rcases List.append_of_mem isMember with ⟨before, after, rfl⟩
  refine List.lookup_eq_some_iff.mpr ⟨before, after, rfl, fun other isOther => bne_iff_ne.mpr ?_⟩
  exact (Store.key_ne_of_others distinct other (List.mem_append_left after isOther)).symm

theorem hasMembersOf_object {members : List (String × Json)} {whole : Json}
    (has : ∀ member ∈ members, whole.member? member.1 = some member.2) :
    whole.HasMembersOf (.object members) := by
  intro name member found
  rcases List.lookup_eq_some_iff.mp found with ⟨before, after, rfl, -⟩
  exact has (name, member) (List.mem_append_right before List.mem_cons_self)

end Json

/-! ## Faults -/

namespace Fault

/-- Puts a fault together from an object: the text of one member is its key, and the texts of the
others are attributes. -/
def ofJson? (value : Json) : Option Fault :=
  ((value.member? "message_key").bind Json.text?).map fun key =>
    ofParts key fun name => (value.member? name).bind Json.text?

def members (fault : Fault) : List (String × Json) :=
  ("message_key", .text fault.key) :: fault.attributes.map fun entry => (entry.1, .text entry.2)

theorem toJson_eq (fault : Fault) : fault.toJson = .object fault.members := by
  cases fault <;> rfl

theorem nodup_names (fault : Fault) : ("message_key" :: fault.attributes.map (·.1)).Nodup := by
  cases fault <;> simp [attributes]

theorem nodup_members (fault : Fault) : (fault.members.map (·.1)).Nodup := by
  rw [members, List.map_cons, List.map_map]
  exact fault.nodup_names

theorem printable_toJson (fault : Fault) : fault.toJson.Printable := by
  rw [toJson_eq]
  refine .object fault.nodup_members (List.forall_mem_cons.mpr ⟨.text fault.key, ?_⟩)
  intro member isMember
  rcases List.mem_map.mp isMember with ⟨entry, -, rfl⟩
  exact .text entry.2

theorem member?_toJson (fault : Fault) {member : String × Json}
    (isMember : member ∈ fault.members) : fault.toJson.member? member.1 = some member.2 := by
  rw [toJson_eq]
  exact Json.member?_object_of_mem fault.nodup_members isMember

theorem ofJson?_of_hasMembersOf {fault : Fault} {value : Json}
    (has : value.HasMembersOf fault.toJson) : ofJson? value = some fault := by
  have isKey : value.member? "message_key" = some (.text fault.key) :=
    has _ _ (fault.member?_toJson List.mem_cons_self)
  have filled : ∀ entry ∈ fault.attributes,
      ((value.member? entry.1).bind Json.text?).getD "" = entry.2 := by
    intro entry isEntry
    rw [has _ _ (fault.member?_toJson (List.mem_cons_of_mem _ (List.mem_map_of_mem isEntry)))]
    rfl
  rw [ofJson?, isKey, Option.bind_some]
  exact congrArg some (ofParts_key fault filled)

/-- A fault in JSON has its key as one member and each of its attributes as another, all of them
texts with names of their own, and no other members. Its text reads back, and the fault is put
together again from any object with these members. -/
theorem json_holds_parts (fault : Fault) :
    fault.toJson = .object (("message_key", .text fault.key) ::
        fault.attributes.map fun entry => (entry.1, .text entry.2)) ∧
      ("message_key" :: fault.attributes.map (·.1)).Nodup ∧
      Json.read? fault.toJson.compact = some fault.toJson ∧
      ∀ value : Json, value.HasMembersOf fault.toJson → ofJson? value = some fault :=
  ⟨fault.toJson_eq, fault.nodup_names, Json.read?_compact fault.printable_toJson,
    fun _ => ofJson?_of_hasMembersOf⟩

/-- The members stand in another order, and some stand among them that this kind of fault does not
have. -/
theorem json_holds_parts_extended :
    let fault := notFound "role" "7 \"staff\"\n"
    let text := "\x7b\"id\":\"7 \\\"staff\\\"\\n\",\"retry\":[true,2],\"message_key\":" ++
      "\"record_not_found\",\"operation\":\"role.get\",\"entity\":\"role\"\x7d"
    ∃ value, Json.read? text = some value ∧ value.HasMembersOf fault.toJson ∧
      ofJson? value = some fault := by
  intro fault text
  let value : Json := .object [("id", .text "7 \"staff\"\n"),
    ("retry", .list [.bool true, .integer 2]), ("message_key", .text "record_not_found"),
    ("operation", .text "role.get"), ("entity", .text "role")]
  have printable : value.Printable := by
    have retry : ∀ item ∈ [Json.bool true, .integer 2], item.Printable :=
      List.forall_mem_cons.mpr ⟨.bool true, List.forall_mem_singleton.mpr (.integer (by decide))⟩
    refine .object (by decide) ?_
    simp only [List.forall_mem_cons]
    exact ⟨.text _, .list retry, .text _, .text _, .text _, List.forall_mem_nil _⟩
  have isText : value.compact = text := by decide +kernel
  have has : value.HasMembersOf fault.toJson :=
    Json.hasMembersOf_object (List.forall_mem_cons.mpr ⟨rfl,
      List.forall_mem_cons.mpr ⟨rfl, List.forall_mem_singleton.mpr rfl⟩⟩)
  exact ⟨value, isText ▸ Json.read?_compact printable, has,
    (json_holds_parts fault).2.2.2 value has⟩

end Fault
end Entitlement
