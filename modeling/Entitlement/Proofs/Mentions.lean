import Entitlement.Proofs.Identifiers
import Entitlement.Proofs.UuidSpellings
import Mathlib.Data.List.Induction
import Mathlib.Data.List.Infix

/-! # Identifiers that texts mention

A list of texts is read as the identifiers that it mentions, each once, in the order of their
first mention, if every text spells one. It does not matter how a text spells its identifier. The
first text that spells none is reported, whatever stands before it. -/

namespace Entitlement.Service

open Uuid

/-! ## Mentions -/

def Mentions (texts : List String) (uuid : Uuid) : Prop :=
  ∃ text ∈ texts, Spells text.toList uuid

def MentionsBefore (texts : List String) (first second : Uuid) : Prop :=
  ∃ front, front <+: texts ∧ Mentions front first ∧ ¬ Mentions front second

/-- These are the identifiers that the texts mention, each once, in the order in which they are
mentioned first. -/
structure AreMentioned (texts : List String) (uuids : List Uuid) : Prop where
  once : uuids.Nodup
  mem_iff : ∀ uuid, uuid ∈ uuids ↔ Mentions texts uuid
  inOrder : uuids.Pairwise (MentionsBefore texts)

theorem Mentions.mono {front texts : List String} {uuid : Uuid} (starts : front <+: texts)
    (mentions : Mentions front uuid) : Mentions texts uuid := by
  rcases mentions with ⟨text, isText, spells⟩
  exact ⟨text, starts.subset isText, spells⟩

theorem MentionsBefore.append {texts : List String} {first second : Uuid}
    (before : MentionsBefore texts first second) (more : List String) :
    MentionsBefore (texts ++ more) first second := by
  rcases before with ⟨front, starts, mentions, lacks⟩
  exact ⟨front, starts.trans (List.prefix_append texts more), mentions, lacks⟩

theorem MentionsBefore.asymm {texts : List String} {first second : Uuid}
    (before : MentionsBefore texts first second) : ¬ MentionsBefore texts second first := by
  rcases before with ⟨front, starts, mentions, lacks⟩
  rintro ⟨other, otherStarts, otherMentions, otherLacks⟩
  rcases List.prefix_or_prefix_of_prefix starts otherStarts with shorter | shorter
  · exact otherLacks (mentions.mono shorter)
  · exact lacks (otherMentions.mono shorter)

theorem AreMentioned.unique {texts : List String} {uuids others : List Uuid}
    (mentioned : AreMentioned texts uuids) (again : AreMentioned texts others) :
    uuids = others := by
  have same : uuids.Perm others :=
    (List.perm_ext_iff_of_nodup mentioned.once again.once).mpr fun uuid =>
      (mentioned.mem_iff uuid).trans (again.mem_iff uuid).symm
  exact List.Perm.eq_of_pairwise (fun _ _ _ _ before after => absurd after before.asymm)
    mentioned.inOrder again.inOrder same

/-! ## Reading -/

theorem mem_spelled_iff_mentions {texts : List String} {uuid : Uuid} :
    uuid ∈ spelled texts ↔ Mentions texts uuid := by
  simp only [mem_spelled_iff, ofText?_eq_some_iff, Mentions]

theorem spelled_append_of_none {text : String} (misspelled : ofText? text = none)
    (texts : List String) : spelled (texts ++ [text]) = spelled texts := by
  simp [spelled, misspelled]

theorem spelled_append_of_some {text : String} {uuid : Uuid} (spells : ofText? text = some uuid)
    (texts : List String) :
    spelled (texts ++ [text]) =
      if uuid ∈ spelled texts then spelled texts else spelled texts ++ [uuid] := by
  have last : [text].filterMap ofText? = [uuid] := by simp [spells]
  rw [spelled, List.filterMap_append, last, List.eraseDups_append, List.removeAll]
  split
  · rename_i isKnown
    rw [List.filter_cons_of_neg (by simpa [spelled] using isKnown)]
    exact List.append_nil _
  · rename_i isNew
    rw [List.filter_cons_of_pos (by simpa [spelled] using isNew)]
    rfl

theorem areMentioned_spelled (texts : List String) : AreMentioned texts (spelled texts) := by
  refine ⟨nodup_spelled texts, fun uuid => mem_spelled_iff_mentions, ?_⟩
  induction texts using List.reverseRecOn with
  | nil => exact .nil
  | append_singleton texts text induction =>
      have kept : (spelled texts).Pairwise (MentionsBefore (texts ++ [text])) :=
        induction.imp fun before => before.append [text]
      cases spells : ofText? text with
      | none => rwa [spelled_append_of_none spells]
      | some uuid =>
          rw [spelled_append_of_some spells]
          split
          · exact kept
          · rename_i isNew
            -- Whatever is known so far was mentioned by the texts before this one.
            refine List.pairwise_append.mpr ⟨kept, List.pairwise_singleton _ _, ?_⟩
            intro first isKnown second isLast
            cases List.mem_singleton.mp isLast
            exact ⟨texts, List.prefix_append texts [text], mem_spelled_iff_mentions.mp isKnown,
              fun mentions => isNew (mem_spelled_iff_mentions.mpr mentions)⟩

/-- One text stands in the place of another: it is the same one, or it spells the same
identifier. -/
def Respells (text again : String) : Prop :=
  again = text ∨ ∃ uuid, Spells text.toList uuid ∧ Spells again.toList uuid

theorem readUuids_respelled {texts again : List String}
    (respelled : List.Forall₂ Respells texts again) (field : String) (found : List Uuid) :
    readUuids field found again = readUuids field found texts := by
  induction respelled generalizing found with
  | nil => rfl
  | cons first _ induction =>
      rw [readUuids, readUuids]
      rcases first with rfl | ⟨uuid, spells, spellsAgain⟩
      · simp only [induction]
      · rw [(ofText?_eq_some_iff _ uuid).mpr spells, (ofText?_eq_some_iff _ uuid).mpr spellsAgain]
        exact induction _

theorem readUuids_eq_ok_iff {field : String} {texts : List String} {uuids : List Uuid} :
    readUuids field [] texts = .ok uuids ↔
      (∀ text ∈ texts, ∃ uuid, Spells text.toList uuid) ∧ AreMentioned texts uuids := by
  simp only [readUuids_eq, ← ofText?_eq_some_iff, ← misspelled?_eq_none_iff]
  cases misspelled? texts with
  | none =>
      simp only [Except.ok.injEq, true_and]
      constructor
      · rintro rfl
        exact areMentioned_spelled texts
      · exact (areMentioned_spelled texts).unique
  | some text => simp

theorem misspelled?_eq_some_iff {texts : List String} {text : String} :
    misspelled? texts = some text ↔
      ∃ before after, texts = before ++ text :: after ∧
        (∀ earlier ∈ before, ∃ uuid, Spells earlier.toList uuid) ∧
        ¬∃ uuid, Spells text.toList uuid := by
  simp only [misspelled?, List.find?_eq_some_iff_append, ← ofText?_eq_some_iff,
    ← Option.isSome_iff_exists, Bool.not_eq_true', Option.isNone_eq_false_iff,
    Option.not_isSome_iff_eq_none, Option.isNone_iff_eq_none]
  constructor
  · rintro ⟨malformed, before, after, whole, spelled⟩
    exact ⟨before, after, whole, spelled, malformed⟩
  · rintro ⟨before, after, whole, spelled, malformed⟩
    exact ⟨malformed, before, after, whole, spelled⟩

theorem readUuids_eq_error_iff {field : String} {texts : List String} {fault : Fault} :
    readUuids field [] texts = .error fault ↔
      ∃ before text after, texts = before ++ text :: after ∧
        (∀ earlier ∈ before, ∃ uuid, Spells earlier.toList uuid) ∧
        (¬∃ uuid, Spells text.toList uuid) ∧
        fault = .invalidBody field ("'" ++ text ++ "' is not a valid uuid") := by
  rw [readUuids_eq]
  constructor
  · intro fails
    cases misspelled : misspelled? texts with
    | none =>
        rw [misspelled] at fails
        cases fails
    | some text =>
        rw [misspelled] at fails
        cases fails
        rcases misspelled?_eq_some_iff.mp misspelled with ⟨before, after, whole, spelled, malformed⟩
        exact ⟨before, text, after, whole, spelled, malformed, rfl⟩
  · rintro ⟨before, text, after, whole, spelled, malformed, rfl⟩
    rw [misspelled?_eq_some_iff.mpr ⟨before, after, whole, spelled, malformed⟩]

/-- Reading texts as identifiers succeeds exactly if every text spells one. What is read then are
the identifiers that the texts mention, each once, in the order of their first mention; how they
are spelled makes no difference. Otherwise the first text that spells none is quoted. -/
theorem readUuids_reads_mentions (field : String) (texts : List String) :
    ((∃ uuids, readUuids field [] texts = .ok uuids) ↔
        ∀ text ∈ texts, ∃ uuid, Spells text.toList uuid) ∧
      (∀ uuids, readUuids field [] texts = .ok uuids ↔
        (∀ text ∈ texts, ∃ uuid, Spells text.toList uuid) ∧ AreMentioned texts uuids) ∧
      (∀ again, List.Forall₂ Respells texts again →
        readUuids field [] again = readUuids field [] texts) ∧
      ∀ fault, readUuids field [] texts = .error fault ↔
        ∃ before text after, texts = before ++ text :: after ∧
          (∀ earlier ∈ before, ∃ uuid, Spells earlier.toList uuid) ∧
          (¬∃ uuid, Spells text.toList uuid) ∧
          fault = .invalidBody field ("'" ++ text ++ "' is not a valid uuid") := by
  refine ⟨⟨?_, ?_⟩, fun uuids => readUuids_eq_ok_iff, ?_, fun fault => readUuids_eq_error_iff⟩
  · rintro ⟨uuids, reads⟩
    exact (readUuids_eq_ok_iff.mp reads).1
  · intro every
    exact ⟨spelled texts, readUuids_eq_ok_iff.mpr ⟨every, areMentioned_spelled texts⟩⟩
  · intro again respelled
    exact readUuids_respelled respelled field []

/-- Three of the four forms spell one identifier here. A padded text behind them is quoted, and not
the malformed one that follows it. -/
theorem readUuids_reads_mentions_mixed :
    let texts := ["0000000000000000000000000000000A", "00000000-0000-0000-0000-000000000003",
      "\x7b00000000-0000-0000-0000-00000000000a\x7d",
      "URN:uuid:00000000-0000-0000-0000-00000000000A"]
    let again := ["00000000-0000-0000-0000-00000000000a", "00000000000000000000000000000003",
      "0000000000000000000000000000000a", "00000000-0000-0000-0000-00000000000a"]
    let padded := " 00000000-0000-0000-0000-00000000000a "
    List.Forall₂ Respells texts again ∧
      readUuids "role_uuids" [] again = readUuids "role_uuids" [] texts ∧
      readUuids "role_uuids" [] texts = .ok [.ofNat 10, .ofNat 3] ∧
      AreMentioned texts [.ofNat 10, .ofNat 3] ∧
      readUuids "role_uuids" [] (texts ++ [padded, "zz"]) =
        .error (.invalidBody "role_uuids" ("'" ++ padded ++ "' is not a valid uuid")) := by
  intro texts again padded
  rcases readUuids_reads_mentions "role_uuids" texts with ⟨-, reads, respells, -⟩
  have respelled : List.Forall₂ Respells texts again := by
    refine .cons (.inr ⟨.ofNat 10, ?_⟩) (.cons (.inr ⟨.ofNat 3, ?_⟩)
      (.cons (.inr ⟨.ofNat 10, ?_⟩) (.cons (.inr ⟨.ofNat 10, ?_⟩) .nil))) <;>
    decide +kernel
  have isRead : readUuids "role_uuids" [] texts = .ok [.ofNat 10, .ofNat 3] := by decide +kernel
  have every : ∀ text ∈ texts, ∃ uuid, Spells text.toList uuid := ((reads _).mp isRead).1
  have malformed : ¬∃ uuid, Spells padded.toList uuid :=
    (ofText?_eq_none_iff padded).mp (by decide +kernel)
  exact ⟨respelled, respells again respelled, isRead, ((reads _).mp isRead).2,
    ((readUuids_reads_mentions "role_uuids" (texts ++ [padded, "zz"])).2.2.2 _).mpr
      ⟨texts, padded, ["zz"], rfl, every, malformed, rfl⟩⟩

end Entitlement.Service
