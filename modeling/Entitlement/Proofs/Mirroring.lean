import Entitlement.Cache.Remote
import Entitlement.Proofs.Names
import Entitlement.Proofs.Stations

/-! # Caches on one server

Several caches can be kept on one server. Their entries have names of their own, as long as
their name spaces differ and identifiers are as long as they are written. So each of them
answers as a cache in memory does that starts with the entries found on the server. What the
server refuses fails, and is not there later; and reading a value that is not a text fails until
the entry has been written. -/

namespace Entitlement.Cache

/-! ## Visits -/

structure Tenant where
  nameSpace : String
  /-- How many milliseconds an entry is kept. -/
  lifetime : Nat
deriving DecidableEq

def Tenant.on (tenant : Tenant) (server : ValueServer) : Remote :=
  ⟨server, tenant.nameSpace, tenant.lifetime⟩

inductive Visit where
  | read (uuid : String)
  | write (batch sent : KeyBatch)
deriving DecidableEq

inductive Answer where
  | key (result : Except Fault (Option RoleKey))
  | written (result : Except Fault Unit)
deriving DecidableEq

namespace Visit

def uuids : Visit → List String
  | read uuid => [uuid]
  | write batch _ => batch.map (·.1)

def sent : Visit → KeyBatch
  | read _ => []
  | write _ sent => sent

def SendsBatch : Visit → Prop
  | read _ => True
  | write batch sent => (batch.map (·.1)).Nodup ∧ sent.Perm batch

instance : (visit : Visit) → Decidable visit.SendsBatch
  | read _ => .isTrue True.intro
  | write batch sent => inferInstanceAs (Decidable (_ ∧ sent.Perm batch))

theorem mem_uuids_of_mem_sent {visit : Visit} (sendsBatch : visit.SendsBatch)
    {entry : String × RoleKey} (isSent : entry ∈ visit.sent) : entry.1 ∈ visit.uuids := by
  cases visit with
  | read uuid => cases isSent
  | write batch sent => exact List.mem_map_of_mem (sendsBatch.2.mem_iff.mp isSent)

def failure : Visit → Answer
  | read _ => .key (.error Operation.readCache.failure)
  | write _ _ => .written (.error Operation.writeCache.failure)

def commands (cache : Remote) : Visit → List Command
  | read uuid => [.get (cache.entryName uuid)]
  | write _ sent => sent.map cache.writeCommand

end Visit

def Memory.visit (memory : Memory) : Visit → Answer × Memory
  | .read uuid => (.key (memory.read uuid), memory)
  | .write batch _ => (.written (.ok ()), memory.putAll batch)

def Memory.serve (memory : Memory) : List Visit → List Answer
  | [] => []
  | visit :: visits => (memory.visit visit).1 :: (memory.visit visit).2.serve visits

namespace ValueServer

def visit (server : ValueServer) (tenant : Tenant) : Visit → Answer × ValueServer
  | .read uuid =>
      let (result, cache) := (Remote.read uuid).outcome (tenant.on server)
      (.key result, cache.server)
  | .write _ sent =>
      let (result, cache) := (Remote.writeAll sent).outcome (tenant.on server)
      (.written result, cache.server)

def serve (server : ValueServer) : List (Tenant × Visit) → List (Tenant × Answer)
  | [] => []
  | (tenant, visit) :: visits =>
      (tenant, (server.visit tenant visit).1) :: (server.visit tenant visit).2.serve visits

def after (server : ValueServer) (visits : List (Tenant × Visit)) : ValueServer :=
  visits.foldl (fun server visit => (server.visit visit.1 visit.2).2) server

def accepts (server : ValueServer) (command : Command) : Bool :=
  !server.refuses server.received command

def acceptedOf (server : ValueServer) (tenant : Tenant) : KeyBatch → KeyBatch
  | [] => []
  | entry :: sent =>
      let command := (tenant.on server).writeCommand entry
      let rest := (server.receive command).2.acceptedOf tenant sent
      if server.accepts command then entry :: rest else rest

/-- The entries that caches with a name space have written during visits, in the order in
which they were accepted. -/
def written (server : ValueServer) (nameSpace : String) : List (Tenant × Visit) → KeyBatch
  | [] => []
  | (tenant, visit) :: visits =>
      (if tenant.nameSpace = nameSpace then server.acceptedOf tenant visit.sent else []) ++
        (server.visit tenant visit).2.written nameSpace visits

/-! ## Values -/

theorem lookup_put (name : String) (value : Bytes) (values : List (String × Bytes))
    (other : String) :
    (put name value values).lookup other =
      if other = name then some value else values.lookup other := by
  induction values with
  | nil =>
      by_cases equal : other = name
      · simp [put, equal]
      · simp [put, List.lookup_cons, beq_false_of_ne equal, equal]
  | cons head values induction =>
      rcases head with ⟨present, old⟩
      rw [put]
      by_cases replaced : present = name
      · subst replaced
        by_cases equal : other = present
        · simp [equal]
        · simp [List.lookup_cons, beq_false_of_ne equal, equal]
      · rw [if_neg replaced, List.lookup_cons, List.lookup_cons, induction]
        by_cases equal : other = name
        · simp [equal, beq_false_of_ne (Ne.symm replaced)]
        · simp [equal]

theorem receive_get (server : ValueServer) (name : String) :
    server.receive (.get name) =
      (if server.accepts (.get name) then some (server.values.lookup name) else none,
        { server with received := server.received ++ [.get name] }) := by
  cases refused : server.refuses server.received (.get name) <;> simp [receive, accepts, refused]

theorem receive_set (server : ValueServer) (name text : String) (seconds : Option Nat) :
    server.receive (.set name text seconds) =
      if server.accepts (.set name text seconds) then
        (some none, { server with
          values := put name (Text.bytes text) server.values
          received := server.received ++ [.set name text seconds] })
      else (none, { server with received := server.received ++ [.set name text seconds] }) := by
  cases refused : server.refuses server.received (.set name text seconds) <;>
    simp [receive, accepts, refused]

theorem lookup_receive_write (server : ValueServer) (cache : Remote) (entry : String × RoleKey)
    (name : String) :
    (server.receive (cache.writeCommand entry)).2.values.lookup name =
      if server.accepts (cache.writeCommand entry) ∧ name = cache.entryName entry.1 then
        some (Text.bytes entry.2.name)
      else server.values.lookup name := by
  rw [Remote.writeCommand, receive_set]
  split
  · rename_i accepted
    simp [accepted, lookup_put]
  · rename_i refused
    simp [refused]

theorem isSome_receive (server : ValueServer) (command : Command) :
    (server.receive command).1.isSome = server.accepts command := by
  cases command with
  | get name =>
      rw [receive_get]
      cases server.accepts (.get name) <;> rfl
  | set name text seconds =>
      rw [receive_set]
      cases server.accepts (.set name text seconds) <;> rfl

theorem receiveAll_cons (server : ValueServer) (command : Command) (commands : List Command) :
    server.receiveAll (command :: commands) =
      (server.accepts command && ((server.receive command).2.receiveAll commands).1,
        ((server.receive command).2.receiveAll commands).2) := by
  rw [← isSome_receive]
  rfl

theorem lookup_receiveAll_of_not_named (server : ValueServer) (cache : Remote) (sent : KeyBatch)
    {name : String} (unnamed : ∀ entry ∈ sent, name ≠ cache.entryName entry.1) :
    (server.receiveAll (sent.map cache.writeCommand)).2.values.lookup name =
      server.values.lookup name := by
  induction sent generalizing server with
  | nil => rfl
  | cons entry sent induction =>
      rw [List.map_cons, receiveAll_cons,
        induction _ fun other member => unnamed other (List.mem_cons_of_mem entry member),
        lookup_receive_write, if_neg]
      exact fun named => unnamed entry List.mem_cons_self named.2

theorem lookup_visit_of_not_named (server : ValueServer) (tenant : Tenant) (visit : Visit)
    {name : String} (unnamed : ∀ entry ∈ visit.sent, name ≠ tenant.nameSpace ++ entry.1) :
    (server.visit tenant visit).2.values.lookup name = server.values.lookup name := by
  cases visit with
  | read uuid =>
      change (server.receive _).2.values.lookup name = _
      rw [receive_get]
  | write batch sent =>
      exact server.lookup_receiveAll_of_not_named (tenant.on server) sent unnamed

theorem lookup_after_of_not_named (server : ValueServer) (visits : List (Tenant × Visit))
    {name : String} (unnamed : ∀ visit ∈ visits, ∀ entry ∈ visit.2.sent,
      name ≠ visit.1.nameSpace ++ entry.1) :
    (server.after visits).values.lookup name = server.values.lookup name := by
  induction visits generalizing server with
  | nil => rfl
  | cons visit visits induction =>
      rcases List.forall_mem_cons.mp unnamed with ⟨unnamedHere, unnamedLater⟩
      exact (induction (server.visit visit.1 visit.2).2 unnamedLater).trans
        (server.lookup_visit_of_not_named visit.1 visit.2 unnamedHere)

end ValueServer

/-! ## What was written last -/

def latest? (written : KeyBatch) (uuid : String) : Option RoleKey :=
  written.reverse.lookup uuid

theorem latest?_append (earlier later : KeyBatch) (uuid : String) :
    latest? (earlier ++ later) uuid = (latest? later uuid).or (latest? earlier uuid) := by
  rw [latest?, List.reverse_append, List.lookup_append]
  rfl

theorem latest?_singleton (entry : String × RoleKey) (uuid : String) :
    latest? [entry] uuid = if uuid = entry.1 then some entry.2 else none := by
  by_cases equal : uuid = entry.1
  · rw [if_pos equal, equal]
    exact List.lookup_cons_self
  · simp [latest?, equal]

theorem isSome_latest?_iff (written : KeyBatch) (uuid : String) :
    (latest? written uuid).isSome ↔ uuid ∈ written.map (·.1) := by
  rw [latest?, List.lookup_isSome_iff]
  simp

theorem Memory.get?_putAll_eq (memory : Memory) (batch : KeyBatch) (uuid : String) :
    (memory.putAll batch).get? uuid = (latest? batch uuid).or (memory.get? uuid) := by
  induction batch generalizing memory with
  | nil => rfl
  | cons entry batch induction =>
      rw [← List.singleton_append, latest?_append, Option.or_assoc, latest?_singleton]
      refine (induction (memory.put entry.1 entry.2)).trans ?_
      rw [get?_put]
      split <;> rfl

def KeepsOff (nameSpace : String) (matters : String → Prop) (visit : Tenant × Visit) : Prop :=
  visit.1.nameSpace = nameSpace ∨ ∀ entry ∈ visit.2.sent, ∀ uuid, matters uuid →
    nameSpace ++ uuid ≠ visit.1.nameSpace ++ entry.1

namespace ValueServer

def valueAfter (server : ValueServer) (nameSpace : String) (written : KeyBatch)
    (uuid : String) : Option Bytes :=
  ((latest? written uuid).map fun key => Text.bytes key.name).or
    (server.values.lookup (nameSpace ++ uuid))

theorem valueAfter_append {server later : ValueServer} {nameSpace uuid : String}
    {written : KeyBatch}
    (here : later.values.lookup (nameSpace ++ uuid) = server.valueAfter nameSpace written uuid)
    (writtenLater : KeyBatch) :
    later.valueAfter nameSpace writtenLater uuid =
      server.valueAfter nameSpace (written ++ writtenLater) uuid := by
  rw [valueAfter, here, valueAfter, valueAfter, latest?_append, Option.map_or, Option.or_assoc]

theorem lookup_receive_accepted (server : ValueServer) (tenant : Tenant)
    (entry : String × RoleKey) (uuid : String) :
    (server.receive ((tenant.on server).writeCommand entry)).2.values.lookup
        (tenant.nameSpace ++ uuid) =
      server.valueAfter tenant.nameSpace (server.acceptedOf tenant [entry]) uuid := by
  have sameName : tenant.nameSpace ++ uuid = (tenant.on server).entryName entry.1 ↔
      uuid = entry.1 := by
    simp [Remote.entryName, Tenant.on]
  simp only [server.lookup_receive_write, sameName, valueAfter, acceptedOf]
  cases server.accepts ((tenant.on server).writeCommand entry) with
  | false => simp [latest?]
  | true =>
      rw [if_pos rfl, latest?_singleton]
      by_cases named : uuid = entry.1 <;> simp [named]

theorem lookup_receiveAll_accepted (server : ValueServer) (tenant : Tenant) (sent : KeyBatch)
    (uuid : String) :
    (server.receiveAll (sent.map (tenant.on server).writeCommand)).2.values.lookup
        (tenant.nameSpace ++ uuid) =
      server.valueAfter tenant.nameSpace (server.acceptedOf tenant sent) uuid := by
  induction sent generalizing server with
  | nil => rfl
  | cons entry sent induction =>
      have split : server.acceptedOf tenant (entry :: sent) = server.acceptedOf tenant [entry] ++
          (server.receive ((tenant.on server).writeCommand entry)).2.acceptedOf tenant sent := by
        rw [acceptedOf, acceptedOf]
        cases server.accepts ((tenant.on server).writeCommand entry) <;> rfl
      rw [split, List.map_cons, receiveAll_cons]
      exact (induction _).trans
        (valueAfter_append (server.lookup_receive_accepted tenant entry uuid) _)

variable {nameSpace uuid : String} {matters : String → Prop}

theorem lookup_visit (server : ValueServer) {tenant : Tenant} {visit : Visit}
    (keepsOff : KeepsOff nameSpace matters (tenant, visit)) (isNeeded : matters uuid) :
    (server.visit tenant visit).2.values.lookup (nameSpace ++ uuid) =
      server.valueAfter nameSpace (server.written nameSpace [(tenant, visit)]) uuid := by
  rw [written, written, List.append_nil]
  by_cases own : tenant.nameSpace = nameSpace
  · subst own
    rw [if_pos rfl]
    cases visit with
    | read read => exact server.lookup_visit_of_not_named tenant (.read read) (by simp [Visit.sent])
    | write batch sent => exact server.lookup_receiveAll_accepted tenant sent uuid
  · rw [if_neg own]
    exact server.lookup_visit_of_not_named tenant visit
      fun entry isSent => keepsOff.resolve_left own entry isSent uuid isNeeded

theorem lookup_after (server : ValueServer) {visits : List (Tenant × Visit)}
    (keepOff : ∀ visit ∈ visits, KeepsOff nameSpace matters visit) (isNeeded : matters uuid) :
    (server.after visits).values.lookup (nameSpace ++ uuid) =
      server.valueAfter nameSpace (server.written nameSpace visits) uuid := by
  induction visits generalizing server with
  | nil => rfl
  | cons visit visits induction =>
      rcases visit with ⟨tenant, visit⟩
      rcases List.forall_mem_cons.mp keepOff with ⟨keepsOff, keepOffLater⟩
      have split : server.written nameSpace ((tenant, visit) :: visits) =
          server.written nameSpace [(tenant, visit)] ++
            (server.visit tenant visit).2.written nameSpace visits := by
        simp [written]
      rw [split]
      exact (induction _ keepOffLater).trans
        (valueAfter_append (server.lookup_visit keepsOff isNeeded) _)

end ValueServer

/-! ## Texts and keys among the values -/

def keyOf? (value : Bytes) : Option RoleKey :=
  (Text.ofBytes? value).bind RoleKey.ofName?

theorem keyOf?_eq_some_iff (value : Bytes) (key : RoleKey) :
    keyOf? value = some key ↔ value = Text.bytes key.name := by
  rw [keyOf?, Option.bind_eq_some_iff]
  constructor
  · rintro ⟨text, isText, isName⟩
    rw [(Text.ofBytes?_eq_some_iff value text).mp isText,
      (RoleKey.ofName?_eq_some_iff text key).mp isName]
  · rintro rfl
    exact ⟨key.name, Text.ofBytes?_bytes _, (RoleKey.ofName?_eq_some_iff _ key).mpr rfl⟩

def ValueServer.isReadable (server : ValueServer) (name : String) : Bool :=
  (server.values.lookup name).all fun value => (Text.ofBytes? value).isSome

/-- Whether a visit, after others, reads no value that is not a text: the one found at the
beginning was a text, or the entry has been written since. -/
def ValueServer.readsText (server : ValueServer) (nameSpace : String)
    (before : List (Tenant × Visit)) : Visit → Bool
  | .read uuid => server.isReadable (nameSpace ++ uuid) ||
      ((server.written nameSpace before).map (·.1)).contains uuid
  | .write _ _ => true

theorem ValueServer.readsText_after (server : ValueServer) {nameSpace : String}
    {matters : String → Prop} {before : List (Tenant × Visit)} {visit : Visit}
    (keepOff : ∀ earlier ∈ before, KeepsOff nameSpace matters earlier)
    (needed : ∀ uuid ∈ visit.uuids, matters uuid) :
    (server.after before).readsText nameSpace [] visit =
      server.readsText nameSpace before visit := by
  cases visit with
  | write batch sent => rfl
  | read uuid =>
      have found := server.lookup_after keepOff (needed uuid List.mem_cons_self)
      simp only [readsText, isReadable, found, valueAfter, written, List.map_nil,
        List.contains_nil, Bool.or_false]
      cases given : latest? (server.written nameSpace before) uuid with
      | none =>
          have unwritten : uuid ∉ (server.written nameSpace before).map (·.1) := fun member => by
            simpa [given] using (isSome_latest?_iff _ uuid).mpr member
          simp [unwritten]
      | some key =>
          have isWritten : uuid ∈ (server.written nameSpace before).map (·.1) :=
            (isSome_latest?_iff _ uuid).mp (by rw [given]; rfl)
          simp [isWritten]

/-! ## One cache on a server beside one in memory -/

structure Mirrors (nameSpace : String) (matters : String → Prop) (server : ValueServer)
    (memory : Memory) : Prop where
  sound : memory.mode = .sound
  entries : ∀ uuid, matters uuid →
    memory.get? uuid = (server.values.lookup (nameSpace ++ uuid)).bind keyOf?

namespace Mirrors

variable {nameSpace : String} {matters : String → Prop} {server : ValueServer} {memory : Memory}

theorem congr {other : Memory} (mirrors : Mirrors nameSpace matters server memory)
    (sameMode : other.mode = memory.mode) (same : ∀ uuid, other.get? uuid = memory.get? uuid) :
    Mirrors nameSpace matters server other :=
  ⟨sameMode.trans mirrors.sound, fun uuid isNeeded =>
    (same uuid).trans (mirrors.entries uuid isNeeded)⟩

theorem later {after : ValueServer} {written : KeyBatch}
    (mirrors : Mirrors nameSpace matters server memory)
    (lookup : ∀ uuid, matters uuid →
      after.values.lookup (nameSpace ++ uuid) = server.valueAfter nameSpace written uuid) :
    Mirrors nameSpace matters after (memory.putAll written) := by
  refine ⟨(memory.mode_putAll written).trans mirrors.sound, fun uuid isNeeded => ?_⟩
  rw [memory.get?_putAll_eq, lookup uuid isNeeded, ValueServer.valueAfter]
  cases latest? written uuid with
  | none => exact mirrors.entries uuid isNeeded
  | some key => exact ((keyOf?_eq_some_iff (Text.bytes key.name) key).mpr rfl).symm

theorem visit (mirrors : Mirrors nameSpace matters server memory) {tenant : Tenant}
    {visit : Visit} (keepsOff : KeepsOff nameSpace matters (tenant, visit)) :
    Mirrors nameSpace matters (server.visit tenant visit).2
      (memory.putAll (server.written nameSpace [(tenant, visit)])) :=
  mirrors.later fun _ => server.lookup_visit keepsOff

theorem after (mirrors : Mirrors nameSpace matters server memory)
    {visits : List (Tenant × Visit)}
    (keepOff : ∀ visit ∈ visits, KeepsOff nameSpace matters visit) :
    Mirrors nameSpace matters (server.after visits)
      (memory.putAll (server.written nameSpace visits)) :=
  mirrors.later fun _ => server.lookup_after keepOff

/-- A visit fails unless the server accepts everything that is sent and what is read is a text.
Otherwise it is answered as in memory. -/
theorem answer {tenant : Tenant} (mirrors : Mirrors tenant.nameSpace matters server memory)
    {visit : Visit} (needed : ∀ uuid ∈ visit.uuids, matters uuid) :
    (server.visit tenant visit).1 =
      if (server.receiveAll (visit.commands (tenant.on server))).1 ∧
          server.readsText tenant.nameSpace [] visit then
        (memory.visit visit).1
      else visit.failure := by
  cases visit with
  | read uuid =>
      have same := mirrors.entries uuid (needed uuid List.mem_cons_self)
      have reads : memory.read uuid = .ok (memory.get? uuid) := by
        rw [Memory.read, mirrors.sound]
      rw [Memory.visit, reads, same, Visit.commands, ValueServer.receiveAll_cons]
      simp only [ValueServer.visit, Remote.read, Action.outcome_ofOutcome, Tenant.on,
        Remote.entryName, ValueServer.receive_get, ValueServer.readsText, ValueServer.isReadable,
        ValueServer.written, List.map_nil, List.contains_nil, Bool.or_false]
      cases server.accepts (.get (tenant.nameSpace ++ uuid)) with
      | false => rfl
      | true =>
          cases server.values.lookup (tenant.nameSpace ++ uuid) with
          | none => rfl
          | some value =>
              rcases Option.eq_none_or_eq_some (Text.ofBytes? value) with isNone | ⟨text, isText⟩
              · simp [isNone, Visit.failure]
              · simp [isText, keyOf?, ValueServer.receiveAll]
  | write batch sent =>
      simp only [ValueServer.visit, Remote.writeAll, Action.outcome_ofOutcome, Tenant.on,
        Visit.commands, ValueServer.readsText, and_true]
      rw [apply_ite Answer.written]
      rfl

theorem answer_ne_failure (mirrors : Mirrors nameSpace matters server memory) (visit : Visit) :
    (memory.visit visit).1 ≠ visit.failure := by
  cases visit with
  | read uuid => simp [Memory.visit, Memory.read, mirrors.sound, Visit.failure]
  | write batch sent => simp [Memory.visit, Visit.failure]

end Mirrors

/-! ## Servers that refuse nothing -/

def ValueServer.AcceptsAll (server : ValueServer) : Prop :=
  ∀ received command, server.refuses received command = false

namespace ValueServer.AcceptsAll

variable {server : ValueServer}

theorem receive (accepts : server.AcceptsAll) (command : Command) :
    (server.receive command).2.AcceptsAll := by
  have same : (server.receive command).2.refuses = server.refuses := by
    cases command with
    | get name => rw [receive_get]
    | set name text seconds =>
        rw [receive_set]
        split <;> rfl
  intro received other
  rw [same]
  exact accepts received other

theorem receiveAll (accepts : server.AcceptsAll) (commands : List Command) :
    (server.receiveAll commands).1 = true ∧ (server.receiveAll commands).2.AcceptsAll := by
  induction commands generalizing server with
  | nil => exact ⟨rfl, accepts⟩
  | cons command commands induction =>
      have here : server.accepts command = true := by
        simp [ValueServer.accepts, accepts server.received command]
      rcases induction (accepts.receive command) with ⟨all, later⟩
      rw [receiveAll_cons, here, all]
      exact ⟨rfl, later⟩

theorem visit (accepts : server.AcceptsAll) (tenant : Tenant) (visit : Visit) :
    (server.visit tenant visit).2.AcceptsAll := by
  cases visit with
  | read uuid => exact accepts.receive _
  | write batch sent => exact (accepts.receiveAll _).2

theorem acceptedOf (accepts : server.AcceptsAll) (tenant : Tenant) (sent : KeyBatch) :
    server.acceptedOf tenant sent = sent := by
  induction sent generalizing server with
  | nil => rfl
  | cons entry sent induction =>
      have rest := induction (accepts.receive ((tenant.on server).writeCommand entry))
      have here : server.accepts ((tenant.on server).writeCommand entry) = true := by
        simp [ValueServer.accepts, accepts server.received _]
      rw [ValueServer.acceptedOf, if_pos here, rest]

end ValueServer.AcceptsAll

/-! ## The order of a batch -/

theorem Memory.get?_putAll_of_mem (memory : Memory) {batch : KeyBatch}
    (distinct : (batch.map (·.1)).Nodup) {uuid : String} {key : RoleKey}
    (member : (uuid, key) ∈ batch) : (memory.putAll batch).get? uuid = some key := by
  rcases List.append_of_mem member with ⟨before, after, rfl⟩
  have unnamed : ∀ other, (uuid, other) ∉ after := by
    intro other isLater
    rw [List.map_append, List.map_cons] at distinct
    have tailDistinct := (List.nodup_append.mp distinct).2.1
    exact (List.nodup_cons.mp tailDistinct).1 (List.mem_map.mpr ⟨(uuid, other), isLater, rfl⟩)
  have split : memory.putAll (before ++ (uuid, key) :: after) =
      ((memory.putAll before).put uuid key).putAll after := by
    simp [putAll]
  rw [split]
  rcases ((memory.putAll before).put uuid key).get?_putAll after uuid with
    kept | ⟨other, isLater, -⟩
  · rw [kept, get?_put, if_pos rfl]
  · exact absurd isLater (unnamed other)

theorem Memory.get?_putAll_perm (memory : Memory) {batch sent : KeyBatch}
    (distinct : (batch.map (·.1)).Nodup) (perm : sent.Perm batch) (uuid : String) :
    (memory.putAll sent).get? uuid = (memory.putAll batch).get? uuid := by
  have distinctSent : (sent.map (·.1)).Nodup := (perm.map _).nodup_iff.mpr distinct
  rcases memory.get?_putAll sent uuid with kept | ⟨key, isSent, written⟩
  · rcases memory.get?_putAll batch uuid with keptToo | ⟨key, member, -⟩
    · rw [kept, keptToo]
    · have isSent := perm.mem_iff.mpr member
      rw [memory.get?_putAll_of_mem distinct member, memory.get?_putAll_of_mem distinctSent isSent]
  · rw [written, memory.get?_putAll_of_mem distinct (perm.mem_iff.mp isSent)]

/-! ## What a server has at the beginning -/

def uuidOfName? (nameSpace name : String) : Option String :=
  if nameSpace.toList <+: name.toList then
    some (String.ofList (name.toList.drop nameSpace.toList.length))
  else none

theorem uuidOfName?_eq_some_iff (nameSpace name uuid : String) :
    uuidOfName? nameSpace name = some uuid ↔ name = nameSpace ++ uuid := by
  rw [← String.toList_inj, String.toList_append, uuidOfName?]
  constructor
  · intro found
    split at found
    · rename_i begins
      rw [← Option.some.inj found, String.toList_ofList]
      exact (List.prefix_iff_eq_append.mp begins).symm
    · cases found
  · intro whole
    rw [whole, if_pos (List.prefix_append _ _), List.drop_left, String.ofList_toList]

/-- A cache in memory with the entries that a cache on a server has: of the values under its
name space, those that are the name of a role key. -/
def Remote.inMemory (cache : Remote) : Memory where
  entries := cache.server.values.filterMap fun entry =>
    (uuidOfName? cache.nameSpace entry.1).bind fun uuid =>
      ((cache.server.values.lookup entry.1).bind keyOf?).map fun key => (uuid, key)
  mode := .sound

theorem lookup_filterMap_uuidOfName? (nameSpace : String) (keyUnder? : String → Option RoleKey)
    (names : List (String × Bytes)) (uuid : String) :
    (names.filterMap fun entry => (uuidOfName? nameSpace entry.1).bind fun uuid =>
        (keyUnder? entry.1).map fun key => (uuid, key)).lookup uuid =
      if nameSpace ++ uuid ∈ names.map (·.1) then keyUnder? (nameSpace ++ uuid) else none := by
  induction names with
  | nil => rfl
  | cons entry names induction =>
      rcases entry with ⟨name, value⟩
      rw [List.filterMap_cons]
      cases found : uuidOfName? nameSpace name with
      | none =>
          have different : nameSpace ++ uuid ≠ name := by
            intro equal
            rw [(uuidOfName?_eq_some_iff nameSpace name uuid).mpr equal.symm] at found
            cases found
          simp only [List.map_cons, List.mem_cons, or_iff_right different]
          exact induction
      | some other =>
          have named := (uuidOfName?_eq_some_iff nameSpace name other).mp found
          subst named
          by_cases equal : uuid = other
          · subst equal
            cases known : keyUnder? (nameSpace ++ uuid) with
            | none =>
                rw [known] at induction
                simpa using induction
            | some key => simp
          · have different : nameSpace ++ uuid ≠ nameSpace ++ other := by simpa using equal
            simp only [List.map_cons, List.mem_cons, or_iff_right different, ← induction]
            cases keyUnder? (nameSpace ++ other) with
            | none => rfl
            | some key => simp [List.lookup_cons, beq_false_of_ne equal]

theorem Remote.get?_inMemory (cache : Remote) (uuid : String) :
    cache.inMemory.get? uuid =
      (cache.server.values.lookup (cache.nameSpace ++ uuid)).bind keyOf? := by
  refine (lookup_filterMap_uuidOfName? cache.nameSpace
    (fun name => (cache.server.values.lookup name).bind keyOf?) _ uuid).trans ?_
  split
  · rfl
  · rename_i absent
    rw [List.lookup_eq_none_iff.mpr]
    · rfl
    · intro entry member
      have different : cache.nameSpace ++ uuid ≠ entry.1 := fun equal =>
        absent (equal ▸ List.mem_map_of_mem member)
      simpa using different

theorem mirrors_inMemory (tenant : Tenant) (matters : String → Prop) (server : ValueServer) :
    Mirrors tenant.nameSpace matters server (tenant.on server).inMemory :=
  ⟨rfl, fun uuid _ => (tenant.on server).get?_inMemory uuid⟩

/-! ## All caches of a server -/

def visitsOf (nameSpace : String) (visits : List (Tenant × Visit)) : List Visit :=
  (visits.filter (·.1.nameSpace = nameSpace)).map (·.2)

def answersOf (nameSpace : String) (answers : List (Tenant × Answer)) : List Answer :=
  (answers.filter (·.1.nameSpace = nameSpace)).map (·.2)

structure IsFair (nameSpace : String) (matters : String → Prop) (visit : Tenant × Visit) :
    Prop where
  keepsOff : KeepsOff nameSpace matters visit
  sendsBatch : visit.2.SendsBatch
  needed : visit.1.nameSpace = nameSpace → ∀ uuid ∈ visit.2.uuids, matters uuid

theorem forall_split_cons_iff {α : Type} {holds : List α → α → Prop} (first : α) (rest : List α) :
    (∀ before here after, first :: rest = before ++ here :: after → holds before here) ↔
      holds [] first ∧
        ∀ before here after, rest = before ++ here :: after → holds (first :: before) here := by
  constructor
  · intro all
    exact ⟨all [] first rest rfl, fun before here after split =>
      all (first :: before) here after (congrArg (first :: ·) split)⟩
  · rintro ⟨ofFirst, ofRest⟩ before here after split
    cases before with
    | nil =>
        cases split
        exact ofFirst
    | cons head before =>
        cases split
        exact ofRest before here after rfl

section

variable {nameSpace : String} {matters : String → Prop} {server : ValueServer} {memory : Memory}

theorem readsText_visit {first : Tenant × Visit} {before : List (Tenant × Visit)} {visit : Visit}
    (fairFirst : IsFair nameSpace matters first)
    (fairBefore : ∀ earlier ∈ before, IsFair nameSpace matters earlier)
    (needed : ∀ uuid ∈ visit.uuids, matters uuid) :
    (server.visit first.1 first.2).2.readsText nameSpace before visit =
      server.readsText nameSpace (first :: before) visit := by
  have keepOff : ∀ earlier ∈ before, KeepsOff nameSpace matters earlier :=
    fun earlier member => (fairBefore earlier member).keepsOff
  rw [← ValueServer.readsText_after _ keepOff needed,
    ← server.readsText_after (List.forall_mem_cons.mpr ⟨fairFirst.keepsOff, keepOff⟩) needed]
  rfl

namespace Mirrors

theorem visit_own {tenant : Tenant} (mirrors : Mirrors tenant.nameSpace matters server memory)
    (accepts : server.AcceptsAll) {visit : Visit}
    (fair : IsFair tenant.nameSpace matters (tenant, visit)) :
    Mirrors tenant.nameSpace matters (server.visit tenant visit).2 (memory.visit visit).2 := by
  have after := mirrors.visit fair.keepsOff
  rw [ValueServer.written, ValueServer.written, List.append_nil, if_pos rfl,
    accepts.acceptedOf] at after
  cases visit with
  | read uuid => exact after
  | write batch sent =>
      -- What was sent puts the same entries as the batch, whatever its order.
      rcases fair.sendsBatch with ⟨distinct, perm⟩
      apply after.congr
      · rw [Memory.visit, Memory.mode_putAll, Memory.mode_putAll]
      · exact fun uuid => (memory.get?_putAll_perm distinct perm uuid).symm

theorem visit_other {tenant : Tenant} (mirrors : Mirrors nameSpace matters server memory)
    {visit : Visit} (fair : IsFair nameSpace matters (tenant, visit))
    (isOther : tenant.nameSpace ≠ nameSpace) :
    Mirrors nameSpace matters (server.visit tenant visit).2 memory := by
  have after := mirrors.visit fair.keepsOff
  rwa [ValueServer.written, ValueServer.written, List.append_nil, if_neg isOther] at after

theorem answer_eq_iff {tenant : Tenant} (mirrors : Mirrors tenant.nameSpace matters server memory)
    (accepts : server.AcceptsAll) {visit : Visit} (needed : ∀ uuid ∈ visit.uuids, matters uuid) :
    (server.visit tenant visit).1 = (memory.visit visit).1 ↔
      server.readsText tenant.nameSpace [] visit := by
  rw [mirrors.answer needed, (accepts.receiveAll _).1]
  by_cases readable : server.readsText tenant.nameSpace [] visit
  · simp [readable]
  · simpa [readable] using (mirrors.answer_ne_failure visit).symm

/-- Where nothing is refused, the answers are those of a cache in memory just if all values that
are read are texts. -/
theorem serve_eq_iff (mirrors : Mirrors nameSpace matters server memory)
    (accepts : server.AcceptsAll) {visits : List (Tenant × Visit)}
    (fair : ∀ visit ∈ visits, IsFair nameSpace matters visit) :
    answersOf nameSpace (server.serve visits) = memory.serve (visitsOf nameSpace visits) ↔
      ∀ before visit after, visits = before ++ visit :: after →
        visit.1.nameSpace = nameSpace → server.readsText nameSpace before visit.2 := by
  induction visits generalizing server memory with
  | nil => simp [ValueServer.serve, answersOf, visitsOf, Memory.serve]
  | cons visit visits induction =>
      rcases visit with ⟨tenant, visit⟩
      rcases List.forall_mem_cons.mp fair with ⟨fairHere, fairLater⟩
      have later : ∀ next, Mirrors nameSpace matters (server.visit tenant visit).2 next →
          (answersOf nameSpace ((server.visit tenant visit).2.serve visits) =
              next.serve (visitsOf nameSpace visits) ↔
            ∀ before here after, visits = before ++ here :: after →
              here.1.nameSpace = nameSpace →
                server.readsText nameSpace ((tenant, visit) :: before) here.2) := by
        intro next keepsOn
        rw [induction keepsOn (accepts.visit tenant visit) fairLater]
        -- What is readable later is so by what was there at first and what was written since.
        refine forall_congr' fun before => forall_congr' fun here => forall_congr' fun after =>
          forall_congr' fun split => forall_congr' fun own => ?_
        subst split
        rw [readsText_visit fairHere
          (fun earlier member => fairLater earlier (List.mem_append_left _ member))
          ((fairLater here (by simp)).needed own)]
      rw [forall_split_cons_iff]
      by_cases own : tenant.nameSpace = nameSpace
      · subst own
        have rest := later _ (mirrors.visit_own accepts fairHere)
        have here := mirrors.answer_eq_iff accepts (fairHere.needed rfl)
        simp only [ValueServer.serve, answersOf, visitsOf, List.filter_cons, decide_true, if_true,
          List.map_cons, Memory.serve, List.cons.injEq] at rest ⊢
        rw [here, rest]
        simp
      · have rest := later memory (mirrors.visit_other fairHere own)
        simpa [ValueServer.serve, answersOf, visitsOf, own] using rest

end Mirrors

end

theorem names_apart {first second uuid other : String}
    (different : first ≠ second) (sameLength : uuid.length = other.length) :
    first ++ uuid ≠ second ++ other := by
  intro equal
  rw [← String.toList_inj, String.toList_append, String.toList_append] at equal
  have sameLengths : uuid.toList.length = other.toList.length := by
    rw [String.length_toList, String.length_toList, sameLength]
  have parts := List.append_inj' equal sameLengths
  exact different (String.toList_inj.mp parts.1)

/-- Whatever is on a server at the beginning and whichever caches are kept there, each of them
answers as a cache in memory that starts with the entries found under its name space, if all
caches have this name space or identifiers have their 36 characters. What the server refuses
fails, and only what it accepted is there later. Reading a value that is not a text fails, too,
until the entry has been written. Values under other names never change. -/
theorem caches_mirrored (server : ValueServer) (tenant : Tenant)
    {visits : List (Tenant × Visit)} (sendBatch : ∀ visit ∈ visits, visit.2.SendsBatch)
    (apart : (∀ visit ∈ visits, visit.1.nameSpace = tenant.nameSpace) ∨
      ∀ visit ∈ visits, ∀ uuid ∈ visit.2.uuids, uuid.length = 36) :
    let memory := (tenant.on server).inMemory
    (∀ uuid key, memory.get? uuid = some key ↔
      server.values.lookup (tenant.nameSpace ++ uuid) = some (Text.bytes key.name)) ∧
    (server.AcceptsAll →
      (answersOf tenant.nameSpace (server.serve visits) =
          memory.serve (visitsOf tenant.nameSpace visits) ↔
        ∀ before visit after, visits = before ++ visit :: after →
          visit.1.nameSpace = tenant.nameSpace →
            server.readsText tenant.nameSpace before visit.2)) ∧
    (∀ before visit after, visits = before ++ (tenant, visit) :: after →
      let present := server.after before
      (present.visit tenant visit).1 =
        if (present.receiveAll (visit.commands (tenant.on present))).1 ∧
            server.readsText tenant.nameSpace before visit then
          ((memory.putAll (server.written tenant.nameSpace before)).visit visit).1
        else visit.failure) ∧
    ∀ name, (∀ visit ∈ visits, ∀ entry ∈ visit.2.sent, name ≠ visit.1.nameSpace ++ entry.1) →
      (server.after visits).values.lookup name = server.values.lookup name := by
  intro memory
  have fair : ∃ matters, ∀ visit ∈ visits, IsFair tenant.nameSpace matters visit := by
    rcases apart with same | canonical
    · refine ⟨fun _ => True, fun visit member => ⟨Or.inl (same visit member), ?_, ?_⟩⟩
      · exact sendBatch visit member
      · exact fun _ _ _ => trivial
    · refine ⟨fun uuid => uuid.length = 36, fun visit member => ⟨?_, sendBatch visit member, ?_⟩⟩
      · by_cases own : visit.1.nameSpace = tenant.nameSpace
        · exact Or.inl own
        · refine Or.inr fun entry isSent uuid isCanonical => ?_
          apply names_apart (Ne.symm own)
          rw [isCanonical, canonical visit member entry.1]
          exact Visit.mem_uuids_of_mem_sent (sendBatch visit member) isSent
      · exact fun _ => canonical visit member
  rcases fair with ⟨matters, fair⟩
  have mirrors := mirrors_inMemory tenant matters server
  refine ⟨fun uuid key => ?_, fun accepts => mirrors.serve_eq_iff accepts fair, ?_, ?_⟩
  · rw [Remote.get?_inMemory, Option.bind_eq_some_iff]
    simp only [keyOf?_eq_some_iff]
    constructor
    · rintro ⟨text, found, rfl⟩
      exact found
    · exact fun found => ⟨_, found, rfl⟩
  · intro before visit after split present
    rw [split] at fair
    have keepOff : ∀ other ∈ before, KeepsOff tenant.nameSpace matters other :=
      fun other member => (fair other (List.mem_append_left _ member)).keepsOff
    have here := fair (tenant, visit) (List.mem_append_right _ List.mem_cons_self)
    rw [← server.readsText_after keepOff (here.needed rfl)]
    exact (mirrors.after keepOff).answer (here.needed rfl)
  · exact fun name unnamed => server.lookup_after_of_not_named visits unnamed

/-- A server with an entry of each of two caches, with a text that is no role key, and with a
value that is not a text. -/
def sharedServer (refuses : List Command → Command → Bool) : ValueServer where
  values := [("warden:role:" ++ (Uuid.ofNat 1).text, Text.bytes "ADMIN"),
    ("warden:role:" ++ (Uuid.ofNat 2).text, Text.bytes "nobody"),
    ("warden:role:" ++ (Uuid.ofNat 3).text, [0xff]),
    ("other:" ++ (Uuid.ofNat 1).text, Text.bytes "USER")]
  refuses := refuses
  received := []

def firstTenant : Tenant := ⟨"warden:role:", 3600000⟩

/-- The first cache reads, sends a batch of two entries in the other order, and reads both of them
after a second cache has read. -/
def sharedVisits : List (Tenant × Visit) :=
  [(firstTenant, .read (Uuid.ofNat 2).text),
    (firstTenant, .write [((Uuid.ofNat 1).text, .staff), ((Uuid.ofNat 3).text, .sales)]
      [((Uuid.ofNat 3).text, .sales), ((Uuid.ofNat 1).text, .staff)]),
    (⟨"other:", 0⟩, .read (Uuid.ofNat 1).text),
    (firstTenant, .read (Uuid.ofNat 3).text),
    (firstTenant, .read (Uuid.ofNat 1).text)]

/-- What is not a text is read after it has been written. If the server refuses the third
command, the batch has failed, and the entry that was sent last is later as it was before. -/
theorem caches_mirrored_shared :
    let strict := sharedServer fun received _ => received.length = 2
    answersOf "warden:role:" ((sharedServer fun _ _ => false).serve sharedVisits) =
        [.key (.ok none), .written (.ok ()), .key (.ok (some .sales)),
          .key (.ok (some .staff))] ∧
      ((strict.after (sharedVisits.take 1)).visit firstTenant sharedVisits[1].2).1 =
        .written (.error (.server "role_cache.set_bulk")) ∧
      ((strict.after (sharedVisits.take 4)).visit firstTenant (.read (Uuid.ofNat 1).text)).1 =
        .key (.ok (some .admin)) := by
  intro strict
  have sendBatch : ∀ visit ∈ sharedVisits, visit.2.SendsBatch := by decide +kernel
  have canonical : ∀ visit ∈ sharedVisits, ∀ uuid ∈ visit.2.uuids, uuid.length = 36 := by
    decide +kernel
  have quiet := caches_mirrored (sharedServer fun _ _ => false) firstTenant sendBatch
    (Or.inr canonical)
  have refusing := caches_mirrored strict firstTenant sendBatch (Or.inr canonical)
  refine ⟨((quiet.2.1 fun _ _ => rfl).mpr ?_).trans (by decide +kernel), ?_, ?_⟩
  · simp only [sharedVisits, forall_split_cons_iff]
    refine ⟨by decide +kernel, by decide +kernel, by decide +kernel, by decide +kernel,
      by decide +kernel, by simp⟩
  · exact (refusing.2.2.1 (sharedVisits.take 1) sharedVisits[1].2 (sharedVisits.drop 2) rfl).trans
      (by decide +kernel)
  · exact (refusing.2.2.1 (sharedVisits.take 4) _ [] rfl).trans (by decide +kernel)

/-- A value that is not a text fails a cache on a server, where in memory nothing is found. -/
theorem value_without_text_fails :
    let server := sharedServer fun _ _ => false
    answersOf "warden:role:" (server.serve [(firstTenant, .read (Uuid.ofNat 3).text)]) =
        [.key (.error (.server "role_cache.get"))] ∧
      (firstTenant.on server).inMemory.serve [.read (Uuid.ofNat 3).text] = [.key (.ok none)] := by
  decide +kernel

end Entitlement.Cache
