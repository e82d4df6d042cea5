import Entitlement.Action
import Entitlement.Backend
import Entitlement.Cache.WriteQueue
import Entitlement.Text.Bytes

/-! # The cache of role keys on a server

The cache can be kept on a server of named values that several programs share. Its
entries are the names that begin with the name space of the cache. A text that is no
role key counts as no entry; a value that is not even a text cannot be read. -/

namespace Entitlement.Cache

/-! ## The server -/

inductive Command where
  | get (name : String)
  /-- Keeps a text under a name, for some seconds or for good. -/
  | set (name text : String) (seconds : Option Nat)
deriving DecidableEq

def Command.verb : Command → String
  | get _ => "GET"
  | set _ _ _ => "SET"

def Command.words : Command → List String
  | get name => ["GET", name]
  | set name text none => ["SET", name, text]
  | set name text (some seconds) => ["SET", name, text, "EX", toString seconds]

structure ValueServer where
  values : List (String × Bytes)
  refuses : List Command → Command → Bool
  received : List Command

namespace ValueServer

def put (name : String) (value : Bytes) : List (String × Bytes) → List (String × Bytes)
  | [] => [(name, value)]
  | entry :: entries =>
      if entry.1 = name then (name, value) :: entries else entry :: put name value entries

/-- Receives a command. Returns the value asked for, if there is one, or nothing at all
if the command is refused; a refused command changes no value. -/
def receive (server : ValueServer) (command : Command) : Option (Option Bytes) × ValueServer :=
  let after := { server with received := server.received ++ [command] }
  if server.refuses server.received command then (none, after)
  else
    match command with
    | .get name => (some (server.values.lookup name), after)
    | .set name text _ =>
        (some none, { after with values := put name (Text.bytes text) server.values })

def receiveAll (server : ValueServer) : List Command → Bool × ValueServer
  | [] => (true, server)
  | command :: commands =>
      let (answer, server) := server.receive command
      let (accepted, server) := server.receiveAll commands
      (answer.isSome && accepted, server)

end ValueServer

/-! ## The cache -/

structure Remote where
  server : ValueServer
  nameSpace : String
  lifetime : Nat

namespace Remote

def entryName (cache : Remote) (uuid : String) : String :=
  cache.nameSpace ++ uuid

def seconds (cache : Remote) : Option Nat :=
  if cache.lifetime < 1000 then none else some (cache.lifetime / 1000)

def writeCommand (cache : Remote) (entry : String × RoleKey) : Command :=
  .set (cache.entryName entry.1) entry.2.name cache.seconds

def read (uuid : String) : Action Remote (Option RoleKey) :=
  Action.ofOutcome fun cache =>
    let (answer, server) := cache.server.receive (.get (cache.entryName uuid))
    let result := match answer with
      | none => .error Operation.readCache.failure
      | some none => .ok none
      | some (some value) =>
          match Text.ofBytes? value with
          | none => .error Operation.readCache.failure
          | some text => .ok (RoleKey.ofName? text)
    (result, { cache with server })

/-- Writes a batch of entries. Those that the server accepts are written even if it
refuses others. -/
def writeAll (batch : KeyBatch) : Action Remote Unit :=
  Action.ofOutcome fun cache =>
    let (accepted, server) := cache.server.receiveAll (batch.map cache.writeCommand)
    (if accepted then .ok () else .error Operation.writeCache.failure, { cache with server })

def writer : Writer Remote where
  start cache batch :=
    let (outcome, cache) := (writeAll batch).outcome cache
    .over outcome cache
  finish cache batch := ((writeAll batch).outcome cache).2

end Remote
end Entitlement.Cache
