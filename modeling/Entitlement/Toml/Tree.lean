import Entitlement.Toml.Quoted
import Entitlement.Toml.Scalar

/-! # Tables of a settings file

A settings file defines tables in several ways: by a header of their own, in passing by
the header of a table inside them, and by keys with several names. A table may be
defined by a header only once, and not if its members were given by such keys; keys
with several names do not reach into tables that have a header. -/

namespace Entitlement.Toml

/-! ## Values -/

inductive Tree where
  | leaf (spot : Spot) (value : Scalar)
  | list (spot : Spot) (items : List Tree)
  | table (spot : Spot) (members : List (Name × Tree))

namespace Tree

/-- Where a value stands. A table that has no place of its own stands where it is named
first. -/
def spot : Tree → Spot
  | leaf spot _ => spot
  | list spot _ => spot
  | table spot _ => spot

mutual
def toJson : Tree → Json
  | leaf _ value => value.toJson
  | list _ items => .list (itemsToJson items)
  | table _ members => .object (membersToJson members)

def itemsToJson : List Tree → List Json
  | [] => []
  | item :: rest => item.toJson :: itemsToJson rest

def membersToJson : List (Name × Tree) → List (String × Json)
  | [] => []
  | (name, value) :: rest => (name.text, value.toJson) :: membersToJson rest
end

end Tree

/-! ## Tables in the making -/

inductive Origin where
  | header
  | passing
  | dotted
deriving DecidableEq

inductive Node where
  | value (value : Tree)
  | table (origin : Origin) (spot : Spot) (members : List (Name × Node))
  /-- A list of tables with headers: those before, in order, and the last one, to which
  later headers refer, with the place of its header. -/
  | tables (spot : Spot) (before : List Tree) (last : Spot) (members : List (Name × Node))

abbrev Members := List (Name × Node)

mutual
def Node.finish : Node → Tree
  | .value value => value
  | .table _ spot members => .table spot (finishMembers members)
  | .tables spot before last members =>
      .list spot (before ++ [.table last (finishMembers members)])

def finishMembers : List (Name × Node) → List (Name × Tree)
  | [] => []
  | (name, node) :: rest => (name, node.finish) :: finishMembers rest
end

/-! ## Changing members -/

def node? (name : Name) (members : Members) : Option Node :=
  (members.find? (·.1.text = name.text)).map (·.2)

def putNode (name : Name) (node : Node) : Members → Members
  | [] => [(name, node)]
  | entry :: rest =>
      if entry.1.text = name.text then (entry.1, node) :: rest
      else entry :: putNode name node rest

/-- Changes the table that a path leads to. Tables that are missing on the way are
created with the given origin; tables of an origin that is not allowed block the way.
A list of tables is entered at its last table, which has a header. -/
def changeAt (created : Origin) (allowed : Origin → Bool)
    (change : Origin → Members → Option Members) (reached : Origin) :
    List Name → Members → Option Members
  | [], members => change reached members
  | name :: path, members =>
      match node? name members with
      | none =>
          (changeAt created allowed change created path []).map fun inner =>
            putNode name (.table created name.spot inner) members
      | some (.table origin spot inner) =>
          if allowed origin then
            (changeAt created allowed change origin path inner).map fun inner =>
              putNode name (.table origin spot inner) members
          else none
      | some (.tables spot before last inner) =>
          (changeAt created allowed change .header path inner).map fun inner =>
            putNode name (.tables spot before last inner) members
      | some (.value _) => none

def changeAtHeader (path : List Name) (change : Members → Option Members) (members : Members) :
    Option Members :=
  changeAt .passing (fun _ => true) (fun _ => change) .header path members

/-! ## Definitions -/

structure Entry where
  key : Key
  value : Tree

/-- Adds an entry. A key of several names gives a member only to a table that has all its
members from such keys. -/
def define (entry : Entry) (members : Members) : Option Members :=
  changeAt .dotted (· ≠ .header)
    (fun origin members =>
      if (entry.key.path ≠ [] ∧ origin ≠ .dotted) ∨ (node? entry.key.name members).isSome then none
      else some (putNode entry.key.name (.value entry.value) members))
    .header entry.key.path members

/-- Defines a table by its header, which stands at a place. A table that was named in passing
moves to the end. -/
def openTable (spot : Spot) (name : Name) (members : Members) : Option Members :=
  match node? name members with
  | none => some (putNode name (.table .header spot []) members)
  | some (.table .passing _ inner) =>
      some (members.filter (·.1.text ≠ name.text) ++ [(name, .table .header spot inner)])
  | some _ => none

def openNext (spot : Spot) (name : Name) (members : Members) : Option Members :=
  match node? name members with
  | none => some (putNode name (.tables spot [] spot []) members)
  | some (.tables first before last inner) =>
      let before := before ++ [.table last (finishMembers inner)]
      some (putNode name (.tables first before spot []) members)
  | some _ => none

end Entitlement.Toml
