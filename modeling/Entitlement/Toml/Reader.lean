import Entitlement.Toml.Tree

/-! # Reading settings files

A settings file in the notation TOML is read as its outermost table. A file that breaks any
rule of the notation is not read at all; the place where it does so is reported. -/

namespace Entitlement.Toml

/-! ## Lists -/

/-- Where a list is at fault that cannot be read on because of an item. A sign without a number
is not even the beginning of an item. -/
def itemFault (start fault : Spot) : Spot :=
  match start with
  | '+' :: rest | '-' :: rest => if fault.length = rest.length then start else fault
  | _ => fault

/-- A turn inside a list that stands at `spot`: an item or the closing bracket. The state holds
the items so far, the last one first. An item has to be followed by a whole comment, if by
any. -/
def listTurn (value : Spot → Reading Tree) (spot : Spot) (items : List Tree) (input : Spot) :
    Except Spot (Turn (List Tree) Tree) := do
  let start ← skipFiller input
  match start with
  | ']' :: rest => .ok (.over (.list spot items.reverse) rest)
  | _ => do
      let (item, rest) ← (value start).mapError (itemFault start)
      match skipFiller rest with
      | .ok (',' :: rest) => .ok (.again (item :: items) rest)
      | .ok (']' :: rest) => .ok (.over (.list spot (item :: items).reverse) rest)
      | .ok rest => .error rest
      | .error _ => .error start

/-! ## Tables in braces -/

def entry (value : Spot → Reading Tree) (input : Spot) : Except Spot (Entry × Spot) := do
  let (key, rest) ← key input
  let (value, rest) ← value (skipBlanks (← past '=' rest))
  .ok (⟨key, value⟩, rest)

/-- A turn inside a table in braces: an entry, and the comma after it if another entry follows.
The state holds the entries so far, the last one first. -/
def entriesTurn (value : Spot → Reading Tree) (entries : List Entry) (input : Spot) :
    Except Spot (Turn (List Entry) (List Entry)) := do
  let (entry, rest) ← entry value (skipBlanks input)
  let rest := skipBlanks rest
  match rest with
  | ',' :: next =>
      if atName (skipBlanks next) then .ok (.again (entry :: entries) next)
      else .ok (.over (entry :: entries).reverse rest)
  | _ => .ok (.over (entry :: entries).reverse rest)

def braced (value : Spot → Reading Tree) (spot input : Spot) : Except Spot (Tree × Spot) := do
  let start := skipBlanks input
  let (entries, rest) ← if atName start then loop (entriesTurn value) [] start else .ok ([], start)
  match entries.foldlM (fun members entry => define entry members) [] with
  | none => .error input
  | some members => .ok (.table spot (finishMembers members), ← past '\x7d' rest)

/-! ## Values -/

def deepest : Nat := 79

def value (depth : Nat) (input : Spot) : Reading Tree :=
  match depth, input with
  | _, '"' :: _ | _, '\'' :: _ =>
      (string input).map fun (text, rest) => (.leaf input (.text text), rest)
  | depth + 1, '[' :: rest => loop (listTurn (value depth) input) [] rest
  | depth + 1, '\x7b' :: rest => braced (value depth) input rest
  | _, _ => (bareValue input).map fun (value, rest) => (.leaf input value, rest)

/-! ## Files -/

/-- How far the reading of a file has come: the outermost table, and the names in the
header that is in force. -/
structure Progress where
  members : Members
  path : List Name

/-- What a change comes to; if it is not possible, the line is at fault that asks for it. -/
def orFault {α : Type} (line : Spot) (result : Option α) : Except Spot α :=
  match result with
  | some result => .ok result
  | none => .error line

/-- Reads a header that stands at `line`, after its opening brackets, and makes the change that
it asks for. -/
def header (closing : List Char) (change : Name → Members → Option Members)
    (progress : Progress) (line input : Spot) : Except Spot (Turn Progress Members) := do
  let (key, rest) ← key input
  let rest ← if closing.isPrefixOf rest then endLine (rest.drop closing.length) else .error rest
  let members ← orFault line (changeAtHeader key.path (change key.name) progress.members)
  .ok (.again ⟨members, key.path ++ [key.name]⟩ rest)

def fileTurn (progress : Progress) (input : Spot) : Except Spot (Turn Progress Members) :=
  let line := skipBlanks input
  match line with
  | [] => .ok (.over progress.members [])
  | ['['] => .error line
  | '[' :: '[' :: rest => header [']', ']'] (openNext line) progress line rest
  | '[' :: rest => header [']'] (openTable line) progress line rest
  | '#' :: _ | '\n' :: _ | '\r' :: _ => (endLine line).map (.again progress)
  | _ => do
      let (entry, rest) ← entry (value deepest) line
      let rest ← endLine rest
      let members ← orFault line (changeAtHeader progress.path (define entry) progress.members)
      .ok (.again ⟨members, progress.path⟩ rest)

def withoutMark : Spot → Spot
  | '\uFEFF' :: rest => rest
  | input => input

def read (text : String) : Except Spot Tree :=
  let input := text.toList
  (loop fileTurn ⟨[], []⟩ (withoutMark input)).map fun (members, _) =>
    .table input (finishMembers members)

end Entitlement.Toml
