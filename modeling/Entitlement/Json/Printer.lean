import Entitlement.Json.Basic

/-! # Printing JSON

The compact form has no blanks at all; the indented form has one item or member
a line, two spaces deeper than what it belongs to, and writes an empty list or
object on the spot. Control characters are the only ones that are escaped by
number. -/

namespace Entitlement.Json

def hexDigit (value : Nat) : Char :=
  if value < 10 then Char.ofNat (48 + value) else Char.ofNat (87 + value)

def escape (letter : Char) : List Char :=
  if letter = '"' then ['\\', '"']
  else if letter = '\\' then ['\\', '\\']
  else if letter.toNat = 8 then ['\\', 'b']
  else if letter.toNat = 12 then ['\\', 'f']
  else if letter = '\n' then ['\\', 'n']
  else if letter = '\r' then ['\\', 'r']
  else if letter = '\t' then ['\\', 't']
  else if letter.toNat < 32 then
    ['\\', 'u', '0', '0', hexDigit (letter.toNat / 16), hexDigit (letter.toNat % 16)]
  else [letter]

def quote (text : String) : String :=
  String.ofList ('"' :: text.toList.flatMap escape ++ ['"'])

/-! ## The compact form -/

mutual
def compact : Json → String
  | .null => "null"
  | .bool true => "true"
  | .bool false => "false"
  | .integer value => toString value
  | .decimal literal => literal
  | .text value => quote value
  | .list items => "[" ++ compactItems items ++ "]"
  | .object members => "\x7b" ++ compactMembers members ++ "\x7d"

def compactItems : List Json → String
  | [] => ""
  | [item] => item.compact
  | item :: rest => item.compact ++ "," ++ compactItems rest

def compactMembers : List (String × Json) → String
  | [] => ""
  | [(name, value)] => quote name ++ ":" ++ value.compact
  | (name, value) :: rest => quote name ++ ":" ++ value.compact ++ "," ++ compactMembers rest
end

/-! ## The indented form -/

def lineAt (depth : Nat) : String :=
  "\n" ++ String.ofList (List.replicate (2 * depth) ' ')

mutual
def indented (depth : Nat) : Json → String
  | .list [] => "[]"
  | .list items => "[" ++ indentedItems (depth + 1) items ++ lineAt depth ++ "]"
  | .object [] => "\x7b\x7d"
  | .object members => "\x7b" ++ indentedMembers (depth + 1) members ++ lineAt depth ++ "\x7d"
  | .null => "null"
  | .bool true => "true"
  | .bool false => "false"
  | .integer value => toString value
  | .decimal literal => literal
  | .text value => quote value

def indentedItems (depth : Nat) : List Json → String
  | [] => ""
  | [item] => lineAt depth ++ item.indented depth
  | item :: rest => lineAt depth ++ item.indented depth ++ "," ++ indentedItems depth rest

def indentedMembers (depth : Nat) : List (String × Json) → String
  | [] => ""
  | [(name, value)] => lineAt depth ++ quote name ++ ": " ++ value.indented depth
  | (name, value) :: rest =>
      lineAt depth ++ quote name ++ ": " ++ value.indented depth ++ "," ++
        indentedMembers depth rest
end

def pretty (value : Json) : String :=
  value.indented 0

end Entitlement.Json
