import Entitlement.Toml.Scan

/-! # Strings and keys

Strings stand in quotation marks, where a backslash begins an escape, or in
apostrophes, where every character stands for itself. Tripled marks enclose several
lines. A key is a row of names with dots between them; a name is a string on one line,
or a bare word. -/

namespace Entitlement.Toml

/-! ## Escapes -/

def hexDigit? (letter : Char) : Option Nat :=
  if letter.isDigit then some (letter.toNat - 48)
  else if 'a' ≤ letter ∧ letter ≤ 'f' then some (letter.toNat - 87)
  else if 'A' ≤ letter ∧ letter ≤ 'F' then some (letter.toNat - 55)
  else none

def coded (width : Nat) (input : Spot) : Reading Char :=
  match (input.take width).mapM hexDigit? with
  | some digits =>
      let code := digits.foldl (fun value digit => 16 * value + digit) 0
      if digits.length = width ∧ code.isValidChar then .ok (Char.ofNat code, input.drop width)
      else .error input
  | none => .error input

def escapes : List (Char × Char) :=
  [('b', '\x08'), ('t', '\t'), ('n', '\n'), ('f', '\x0c'), ('r', '\r'), ('"', '"'), ('\\', '\\')]

/-- The character that an escape stands for. The text begins behind the backslash, at
`start`. An unknown letter is passed over before the place is reported, unless it takes
several bytes. -/
def escape (start : Spot) : Spot → Reading Char
  | [] => .error start
  | 'u' :: rest => coded 4 rest
  | 'U' :: rest => coded 8 rest
  | letter :: rest =>
      match escapes.lookup letter with
      | some meant => .ok (meant, rest)
      | none => .error (if letter.utf8Size = 1 then rest else letter :: rest)

/-! ## Strings

Each turn reads a character or the closing mark; the state holds the characters so far,
the last one first. -/

abbrev StringTurn := Except Spot (Turn (List Char) String)

def close (text : List Char) (rest : Spot) : StringTurn :=
  .ok (.over (String.ofList text.reverse) rest)

def plain (text : List Char) (input : Spot) : StringTurn :=
  match input with
  | letter :: rest => if isPlain letter then .ok (.again (letter :: text) rest) else .error input
  | [] => .error []

def escaped (text : List Char) (input : Spot) : StringTurn :=
  (escape input input.tail).map fun (letter, rest) => .again (letter :: text) rest

def basicTurn (text : List Char) (input : Spot) : StringTurn :=
  match input with
  | '"' :: rest => close text rest
  | '\\' :: _ => escaped text input
  | _ => plain text input

def literalTurn (text : List Char) (input : Spot) : StringTurn :=
  match input with
  | '\'' :: rest => close text rest
  | _ => plain text input

def lineTurn (text : List Char) (input : Spot) : StringTurn :=
  match afterNewline? input with
  | some rest => .ok (.again ('\n' :: text) rest)
  | none => plain text input

def skipLines : Spot → Spot
  | ' ' :: rest => skipLines rest
  | '\t' :: rest => skipLines rest
  | '\n' :: rest => skipLines rest
  | '\r' :: '\n' :: rest => skipLines rest
  | rest => rest

/-- A turn inside tripled quotation marks, away from all marks. A backslash at the end of a
line hides the line end and all blank space after it. -/
def basicLineTurn (text : List Char) (input : Spot) : StringTurn :=
  match input with
  | '\\' :: rest =>
      match afterNewline? (skipBlanks rest) with
      | some rest => .ok (.again text (skipLines rest))
      | none => escaped text input
  | _ => lineTurn text input

/-- A turn inside tripled marks. Up to two marks before the last three belong to the string.
Fewer than three marks are part of it only if it goes on behind them; otherwise they are at
fault, except before an escape that is none. -/
def tripledTurn (mark : Char) (turn : List Char → Spot → StringTurn) (text : List Char)
    (input : Spot) : StringTurn :=
  let marks := (input.take 5).takeWhile (· = mark)
  let rest := input.drop marks.length
  if 3 ≤ marks.length then close (marks.drop 3 ++ text) rest
  else
    match turn text rest with
    | .ok next => .ok (if marks = [] then next else .again (marks ++ text) rest)
    | .error spot =>
        if marks = [] then .error spot
        else if mark = '"' ∧ rest.head? = some '\\' ∧ rest.tail ≠ [] then .error rest
        else .error input

def skipNewline (input : Spot) : Spot :=
  (afterNewline? input).getD input

def string : Spot → Reading String
  | '"' :: '"' :: '"' :: rest => loop (tripledTurn '"' basicLineTurn) [] (skipNewline rest)
  | '"' :: rest => loop basicTurn [] rest
  | '\'' :: '\'' :: '\'' :: rest => loop (tripledTurn '\'' lineTurn) [] (skipNewline rest)
  | '\'' :: rest => loop literalTurn [] rest
  | input => .error input

/-! ## Keys -/

structure Name where
  text : String
  spot : Spot

def isBare (letter : Char) : Bool :=
  letter.isAlphanum || letter == '_' || letter == '-'

def atName (input : Spot) : Bool :=
  input.head?.any fun letter => letter == '"' || letter == '\'' || isBare letter

def name (input : Spot) : Reading Name :=
  match input with
  | '"' :: rest => (loop basicTurn [] rest).map fun (text, rest) => (⟨text, input⟩, rest)
  | '\'' :: rest => (loop literalTurn [] rest).map fun (text, rest) => (⟨text, input⟩, rest)
  | _ =>
      if atName input then
        .ok (⟨String.ofList (input.takeWhile isBare), input⟩, input.dropWhile isBare)
      else .error input

structure Key where
  path : List Name
  name : Name

def longestKey : Nat := 79

/-- A turn in a key: a name, and the dot after it if another name follows. The state holds
the names so far, the last one first. -/
def keyTurn (names : List Name) (input : Spot) : Except Spot (Turn (List Name) Key) := do
  let (name, rest) ← name (skipBlanks input)
  let rest := skipBlanks rest
  match rest with
  | '.' :: next =>
      if atName (skipBlanks next) then .ok (.again (name :: names) next)
      else .ok (.over ⟨names.reverse, name⟩ rest)
  | _ => .ok (.over ⟨names.reverse, name⟩ rest)

def key (input : Spot) : Except Spot (Key × Spot) := do
  let (found, rest) ← loop keyTurn [] input
  if found.path.length < longestKey then .ok (found, rest) else .error input

end Entitlement.Toml
