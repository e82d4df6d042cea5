import Entitlement.Text.Alphanumeric

/-! # Patterns

A directive may ask for the values of a field by a pattern: a regular expression over single
characters, without classes that need a table of all characters. Nothing is matched here, so
only the shape of patterns matters. A pattern stands between braces, and no brace, comma or
equals sign can be part of it. -/

namespace Entitlement.Logging.Pattern

open Text

/-! ## Escapes -/

/-- What an escape stands for: a character with a code, or a place between characters. -/
inductive Escape where
  | letter (code : Nat)
  | place
deriving DecidableEq

def hexValue? (letter : Char) : Option Nat :=
  if letter.isDigit then some (letter.toNat - 48)
  else if 'a' ≤ letter ∧ letter ≤ 'f' then some (letter.toNat - 87)
  else if 'A' ≤ letter ∧ letter ≤ 'F' then some (letter.toNat - 55)
  else none

def coded? (width : Nat) (letters : List Char) : Option (Escape × List Char) := do
  let digits ← (letters.take width).mapM hexValue?
  let code := digits.foldl (fun code digit => 16 * code + digit) 0
  if digits.length = width ∧ code.isValidChar then some (.letter code, letters.drop width)
  else none

def controls : List (Char × Nat) :=
  [('a', 7), ('f', 12), ('t', 9), ('n', 10), ('r', 13), ('v', 11)]

def escape? : List Char → Option (Escape × List Char)
  | [] => none
  | 'x' :: rest => coded? 2 rest
  | 'u' :: rest => coded? 4 rest
  | 'U' :: rest => coded? 8 rest
  | 'A' :: rest | 'z' :: rest => some (.place, rest)
  | letter :: rest =>
      match controls.lookup letter with
      | some code => some (.letter code, rest)
      | none =>
          if letter.toNat < 128 ∧ ¬ letter.isAlphanum ∧ letter ≠ '<' ∧ letter ≠ '>' then
            some (.letter letter.toNat, rest)
          else none

/-! ## Choices between characters -/

def choiceNames : List String :=
  ["alnum", "alpha", "ascii", "blank", "cntrl", "digit", "graph", "lower", "print", "punct",
    "space", "upper", "word", "xdigit"]

def afterNamed? : List Char → Option (List Char)
  | ':' :: rest =>
      let rest := if rest.head? = some '^' then rest.tail else rest
      match rest.dropWhile (· ≠ ':') with
      | ':' :: ']' :: later =>
          if choiceNames.contains (String.ofList (rest.takeWhile (· ≠ ':'))) then some later
          else none
      | _ => none
  | _ => none

/-- What follows the beginning of a choice, after its bracket: a mark of exclusion, hyphens,
and a closing bracket that comes too early to close anything. -/
def afterOpening (letters : List Char) : List Char :=
  let letters := if letters.head? = some '^' then letters.tail else letters
  let rest := letters.dropWhile (· = '-')
  if rest.length = letters.length ∧ rest.head? = some ']' then rest.tail else rest

def single? : List Char → Option (Nat × List Char)
  | [] => none
  | '\\' :: rest =>
      match escape? rest with
      | some (.letter code, rest) => some (code, rest)
      | _ => none
  | letter :: rest => some (letter.toNat, rest)

/-- A character or a range of characters in a choice; a range does not run backwards. -/
def afterRange? (letters : List Char) : Option (List Char) := do
  let (first, rest) ← single? letters
  match rest with
  | [] | '-' :: ']' :: _ | '-' :: '-' :: _ => some rest
  | '-' :: later =>
      let (last, rest) ← single? later
      if first ≤ last then some rest else none
  | _ => some rest

/-- What follows a choice with `depth` open brackets. It takes no more steps than there are
characters. -/
def afterChoice? : (steps : Nat) → (depth : Nat) → List Char → Option (List Char)
  | 0, _, _ => none
  | steps + 1, depth, letters =>
      match letters with
      | [] => none
      | '[' :: rest =>
          match afterNamed? rest with
          | some rest => afterChoice? steps depth rest
          | none => afterChoice? steps (depth + 1) (afterOpening rest)
      | ']' :: rest => if depth ≤ 1 then some rest else afterChoice? steps (depth - 1) rest
      | '&' :: '&' :: rest | '-' :: '-' :: rest | '~' :: '~' :: rest =>
          afterChoice? steps depth rest
      | letters => (afterRange? letters).bind (afterChoice? steps depth)

/-! ## Groups -/

inductive Opening where
  /-- A group of its own; tells whether the case of letters does not matter in it. -/
  | group (foldsCase : Bool)
  | options (foldsCase : Bool)

structure Options where
  seen : List Char
  negated : Bool
  foldsCase : Bool

def options? (found : Options) : List Char → Option (Opening × List Char)
  | [] => none
  | ':' :: rest => if found.seen.head? = some '-' then none else some (.group found.foldsCase, rest)
  | ')' :: rest =>
      if found.seen.isEmpty || found.seen.head? = some '-' then none
      else some (.options found.foldsCase, rest)
  | letter :: rest =>
      if found.seen.contains letter ∨ ¬ "imsUuRx-".toList.contains letter then none
      else
        let negated := found.negated || letter == '-'
        let foldsCase := if letter = 'i' then !negated else found.foldsCase
        options? ⟨letter :: found.seen, negated, foldsCase⟩ rest

def afterName? (letters : List Char) : Option (List Char) :=
  let name := letters.takeWhile (· ≠ '>')
  let fits (letter : Char) : Bool :=
    isAlphanumeric letter || letter == '_' || letter == '.' || letter == '[' || letter == ']'
  let begins := name.head?.any fun letter =>
    (isAlphanumeric letter && !letter.isDigit) || letter == '_'
  match letters.dropWhile (· ≠ '>') with
  | '>' :: rest => if begins && name.all fits then some rest else none
  | _ => none

def opening? (foldsCase : Bool) : List Char → Option (Opening × List Char)
  | '?' :: '!' :: _ | '?' :: '<' :: '!' :: _ => none
  | '?' :: 'P' :: '<' :: rest | '?' :: '<' :: rest =>
      (afterName? rest).map fun rest => (.group foldsCase, rest)
  | '?' :: rest => options? ⟨[], false, foldsCase⟩ rest
  | rest => some (.group foldsCase, rest)

/-! ## Whole patterns -/

/-- Whether the rest of a pattern is well-formed. `groups` tells for each open group whether
the case of letters matters outside of it, `foldsCase` whether it does here, and `repeatable`
whether there is something to repeat. Case cannot be disregarded where there are letters. -/
def isWellFormed : (steps : Nat) → (groups : List Bool) → (foldsCase repeatable : Bool) →
    List Char → Bool
  | 0, _, _, _, _ => false
  | steps + 1, groups, foldsCase, repeatable, letters =>
      match letters with
      | [] => groups.isEmpty
      | '(' :: rest =>
          match opening? foldsCase rest with
          | some (.group inside, rest) =>
              isWellFormed steps (foldsCase :: groups) inside false rest
          | some (.options inside, rest) => isWellFormed steps groups inside false rest
          | none => false
      | ')' :: rest =>
          match groups with
          | [] => false
          | outside :: groups => isWellFormed steps groups outside true rest
      | '|' :: rest => isWellFormed steps groups foldsCase false rest
      | '[' :: rest =>
          match afterChoice? letters.length 1 (afterOpening rest) with
          | some rest => !foldsCase && isWellFormed steps groups foldsCase true rest
          | none => false
      | '\\' :: rest =>
          match escape? rest with
          | some (.letter _, rest) => !foldsCase && isWellFormed steps groups foldsCase true rest
          | some (.place, rest) => isWellFormed steps groups foldsCase true rest
          | none => false
      | '{' :: _ => false
      | '.' :: rest | '^' :: rest | '$' :: rest => isWellFormed steps groups foldsCase true rest
      | letter :: rest =>
          if letter = '?' ∨ letter = '*' ∨ letter = '+' then
            repeatable && isWellFormed steps groups foldsCase true
              (if rest.head? = some '?' then rest.tail else rest)
          else !foldsCase && isWellFormed steps groups foldsCase true rest

/-! ## Values -/

def afterDigits (letters : List Char) : List Char := letters.dropWhile Char.isDigit

/-- Whether a word is a number without a sign, perhaps with a point and an exponent, or a
word for what is no finite number. -/
def isNumber (letters : List Char) : Bool :=
  let lower := String.ofList (letters.map Char.toLower)
  if lower = "inf" ∨ lower = "infinity" ∨ lower = "nan" then true
  else
    let whole := letters.takeWhile Char.isDigit
    let (fraction, rest) := match afterDigits letters with
      | '.' :: rest => (rest.takeWhile Char.isDigit, afterDigits rest)
      | rest => ([], rest)
    let isExponent := match rest with
      | [] => true
      | letter :: rest =>
          let digits := match rest with
            | '+' :: digits | '-' :: digits => digits
            | digits => digits
          letter.toLower == 'e' && digits != [] && afterDigits digits == []
    (whole != [] || fraction != []) && isExponent

/-- Whether a text stands for values: a pattern, or a number, which is not a pattern if it
begins with a plus. -/
def isValue (text : List Char) : Bool :=
  isWellFormed (text.length + 1) [] false false text ||
    match text with
    | '+' :: number => isNumber number
    | _ => false

end Entitlement.Logging.Pattern
