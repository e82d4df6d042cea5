import Entitlement.Json.Basic

/-! # Reading JSON

A text is cut into tokens, and the tokens are put together on a stack of
unfinished lists and objects. Where a name occurs twice in an object, the later
value stands. -/

namespace Entitlement.Json

/-! ## Tokens -/

inductive Token where
  | openList
  | closeList
  | openObject
  | closeObject
  | comma
  | colon
  | scalar (value : Json)

def dropDigits (letters : List Char) : Bool × List Char :=
  (letters.head?.any Char.isDigit, letters.dropWhile Char.isDigit)

/-- Whether a word is a number: a whole part without a leading zero, then perhaps
a fraction and an exponent. -/
def isNumber (word : List Char) : Bool :=
  let unsigned := match word with
    | '-' :: rest => rest
    | _ => word
  let (hasWhole, afterWhole) := dropDigits unsigned
  let leadingZero := match unsigned with
    | '0' :: next :: _ => next.isDigit
    | _ => false
  let (fractionFits, afterFraction) := match afterWhole with
    | '.' :: rest => dropDigits rest
    | rest => (true, rest)
  let (exponentFits, afterExponent) := match afterFraction with
    | letter :: rest =>
        if letter = 'e' ∨ letter = 'E' then
          match rest with
          | '+' :: digits => dropDigits digits
          | '-' :: digits => dropDigits digits
          | digits => dropDigits digits
        else (true, letter :: rest)
    | [] => (true, [])
  hasWhole && !leadingZero && fractionFits && exponentFits && afterExponent.isEmpty

def wholeValue (digits : List Char) : Nat :=
  digits.foldl (fun value digit => 10 * value + (digit.toNat - 48)) 0

/-- The number a word denotes. Only a whole number of 64 bits is an integer;
minus zero is not one. -/
def numberOf (word : List Char) : Json :=
  let whole? : Option Int := match word with
    | '-' :: digits =>
        if digits.all Char.isDigit ∧ wholeValue digits ≠ 0 then some (-(wholeValue digits : Int))
        else none
    | digits => if digits.all Char.isDigit then some (wholeValue digits) else none
  match whole? with
  | some value =>
      if Width.minSigned64 ≤ value ∧ value ≤ Width.max64 then .integer value
      else .decimal (String.ofList word)
  | none => .decimal (String.ofList word)

def scalarOf? (word : List Char) : Option Json :=
  if word = "null".toList then some .null
  else if word = "true".toList then some (.bool true)
  else if word = "false".toList then some (.bool false)
  else if isNumber word then some (numberOf word)
  else none

def endWord (before : List Token) (word : List Char) : Option (List Token) :=
  match word with
  | [] => some before
  | _ => (scalarOf? word.reverse).map fun value => .scalar value :: before

def hexValue? (letters : List Char) : Option Nat :=
  letters.foldlM (fun value letter =>
    if letter.isDigit then some (16 * value + (letter.toNat - 48))
    else if 'a' ≤ letter ∧ letter ≤ 'f' then some (16 * value + (letter.toNat - 87))
    else if 'A' ≤ letter ∧ letter ≤ 'F' then some (16 * value + (letter.toNat - 55))
    else none) 0

def unescape? : Char → Option Char
  | '"' => some '"'
  | '\\' => some '\\'
  | '/' => some '/'
  | 'b' => some (Char.ofNat 8)
  | 'f' => some (Char.ofNat 12)
  | 'n' => some '\n'
  | 'r' => some '\r'
  | 't' => some '\t'
  | _ => none

mutual
/-- Cuts a text into tokens. `before` holds the tokens so far and `word` the
letters of an unfinished bare word, both reversed. -/
def cut (before : List Token) (word : List Char) : List Char → Option (List Token)
  | [] => (endWord before word).map List.reverse
  | letter :: rest =>
      if letter.isAlphanum || letter == '-' || letter == '+' || letter == '.' then
        cut before (letter :: word) rest
      else
        match endWord before word with
        | none => none
        | some before =>
            match letter with
            | '[' => cut (.openList :: before) [] rest
            | ']' => cut (.closeList :: before) [] rest
            | '\x7b' => cut (.openObject :: before) [] rest
            | '\x7d' => cut (.closeObject :: before) [] rest
            | ',' => cut (.comma :: before) [] rest
            | ':' => cut (.colon :: before) [] rest
            | '"' => cutQuoted before [] none rest
            | ' ' => cut before [] rest
            | '\n' => cut before [] rest
            | '\r' => cut before [] rest
            | '\t' => cut before [] rest
            | _ => none

/-- Reads on inside quotation marks. `high` is the first half of a character
that is written as two escapes. -/
def cutQuoted (before : List Token) (text : List Char) (high : Option Nat) :
    List Char → Option (List Token)
  | [] => none
  | '\\' :: 'u' :: first :: second :: third :: fourth :: rest =>
      match hexValue? [first, second, third, fourth], high with
      | none, _ => none
      | some code, some half =>
          if 0xDC00 ≤ code ∧ code < 0xE000 then
            let letter := Char.ofNat (0x10000 + (half - 0xD800) * 0x400 + (code - 0xDC00))
            cutQuoted before (letter :: text) none rest
          else none
      | some code, none =>
          if 0xD800 ≤ code ∧ code < 0xDC00 then cutQuoted before text (some code) rest
          else if 0xDC00 ≤ code ∧ code < 0xE000 then none
          else cutQuoted before (Char.ofNat code :: text) none rest
  | '\\' :: letter :: rest =>
      match unescape? letter, high with
      | some meant, none => cutQuoted before (meant :: text) none rest
      | _, _ => none
  | letter :: rest =>
      if high.isSome || letter.toNat < 32 || letter == '\\' then none
      else if letter = '"' then
        cut (.scalar (.text (String.ofList text.reverse)) :: before) [] rest
      else cutQuoted before (letter :: text) none rest
end

/-! ## Values -/

inductive Frame where
  | list (items : List Json)
  | object (members : List (String × Json)) (name : String)

inductive Expected where
  | value
  | valueOrEnd
  | name
  | nameOrEnd
  | colon
  | commaOrEnd
  | nothing (result : Json)

structure Assembly where
  frames : List Frame
  expected : Expected

def putMember (name : String) (value : Json) (members : List (String × Json)) :
    List (String × Json) :=
  if members.any (·.1 == name) then
    members.map fun entry => if entry.1 == name then (name, value) else entry
  else
    (name, value) :: members

def Assembly.finish (value : Json) : List Frame → Assembly
  | [] => ⟨[], .nothing value⟩
  | .list items :: below => ⟨.list (value :: items) :: below, .commaOrEnd⟩
  | .object members name :: below =>
      ⟨.object (putMember name value members) "" :: below, .commaOrEnd⟩

def Assembly.step (assembly : Assembly) (token : Token) : Option Assembly :=
  match token, assembly.expected, assembly.frames with
  | .openList, .value, frames => some ⟨.list [] :: frames, .valueOrEnd⟩
  | .openList, .valueOrEnd, frames => some ⟨.list [] :: frames, .valueOrEnd⟩
  | .openObject, .value, frames => some ⟨.object [] "" :: frames, .nameOrEnd⟩
  | .openObject, .valueOrEnd, frames => some ⟨.object [] "" :: frames, .nameOrEnd⟩
  | .scalar value, .value, frames => some (finish value frames)
  | .scalar value, .valueOrEnd, frames => some (finish value frames)
  | .scalar (.text name), .name, .object members _ :: below =>
      some ⟨.object members name :: below, .colon⟩
  | .scalar (.text name), .nameOrEnd, .object members _ :: below =>
      some ⟨.object members name :: below, .colon⟩
  | .colon, .colon, frames => some ⟨frames, .value⟩
  | .comma, .commaOrEnd, .list items :: below => some ⟨.list items :: below, .value⟩
  | .comma, .commaOrEnd, .object members name :: below =>
      some ⟨.object members name :: below, .name⟩
  | .closeList, .valueOrEnd, .list items :: below => some (finish (.list items.reverse) below)
  | .closeList, .commaOrEnd, .list items :: below => some (finish (.list items.reverse) below)
  | .closeObject, .nameOrEnd, .object members _ :: below =>
      some (finish (.object members.reverse) below)
  | .closeObject, .commaOrEnd, .object members _ :: below =>
      some (finish (.object members.reverse) below)
  | _, _, _ => none

def read? (text : String) : Option Json := do
  let tokens ← cut [] [] text.toList
  let assembly ← tokens.foldlM Assembly.step ⟨[], .value⟩
  match assembly.expected with
  | .nothing result => some result
  | _ => none

end Entitlement.Json
