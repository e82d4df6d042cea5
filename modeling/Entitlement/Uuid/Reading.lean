import Entitlement.Uuid.Basic

/-! # Reading identifiers

Four spellings are accepted, with digits of either case: 32 digits; the
hyphenated form; the hyphenated form in braces; and the hyphenated form after
`urn:uuid:`. A text in no such spelling is diagnosed: the diagnosis names the
first thing wrong with it, counting in bytes. -/

namespace Entitlement.Uuid

/-! ## Accepted spellings -/

def ofDigits? (digits : List (Fin 16)) : Option Uuid :=
  if h : digits.length = 32 then some ⟨digits, h⟩ else none

def ofPlain? (letters : List Char) : Option Uuid :=
  (letters.mapM digitValue?).bind ofDigits?

def ofHyphenated? (letters : List Char) : Option Uuid :=
  if letters.length = 36 ∧ letters[8]? = some '-' ∧ letters[13]? = some '-' ∧
      letters[18]? = some '-' ∧ letters[23]? = some '-' then
    ofPlain? (letters.take 8 ++ (letters.drop 9).take 4 ++ (letters.drop 14).take 4 ++
      (letters.drop 19).take 4 ++ letters.drop 24)
  else
    none

def unbraced? : List Char → Option (List Char)
  | '{' :: rest => if rest.getLast? = some '}' then some rest.dropLast else none
  | _ => none

def afterUrn? (letters : List Char) : Option (List Char) :=
  if (letters.take 9).map Char.toLower = "urn:uuid:".toList then some (letters.drop 9) else none

def ofLetters? (letters : List Char) : Option Uuid :=
  ofPlain? letters <|> ofHyphenated? letters <|> (unbraced? letters).bind ofHyphenated? <|>
    (afterUrn? letters).bind ofHyphenated?

/-! ## Diagnosis -/

inductive Misspelling where
  | length (found : Nat)
  | character (found : Char) (position : Nat)
  | groupCount (found : Nat)
  | groupLength (group expected found : Nat)
deriving DecidableEq

def Misspelling.message : Misspelling → String
  | .length found => s!"invalid length: found {found}"
  | .character found position => s!"invalid character: found `{found}` at {position}"
  | .groupCount found => s!"invalid group count: expected 5, found {found}"
  | .groupLength group expected found =>
      s!"invalid group length in group {group}: expected {expected}, found {found}"

def byteLength (letters : List Char) : Nat :=
  letters.foldl (fun total letter => total + letter.utf8Size) 0

inductive Form where
  | unknown
  | hyphenated
  | braced
  | urn
deriving DecidableEq

/-- The part of a text that is examined: `letters` start at byte `start` of the
text and are taken for the given form; `total` is the length that the last group
is measured against. -/
structure Examined where
  letters : List Char
  form : Form
  start : Nat
  total : Nat

/-- Strips the wrapping that the text seems to have. A wrapping around exactly
36 bytes is not counted in positions, any other is. -/
def examined (letters : List Char) : Examined :=
  let total := byteLength letters
  let exact (inner : List Char) : Examined := ⟨inner, .hyphenated, 0, 36⟩
  match total, unbraced? letters, afterUrn? letters with
  | 36, _, _ => exact letters
  | 38, some inner, _ => exact inner
  | 45, _, some inner => exact inner
  | _, some inner, _ => ⟨inner, .braced, 1, total⟩
  | _, none, some inner => ⟨inner, .urn, 9, total⟩
  | _, none, none => ⟨letters, .unknown, 0, total⟩

/-- Looks for a character that is neither a digit nor a hyphen, collecting the
positions of hyphens on the way. -/
def scanHyphens (start position : Nat) : List Char → Except Misspelling (List Nat)
  | [] => .ok []
  | letter :: rest =>
      if letter = '-' then
        (scanHyphens start (position + 1) rest).map (position :: ·)
      else if (digitValue? letter).isSome then
        scanHyphens start (position + 1) rest
      else
        .error (.character letter (start + position))

/-- The groups before a hyphen: where each starts and where its hyphen belongs. -/
def groupPlaces : List (Nat × Nat × Nat) :=
  [(0, 0, 8), (1, 9, 13), (2, 14, 18), (3, 19, 23)]

def diagnose (letters : List Char) : Misspelling :=
  let total := byteLength letters
  if total = 0 ∨ 45 < total then .length total
  else
    let part := examined letters
    match scanHyphens part.start 0 part.letters with
    | .error misspelling => misspelling
    | .ok hyphens =>
        if part.form = .unknown ∧ hyphens = [] then .length total
        else if hyphens.length ≠ 4 then .groupCount (hyphens.length + 1)
        else
          match (groupPlaces.zip hyphens).find? fun (place, hyphen) => hyphen ≠ place.2.2 with
          | some ((group, first, expected), hyphen) =>
              .groupLength group (expected - first) (hyphen - first)
          | none => .groupLength 4 12 (part.total - 24)

/-! ## Reading -/

def read (text : String) : Except Misspelling Uuid :=
  match ofLetters? text.toList with
  | some uuid => .ok uuid
  | none => .error (diagnose text.toList)

def ofText? (text : String) : Option Uuid :=
  ofLetters? text.toList

end Entitlement.Uuid
