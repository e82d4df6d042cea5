import Entitlement.Logging.Level
import Entitlement.Logging.Pattern
import Entitlement.Text.Blank
import Entitlement.Text.Pieces

/-! # Log directives

A directive sets how much is logged: everywhere, for one part of the program, or only within
certain spans of its work. It is written as a level, or as a target with a level after an
equals sign. Between the two, brackets may hold the name of a span and, in braces, a field
of the span, with a value that is asked for. Without a level, everything is logged.

A directive is read letter by letter, without the blanks at its ends; where its parts begin
and end is counted in bytes. The parts are then taken from the text with its blanks, at these
same counts. So blanks in front shift every part, and a count may even fall into the middle
of a wide blank. -/

namespace Entitlement.Logging

open Text

/-! ## Directives -/

structure FieldFilter where
  name : String
  value : Option String
deriving DecidableEq

structure Directive where
  level : Level := .trace
  target : Option String := none
  span : Option String := none
  fields : List FieldFilter := []
deriving DecidableEq

inductive DirectiveFault where
  | malformed
  | unknownLevel
  | badPattern
  | splitCharacter
deriving DecidableEq

def DirectiveFault.message : DirectiveFault → String
  | malformed => "invalid filter directive"
  | unknownLevel => "error parsing level filter: expected one of \"off\", \"error\", \"warn\", " ++
      "\"info\", \"debug\", \"trace\", or a number 0-5"
  | badPattern => "invalid field filter: error building NFA"
  | splitCharacter => "a part of a directive ends within a character"

def Directive.asksValue (directive : Directive) : Bool :=
  directive.fields.any (·.value.isSome)

/-- The most that may be logged because of a directive. Values are known too late, so a
directive that asks for one lets everything through at first. -/
def Directive.reach (directive : Directive) : Level :=
  if directive.asksValue then .trace else directive.level

/-! ## Parts of a text -/

/-- What is left of a text after its first `count` bytes, unless these end within a
character. -/
def dropBytes? : (count : Nat) → List Char → Option (List Char)
  | 0, letters => some letters
  | _ + 1, [] => none
  | count + 1, letter :: rest =>
      if letter.utf8Size ≤ count + 1 then dropBytes? (count + 1 - letter.utf8Size) rest else none

/-- The first `count` bytes of a text, unless these end within a character. -/
def takeBytes? : (count : Nat) → List Char → Option (List Char)
  | 0, _ => some []
  | _ + 1, [] => none
  | count + 1, letter :: rest =>
      if letter.utf8Size ≤ count + 1 then
        (takeBytes? (count + 1 - letter.utf8Size) rest).map (letter :: ·)
      else none

def part (text : List Char) (first : Nat) (last : Option Nat) :
    Except DirectiveFault (List Char) :=
  let found := do
    let rest ← dropBytes? first text
    match last with
    | some last => takeBytes? (last - first) rest
    | none => some rest
  match found with
  | some letters => .ok letters
  | none => .error .splitCharacter

/-! ## Reading -/

/-- Where in a directive its reader is, with the count of bytes at which the part that is
being read begins. -/
inductive Stage where
  | start
  | word (first : Nat)
  | span (first : Nat)
  | field (first : Nat)
  | fields
  | target
  | level (first : Nat)
deriving DecidableEq

/-- A field and the value after its first equals sign; a second sign ends the value. -/
def FieldFilter.read (letters : List Char) : Except DirectiveFault FieldFilter :=
  match pieces '=' letters with
  | name :: value :: _ =>
      if Pattern.isValue value then .ok ⟨String.ofList name, some (String.ofList value)⟩
      else .error .badPattern
  | _ => .ok ⟨String.ofList letters, none⟩

def mayBegin (letter : Char) : Bool :=
  isAlphanumeric letter || letter == '-' || letter == ':' || letter == '_'

def Directive.step (text : List Char) (stage : Stage) (directive : Directive) (count : Nat)
    (letter : Char) : Except DirectiveFault (Stage × Directive) := do
  let next := count + letter.utf8Size
  match stage with
  | .start =>
      if letter = '[' then return (.span next, directive)
      else if mayBegin letter then return (.word count, directive)
      else throw .malformed
  | .word first =>
      if letter = '=' ∨ letter = '[' then
        let target := String.ofList (← part text first (some count))
        return (if letter = '=' then .level next else .span next, { directive with target })
      else return (.word first, directive)
  | .span first =>
      if letter = ']' ∨ letter = '{' then
        let name := String.ofList (← part text first (some count))
        let span := if letter = '{' ∧ name.isEmpty then none else some name
        return (if letter = '{' then .field next else .target, { directive with span })
      else return (.span first, directive)
  | .field first =>
      if letter = '}' then
        let letters ← part text first (some count)
        if letters = [] then throw .malformed
        let field ← FieldFilter.read letters
        return (.fields, { directive with fields := directive.fields ++ [field] })
      else return (.field first, directive)
  | .fields => if letter = ']' then return (.target, directive) else throw .malformed
  | .target => if letter = '=' then return (.level next, directive) else throw .malformed
  | .level first => return (.level first, directive)

def Directive.walk (text : List Char) (stage : Stage) (directive : Directive) (count : Nat) :
    List Char → Except DirectiveFault (Stage × Directive)
  | [] => .ok (stage, directive)
  | letter :: rest => do
      let (stage, directive) ← step text stage directive count letter
      walk text stage directive (count + letter.utf8Size) rest

/-- What a directive comes to where it ends. A word that is no level is a target. -/
def Directive.close (text : List Char) (stage : Stage) (directive : Directive) :
    Except DirectiveFault Directive := do
  match stage with
  | .word first =>
      let word := String.ofList (← part text first none)
      match Level.ofWord? word with
      | some level => return { directive with level }
      | none => return { directive with target := some word }
  | .level first =>
      let word := String.ofList (← part text first none)
      if word.isEmpty then return directive
      else
        match Level.ofWord? word with
        | some level => return { directive with level }
        | none => throw .unknownLevel
  | .target => return directive
  | .start | .span _ | .field _ | .fields => throw .malformed

def Directive.read (text : List Char) : Except DirectiveFault Directive := do
  let (stage, directive) ← walk text .start {} 0 (trimList text)
  close text stage directive

end Entitlement.Logging
