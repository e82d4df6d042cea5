/-! # Scanning

A reader takes what it understands off the front of a text and returns the rest, or the
place where it cannot go on. Loops go on for as long as the rest gets shorter. -/

namespace Entitlement.Toml

/-! ## Readers -/

abbrev Spot := List Char

/-- What reading comes to: something, and the place behind it; or the place that is at
fault. -/
abbrev Reading (α : Type) := Except Spot (α × Spot)

inductive Turn (σ α : Type) where
  | again (state : σ) (rest : Spot)
  | over (result : α) (rest : Spot)

/-- Takes turns until one of them is the last. A turn that consumes nothing and is not
the last is a failure. -/
def loop {σ α : Type} (turn : σ → Spot → Except Spot (Turn σ α)) (state : σ) (input : Spot) :
    Reading α :=
  match turn state input with
  | .error spot => .error spot
  | .ok (.over result rest) => .ok (result, rest)
  | .ok (.again state rest) =>
      if rest.length < input.length then loop turn state rest else .error input
termination_by input.length

def past (expected : Char) : Spot → Except Spot Spot
  | [] => .error []
  | letter :: rest => if letter = expected then .ok rest else .error (letter :: rest)

/-! ## Blanks and lines -/

def isPlain (letter : Char) : Bool :=
  letter == '\t' || (32 ≤ letter.toNat && letter.toNat ≠ 127)

def skipBlanks (input : Spot) : Spot :=
  input.dropWhile fun letter => letter == ' ' || letter == '\t'

def afterNewline? : Spot → Option Spot
  | '\n' :: rest => some rest
  | '\r' :: '\n' :: rest => some rest
  | _ => none

def skipComment (input : Spot) : Spot :=
  match input with
  | '#' :: rest => rest.dropWhile isPlain
  | _ => input

/-- Drops blanks and a comment; then the line, or the text, has to end. Returns what
follows the line. -/
def endLine (input : Spot) : Except Spot Spot :=
  match skipComment (skipBlanks input) with
  | [] => .ok []
  | rest =>
      match afterNewline? rest with
      | some rest => .ok rest
      | none => .error rest

/-- A turn through what may stand between the items of a list: blanks, and an end of a line
with a comment before it. A comment must not be the end of the text. -/
def fillerTurn (_ : Unit) (input : Spot) : Except Spot (Turn Unit Unit) :=
  match skipBlanks input with
  | '#' :: rest => endFiller (rest.dropWhile isPlain)
  | '\n' :: rest => .ok (.again () rest)
  | '\r' :: rest => endFiller ('\r' :: rest)
  | rest => .ok (.over () rest)
where
  /-- Goes past the end of a line. What stands there instead is passed over before the place
  is reported. -/
  endFiller (input : Spot) : Except Spot (Turn Unit Unit) :=
    match afterNewline? input with
    | some rest => .ok (.again () rest)
    | none => .error input.tail

def skipFiller (input : Spot) : Except Spot Spot :=
  (loop fillerTurn () input).map (·.2)

end Entitlement.Toml
