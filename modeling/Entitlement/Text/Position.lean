/-! # Positions

Where in a text something is: its line, and its column on that line, both counted from
one. -/

namespace Entitlement

structure Position where
  line : Nat
  column : Nat
deriving DecidableEq

namespace Position

def lineBefore (before : List Char) : List Char :=
  (before.reverse.takeWhile (· ≠ '\n')).reverse

def linesBefore (before : List Char) : Nat :=
  before.count '\n'

def byteCount (letters : List Char) : Nat :=
  letters.foldl (fun count letter => count + letter.utf8Size) 0

/-- The position in a text of the place where `rest` begins. The end of a text is the place
behind its last letter, on the same line as that letter, even if the letter ends the line.
Columns are counted in letters; only the column of a letter of several bytes is counted in
bytes. -/
def of (text rest : List Char) : Position :=
  let before := text.take (text.length - rest.length)
  match rest with
  | letter :: _ =>
      let line := lineBefore before
      let passed := if letter.utf8Size = 1 then line.length else byteCount line
      ⟨linesBefore before + 1, passed + 1⟩
  | [] =>
      let before := before.dropLast
      ⟨linesBefore before + 1, (lineBefore before).length + if text = [] then 1 else 2⟩

end Position
end Entitlement
