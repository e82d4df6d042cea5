import Entitlement.Text.Blank
import Entitlement.Text.UpperCase

/-! # Keys of titles

A role is known by a key that follows from its title: the words of the title in
upper case, joined by underscores. Blanks, hyphens and underscores all separate
words. -/

namespace Entitlement.Title

open Entitlement.Text

def isSeparator (letter : Char) : Bool :=
  isBlank letter || letter == '-' || letter == '_'

/-! ## One pass over the title -/

/-- Writes the key in one pass. `written` tells that the key has a letter
already, `separated` that a separator has been passed since the last letter. -/
def writeKey (written separated : Bool) : List Char → List Char
  | [] => []
  | letter :: rest =>
      if isSeparator letter then
        writeKey written true rest
      else
        (if written && separated then ['_'] else []) ++ upperCase letter ++
          writeKey true false rest

def key (title : String) : String :=
  String.ofList (writeKey false false title.toList)

/-! ## The words of a title -/

def words : List Char → List (List Char)
  | [] => []
  | letter :: rest =>
      if isSeparator letter then
        words rest
      else
        match rest with
        | [] => [[letter]]
        | next :: _ =>
            if isSeparator next then
              [letter] :: words rest
            else
              match words rest with
              | [] => [[letter]]
              | word :: others => (letter :: word) :: others

def joinWords (titleWords : List (List Char)) : List Char :=
  List.intercalate ['_'] (titleWords.map (·.flatMap upperCase))

end Entitlement.Title
