/-! # Pieces of a text

A text falls into pieces at each occurrence of a separator. -/

namespace Entitlement.Text

def pieces (separator : Char) : List Char → List (List Char)
  | [] => [[]]
  | letter :: rest =>
      if letter = separator then [] :: pieces separator rest
      else (pieces separator rest).modifyHead (letter :: ·)

end Entitlement.Text
