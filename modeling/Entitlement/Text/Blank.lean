/-! # Blank characters

The characters with the Unicode property White_Space, and texts without them at
either end. -/

namespace Entitlement.Text

def blankRuns : List (Nat × Nat) := [
  (0x0009, 0x000D), (0x0020, 0x0020), (0x0085, 0x0085), (0x00A0, 0x00A0), (0x1680, 0x1680),
  (0x2000, 0x200A), (0x2028, 0x2029), (0x202F, 0x202F), (0x205F, 0x205F), (0x3000, 0x3000)]

def isBlank (letter : Char) : Bool :=
  blankRuns.any fun run => run.1 ≤ letter.toNat && letter.toNat ≤ run.2

def trimList (letters : List Char) : List Char :=
  ((letters.dropWhile isBlank).reverse.dropWhile isBlank).reverse

def trim (text : String) : String :=
  String.ofList (trimList text.toList)

end Entitlement.Text
