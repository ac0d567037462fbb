/-
This file says which characters are blank: those with the White_Space property.
A reader that tolerates blanks around a text skips exactly these.
-/

namespace ServerMonitor.Text

/-- The code points with the White_Space property, as inclusive ranges. -/
def blankRanges : List (Nat × Nat) := [
  (0x09, 0x0d), (0x20, 0x20), (0x85, 0x85), (0xa0, 0xa0), (0x1680, 0x1680), (0x2000, 0x200a),
  (0x2028, 0x2029), (0x202f, 0x202f), (0x205f, 0x205f), (0x3000, 0x3000)]

def isBlank (character : Char) : Bool :=
  blankRanges.any fun range => range.1 ≤ character.toNat && character.toNat ≤ range.2

/-- The text without the blanks it starts with. -/
def skipBlanks (characters : List Char) : List Char := characters.dropWhile isBlank

end ServerMonitor.Text
