/-!
# Blank characters

Configuration text is cut into fields at blank characters.  Blank means the
Unicode property `White_Space`: the ASCII blanks, the next-line control and
the space separators, and neither the zero width space nor the byte order
mark.
-/

namespace CausalCast.Text

/-- The code points with the property `White_Space`, as closed ranges. -/
def blankRanges : List (Nat × Nat) :=
  [(0x9, 0xD), (0x20, 0x20), (0x85, 0x85), (0xA0, 0xA0), (0x1680, 0x1680),
   (0x2000, 0x200A), (0x2028, 0x2029), (0x202F, 0x202F), (0x205F, 0x205F),
   (0x3000, 0x3000)]

/-- A character is blank when one of the ranges covers its code point. -/
def isBlank (character : Char) : Bool :=
  blankRanges.any fun range =>
    range.1 ≤ character.toNat && character.toNat ≤ range.2

end CausalCast.Text
