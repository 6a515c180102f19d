import QueryScope.Text.InversionList

/-!
# Blanks

The characters that only separate: the white space of Unicode and the two marks that set the
direction of a text.
-/
namespace QueryScope.Text

def blankBounds : List Nat :=
  [0x9, 0xe, 0x20, 0x21, 0x85, 0x86, 0xa0, 0xa1, 0x1680, 0x1681, 0x2000, 0x200b, 0x200e, 0x2010,
   0x2028, 0x202a, 0x202f, 0x2030, 0x205f, 0x2060, 0x3000, 0x3001]

def isBlank (c : Char) : Bool := InversionList.contains blankBounds c.toNat

end QueryScope.Text
