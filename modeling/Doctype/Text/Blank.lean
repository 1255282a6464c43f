import Doctype.Text.Ranges

/-! The Unicode property `White_Space`, and trimming by it. -/
namespace Doctype.Text

/-- The code points with the property `White_Space`. -/
def blankRanges : Ranges := [
  (0x9, 0xD), (0x20, 0x20), (0x85, 0x85), (0xA0, 0xA0), (0x1680, 0x1680), (0x2000, 0x200A),
  (0x2028, 0x2029), (0x202F, 0x202F), (0x205F, 0x205F), (0x3000, 0x3000)]

/-- Blank characters separate tokens and never occur in names. -/
def isBlank (c : Char) : Bool :=
  blankRanges.has c

/-- Drops blanks from the front. -/
def trimLeft (cs : List Char) : List Char :=
  cs.dropWhile isBlank

/-- Drops blanks from the back. -/
def trimRight (cs : List Char) : List Char :=
  (cs.reverse.dropWhile isBlank).reverse

/-- Drops blanks from both ends. -/
def trim (s : String) : String :=
  .ofList (trimRight (trimLeft s.toList))

end Doctype.Text
