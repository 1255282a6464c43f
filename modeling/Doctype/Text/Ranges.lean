/-! Sets of characters as lists of code point ranges. -/
namespace Doctype.Text

/-- Inclusive ranges of code points in ascending order. -/
abbrev Ranges := List (Nat × Nat)

/-- A character is in the set when one of the ranges covers its code point. -/
def Ranges.has (ranges : Ranges) (c : Char) : Bool :=
  ranges.any fun r => r.1 ≤ c.toNat && c.toNat ≤ r.2

end Doctype.Text
