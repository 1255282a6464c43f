/-! Positions in a text, and locations in a named source. -/
namespace Doctype

/-- Lines and columns count from one. -/
structure Position where
  line : Nat
  column : Nat
deriving DecidableEq, Repr

/-- Where every source begins. -/
def Position.start : Position := ⟨1, 1⟩

/-- A line feed starts the next line; any other character takes one column. -/
def Position.step (p : Position) (c : Char) : Position :=
  if c = '\n' then ⟨p.line + 1, 1⟩ else ⟨p.line, p.column + 1⟩

/-- A position in a named source. -/
structure Location where
  source : String
  line : Nat
  column : Nat
deriving DecidableEq, Repr

/-- A location is shown as source, line and column with colons between. -/
def Location.text (l : Location) : String :=
  l.source ++ ":" ++ toString l.line ++ ":" ++ toString l.column

end Doctype
