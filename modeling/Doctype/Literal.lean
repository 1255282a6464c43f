/-! Writing a text as a literal. -/
namespace Doctype

/-- A `"` is written as a character reference. -/
def escapeQuote (c : Char) : List Char :=
  if c = '"' then ['&', '#', '3', '4', ';'] else [c]

/-- A text between quotes that do not occur in it, `"` if possible. If both kinds occur, each `"`
is written as a character reference. -/
def quote (s : String) : String :=
  if s.toList.contains '"' then
    if s.toList.contains '\'' then "\"" ++ .ofList (s.toList.flatMap escapeQuote) ++ "\""
    else "'" ++ s ++ "'"
  else "\"" ++ s ++ "\""

end Doctype
