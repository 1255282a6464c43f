import Doctype.Text.Blank

/-! Names: their characters, and which texts are names. -/
namespace Doctype

/-- ASCII letters, `_`, `:`, and every character above ASCII that is not blank. -/
def isNameStart (c : Char) : Bool :=
  c.isAlpha || c == '_' || c == ':' || (0x80 ≤ c.toNat && !Text.isBlank c)

/-- After the first character a name may also hold digits, `-` and `.`. -/
def isNameChar (c : Char) : Bool :=
  isNameStart c || c.isDigit || c == '-' || c == '.'

/-- A name is not empty and begins with a start character. -/
def isNameOf : List Char → Bool
  | [] => false
  | c :: cs => isNameStart c && cs.all isNameChar

/-- Whether a text is a name. -/
def isName (s : String) : Bool :=
  isNameOf s.toList

end Doctype
