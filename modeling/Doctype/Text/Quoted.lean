import Doctype.Text.Extender
import Doctype.Text.Unprintable

/-! Text shown between double quotes, with every character that would not be readable escaped. -/
namespace Doctype.Text

/-- A character by its number, such as `\u{a0}`. -/
def numbered (c : Char) : List Char :=
  ['\\', 'u', '\x7b'] ++ Nat.toDigits 16 c.toNat ++ ['\x7d']

/-- The quote, the backslash and four controls have short escapes; marks that would attach to
their neighbour and characters without a readable form are numbered. -/
def escape (c : Char) : List Char :=
  if c = '\x00' then ['\\', '0']
  else if c = '\t' then ['\\', 't']
  else if c = '\r' then ['\\', 'r']
  else if c = '\n' then ['\\', 'n']
  else if c = '"' then ['\\', '"']
  else if c = '\\' then ['\\', '\\']
  else if isExtender c || isUnprintable c then numbered c
  else [c]

/-- A text between double quotes. -/
def quoted (s : String) : String :=
  .ofList ('"' :: s.toList.flatMap escape ++ ['"'])

end Doctype.Text
