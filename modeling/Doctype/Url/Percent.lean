import Doctype.Text.Utf8

/-! Percent-encoding in URLs. -/
namespace Doctype.Url

/-- Controls and everything beyond ASCII are encoded everywhere. -/
def inControls (c : Char) : Bool :=
  c.toNat < 0x20 || 0x7E < c.toNat

/-- Encoded in fragments. -/
def inFragment (c : Char) : Bool :=
  inControls c || [' ', '"', '<', '>', '\x60'].contains c

/-- Encoded in queries; special schemes also encode the apostrophe. -/
def inQuery (special : Bool) (c : Char) : Bool :=
  inControls c || [' ', '"', '#', '<', '>'].contains c || (special && c == '\'')

/-- Encoded in path segments. -/
def inPath (c : Char) : Bool :=
  inFragment c || ['#', '?', '\x7b', '\x7d'].contains c

/-- Encoded in user names and passwords. -/
def inUserInfo (c : Char) : Bool :=
  inPath c || ['/', ':', ';', '=', '@', '[', '\\', ']', '^', '|'].contains c

/-- An upper-case hexadecimal digit. -/
def hexDigit (n : Nat) : Char :=
  .ofNat (if n < 10 then 0x30 + n else 0x37 + n)

/-- The value of a hexadecimal digit in either case. -/
def hexValue? (c : Char) : Option Nat :=
  let n := c.toNat
  if 0x30 ≤ n && n ≤ 0x39 then some (n - 0x30)
  else if 0x41 ≤ n && n ≤ 0x46 then some (n - 0x37)
  else if 0x61 ≤ n && n ≤ 0x66 then some (n - 0x57)
  else none

/-- Writes each byte of a character of the set as `%` and two digits. -/
def encodeChar (set : Char → Bool) (c : Char) : List Char :=
  if set c then
    (String.utf8EncodeChar c).flatMap fun b =>
      ['%', hexDigit (b.toNat / 16), hexDigit (b.toNat % 16)]
  else [c]

/-- Percent-encodes the characters of a set. -/
def encode (set : Char → Bool) (cs : List Char) : String :=
  .ofList (cs.flatMap (encodeChar set))

/-- The bytes of a text in which `%` and two digits stand for one byte. -/
def decode : List Char → List UInt8
  | '%' :: a :: b :: rest =>
    match hexValue? a, hexValue? b with
    | some x, some y => UInt8.ofNat (16 * x + y) :: decode rest
    | _, _ => 0x25 :: decode (a :: b :: rest)
  | c :: rest => String.utf8EncodeChar c ++ decode rest
  | [] => []

end Doctype.Url
