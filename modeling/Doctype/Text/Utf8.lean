/-! Reading characters from bytes. -/
namespace Doctype.Text

/-- What a lead byte announces: the range of the second byte, and how many bytes follow in all. -/
def utf8Lead (b : UInt8) : Option (UInt8 × UInt8 × Nat) :=
  if b < 0xC2 then none
  else if b < 0xE0 then some (0x80, 0xBF, 1)
  else if b == 0xE0 then some (0xA0, 0xBF, 2)
  else if b == 0xED then some (0x80, 0x9F, 2)
  else if b < 0xF0 then some (0x80, 0xBF, 2)
  else if b == 0xF0 then some (0x90, 0xBF, 3)
  else if b < 0xF4 then some (0x80, 0xBF, 3)
  else if b == 0xF4 then some (0x80, 0x8F, 3)
  else none

/-- Bytes `0x80` to `0xBF` continue a character. -/
def isUtf8Tail (b : UInt8) : Bool :=
  0x80 ≤ b && b ≤ 0xBF

/-- The value of a multi-byte character from its bytes, lead byte first. -/
def utf8Value (lead : UInt8) (tail : List UInt8) : Char :=
  let bits := match tail.length with
    | 1 => lead.toNat % 0x20
    | 2 => lead.toNat % 0x10
    | _ => lead.toNat % 0x08
  .ofNat (tail.foldl (fun n b => n * 0x40 + b.toNat % 0x40) bits)

/-- The longest beginning of `rest` that can follow a lead byte. -/
def utf8Follow (lo hi : UInt8) (count : Nat) : List UInt8 → List UInt8
  | [] => []
  | b :: rest =>
    if lo ≤ b && b ≤ hi then b :: (rest.take (count - 1)).takeWhile isUtf8Tail else []

/-- The characters of a byte sequence; `none` stands for each longest stretch that begins a
character without completing it, and for each byte that begins none. -/
def decodeUtf8 : List UInt8 → List (Option Char)
  | [] => []
  | b :: rest =>
    if b < 0x80 then some (.ofNat b.toNat) :: decodeUtf8 rest
    else
      match utf8Lead b with
      | none => none :: decodeUtf8 rest
      | some (lo, hi, count) =>
        let tail := utf8Follow lo hi count rest
        (if tail.length = count then some (utf8Value b tail) else none) ::
          decodeUtf8 (rest.drop tail.length)
termination_by bytes => bytes.length

/-- The characters of a byte sequence that is valid throughout. -/
def utf8Chars? (bytes : List UInt8) : Option (List Char) :=
  (decodeUtf8 bytes).mapM id

/-- The characters of a byte sequence, with U+FFFD for what is not valid. -/
def utf8Lossy (bytes : List UInt8) : List Char :=
  (decodeUtf8 bytes).map (·.getD '\ufffd')

end Doctype.Text
