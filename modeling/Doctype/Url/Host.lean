import Doctype.Url.Domain
import Doctype.Url.Error
import Doctype.Url.Percent

/-! Hosts: domains and addresses in their normal form. -/
namespace Doctype.Url

/-- Reads digits of a base; a text without digits is zero. -/
def number? (base : Nat) (cs : List Char) : Option Nat :=
  cs.foldlM (fun n c => do
    let d ← hexValue? c
    if d < base then some (n * base + d) else none) 0

/-- A part of an IPv4 address: hexadecimal after `0x`, octal after `0`, decimal otherwise. -/
def ipv4Number? : List Char → Option Nat
  | [] => none
  | '0' :: 'x' :: rest => number? 16 rest
  | '0' :: 'X' :: rest => number? 16 rest
  | '0' :: rest => number? 8 rest
  | cs => number? 10 cs

/-- The parts between the dots; one dot at the end counts for nothing. -/
def ipv4Parts (cs : List Char) : List (List Char) :=
  let parts := Text.fields (· == '.') cs
  if 1 < parts.length && parts.getLast? == some [] then parts.dropLast else parts

/-- A host whose last part is a number has to be an IPv4 address. -/
def endsInNumber (cs : List Char) : Bool :=
  match (ipv4Parts cs).getLast? with
  | none => false
  | some part => !part.isEmpty && (part.all Char.isDigit || (ipv4Number? part).isSome)

/-- The four bytes of an IPv4 address, which may leave out all but its last part. -/
def ipv4? (cs : List Char) : Option (List Nat) := do
  let numbers ← (ipv4Parts cs).mapM ipv4Number?
  let last ← numbers.getLast?
  let front := numbers.dropLast
  if 3 < front.length || front.any (255 < ·) || 1 <<< (8 * (4 - front.length)) ≤ last then none
  else
    let value := front.zipIdx.foldl (fun value (n, i) => value + n <<< (8 * (3 - i))) last
    some [value >>> 24, (value >>> 16) % 256, (value >>> 8) % 256, value % 256]

/-- Sixteen bits of an IPv6 address: one to four hexadecimal digits. -/
def ipv6Group? (cs : List Char) : Option Nat :=
  if cs.isEmpty || 4 < cs.length then none else number? 16 cs

/-- The last 32 bits of an IPv6 address in IPv4 notation. -/
def ipv6Tail? (cs : List Char) : Option (List Nat) := do
  let parts := Text.fields (· == '.') cs
  let bytes ← parts.mapM fun part =>
    if part.isEmpty || 3 < part.length || (part.head? == some '0' && 1 < part.length) then none
    else number? 10 part
  match bytes with
  | [a, b, c, d] =>
    if bytes.any (255 < ·) then none else some [a * 256 + b, c * 256 + d]
  | _ => none

/-- The groups between colons; the last one may be in IPv4 notation. -/
def ipv6Groups? : List (List Char) → Option (List Nat)
  | [] => some []
  | [part] => if part.contains '.' then ipv6Tail? part else (ipv6Group? part).map ([·])
  | part :: rest => do return (← ipv6Group? part) :: (← ipv6Groups? rest)

/-- Cuts an address at its first `::`. -/
def ipv6Halves : List Char → List Char × Option (List Char)
  | ':' :: ':' :: rest => ([], some rest)
  | c :: rest => let (front, back) := ipv6Halves rest; (c :: front, back)
  | [] => ([], none)

/-- One side of a `::`. -/
def ipv6Side? (cs : List Char) : Option (List Nat) :=
  if cs.isEmpty then some [] else ipv6Groups? (Text.fields (· == ':') cs)

/-- The eight groups of an IPv6 address; `::` stands for one or more zeros. -/
def ipv6? (cs : List Char) : Option (List Nat) := do
  match ipv6Halves cs with
  | (front, none) =>
    let groups ← ipv6Side? front
    if groups.length = 8 then some groups else none
  | (front, some back) =>
    if front.contains '.' then none
    else
      let left ← ipv6Side? front
      let right ← ipv6Side? back
      if left.length + right.length ≤ 7 then
        some (left ++ List.replicate (8 - left.length - right.length) 0 ++ right)
      else none

/-- The first longest run of zeros, as start and length. -/
def longestZeros (groups : List Nat) : Nat × Nat :=
  let runs := (List.range groups.length).map fun i =>
    (i, ((groups.drop i).takeWhile (· == 0)).length)
  runs.foldl (fun best run => if best.2 < run.2 then run else best) (0, 0)

/-- Groups in lower-case hexadecimal with colons between. -/
def ipv6Join (groups : List Nat) : String :=
  ":".intercalate (groups.map fun n => .ofList (Nat.toDigits 16 n))

/-- An IPv6 address with its first longest run of two or more zeros as `::`. -/
def ipv6Text (groups : List Nat) : String :=
  let (start, length) := longestZeros groups
  if length < 2 then ipv6Join groups
  else ipv6Join (groups.take start) ++ "::" ++ ipv6Join (groups.drop (start + length))

/-- Characters that no host of any scheme may hold. -/
def forbiddenInHost (c : Char) : Bool :=
  ['\x00', '\t', '\n', '\r', ' ', '#', '/', ':', '<', '>', '?', '@', '[', '\\', ']', '^',
    '|'].contains c

/-- The normal form of a host. -/
def hostOf (special : Bool) (cs : List Char) : Except UrlError String :=
  if cs.head? == some '[' then
    if cs.getLast? == some ']' then
      match ipv6? cs.tail.dropLast with
      | some groups => .ok ("[" ++ ipv6Text groups ++ "]")
      | none => .error .invalidIpv6
    else .error .invalidIpv6
  else if special then
    match Domain.ascii? (Text.utf8Lossy (decode cs)) with
    | none => .error .invalidDomain
    | some domain =>
      if domain.isEmpty then .error .emptyHost
      else if endsInNumber domain then
        match ipv4? domain with
        | some bytes => .ok (".".intercalate (bytes.map toString))
        | none => .error .invalidIpv4
      else .ok (.ofList domain)
  else if cs.any forbiddenInHost then .error .invalidHostCharacter
  else .ok (encode inControls cs)

end Doctype.Url
