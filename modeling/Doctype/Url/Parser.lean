import Doctype.Url.Basic
import Doctype.Url.Host
import Doctype.Url.Trail

/-! Reading URLs, alone or relative to a base. -/
namespace Doctype.Url

/-- The scheme before the first colon, and what follows the colon. -/
def scheme? (cs : List Char) : Option (String × List Char) :=
  let isPart (c : Char) : Bool :=
    isBreak c || c.isAlphanum || c == '+' || c == '-' || c == '.'
  match unbroken (cs.takeWhile isPart), cs.dropWhile isPart with
  | c :: front, ':' :: rest =>
    if c.isAlpha then some (.ofList ((c :: front).map Char.toLower), rest) else none
  | _, _ => none

/-- Query and fragment begin at `?` and `#`. -/
def isTailMark (c : Char) : Bool :=
  c == '?' || c == '#'

/-- In special URLs a backslash separates as a slash does. -/
def isSlash (special : Bool) (c : Char) : Bool :=
  c == '/' || (special && c == '\\')

/-- Where an authority ends. -/
def endsAuthority (special : Bool) (c : Char) : Bool :=
  isSlash special c || isTailMark c

/-- The written form of a fragment. -/
def fragmentOf (cs : List Char) : String :=
  encode inFragment (unbroken cs)

/-- Sets the query and the fragment from the end of a text. -/
def withTail (u : Url) (tail : List Char) : Url :=
  match next? tail with
  | some ('?', rest) =>
    { u with
      query := some (encode (inQuery (isSpecial u.scheme))
        (unbroken (rest.takeWhile (· != '#'))))
      fragment := match rest.dropWhile (· != '#') with
        | _ :: fragment => some (fragmentOf fragment)
        | [] => none }
  | some ('#', fragment) => { u with query := none, fragment := some (fragmentOf fragment) }
  | _ => { u with query := none, fragment := none }

/-- Whether a path begins with a drive letter. -/
def startsWithDrive (cs : List Char) : Bool :=
  match unbroken cs with
  | letter :: mark :: rest => isDrive [letter, mark] && rest.head?.all (endsAuthority true)
  | _ => false

/-- File paths drop the empty segments at their front. -/
def settle (file : Bool) (segments : List String) : List String :=
  if file then
    match segments.dropWhile (· == "") with
    | [] => [""]
    | rest => rest
  else segments

/-- Sets path, query and fragment from a text that goes on where a trail stops. A file path that
begins with a drive letter leaves the host behind. -/
def withPath (u : Url) (start : Trail) (cs : List Char) : Url :=
  let file := u.scheme == "file"
  let path := cs.takeWhile (!isTailMark ·)
  let trail := start.follow file (Text.fields (isSlash (isSpecial u.scheme)) path)
  withTail
    { u with
      path := .rooted (settle file trail.segments)
      host := if trail.drive then u.host.map fun _ => "" else u.host }
    (cs.dropWhile (!isTailMark ·))

/-- Sets the path behind an authority, which only URLs that are not special can leave empty. -/
def withAbsolutePath (u : Url) (cs : List Char) : Url :=
  let special := isSpecial u.scheme
  match next? cs with
  | none => if special then withPath u {} [] else withTail { u with path := .rooted [] } []
  | some (c, rest) =>
    if isSlash special c then withPath u {} rest
    else if isTailMark c && !special then withTail { u with path := .rooted [] } cs
    else withPath u {} cs

/-- Cuts at the last `@`. -/
def cutUserInfo (cs : List Char) : Option (List Char × List Char) :=
  if cs.contains '@' then
    let back := (cs.reverse.takeWhile (· != '@')).reverse
    some (cs.take (cs.length - back.length - 1), back)
  else none

/-- Cuts behind a host, at the end of the authority or at the first colon outside of brackets. -/
def cutHost (special : Bool) (bracketed : Bool) : List Char → List Char × List Char
  | [] => ([], [])
  | c :: rest =>
    if endsAuthority special c || (c == ':' && !bracketed) then ([], c :: rest)
    else
      let (host, rest) := cutHost special (c == '[' || (bracketed && c != ']')) rest
      (c :: host, rest)

/-- A port of at most sixteen bits; the scheme's own port is left out. -/
def portOf (scheme : String) (digits : List Char) : Except UrlError (Option Nat) :=
  if digits.isEmpty then .ok none
  else
    match number? 10 digits with
    | none => .error .invalidPort
    | some n =>
      if 65535 < n then .error .invalidPort
      else if defaultPort scheme == some n then .ok none
      else .ok (some n)

/-- Reads what follows the two slashes of a URL with an authority. A backslash ends a port in any
URL. -/
def ofAuthority (scheme : String) (cs : List Char) : Except UrlError Url := do
  let special := isSpecial scheme
  let front := cs.takeWhile (!endsAuthority special ·)
  let rear := cs.dropWhile (!endsAuthority special ·)
  let (info, rest) := match cutUserInfo front with
    | some (info, back) => (some (unbroken info), back ++ rear)
    | none => (none, cs)
  if info == some [] && (next? rest).any (endsAuthority special ·.1) then throw .emptyHost
  let info := info.getD []
  let user := encode inUserInfo (info.takeWhile (· != ':'))
  let password := encode inUserInfo ((info.dropWhile (· != ':')).drop 1)
  let (name, rest) := cutHost special false rest
  let name := unbroken name
  if name.isEmpty && (special || rest.head? == some ':' || !user.isEmpty || !password.isEmpty) then
    throw .emptyHost
  let host ← hostOf special name
  let (digits, rest) := match rest with
    | ':' :: rest =>
      (rest.takeWhile (!endsAuthority true ·), rest.dropWhile (!endsAuthority true ·))
    | _ => ([], rest)
  let number ← portOf scheme (unbroken digits)
  return withAbsolutePath ⟨scheme, user, password, some host, number, .rooted [], none, none⟩ rest

/-- The slashes that a text begins with, and what follows them. -/
def cutSlashes (cs : List Char) : List Char × List Char :=
  let isPart (c : Char) : Bool := isBreak c || isSlash true c
  (unbroken (cs.takeWhile isPart), cs.dropWhile isPart)

/-- What follows the two slashes that a text begins with. -/
def behindSlashes? (cs : List Char) : Option (List Char) :=
  match next? cs with
  | some ('/', rest) =>
    match next? rest with
    | some ('/', rest) => some rest
    | _ => none
  | _ => none

/-- The segments of a rooted path. -/
def segments (u : Url) : List String :=
  match u.path with
  | .rooted segments => segments
  | .rootless _ => []

/-- Reads a URL relative to a base with a rooted path. -/
def ofRelative (base : Url) (cs : List Char) : Except UrlError Url :=
  match next? cs with
  | none => .ok { base with fragment := none }
  | some ('?', _) => .ok (withTail base cs)
  | some ('#', fragment) => .ok { base with fragment := some (fragmentOf fragment) }
  | some (c, rest) =>
    let (slashes, behind) := cutSlashes cs
    if 2 ≤ slashes.length then ofAuthority base.scheme ((behindSlashes? cs).getD behind)
    else if isSlash true c then .ok (withPath base {} rest)
    else .ok (withPath base (.behind false base.segments) cs)

/-- A file URL with no host and no path yet. -/
def emptyFile : Url :=
  ⟨"file", "", "", some "", none, .rooted [], none, none⟩

/-- Reads the host and path behind the two slashes of a file URL. Without a host, the slash in
front of the path counts as a segment. -/
def ofFileHost (cs : List Char) : Except UrlError Url := do
  let front := unbroken (cs.takeWhile (!endsAuthority true ·))
  let rest := cs.dropWhile (!endsAuthority true ·)
  if isDrive front then return withPath emptyFile {} cs
  let host ← if front.isEmpty then pure "" else hostOf true front
  if host.isEmpty || host == "localhost" then return withPath emptyFile {} rest
  return withAbsolutePath { emptyFile with host := some host } rest

/-- Reads what follows the scheme of a file URL. -/
def ofFile (base : Option Url) (cs : List Char) : Except UrlError Url :=
  let alone : Except UrlError Url := .ok (withPath emptyFile {} cs)
  match next? cs, base with
  | none, none => alone
  | none, some base => .ok { base with fragment := none }
  | some (c, rest), base =>
    if isSlash true c then
      match next? rest with
      | some (d, behind) => if isSlash true d then ofFileHost behind else ofSlash rest
      | none => ofSlash rest
    else
      match base with
      | none => alone
      | some base =>
        if c == '?' then .ok (withTail base cs)
        else if c == '#' then .ok { base with fragment := some (fragmentOf rest) }
        else if startsWithDrive cs then alone
        else .ok (withPath base (.behind true base.segments) cs)
where
  /-- Behind a single slash the base still gives the drive letter or the host. -/
  ofSlash (rest : List Char) : Except UrlError Url :=
    let drive := ((base.elim [] segments).take 1).filter isColonDrive
    if startsWithDrive rest then .ok (withPath emptyFile {} rest)
    else if drive.isEmpty then
      .ok (withPath { emptyFile with host := (base.bind Url.host).or (some "") } {} rest)
    else .ok (withPath emptyFile { closed := drive } rest)

/-- Reads what follows the scheme of a URL. -/
def ofScheme (base : Option Url) (scheme : String) (cs : List Char) : Except UrlError Url :=
  let (slashes, behind) := cutSlashes cs
  if scheme == "file" then ofFile (base.filter (·.scheme == "file")) cs
  else if isSpecial scheme then
    match base.filter (·.scheme == scheme) with
    | some base => if slashes.length < 2 then ofRelative base cs else ofAuthority scheme behind
    | none => ofAuthority scheme behind
  else
    let bare : Url := ⟨scheme, "", "", none, none, .rooted [], none, none⟩
    match behindSlashes? cs, next? cs with
    | some rest, _ => ofAuthority scheme rest
    | none, some ('/', rest) => .ok (withPath bare {} rest)
    | none, _ =>
      let text := encode inControls (unbroken (cs.takeWhile (!isTailMark ·)))
      .ok (withTail { bare with path := .rootless text } (cs.dropWhile (!isTailMark ·)))

/-- Reads a URL, relative to a base if there is one. -/
def resolve (base : Option Url) (input : String) : Except UrlError Url :=
  let cs := trimmed input.toList
  match scheme? cs with
  | some (scheme, rest) => ofScheme base scheme rest
  | none =>
    match base with
    | none => .error .relativeWithoutBase
    | some base =>
      match next? cs, base.path with
      | some ('#', fragment), _ => .ok { base with fragment := some (fragmentOf fragment) }
      | _, .rootless _ => .error .relativeToRootless
      | _, .rooted _ => if base.scheme == "file" then ofFile (some base) cs else ofRelative base cs

/-- Reads a URL that stands alone. -/
def parse (input : String) : Except UrlError Url :=
  resolve none input

/-- Reads a URL relative to a base. -/
def join (base : Url) (input : String) : Except UrlError Url :=
  resolve (some base) input

end Doctype.Url
