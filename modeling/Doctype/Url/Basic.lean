import Doctype.Path
import Doctype.Url.Percent

/-! URLs and their written form. -/
namespace Doctype

/-- A path of segments below a root, or a text that only its scheme understands. -/
inductive UrlPath
  | rooted (segments : List String)
  | rootless (text : String)
deriving DecidableEq, Repr

/-- A URL in its normal form. -/
structure Url where
  scheme : String
  user : String := ""
  password : String := ""
  host : Option String
  port : Option Nat
  path : UrlPath
  query : Option String
  fragment : Option String
deriving DecidableEq, Repr

namespace Url

/-- Schemes with a host and the port they use by default. -/
def specialPorts : List (String × Option Nat) :=
  [("http", some 80), ("https", some 443), ("ws", some 80), ("wss", some 443), ("ftp", some 21),
    ("file", none)]

/-- Special schemes always have a host and a rooted path. -/
def isSpecial (scheme : String) : Bool :=
  (specialPorts.lookup scheme).isSome

/-- The port a scheme uses when none is written. -/
def defaultPort (scheme : String) : Option Nat :=
  (specialPorts.lookup scheme).join

/-- User name and password with the `@` behind them. -/
def userInfo (u : Url) : String :=
  if u.user.isEmpty && u.password.isEmpty then ""
  else u.user ++ (if u.password.isEmpty then "" else ":" ++ u.password) ++ "@"

/-- The path as written. -/
def pathText (u : Url) : String :=
  match u.path with
  | .rooted segments => String.join (segments.map ("/" ++ ·))
  | .rootless text => text

/-- The authority as written; a path that would look like one is kept apart by `/.`. -/
def authority (u : Url) : String :=
  match u.host with
  | some host => "//" ++ u.userInfo ++ host ++ (u.port.elim "" fun port => ":" ++ toString port)
  | none =>
    match u.path with
    | .rooted ("" :: _ :: _) => "/."
    | _ => ""

/-- The written form of a URL. -/
def text (u : Url) : String :=
  u.scheme ++ ":" ++ u.authority ++ u.pathText ++ u.query.elim "" ("?" ++ ·) ++
    u.fragment.elim "" ("#" ++ ·)

/-- Whether a byte is an ASCII letter. -/
def isLetter (b : UInt8) : Bool :=
  (Char.ofUInt8 b).isAlpha

/-- A drive letter at the end of a path stands for the root of the drive. -/
def closeDrive (bytes : List UInt8) : List UInt8 :=
  match bytes.reverse with
  | mark :: letter :: _ :: _ =>
    if isLetter letter && (mark == 0x3A || mark == 0x7C) then bytes ++ [Path.slash] else bytes
  | _ => bytes

/-- The file that a URL without a host names. -/
def localPath? (u : Url) : Option Path :=
  match u.path, u.host.getD "" with
  | .rooted segments, "" =>
    some ⟨closeDrive (segments.flatMap fun segment => Path.slash :: decode segment.toList)⟩
  | _, _ => none

end Url

end Doctype
