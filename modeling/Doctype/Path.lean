import Doctype.Text.Fields
import Doctype.Text.Utf8

/-! File paths: bytes with slashes between their parts. -/
namespace Doctype

/-- A file path. Its bytes need not spell a text. -/
structure Path where
  bytes : List UInt8
deriving DecidableEq, Repr

namespace Path

/-- The path that a text spells. -/
def ofString (s : String) : Path :=
  ⟨s.toList.flatMap String.utf8EncodeChar⟩

instance : Coe String Path := ⟨ofString⟩

/-- The text that a path spells, if it spells one. -/
def spelled? (path : Path) : Option String :=
  (Text.utf8Chars? path.bytes).map .ofList

/-- A path as it is shown. -/
def text (path : Path) : String :=
  .ofList (Text.utf8Lossy path.bytes)

/-- The byte between parts. -/
def slash : UInt8 := 0x2F

/-- The name by which a directory names itself. -/
def ownName : List UInt8 := [0x2E]

/-- The name by which a directory names the one above it. -/
def parentName : List UInt8 := [0x2E, 0x2E]

/-- An absolute path begins at the root. -/
def isAbsolute (path : Path) : Bool :=
  path.bytes.head? == some slash

/-- A path read from inside a directory; an absolute path is taken as it is. -/
def join (dir path : Path) : Path :=
  if path.isAbsolute then path
  else if dir.bytes.getLast?.all (· == slash) then ⟨dir.bytes ++ path.bytes⟩
  else ⟨dir.bytes ++ slash :: path.bytes⟩

/-- A path taken apart: a leading slash or dot, and the parts that follow. -/
structure Parts where
  root : Bool
  here : Bool
  body : List (List UInt8)

/-- The stretches between the slashes. -/
def names (path : Path) : List (List UInt8) :=
  Text.fields (· == slash) path.bytes

/-- Takes a path apart at its slashes. -/
def parts (path : Path) : Parts :=
  match path.names with
  | [] :: part :: rest => ⟨true, false, part :: rest⟩
  | first :: rest =>
    if first = ownName then ⟨false, true, rest⟩ else ⟨false, false, first :: rest⟩
  | [] => ⟨false, false, []⟩

/-- Empty parts and parts that stay where they are name nothing at the end of a path. -/
def settle (body : List (List UInt8)) : List (List UInt8) :=
  (body.reverse.dropWhile fun part => part == [] || part == ownName).reverse

/-- Puts a path together again. -/
def Parts.path (p : Parts) : Path :=
  let body := Text.joinFields slash p.body
  if p.root then ⟨slash :: body⟩
  else if p.here then ⟨if p.body.isEmpty then ownName else ownName ++ slash :: body⟩
  else ⟨body⟩

/-- The directory a path lies in; the root and the empty path lie in none. -/
def parent? (path : Path) : Option Path :=
  let p := path.parts
  match settle p.body with
  | [] => if p.here then some ⟨[]⟩ else none
  | body@(_ :: _) => some { p with body := settle body.dropLast }.path

/-- The last part of a path, if it names something in its parent. -/
def fileName? (path : Path) : Option Path :=
  match (settle path.parts.body).getLast? with
  | none => none
  | some name => if name == parentName then none else some ⟨name⟩

end Path

end Doctype
