import Doctype.Bindings
import Doctype.Path
import Doctype.World

/-! Files held in memory, found the way an operating system walks a path. -/
namespace Doctype

/-- The place of a file or directory: the names that lead to it from the root. -/
abbrev FileTree.Place := List (List UInt8)

/-- Files and empty directories under their absolute paths, and the directory that relative
paths begin in. The directories above them exist as well. -/
structure FileTree where
  current : FileTree.Place
  entries : List (FileTree.Place × Entry) := []

namespace FileTree

/-- A tree without files. -/
def empty (current : Path) : FileTree :=
  { current := current.names }

/-- Paths of this many bytes and more are refused. -/
def pathLimit : Nat := 4096

/-- Longer names are refused. -/
def nameLimit : Nat := 255

/-- Adds an entry under a path below the current directory. -/
def insert (tree : FileTree) (path : Path) (entry : Entry) : FileTree :=
  { tree with entries := tree.entries ++ [(tree.current ++ path.names, entry)] }

/-- What an absolute path without dots names. -/
def find? (tree : FileTree) (place : Place) : Option Entry :=
  match tree.entries.lookup place with
  | some entry => some entry
  | none =>
    if place.isPrefixOf tree.current || tree.entries.any (place.isPrefixOf ·.1) then
      some .directory
    else none

/-- Follows parts from a directory. Behind a file nothing can follow. -/
def walk (tree : FileTree) : Place → List (List UInt8) → Except IoError Place
  | place, [] => .ok place
  | place, part :: rest =>
    if part == [] || part == Path.ownName then walk tree place rest
    else if part == Path.parentName then walk tree place.dropLast rest
    else if nameLimit < part.length then .error .nameTooLong
    else
      match tree.find? (place ++ [part]) with
      | none => .error .notFound
      | some .directory => walk tree (place ++ [part]) rest
      | some (.file _) => if rest.isEmpty then .ok (place ++ [part]) else .error .notDirectory

/-- Refuses paths that no system call accepts. -/
def check (path : Path) : Except IoError Unit :=
  if path.bytes.contains 0 then .error .nulInName
  else if path.bytes.isEmpty then .error .notFound
  else if pathLimit ≤ path.bytes.length then .error .nameTooLong
  else .ok ()

/-- Where a walk begins. -/
def start (tree : FileTree) (path : Path) : Place :=
  if path.isAbsolute then [] else tree.current

/-- What a path names. -/
def entry (tree : FileTree) (path : Path) : Except IoError Entry := do
  check path
  let place ← tree.walk (tree.start path) (path.names)
  match tree.find? place with
  | some entry => .ok entry
  | none => .error .notFound

/-- Where a file can be written. A path that ends in a slash or a dot part names a directory. -/
def target (tree : FileTree) (path : Path) : Except IoError Place := do
  check path
  let all := path.names
  let named := (all.reverse.dropWhile (· == [])).reverse
  let last := named.getLast?.getD Path.ownName
  let dir ← tree.walk (tree.start path) named.dropLast
  if (tree.find? dir).any (· matches .file _) then throw .notDirectory
  else if named.length < all.length || last == Path.ownName || last == Path.parentName then
    throw .isDirectory
  else if nameLimit < last.length then throw .nameTooLong
  else
    match tree.find? (dir ++ [last]) with
    | some .directory => throw .isDirectory
    | _ => return dir ++ [last]

/-- Writes a file if its place allows it. -/
def write (tree : FileTree) (path : Path) (text : String) : FileTree :=
  match tree.target path with
  | .error _ => tree
  | .ok place =>
    { tree with entries := (place, .file (.ofText text)) :: tree.entries.filter (·.1 != place) }

/-- The tree as the files of a run. -/
def files (tree : FileTree) : FileSystem where
  entry := tree.entry
  create := fun path => tree.target path *> .ok ()

end FileTree

end Doctype
