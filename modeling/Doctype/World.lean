import Doctype.Path
import Doctype.Reader
import Doctype.Url.Basic

/-! The files and pages that a run can reach. -/
namespace Doctype

/-- What a path names. -/
inductive Entry
  | file (content : Reader)
  | directory
deriving DecidableEq, Repr

/-- The files of a run: what a path names, and what opening it for writing answers. -/
structure FileSystem where
  entry : Path → Except IoError Entry
  create : Path → Except IoError Unit

namespace FileSystem

/-- Opens a path for reading. A directory opens too, but no read of it succeeds. -/
def read (files : FileSystem) (path : Path) : Except IoError Reader :=
  (files.entry path).map fun
    | .file content => content
    | .directory => .stuck .isDirectory

/-- Whether a path names a directory. -/
def isDirectory (files : FileSystem) (path : Path) : Bool :=
  match files.entry path with
  | .ok .directory => true
  | _ => false

/-- Whether a path names a file. -/
def isFile (files : FileSystem) (path : Path) : Bool :=
  match files.entry path with
  | .ok (.file _) => true
  | _ => false

end FileSystem

/-- The pages of a run: the content of a page, or why it cannot be fetched. -/
abbrev Web := Url → Except String Reader

/-- A web that no connection reaches. -/
def Web.unreachable : Web := fun url =>
  .error (url.text ++ ": Connection Failed: Connect error: Network is unreachable (os error 101)")

/-- Everything outside of a run that it can read. -/
structure World where
  files : FileSystem
  web : Web

end Doctype
