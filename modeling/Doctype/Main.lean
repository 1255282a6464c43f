import Doctype.CommandLine.Run

/-! The program. A run asks a snapshot for files; what it looks for in vain is read, and the run is
repeated until it looks for nothing new. -/
namespace Doctype.CommandLine

/-- Paths with what they name. -/
abbrev Snapshot := List (Path × Except IoError Entry)

/-- The files of a snapshot. `creating` is what opening a file for writing answers. -/
def Snapshot.files (s : Snapshot) (creating : Except IoError Unit) : FileSystem where
  entry path := (s.lookup path).getD (.error .notFound)
  create _ := creating

/-- The cause that the operating system gives. -/
def causeOf : IO.Error → IoError
  | .noFileOrDirectory .. => .notFound
  | .inappropriateType _ 21 _ => .isDirectory
  | .inappropriateType .. => .notDirectory
  | .invalidArgument _ 22 _ => .nulInName
  | .invalidArgument .. => .nameTooLong
  | e => .other (toString e)

/-- Reads what a path names. A path that spells no text is not looked for. -/
def load (path : Path) : IO (Except IoError Entry) := do
  let some name := path.spelled? | return .error .notFound
  match ← (IO.FS.readBinFile name).toBaseIO with
  | .ok bytes => return .ok (.file (.ofBytes bytes.toList))
  | .error e =>
    match causeOf e with
    | .isDirectory => return .ok .directory
    | cause => return .error cause

/-- The paths that a run looked for. -/
def sought (journal : Journal) : List Path :=
  journal.filterMap fun
    | .sought path => some path
    | _ => none

/-- More steps than any run takes in a lifetime. -/
def patience : Nat := 1 <<< 62

/-- Runs against a snapshot. -/
def attempt (args : List String) (s : Snapshot) (creating : Except IoError Unit) : Outcome :=
  run ⟨s.files creating, Web.unreachable⟩ patience args

/-- Completes a snapshot until a run finds in it what it looks for. -/
partial def complete (args : List String) (s : Snapshot) : IO Snapshot := do
  match (sought (attempt args s (.ok ())).journal).find? fun path => (s.lookup path).isNone with
  | some path => complete args ((path, ← load path) :: s)
  | none => return s

/-- Runs and writes the file that the run leaves behind. If it cannot be written, the run has
failed. -/
def perform (args : List String) : IO Outcome := do
  let s ← complete args []
  let outcome := attempt args s (.ok ())
  match outcome.written with
  | none => return outcome
  | some (path, text) =>
    match ← (IO.FS.writeFile path.text text).toBaseIO with
    | .ok _ => return outcome
    | .error e => return attempt args s (.error (causeOf e))

end Doctype.CommandLine

def main (args : List String) : IO UInt32 := do
  let outcome ← Doctype.CommandLine.perform args
  IO.print outcome.stdout
  IO.eprint outcome.stderr
  return outcome.code.toUInt32
