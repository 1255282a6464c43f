import Doctype.CommandLine.Arguments
import Doctype.Output
import Doctype.Parser.Run

/-! What the program does for a command line. -/
namespace Doctype.CommandLine

/-- An action with a journal. -/
abbrev RunM := EStateM Halt Journal

/-- Records an event. -/
def note (event : Event) : RunM Unit :=
  modify (event :: ·)

/-- Takes the value of a computation that may fail. -/
def orFail {α : Type} : Except Error α → RunM α
  | .ok a => pure a
  | .error e => throw (.error e)

/-- Parses the DTD of a job. -/
def parsed (w : World) (fuel : Nat) (job : Job) : RunM DocumentType := do
  let (result, journal) := parseFile w fuel job.options job.input
  modify (journal ++ ·)
  match result with
  | .error halt => throw halt
  | .ok d =>
    note (.collected job.input d.elements.length d.attlists.length d.entities.length)
    return d

/-- Loads the templates of a job. -/
def loaded (w : World) (job : Job) : RunM Templates := do
  let builtin := Templates.builtin job.target
  match job.templates with
  | none => return builtin
  | some dir =>
    match Templates.loadDirectory w.files dir ⟨builtin, []⟩ with
    | .ok _ s =>
      modify (s.journal ++ ·)
      return s.templates
    | .error e s =>
      modify (s.journal ++ ·)
      throw (.error e)

/-- Makes the output of a job and sees to it that it can be written. -/
def outputOf (w : World) (fuel : Nat) (job : Job) : RunM String := do
  let d ← parsed w fuel job
  let templates ← loaded w job
  note (.generating job.target.text d.elements.length)
  let source := (job.input.fileName?.getD job.input).text
  let text ← orFail (generate job.target templates job.cls source d)
  match job.output with
  | none => pure ()
  | some path =>
    note (.writing path)
    orFail ((w.files.create path).mapError .io)
  return text

/-- What a run of the program leaves behind. -/
structure Outcome where
  code : Nat
  stdout : String := ""
  stderr : String := ""
  /-- A file with its new content. -/
  written : Option (Path × String) := none
  journal : Journal := []

/-- The events that report a failure. -/
def failure : Halt → List Event
  | .error e => .failed e.message :: e.causes.map .cause
  | .outOfFuel => [.failed "the DTD takes too many steps"]

/-- The lines of a journal that a job reports. -/
def Job.report (job : Job) (journal : Journal) : String :=
  job.limit.elim "" journal.text

/-- Does a job. -/
def Job.run (w : World) (fuel : Nat) (job : Job) : Outcome :=
  match outputOf w fuel job [] with
  | .error halt journal =>
    let journal := (failure halt).reverse ++ journal
    { code := 1, stderr := job.report journal, journal }
  | .ok text journal =>
    match job.output with
    | none => { code := 0, stdout := text, stderr := job.report journal, journal }
    | some path =>
      { code := 0, stderr := job.report journal, written := some (path, text), journal }

/-- The name and the version of the program. -/
def versionText : String := "dtdgen 0.1.0\n"

/-- How the program is used. -/
def helpText : String := String.join [
  versionText,
  "Compiles a DTD into SAX handler or XSLT skeletons\n\n",
  "usage: dtdgen [options] [--] DTD\n\n",
  "  -t, --target TARGET   the kind of output: sax, xslt or dtd, which is the default\n",
  "      --templates DIR   a directory with templates that replace the built-in ones\n",
  "      --class NAME      the name of the handler class\n",
  "      --package NAME    the package of the handler class\n",
  "  -o, --output FILE     a file to write instead of the standard output\n",
  "      --keep-pis        keeps processing instructions\n",
  "      --base DIR        the directory that relative references refer to\n",
  "  -v                    reports more, and still more when repeated\n",
  "  -q, --quiet           reports nothing\n",
  "  -h, --help            shows this help\n",
  "  -V, --version         shows the version\n"]

/-- Does what a command line asks for. -/
def run (w : World) (fuel : Nat) (args : List String) : Outcome :=
  match read args with
  | .ok (.run job) => job.run w fuel
  | .ok .help => { code := 0, stdout := helpText }
  | .ok .version => { code := 0, stdout := versionText }
  | .error e => { code := 1, stderr := "error: " ++ e.message ++ "\n" }

end Doctype.CommandLine
