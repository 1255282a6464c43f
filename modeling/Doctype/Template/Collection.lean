import Doctype.Journal
import Doctype.Path
import Doctype.Template.Basic
import Doctype.World

/-! Collections of templates, and replacing templates by files. -/
namespace Doctype

/-- The texts of templates by name, in the order in which the names came up. -/
abbrev Templates := Bindings String

namespace Templates

/-- A collection of given templates. -/
def ofList (list : List Template) : Templates :=
  list.map fun t => (t.name, t.text)

/-- Adds a template, or replaces the one of the same name. -/
def insert (ts : Templates) (t : Template) : Templates :=
  ts.set t.name t.text

/-- The template of a name. -/
def get (ts : Templates) (name : String) : Except Error Template :=
  match Bindings.get? ts name with
  | some text => .ok ⟨name, text⟩
  | none => .error (.template ("no template named `" ++ name ++ "`"))

/-- Fills the slots of the template of a name. -/
def render (ts : Templates) (name : String) (vars : Bindings String) : Except Error String := do
  (← ts.get name).render vars

/-- Templates on their way from a directory. -/
structure Loading where
  templates : Templates
  journal : Journal := []

/-- An action that loads templates. What a failed action has replaced stays replaced. -/
abbrev LoadM := EStateM Error Loading

namespace Loading

/-- Records an event. -/
def note (event : Event) : LoadM Unit :=
  modify fun s => { s with journal := event :: s.journal }

/-- The text of a file. -/
def readText (files : FileSystem) (path : Path) : Except IoError String := do
  return .ofList (← (← files.read path).readAll)

/-- Replaces a template by the file of its name, if there is one. -/
def loadFile (files : FileSystem) (dir : Path) (name : String) : LoadM Unit := do
  let path := dir.join (name ++ ".tpl")
  note (.sought path)
  if files.isFile path then
    note (.loading name path)
    match readText files path with
    | .ok text => modify fun s => { s with templates := s.templates.insert ⟨name, text⟩ }
    | .error e => throw (.io e)

end Loading

/-- Replaces each template by the file of its name in a directory. Other files are not looked
at. -/
def loadDirectory (files : FileSystem) (dir : Path) : LoadM Unit := do
  Loading.note (.sought dir)
  if files.isDirectory dir then
    (← getThe Loading).templates.names.forM (Loading.loadFile files dir)
  else throw (.configuration ("template directory `" ++ dir.text ++ "` does not exist"))

end Templates

end Doctype
