import Doctype.Cursor.Scan
import Doctype.Entity.Open

/-! The stack of open sources. A reference to a parameter entity opens its replacement text as a
source of its own, which is closed again where it ends. -/
namespace Doctype

/-- An open source. -/
structure Source where
  /-- No two sources of a stack ever have the same number. -/
  id : Nat
  /-- The parameter entity whose replacement text this is. -/
  entity : Option String
  /-- What relative identifiers in this source refer to. -/
  base : Base
  cursor : Cursor
deriving DecidableEq, Repr

/-- The open sources, innermost first. -/
structure SourceStack where
  sources : List Source := []
  /-- What relative identifiers refer to when no source is open. -/
  bottom : Base
  /-- Where the source that was closed last ended. -/
  ending : Location := ⟨"<none>", 1, 1⟩
  /-- The number that the next source gets. -/
  nextId : Nat := 1
  journal : Journal := []

/-- An action on a stack of sources. What a failed action has done stays done. -/
abbrev StackM := EStateM Error SourceStack

namespace SourceStack

open EStateM (Result)

/-- A stack without sources. -/
def new (dir : Path) : SourceStack :=
  { bottom := .dir dir }

/-- A stack with one source that holds a given text. -/
def ofText (name text : String) (dir : Path) : SourceStack where
  sources := [⟨1, none, .dir dir, { name, unread := .ofText text }⟩]
  bottom := .dir dir
  ending := ⟨name, 1, 1⟩
  nextId := 2

/-- Records an event. -/
def note (s : SourceStack) (event : Event) : SourceStack :=
  { s with journal := event :: s.journal }

/-- The number of open sources. -/
def depth (s : SourceStack) : Nat :=
  s.sources.length

/-- What relative identifiers refer to. -/
def base (s : SourceStack) : Base :=
  match s.sources with
  | [] => s.bottom
  | source :: _ => source.base

/-- Where the next character is, or where the last source ended. -/
def location (s : SourceStack) : Location :=
  match s.sources with
  | [] => s.ending
  | source :: _ => source.cursor.location

/-- Whether an entity is being expanded. -/
def isOpen (s : SourceStack) (name : String) : Bool :=
  s.sources.any (·.entity == some name)

/-- Opens a source, unless it expands an entity that is being expanded already. -/
def push (text : EntityText) (entity : Option String) (s : SourceStack) :
    Result Error SourceStack Unit :=
  match entity.filter s.isOpen with
  | some name => .error (.cyclicEntity name) s
  | none =>
    let name := text.origin.text
    let source :=
      ⟨s.nextId, entity, text.origin.base?.getD s.base, { name, unread := text.content }⟩
    .ok () (note { s with sources := source :: s.sources, nextId := s.nextId + 1 }
      (.entering name (s.depth + 1)))

/-- Closes the innermost source, and tells whether there was one. -/
def pop (s : SourceStack) : Bool × SourceStack :=
  match s.sources with
  | [] => (false, s)
  | source :: rest =>
    (true, note { s with sources := rest, ending := source.cursor.location }
      (.leaving source.cursor.name s.depth))

/-- A stack with one source that is read from a file. -/
def openFile (files : FileSystem) (path : Path) : Except Error SourceStack :=
  match files.read path with
  | .error e => .error (.io e)
  | .ok content =>
    match (new ".").push ⟨.file path, content⟩ none with
    | .error e _ => .error e
    | .ok _ s => .ok s

/-- Makes a directory the base of the innermost source. -/
def setBase (files : FileSystem) (path : Path) (s : SourceStack) :
    Result Error SourceStack Unit :=
  if files.isDirectory path then
    match s.sources with
    | [] => .ok () { s with bottom := .dir path }
    | source :: rest => .ok () { s with sources := { source with base := .dir path } :: rest }
  else
    .error (.configuration ("base path `" ++ path.text ++ "` is not an existing directory")) s

/-- Opens the replacement text of an entity as a source. -/
def enter (w : World) (t : EntityTable) (name : String) (s : SourceStack) :
    Result Error SourceStack Unit :=
  let noted := (t.openEvents w name s.base).foldl note s
  match t.openReference w name s.base with
  | .error e => .error e noted
  | .ok text => noted.push text (some name)

/-- What the end of input looks like. -/
def endLexeme (s : SourceStack) : Lexeme :=
  ⟨.endOfInput, s.ending, 0, 0⟩

/-- Scans the innermost source once. A token is given out, a reference is entered, and an
exhausted source is closed. -/
def step (w : World) (t : EntityTable) (s : SourceStack) :
    Result Error SourceStack (Option Lexeme) :=
  match s.sources with
  | [] => .ok (some s.endLexeme) s
  | source :: rest =>
    match Cursor.scan source.cursor with
    | .error e cursor => .error e { s with sources := { source with cursor } :: rest }
    | .ok scanned cursor =>
      let s := { s with sources := { source with cursor } :: rest }
      match scanned with
      | .exhausted => .ok none s.pop.2
      | .reference name location =>
        match s.enter w t name with
        | .error e s => .error (e.locate location) s
        | .ok _ s => .ok none s
      | .token token location =>
        .ok (some ⟨token, location, s.depth, source.id⟩) (s.note (.scanned location token))

/-- Leaves an ignored section, through the `]]>` that closes it. Sections inside it are left with
it, and nothing else in it is looked at. -/
def skipIgnored (s : SourceStack) : Result Error SourceStack Unit :=
  match s.sources with
  | [] => .error (.lexical s.ending "unterminated IGNORE section") s
  | source :: rest =>
    match source.cursor.skipSections 0 with
    | .error e cursor => .error e { s with sources := { source with cursor } :: rest }
    | .ok closed cursor =>
      let s' := { s with sources := { source with cursor } :: rest }
      if closed then .ok () s' else .error (.lexical s.location "unterminated IGNORE section") s'

end SourceStack

end Doctype
