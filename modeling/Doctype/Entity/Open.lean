import Doctype.Entity.Origin
import Doctype.Entity.Table
import Doctype.Journal
import Doctype.World

/-! Finding the replacement texts of parameter entities. -/
namespace Doctype

/-- A replacement text that is ready to be read. -/
structure EntityText where
  origin : Origin
  content : Reader
deriving DecidableEq, Repr

/-- Where an external entity has been found. -/
inductive Located
  /-- Its identifier is the path of a file. -/
  | byPath (path : Path) (content : Reader)
  /-- Its identifier is the URI of a local file. -/
  | byUri (path : Path) (content : Reader)
  /-- Its identifier names a page that has yet to be fetched. -/
  | remote (url : Url)

namespace Located

/-- What the journal says about a place. -/
def events (name : String) : Located → List Event
  | byPath path _ => [.resolved name path]
  | byUri _ _ => []
  | remote url => [.fetching name url.text]

end Located

namespace EntityTable

/-- The path that an identifier stands for; none if it is relative to a URL. -/
def pathOf? (target : String) (base : Base) : Option Path :=
  if Path.isAbsolute target then some (.ofString target)
  else
    match base with
    | .dir dir => some (dir.join target)
    | .url _ => none

/-- The URL that an identifier stands for. -/
def urlOf (target : String) : Base → Except UrlError Url
  | .dir _ => Url.parse target
  | .url url => url.join target

/-- The paths that are looked for to find an identifier. -/
def lookups (target : String) (base : Base) : List Path :=
  let byUri := match urlOf target base with
    | .ok url => if url.scheme == "file" then url.localPath? else none
    | .error _ => none
  (pathOf? target base).toList ++ byUri.toList

/-- Finds an external entity by the URL of its identifier. -/
def locateUrl (files : FileSystem) (name target : String) (url : Url) : Except Error Located :=
  let unresolved := Error.unresolvedReference name target
  if url.scheme == "file" then
    match url.localPath? with
    | none => .error (unresolved ("`" ++ url.text ++ "` is not a local file URI"))
    | some path =>
      match files.read path with
      | .ok content => .ok (.byUri path content)
      | .error e => .error (unresolved (path.text ++ ": " ++ e.message))
  else if url.scheme == "http" || url.scheme == "https" then .ok (.remote url)
  else .error (unresolved ("unsupported URI scheme `" ++ url.scheme ++ "`"))

/-- Finds an external entity: as a file if there is one under its identifier, by URL otherwise.
An identifier that is neither is reported as the file that is missing. -/
def locate (files : FileSystem) (name target : String) (base : Base) : Except Error Located :=
  let byUrl (reason : String) : Except Error Located :=
    match urlOf target base, base with
    | .ok url, _ => locateUrl files name target url
    | .error e, .url _ => .error (.unresolvedReference name target e.message)
    | .error _, .dir _ => .error (.unresolvedReference name target reason)
  match pathOf? target base with
  | none => byUrl ""
  | some path =>
    match files.read path with
    | .ok content => .ok (.byPath path content)
    | .error e => byUrl (path.text ++ ": " ++ e.message)

/-- Makes a located entity ready to be read. -/
def fetch (web : Web) (name target : String) : Located → Except Error EntityText
  | .byPath path content => .ok ⟨.file path, content⟩
  | .byUri path content => .ok ⟨.file path, content⟩
  | .remote url =>
    match web url with
    | .ok content => .ok ⟨.url url, content⟩
    | .error reason => .error (.unresolvedReference name target reason)

/-- Opens the replacement text of an entity; a value is trimmed. -/
def openReference (t : EntityTable) (w : World) (name : String) (base : Base) :
    Except Error EntityText :=
  match t.uris.get? name with
  | some target => do fetch w.web name target (← locate w.files name target base)
  | none =>
    match t.values.get? name with
    | some value => .ok ⟨.literal name, .ofText (Text.trim value)⟩
    | none => .error (if isName name then .undeclaredEntity name else badName name)

/-- What the journal says about opening an entity. -/
def openEvents (t : EntityTable) (w : World) (name : String) (base : Base) : List Event :=
  .referenced name ::
    match t.uris.get? name with
    | none => []
    | some target =>
      (lookups target base).map Event.sought ++
        match locate w.files name target base with
        | .ok place => place.events name
        | .error _ => []

theorem mem_names_of_openReference {t : EntityTable} {w : World} {name : String}
    {base : Base} {text : EntityText} (h : t.openReference w name base = .ok text) :
    name ∈ t.names := by
  unfold openReference at h
  split at h
  · rename_i hg
    exact List.mem_append_right _ (Bindings.mem_names_of_get? hg)
  · split at h
    · rename_i hg
      exact List.mem_append_left _ (Bindings.mem_names_of_get? hg)
    · simp at h

end EntityTable

end Doctype
