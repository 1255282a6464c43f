import Doctype.Proofs.Model.Bindings
import Doctype.Template.Collection

/-! Changes to a collection of templates: templates that are put in, and directories that are
loaded. Either puts some templates in, one after the other. -/
namespace Doctype.Templates

open EStateM (Result)

namespace Loading

/-- The templates that a load leaves, whether it succeeds or fails. -/
def left {α : Type} : Result Error Loading α → Templates
  | .ok _ s => s.templates
  | .error _ s => s.templates

/-- The file of a template in a directory. -/
def pathOf (dir : Path) (name : String) : Path :=
  dir.join (name ++ ".tpl")

/-- The templates that are read from a directory: one for each name that has a file, up to the first
file that cannot be read. -/
def found (files : FileSystem) (dir : Path) : List String → List Template
  | [] => []
  | name :: names =>
    if files.isFile (pathOf dir name) then
      match readText files (pathOf dir name) with
      | .ok text => ⟨name, text⟩ :: found files dir names
      | .error _ => []
    else found files dir names

variable {files : FileSystem} {dir : Path} {name : String} {names : List String} {s : Loading}

theorem loadFile_of_not_isFile (h : files.isFile (pathOf dir name) = false) :
    ∃ s', loadFile files dir name s = .ok () s' ∧ s'.templates = s.templates := by
  unfold pathOf at h
  simp only [loadFile, h, Bool.false_eq_true, if_false]
  exact ⟨_, rfl, rfl⟩

theorem loadFile_of_ok {text : String} (h : files.isFile (pathOf dir name) = true)
    (hread : readText files (pathOf dir name) = .ok text) :
    ∃ s', loadFile files dir name s = .ok () s' ∧ s'.templates = s.templates.insert ⟨name, text⟩ := by
  unfold pathOf at h hread
  simp only [loadFile, h, hread, if_true]
  exact ⟨_, rfl, rfl⟩

theorem loadFile_of_error {e : IoError} (h : files.isFile (pathOf dir name) = true)
    (hread : readText files (pathOf dir name) = .error e) :
    ∃ s', loadFile files dir name s = .error (.io e) s' ∧ s'.templates = s.templates := by
  unfold pathOf at h hread
  simp only [loadFile, h, hread, if_true]
  exact ⟨_, rfl, rfl⟩

theorem left_bind_of_ok {α β : Type} {m : LoadM α} {f : α → LoadM β} {s' : Loading} {a : α}
    (h : m s = .ok a s') : left ((m >>= f) s) = left (f a s') := by
  simp only [bind, EStateM.bind, h]

theorem left_bind_of_error {α β : Type} {m : LoadM α} {f : α → LoadM β} {s' : Loading} {e : Error}
    (h : m s = .error e s') : left ((m >>= f) s) = s'.templates := by
  simp only [bind, EStateM.bind, h]
  rfl

/-- Loading files puts in the templates that are found. -/
theorem left_loadFiles (names : List String) (s : Loading) :
    left (names.forM (loadFile files dir) s) =
      (found files dir names).foldl insert s.templates := by
  induction names generalizing s with
  | nil => rfl
  | cons name names ih =>
    change left ((loadFile files dir name >>= fun _ => names.forM (loadFile files dir)) s) = _
    rw [found]
    cases hfile : files.isFile (pathOf dir name) with
    | false =>
      obtain ⟨s', hload, hs'⟩ := loadFile_of_not_isFile (s := s) hfile
      rw [left_bind_of_ok hload, ih, hs', if_neg Bool.false_ne_true]
    | true =>
      rw [if_pos rfl]
      cases hread : readText files (pathOf dir name) with
      | ok text =>
        obtain ⟨s', hload, hs'⟩ := loadFile_of_ok (s := s) hfile hread
        rw [left_bind_of_ok hload, ih, hs']
        rfl
      | error e =>
        obtain ⟨s', hload, hs'⟩ := loadFile_of_error (s := s) hfile hread
        rw [left_bind_of_error hload, hs']
        rfl

end Loading

/-- Loading a directory puts in the templates that are found in it, if it is one. -/
theorem left_loadDirectory (files : FileSystem) (dir : Path) (s : Loading) :
    Loading.left (loadDirectory files dir s) =
      if files.isDirectory dir then
        (Loading.found files dir s.templates.names).foldl insert s.templates
      else s.templates := by
  cases hdir : files.isDirectory dir with
  | false =>
    simp only [loadDirectory, hdir, Bool.false_eq_true, if_false]
    rfl
  | true =>
    simp only [loadDirectory, hdir, if_true]
    exact Loading.left_loadFiles s.templates.names _

/-- A change to a collection of templates. -/
inductive Change
  | insert (t : Template)
  | load (files : FileSystem) (dir : Path)

/-- The templates behind a change, whether it succeeds or fails. -/
def Change.run (ts : Templates) : Change → Templates
  | insert t => ts.insert t
  | load files dir => Loading.left (loadDirectory files dir { templates := ts })

/-- The templates that a change puts in. -/
def Change.puts (ts : Templates) : Change → List Template
  | insert t => [t]
  | load files dir => if files.isDirectory dir then Loading.found files dir ts.names else []

/-- The templates that have been put in by some changes, one after the other. -/
def replaced (ts : Templates) : List Change → List Template
  | [] => []
  | c :: changes => c.puts ts ++ replaced (c.run ts) changes

variable {ts : Templates} {name text : String}

theorem Change.run_eq (ts : Templates) (c : Change) : c.run ts = (c.puts ts).foldl Templates.insert ts := by
  cases c with
  | insert t => rfl
  | load files dir =>
    rw [run, puts, left_loadDirectory]
    split <;> rfl

theorem foldl_run (ts : Templates) (changes : List Change) :
    changes.foldl Change.run ts = (replaced ts changes).foldl insert ts := by
  induction changes generalizing ts with
  | nil => rfl
  | cons c changes ih => rw [List.foldl_cons, ih, replaced, List.foldl_append, ← c.run_eq]

theorem get?_insert (ts : Templates) (t : Template) (name : String) :
    Bindings.get? (ts.insert t) name = if name = t.name then some t.text else Bindings.get? ts name :=
  Bindings.get?_set

/-- A template is one that has been put in, or it was there before. -/
theorem get?_foldl_insert {puts : List Template}
    (h : Bindings.get? (puts.foldl insert ts) name = some text) :
    ⟨name, text⟩ ∈ puts ∨ Bindings.get? ts name = some text := by
  induction puts generalizing ts with
  | nil => exact .inr h
  | cons t puts ih =>
    rcases ih h with hput | hts
    · exact .inl (List.mem_cons_of_mem _ hput)
    · rw [get?_insert] at hts
      split at hts
      · rename_i hname
        cases hts
        subst hname
        exact .inl List.mem_cons_self
      · exact .inr hts

/-- A name that has a template keeps one. -/
theorem has_foldl_insert (puts : List Template) (h : ts.has name = true) :
    Bindings.has (puts.foldl insert ts) name = true := by
  induction puts generalizing ts with
  | nil => exact h
  | cons t puts ih => exact ih (Bindings.has_set.2 (.inl h))

end Doctype.Templates
