import Doctype.FileTree
import Doctype.Proofs.Template.Changes
import Doctype.Template.Builtin
import Mathlib.Data.List.Forall2

/-! Loading a directory of templates. The templates are gone through in order, and each is replaced in
place by its file, so that a load that stops at a file has replaced what stands before that template and
nothing behind it. -/
namespace Doctype.Templates

open EStateM (Result)

namespace Loading

/-- What a load makes of a template: the text of its file, or the same template if it has no file. -/
inductive Loaded (files : FileSystem) (dir : Path) : String × String → String × String → Prop
  | file {name old text : String} : files.isFile (pathOf dir name) = true →
      readText files (pathOf dir name) = .ok text → Loaded files dir (name, old) (name, text)
  | kept {b : String × String} : files.isFile (pathOf dir b.1) = false → Loaded files dir b b

/-- A template has a file that cannot be read. -/
structure Unreadable (files : FileSystem) (dir : Path) (name : String) (e : IoError) : Prop where
  isFile : files.isFile (pathOf dir name) = true
  read : readText files (pathOf dir name) = .error e

/-- What becomes of the templates that are still to be gone through, behind those that have been. -/
inductive Progress (files : FileSystem) (dir : Path) (done todo : Templates) :
    Result Error Loading Unit → Prop
  | finished {todo' : Templates} {s : Loading} : todo.Forall₂ (Loaded files dir) todo' →
      s.templates = done ++ todo' → Progress files dir done todo (.ok () s)
  | stopped {before before' after : Templates} {b : String × String} {e : IoError} {s : Loading} :
      todo = before ++ b :: after → before.Forall₂ (Loaded files dir) before' →
      Unreadable files dir b.1 e → s.templates = done ++ (before' ++ b :: after) →
      Progress files dir done todo (.error (.io e) s)

/-- The outcomes of a load, with the templates that it leaves. -/
inductive Outcome (files : FileSystem) (dir : Path) (ts : Templates) : Result Error Loading Unit → Prop
  | missing {s : Loading} : files.isDirectory dir = false → s.templates = ts →
      Outcome files dir ts
        (.error (.configuration ("template directory `" ++ dir.text ++ "` does not exist")) s)
  | searched {r : Result Error Loading Unit} : files.isDirectory dir = true →
      Progress files dir [] ts r → Outcome files dir ts r

variable {files : FileSystem} {dir : Path} {done todo ts : Templates} {b b' : String × String}
  {s : Loading} {r : Result Error Loading Unit}

theorem Loaded.name_eq (h : Loaded files dir b b') : b'.1 = b.1 := by
  cases h <;> rfl

theorem names_of_loaded {ts' : Templates} (h : ts.Forall₂ (Loaded files dir) ts') :
    Bindings.names ts' = ts.names := by
  induction h with
  | nil => rfl
  | cons hb _ ih => exact congrArg₂ List.cons hb.name_eq ih

theorem Progress.names_left (h : Progress files dir done todo r) :
    (left r).names = Bindings.names (done ++ todo) := by
  cases h with
  | finished hloaded hs =>
    rw [left, hs, Bindings.names_append, Bindings.names_append, names_of_loaded hloaded]
  | stopped htodo hloaded _ hs =>
    rw [left, hs, htodo]
    simp only [Bindings.names_append, names_of_loaded hloaded]

/-- A load that goes on behind a template has gone through that one as well. -/
theorem Progress.cons (hb : Loaded files dir b b') (h : Progress files dir (done ++ [b']) todo r) :
    Progress files dir done (b :: todo) r := by
  cases h with
  | finished hloaded hs =>
    rw [List.append_assoc] at hs
    exact .finished (.cons hb hloaded) hs
  | stopped htodo hloaded hunreadable hs =>
    rw [List.append_assoc] at hs
    exact .stopped (congrArg (List.cons b) htodo) (.cons hb hloaded) hunreadable hs

/-- One template: it is loaded in place, or the load stops at it and leaves everything as it was. -/
theorem loadFile_step (hs : s.templates = done ++ b :: todo)
    (hnodup : (Bindings.names (done ++ b :: todo)).Nodup) :
    (∃ b' s', loadFile files dir b.1 s = .ok () s' ∧ Loaded files dir b b' ∧
        s'.templates = done ++ b' :: todo) ∨
      ∃ e s', loadFile files dir b.1 s = .error (.io e) s' ∧ Unreadable files dir b.1 e ∧
        s'.templates = done ++ b :: todo := by
  cases hfile : files.isFile (pathOf dir b.1) with
  | false =>
    obtain ⟨s', hload, hs'⟩ := loadFile_of_not_isFile (s := s) hfile
    exact .inl ⟨b, s', hload, .kept hfile, hs'.trans hs⟩
  | true =>
    cases hread : readText files (pathOf dir b.1) with
    | ok text =>
      obtain ⟨s', hload, hs'⟩ := loadFile_of_ok (s := s) hfile hread
      have hset : Bindings.set (done ++ b :: todo) b.1 text = done ++ (b.1, text) :: todo :=
        Bindings.set_append_cons hnodup
      rw [hs] at hs'
      exact .inl ⟨(b.1, text), s', hload, .file hfile hread, hs'.trans hset⟩
    | error e =>
      obtain ⟨s', hload, hs'⟩ := loadFile_of_error (s := s) hfile hread
      exact .inr ⟨e, s', hload, ⟨hfile, hread⟩, hs'.trans hs⟩

/-- Whatever has been gone through, the load of the other templates comes as far as their files can be
read. -/
theorem loadFiles_progress (todo : Templates) {done : Templates} {s : Loading}
    (hs : s.templates = done ++ todo) (hnodup : (Bindings.names (done ++ todo)).Nodup) :
    Progress files dir done todo ((Bindings.names todo).forM (loadFile files dir) s) := by
  induction todo generalizing done s with
  | nil => exact .finished .nil hs
  | cons b todo ih =>
    change Progress files dir done (b :: todo)
      ((loadFile files dir b.1 >>= fun _ => (Bindings.names todo).forM (loadFile files dir)) s)
    simp only [bind, EStateM.bind]
    rcases loadFile_step hs hnodup with ⟨b', s', hload, hloaded, hs'⟩ | ⟨e, s', hload, hunreadable, hs'⟩
    · rw [hload]
      have hsplit : done ++ b' :: todo = done ++ [b'] ++ todo := List.append_cons done b' todo
      have hnames : Bindings.names (done ++ [b'] ++ todo) = Bindings.names (done ++ b :: todo) := by
        simp [Bindings.names, hloaded.name_eq]
      exact .cons hloaded (ih (hs'.trans hsplit) (hnames ▸ hnodup))
    · rw [hload]
      have hfirst : b :: todo = [] ++ b :: todo := rfl
      exact .stopped hfirst .nil hunreadable hs'

end Loading

open Loading

variable {files : FileSystem} {dir : Path} {ts : Templates} {s : Loading}

theorem nodup_foldl_insert (h : ts.names.Nodup) (puts : List Template) :
    (Bindings.names (puts.foldl insert ts)).Nodup := by
  induction puts generalizing ts with
  | nil => exact h
  | cons t puts ih => exact ih (Bindings.nodup_set h)

theorem nodup_builtin (target : Target) : (Bindings.names (builtin target)).Nodup := by
  cases target <;> decide

/-- No change gives a name a second template. -/
theorem nodup_foldl_run (h : ts.names.Nodup) (changes : List Change) :
    (Bindings.names (changes.foldl Change.run ts)).Nodup := by
  rw [foldl_run]
  exact nodup_foldl_insert h _

/-- A load keeps the names of the templates in their order, whatever its outcome is. Without the directory
it fails and leaves everything as it was; otherwise it succeeds and replaces exactly the templates with
files, or it fails at a file that cannot be read and has replaced exactly the templates with files in front
of that one. A name stands for one template, as it does after any changes. -/
theorem loadDirectory_outcome (h : (Bindings.names s.templates).Nodup) :
    Outcome files dir s.templates (loadDirectory files dir s) ∧
      Bindings.names (left (loadDirectory files dir s)) = Bindings.names s.templates := by
  cases hdir : files.isDirectory dir with
  | false =>
    simp only [loadDirectory, hdir, Bool.false_eq_true, if_false]
    exact ⟨.missing hdir rfl, rfl⟩
  | true =>
    have hprogress : Progress files dir [] s.templates (loadDirectory files dir s) := by
      simp only [loadDirectory, hdir, if_true]
      exact loadFiles_progress s.templates rfl h
    exact ⟨.searched hdir hprogress, hprogress.names_left⟩

/-- A directory in which the second of three files is not text. -/
def shelf : FileTree :=
  (((FileTree.empty "/").insert "d/xslt.element.tpl" (.file (.ofText "[\x7bname\x7d]"))).insert
    "d/xslt.attribute.tpl" (.file (.ofBytes [0xFF]))).insert
    "d/xslt.optional_attribute.tpl" (.file (.ofText "-"))

/-- The first file is loaded, and the third is not. -/
theorem loadDirectory_outcome_shelf :
    let changes : List Change := [.insert ⟨"xslt.file", "-"⟩]
    let s : Loading := { templates := changes.foldl Change.run (builtin .xslt) }
    let r := loadDirectory shelf.files "d" s
    (Bindings.names s.templates).Nodup ∧
      (Outcome shelf.files "d" s.templates r ∧ Bindings.names (left r) = Bindings.names s.templates) ∧
      Unreadable shelf.files "d" "xslt.attribute" .invalidText ∧
      Bindings.get? (left r) "xslt.element" = some "[\x7bname\x7d]" ∧
      Bindings.get? (left r) "xslt.optional_attribute" =
        Bindings.get? s.templates "xslt.optional_attribute" := by
  intro changes s r
  have hnodup : (Bindings.names s.templates).Nodup := nodup_foldl_run (nodup_builtin .xslt) changes
  have hunreadable : Unreadable shelf.files "d" "xslt.attribute" .invalidText :=
    ⟨by decide +kernel, by decide +kernel⟩
  exact ⟨hnodup, loadDirectory_outcome hnodup, hunreadable, by decide +kernel, by decide +kernel⟩

end Doctype.Templates
