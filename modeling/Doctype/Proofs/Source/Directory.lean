import Doctype.Entity.Open
import Doctype.Proofs.Model.Path

/-! Directories that can be written in two ways. -/
namespace Doctype

/-- Two ways to write one directory: a path from there leads to the same file both ways, and lies in
a directory that is written in two such ways again. -/
def FileSystem.SameDirectory (files : FileSystem) (a b : Path) : Prop :=
  ∃ S : Path → Path → Prop, S a b ∧ ∀ c d, S c d → ∀ target : String,
    files.read (c.join target) = files.read (d.join target) ∧
      Option.Rel S (c.join target).parent? (d.join target).parent?

namespace FileSystem.SameDirectory

variable {files : FileSystem} {a b : Path} {target : String}

theorem of_join (h : ∀ target : String, a.join target = b.join target) : files.SameDirectory a b := by
  refine ⟨fun c d => ∀ target : String, c.join target = d.join target, h, fun c d hcd target => ?_⟩
  rw [hcd target]
  refine ⟨rfl, ?_⟩
  cases (d.join target).parent? with
  | none => exact .none
  | some parent => exact .some fun _ => rfl

theorem refl (files : FileSystem) (a : Path) : files.SameDirectory a a :=
  of_join fun _ => rfl

/-- Of a directory in its tidy form there is nothing to say. -/
theorem of_tidy (files : FileSystem) (h : a.tidy = a) : files.SameDirectory a a.tidy := by
  rw [h]
  exact refl files a

theorem read_eq (h : files.SameDirectory a b) (target : String) :
    files.read (a.join target) = files.read (b.join target) := by
  obtain ⟨S, hab, hS⟩ := h
  exact (hS a b hab target).1

theorem parent (h : files.SameDirectory a b) (target : String) :
    Option.Rel files.SameDirectory (a.join target).parent? (b.join target).parent? := by
  obtain ⟨S, hab, hS⟩ := h
  have hrel := (hS a b hab target).2
  generalize (a.join target).parent? = x at hrel
  generalize (b.join target).parent? = y at hrel
  cases hrel with
  | none => exact .none
  | some hcd => exact .some ⟨S, hcd, hS⟩

end FileSystem.SameDirectory

/-- The same base, or two ways to write the same directory. -/
def FileSystem.SameBase (files : FileSystem) (a b : Base) : Prop :=
  a = b ∨ ∃ c d, a = .dir c ∧ b = .dir d ∧ files.SameDirectory c d

namespace EntityTable

variable {w : World} {t : EntityTable} {name target : String} {base base' : Base} {c d : Path}

theorem pathOf?_dir (target : String) (dir : Path) :
    pathOf? target (.dir dir) = some (dir.join target) := by
  unfold pathOf?
  by_cases habsolute : Path.isAbsolute target
  · rw [if_pos habsolute]
    unfold Path.join
    rw [if_pos habsolute]
  · rw [if_neg habsolute]

theorem locate_of_read {content : Reader} (h : w.files.read (c.join target) = .ok content) :
    locate w.files name target (.dir c) = .ok (.byPath (c.join target) content) := by
  unfold locate
  rw [pathOf?_dir]
  simp only [h]

/-- What can be found from a directory can be found from the same directory written differently. -/
theorem locate_sameDirectory {place : Located} (h : w.files.SameDirectory c d)
    (hp : locate w.files name target (.dir c) = .ok place) :
    locate w.files name target (.dir d) = .ok place ∨
      ∃ content, place = .byPath (c.join target) content ∧
        locate w.files name target (.dir d) = .ok (.byPath (d.join target) content) := by
  cases hread : w.files.read (c.join target) with
  | ok content =>
    right
    rw [locate_of_read hread] at hp
    cases hp
    exact ⟨content, rfl, locate_of_read (h.read_eq target ▸ hread)⟩
  | error e =>
    left
    have hread' := h.read_eq target ▸ hread
    unfold locate at hp ⊢
    rw [pathOf?_dir] at hp ⊢
    simp only [hread, hread', urlOf] at hp ⊢
    cases hurl : Url.parse target with
    | ok url =>
      rw [hurl] at hp
      exact hp
    | error e =>
      rw [hurl] at hp
      cases hp

theorem openReference_of_uri (h : t.uris.get? name = some target) :
    t.openReference w name base =
      (locate w.files name target base).bind (fetch w.web name target) := by
  unfold openReference
  rw [h]
  rfl

/-- A reference that can be opened from a directory can be opened from the same directory written
differently, and gives the same text. -/
theorem openReference_sameDirectory {text : EntityText} (h : w.files.SameDirectory c d)
    (ht : t.openReference w name (.dir c) = .ok text) :
    ∃ text', t.openReference w name (.dir d) = .ok text' ∧ text'.content = text.content ∧
      w.files.SameBase (text.origin.base?.getD (.dir c)) (text'.origin.base?.getD (.dir d)) := by
  have hbase (base : Option Base) : w.files.SameBase (base.getD (.dir c)) (base.getD (.dir d)) := by
    cases base with
    | none => exact .inr ⟨c, d, rfl, rfl, h⟩
    | some base => exact .inl rfl
  cases huri : t.uris.get? name with
  | none =>
    have heq : t.openReference w name (.dir d) = t.openReference w name (.dir c) := by
      unfold openReference
      rw [huri]
    exact ⟨text, heq.trans ht, rfl, hbase _⟩
  | some target =>
    rw [openReference_of_uri huri] at ht ⊢
    cases hplace : locate w.files name target (.dir c) with
    | error e =>
      rw [hplace] at ht
      cases ht
    | ok place =>
      rw [hplace] at ht
      rcases locate_sameDirectory h hplace with hplace' | ⟨content, rfl, hplace'⟩
      · exact ⟨text, by rw [hplace']; exact ht, rfl, hbase _⟩
      · cases ht
        refine ⟨⟨.file (d.join target), content⟩, by rw [hplace']; rfl, rfl, ?_⟩
        change w.files.SameBase (((c.join target).parent?.map Base.dir).getD (.dir c))
          (((d.join target).parent?.map Base.dir).getD (.dir d))
        have hparent := h.parent target
        generalize (c.join target).parent? = x at hparent
        generalize (d.join target).parent? = y at hparent
        cases hparent with
        | none => exact hbase none
        | some hxy => exact .inr ⟨_, _, rfl, rfl, hxy⟩

theorem openReference_sameBase {text : EntityText} (h : w.files.SameBase base base')
    (ht : t.openReference w name base = .ok text) :
    ∃ text', t.openReference w name base' = .ok text' ∧ text'.content = text.content ∧
      w.files.SameBase (text.origin.base?.getD base) (text'.origin.base?.getD base') := by
  rcases h with rfl | ⟨c, d, rfl, rfl, h⟩
  · exact ⟨text, ht, rfl, .inl rfl⟩
  · exact openReference_sameDirectory h ht

end EntityTable

end Doctype
