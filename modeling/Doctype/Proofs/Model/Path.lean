import Doctype.Path
import Mathlib.Data.List.Basic

/-! The directory that a file lies in. -/
namespace Doctype

namespace Text

variable {α : Type} {p : α → Bool}

theorem fields_of_forall {cs : List α} (h : ∀ c ∈ cs, p c = false) : fields p cs = [cs] := by
  induction cs with
  | nil => rfl
  | cons c cs ih =>
    have hrest := ih fun d hd => h d (List.mem_cons_of_mem _ hd)
    unfold fields
    rw [h c List.mem_cons_self, hrest]
    rfl

/-- A separator ends the last field of what is in front of it. -/
theorem fields_append {c : α} (hc : p c = true) (as bs : List α) :
    fields p (as ++ c :: bs) = fields p as ++ fields p bs := by
  induction as with
  | nil =>
    have hfields : fields p (c :: bs) = [] :: fields p bs := if_pos hc
    exact hfields
  | cons a as ih =>
    rw [List.cons_append]
    simp only [fields]
    rw [ih]
    by_cases ha : p a
    · rw [if_pos ha, if_pos ha, List.cons_append]
    · rw [if_neg ha, if_neg ha]
      obtain ⟨first, rest, hfields⟩ := List.exists_cons_of_ne_nil (fields_ne_nil p as)
      rw [hfields]
      rfl

end Text

namespace Path

/-- A path that is nothing but the name of a file in a directory. -/
def IsFileName (path : Path) : Prop :=
  slash ∉ path.bytes ∧ path.bytes ≠ [] ∧ path.bytes ≠ ownName ∧ path.bytes ≠ parentName

instance (path : Path) : Decidable path.IsFileName :=
  inferInstanceAs (Decidable (_ ∧ _ ∧ _ ∧ _))

/-- A path without the parts at its end that name nothing. -/
def tidy (path : Path) : Path :=
  { path.parts with body := settle path.parts.body }.path

variable {dir file : Path} {body names : List (List UInt8)} {part : List UInt8}

theorem settle_append_of_ne (h : part ≠ []) (h' : part ≠ ownName) :
    settle (body ++ [part]) = body ++ [part] := by
  have hkept : (part == [] || part == ownName) = false := by simp [h, h']
  unfold settle
  rw [List.reverse_append, List.reverse_singleton, List.singleton_append, List.dropWhile_cons, hkept]
  simp

theorem settle_append_nil (body : List (List UInt8)) : settle (body ++ [[]]) = settle body := by
  unfold settle
  rw [List.reverse_append, List.reverse_singleton, List.singleton_append, List.dropWhile_cons]
  rfl

theorem parts_of_cons {path : Path} (h : path.names = part :: names) (hne : part ≠ []) :
    path.parts = if part = ownName then ⟨false, true, names⟩ else ⟨false, false, part :: names⟩ := by
  unfold parts
  rw [h]
  cases part with
  | nil => exact absurd rfl hne
  | cons b bs => cases names <;> rfl

/-- The last of several names is the last part of a path. -/
theorem parts_of_names (hnames : names ≠ []) :
    ∃ root here body, (∀ (path : Path) part, path.names = names ++ [part] →
        path.parts = ⟨root, here, body ++ [part]⟩) ∧
      (names ≠ [[]] → ∀ path : Path, path.names = names → path.parts = ⟨root, here, body⟩) := by
  obtain ⟨first, rest, rfl⟩ := List.exists_cons_of_ne_nil hnames
  by_cases hroot : first = []
  · subst hroot
    refine ⟨true, false, rest, fun path part h => ?_, fun hne path h => ?_⟩
    · unfold parts
      rw [h]
      cases rest <;> rfl
    · obtain ⟨second, rest, rfl⟩ : ∃ second more, rest = second :: more :=
        List.exists_cons_of_ne_nil fun hnil => hne (hnil ▸ rfl)
      unfold parts
      rw [h]
  · by_cases hown : first = ownName
    · refine ⟨false, true, rest, fun path part h => ?_, fun _ path h => ?_⟩
      · rw [parts_of_cons h hroot, if_pos hown]
        rfl
      · rw [parts_of_cons h hroot, if_pos hown]
    · refine ⟨false, false, first :: rest, fun path part h => ?_, fun _ path h => ?_⟩
      · rw [parts_of_cons h hroot, if_neg hown]
        rfl
      · rw [parts_of_cons h hroot, if_neg hown]

theorem parent?_of_parts {path : Path} {root here : Bool} (h : path.parts = ⟨root, here, body ++ [part]⟩)
    (hne : part ≠ []) (hown : part ≠ ownName) :
    path.parent? = some (Parts.path ⟨root, here, settle body⟩) := by
  have hbody : body ++ [part] ≠ [] := by simp
  unfold parent?
  rw [h]
  dsimp only
  rw [settle_append_of_ne hne hown]
  split
  · rename_i hnil
    exact absurd hnil hbody
  · rename_i hcons
    rw [← hcons, List.dropLast_concat]

theorem fields_ne_singleton_nil {cs : List UInt8} (h : cs ≠ []) :
    Text.fields (· == slash) cs ≠ [[]] := by
  intro hfields
  apply h
  rw [← Text.joinFields_fields slash cs, hfields]
  rfl

/-- A file lies in the directory that its path has been joined to. -/
theorem parent?_join (h : file.IsFileName) : (dir.join file).parent? = some dir.tidy := by
  obtain ⟨hslash, hne, hown, -⟩ := h
  have hfile : Text.fields (· == slash) file.bytes = [file.bytes] := by
    apply Text.fields_of_forall
    intro c hc
    rw [beq_eq_false_iff_ne]
    rintro rfl
    exact hslash hc
  have hrelative : ¬file.isAbsolute = true := by
    unfold isAbsolute
    rw [beq_iff_eq]
    intro hhead
    exact hslash (List.mem_of_mem_head? hhead)
  have hslashed (cs : List UInt8) : (Path.mk (cs ++ slash :: file.bytes)).names =
      Text.fields (· == slash) cs ++ [file.bytes] := by
    unfold Path.names
    rw [Text.fields_append rfl, hfile]
  obtain ⟨bytes⟩ := dir
  unfold join
  rw [if_neg hrelative]
  rcases List.eq_nil_or_concat' bytes with rfl | ⟨front, last, rfl⟩
  · -- the file lies in the current directory
    have hparts : (Path.mk file.bytes).parts = ⟨false, false, [] ++ [file.bytes]⟩ := by
      rw [parts_of_cons hfile hne, if_neg hown]
      rfl
    have hends : ([] : List UInt8).getLast?.all (· == slash) = true := rfl
    have htidy : (Path.mk []).tidy = Parts.path ⟨false, false, settle []⟩ := by decide
    rw [htidy, if_pos hends]
    exact parent?_of_parts hparts hne hown
  by_cases hlast : last = slash
  · -- the slash is there already
    subst hlast
    obtain ⟨root, here, body, hparts, -⟩ := parts_of_names (Text.fields_ne_nil (· == slash) front)
    have hdir : (Path.mk (front ++ [slash])).names = Text.fields (· == slash) front ++ [[]] := by
      unfold Path.names
      rw [Text.fields_append rfl]
      rfl
    have htidy : (Path.mk (front ++ [slash])).tidy = Parts.path ⟨root, here, settle body⟩ := by
      unfold tidy
      rw [hparts _ _ hdir, settle_append_nil]
    have hends : (front ++ [slash]).getLast?.all (· == slash) = true := by simp
    have happend : front ++ [slash] ++ file.bytes = front ++ slash :: file.bytes := by simp
    rw [htidy, if_pos hends, happend]
    exact parent?_of_parts (hparts _ _ (hslashed front)) hne hown
  · obtain ⟨root, here, body, hparts, hself⟩ :=
      parts_of_names (Text.fields_ne_nil (· == slash) (front ++ [last]))
    have hdir : (Path.mk (front ++ [last])).parts = ⟨root, here, body⟩ :=
      hself (fields_ne_singleton_nil (by simp)) _ rfl
    have htidy : (Path.mk (front ++ [last])).tidy = Parts.path ⟨root, here, settle body⟩ := by
      unfold tidy
      rw [hdir]
    have hends : ¬(front ++ [last]).getLast?.all (· == slash) = true := by simpa using hlast
    rw [htidy, if_neg hends]
    exact parent?_of_parts (hparts _ _ (hslashed (front ++ [last]))) hne hown

end Path

end Doctype
