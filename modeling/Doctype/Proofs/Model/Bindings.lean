import Doctype.Bindings
import Mathlib.Data.List.Nodup
import Mathlib.Data.List.Sort
import Mathlib.Data.String.Basic

/-! Looking names up in bindings, and adding them. -/
namespace Doctype.Bindings

variable {α : Type} {bs cs : Bindings α} {name n : String} {value v : α}

theorem get?_cons (b : String × α) (bs : Bindings α) (name : String) :
    get? (b :: bs) name = if name = b.1 then some b.2 else get? bs name := by
  obtain ⟨m, v⟩ := b
  unfold get?
  rw [List.lookup_cons]
  by_cases hn : name = m
  · simp [hn]
  · have hne : (name == m) = false := by simpa using hn
    rw [if_neg hn]
    simp only [hne]

theorem has_iff : bs.has name = true ↔ name ∈ bs.names := by
  simp [has, names]

theorem has_eq_false_iff : bs.has name = false ↔ name ∉ bs.names := by
  rw [← has_iff, Bool.not_eq_true]

theorem names_append : names (bs ++ cs) = bs.names ++ cs.names :=
  List.map_append

theorem get?_eq_none_iff : bs.get? name = none ↔ bs.has name = false := by
  rw [has_eq_false_iff]
  induction bs with
  | nil => simp [get?, names]
  | cons b bs ih =>
    rw [get?_cons]
    simp only [names, List.map_cons, List.mem_cons, not_or] at ih ⊢
    by_cases hn : name = b.1
    · simp [hn]
    · simp [hn, ih]

theorem has_congr (h : bs.get? name = cs.get? name) : bs.has name = cs.has name := by
  rw [Bool.eq_iff_iff, ← not_iff_not, Bool.not_eq_true, Bool.not_eq_true, ← get?_eq_none_iff,
    ← get?_eq_none_iff, h]

theorem has_of_get? (h : bs.get? name = some value) : bs.has name = true :=
  has_iff.2 (mem_names_of_get? h)

theorem exists_get?_of_has (h : bs.has name = true) : ∃ value, bs.get? name = some value := by
  rw [← Option.ne_none_iff_exists', Ne, get?_eq_none_iff, h]
  exact nofun

theorem get?_append (bs cs : Bindings α) (name : String) :
    (bs ++ cs).get? name = (bs.get? name).or (cs.get? name) := by
  induction bs with
  | nil => rfl
  | cons b bs ih =>
    rw [List.cons_append, get?_cons, get?_cons, ih]
    split <;> rfl

theorem mem_of_get? (h : bs.get? name = some value) : (name, value) ∈ bs := by
  induction bs with
  | nil => cases h
  | cons b bs ih =>
    rw [get?_cons] at h
    by_cases hn : name = b.1
    · rw [if_pos hn] at h
      cases h
      rw [hn]
      exact List.mem_cons_self
    · rw [if_neg hn] at h
      exact List.mem_cons_of_mem _ (ih h)

/-- Among names that differ, each binding is the one that is found. -/
theorem get?_of_mem (hnodup : bs.names.Nodup) (h : (name, value) ∈ bs) :
    bs.get? name = some value := by
  induction bs with
  | nil => cases h
  | cons b bs ih =>
    obtain ⟨hb, hbs⟩ := List.nodup_cons.1 hnodup
    rw [get?_cons]
    rcases List.mem_cons.1 h with rfl | h
    · exact if_pos rfl
    · have hne : name ≠ b.1 := by
        rintro rfl
        exact hb (List.mem_map.2 ⟨_, h, rfl⟩)
      rw [if_neg hne]
      exact ih hbs h

theorem nodup_of_names (h : bs.names.Nodup) : bs.Nodup :=
  h.of_map Prod.fst

theorem mem_iff_get? (h : bs.names.Nodup) {b : String × α} : b ∈ bs ↔ bs.get? b.1 = some b.2 := by
  constructor
  · exact fun hb => get?_of_mem h hb
  · exact fun hb => mem_of_get? hb

theorem get?_perm (h : bs.Perm cs) (hbs : bs.names.Nodup) (name : String) :
    bs.get? name = cs.get? name := by
  have hcs : cs.names.Nodup := (h.map Prod.fst).nodup hbs
  apply Option.ext
  intro value
  have hmem : (name, value) ∈ bs ↔ (name, value) ∈ cs := h.mem_iff
  rw [mem_iff_get? hbs, mem_iff_get? hcs] at hmem
  exact hmem

theorem sameAs_self [BEq α] [LawfulBEq α] (h : bs.names.Nodup) : bs.sameAs bs = true := by
  unfold sameAs
  rw [beq_self_eq_true, Bool.true_and, List.all_eq_true]
  intro b hb
  rw [get?_of_mem h hb]
  exact beq_self_eq_true _

theorem not_has_of_nodup {b : String × α} (h : (bs ++ b :: cs).names.Nodup) : bs.has b.1 = false := by
  rw [has_eq_false_iff]
  intro hb
  rw [names_append] at h
  have hne := (List.nodup_append.1 h).2.2 b.1 hb b.1 List.mem_cons_self
  exact hne rfl

section Add

theorem add_of_has (h : bs.has name = true) : bs.add name value = bs :=
  if_pos h

theorem add_of_not_has (h : bs.has name = false) : bs.add name value = bs ++ [(name, value)] := by
  unfold add
  rw [h]
  rfl

theorem prefix_add (bs : Bindings α) (name : String) (value : α) : bs <+: bs.add name value := by
  cases h : bs.has name with
  | true =>
    simp only [add_of_has h, List.prefix_rfl]
  | false =>
    rw [add_of_not_has h]
    exact List.prefix_append _ _

theorem names_add_of_not_has (h : bs.has name = false) :
    (bs.add name value).names = bs.names ++ [name] := by
  rw [add_of_not_has h, names_append]
  rfl

theorem has_add : (bs.add name value).has n = true ↔ bs.has n = true ∨ n = name := by
  cases h : bs.has name with
  | true =>
    rw [add_of_has h]
    constructor
    · exact .inl
    · rintro (hn | rfl)
      · exact hn
      · exact h
  | false =>
    rw [has_iff, names_add_of_not_has h, List.mem_append, List.mem_singleton, has_iff]

theorem nodup_append_singleton {names : List String} (h : names.Nodup) (hn : name ∉ names) :
    (names ++ [name]).Nodup := by
  rw [List.nodup_append]
  refine ⟨h, List.nodup_singleton name, fun a ha b hb => ?_⟩
  rw [List.mem_singleton] at hb
  rintro rfl
  exact hn (hb ▸ ha)

theorem nodup_add (h : bs.names.Nodup) : (bs.add name value).names.Nodup := by
  cases hn : bs.has name with
  | true => rwa [add_of_has hn]
  | false =>
    rw [names_add_of_not_has hn]
    exact nodup_append_singleton h (has_eq_false_iff.1 hn)

theorem mem_add {b : String × α} (h : b ∈ bs.add name value) : b ∈ bs ∨ b = (name, value) := by
  cases hn : bs.has name with
  | true =>
    rw [add_of_has hn] at h
    exact .inl h
  | false =>
    rw [add_of_not_has hn, List.mem_append, List.mem_singleton] at h
    exact h

end Add

section Set

/-- The bindings that bind a name for the first time. -/
def firsts : Bindings α → Bindings α
  | [] => []
  | b :: bs => b :: (firsts bs).filter (·.1 != b.1)

theorem has_append_singleton {b : String × α} :
    has (bs ++ [b]) n = (bs.has n || b.1 == n) := by
  simp only [has, List.any_append, List.any_cons, List.any_nil, Bool.or_false]

/-- Bindings that are added one by one come at the end, each name at its first place, unless they
are bound already. -/
theorem foldl_add (bs cs : Bindings α) :
    cs.foldl (fun bs b => bs.add b.1 b.2) bs = bs ++ (firsts cs).filter (!bs.has ·.1) := by
  induction cs generalizing bs with
  | nil => exact (List.append_nil bs).symm
  | cons c cs ih =>
    rw [List.foldl_cons, ih, firsts, List.filter_cons, List.filter_filter]
    cases h : bs.has c.1 with
    | true =>
      have hsame (b : String × α) : (!bs.has b.1) = (!bs.has b.1 && b.1 != c.1) := by
        by_cases hb : b.1 = c.1
        · rw [hb, h]
          rfl
        · rw [bne_iff_ne.2 hb, Bool.and_true]
      rw [add_of_has h]
      exact congrArg (bs ++ ·) (List.filter_congr fun b _ => hsame b)
    | false =>
      have hsame (b : String × α) : (!has (bs ++ [c]) b.1) = (!bs.has b.1 && b.1 != c.1) := by
        rw [has_append_singleton, Bool.not_or, Bool.beq_comm]
        rfl
      rw [add_of_not_has h, List.append_assoc]
      exact congrArg (bs ++ c :: ·) (List.filter_congr fun b _ => hsame b)

theorem names_set_of_has (h : bs.has name = true) : (bs.set name value).names = bs.names := by
  unfold set names
  rw [if_pos h, List.map_map]
  refine List.map_congr_left fun b _ => ?_
  simp only [Function.comp_apply]
  split
  · rename_i hb
    exact (beq_iff_eq.1 hb).symm
  · rfl

theorem set_of_not_has (h : bs.has name = false) : bs.set name value = bs ++ [(name, value)] := by
  unfold set
  rw [h]
  rfl

theorem names_set_of_not_has (h : bs.has name = false) :
    (bs.set name value).names = bs.names ++ [name] := by
  rw [set_of_not_has h, names_append]
  rfl

theorem names_prefix_set (bs : Bindings α) (name : String) (value : α) :
    bs.names <+: (bs.set name value).names := by
  cases h : bs.has name with
  | true =>
    simp only [names_set_of_has h, List.prefix_rfl]
  | false =>
    rw [names_set_of_not_has h]
    exact List.prefix_append _ _

theorem has_set : (bs.set name value).has n = true ↔ bs.has n = true ∨ n = name := by
  cases h : bs.has name with
  | true =>
    rw [has_iff, names_set_of_has h, ← has_iff]
    constructor
    · exact .inl
    · rintro (hn | rfl)
      · exact hn
      · exact h
  | false =>
    rw [has_iff, names_set_of_not_has h, List.mem_append, List.mem_singleton, has_iff]

theorem nodup_set (h : bs.names.Nodup) : (bs.set name value).names.Nodup := by
  cases hn : bs.has name with
  | true => rwa [names_set_of_has hn]
  | false =>
    rw [names_set_of_not_has hn]
    exact nodup_append_singleton h (has_eq_false_iff.1 hn)

theorem get?_replace :
    get? (bs.map fun b => if b.1 == name then (name, value) else b) n =
      if n = name ∧ bs.has name then some value else bs.get? n := by
  induction bs with
  | nil => simp [get?, has]
  | cons b bs ih =>
    rw [List.map_cons, get?_cons, get?_cons, ih]
    have hhas : has (b :: bs) name = (b.1 == name || has bs name) := rfl
    rw [hhas]
    by_cases hb : b.1 = name
    · simp only [hb, beq_self_eq_true, if_true, Bool.true_or, and_true]
      by_cases hn : n = name <;> simp [hn]
    · have hne : (b.1 == name) = false := by simpa using hb
      simp only [hne, Bool.false_eq_true, if_false, Bool.false_or]
      by_cases hn : n = name
      · subst hn
        simp [Ne.symm hb]
      · simp [hn]

theorem get?_set : (bs.set name value).get? n = if n = name then some value else bs.get? n := by
  cases h : bs.has name with
  | false =>
    rw [set_of_not_has h, get?_append, get?_cons]
    by_cases hn : n = name
    · subst hn
      rw [get?_eq_none_iff.2 h]
      simp
    · simp [hn, get?]
  | true =>
    unfold set
    rw [if_pos h, get?_replace, h]
    simp

/-- Binding a name to the value that it has changes nothing. -/
theorem set_of_get? (hnodup : bs.names.Nodup) (h : bs.get? name = some value) :
    bs.set name value = bs := by
  unfold set
  rw [if_pos (has_of_get? h)]
  have hmap : ∀ b ∈ bs, (if b.1 == name then (name, value) else b) = b := by
    intro b hb
    by_cases hn : b.1 = name
    · have hv : bs.get? b.1 = some b.2 := get?_of_mem hnodup hb
      rw [hn, h] at hv
      cases hv
      simp [← hn]
    · have hne : (b.1 == name) = false := by simpa using hn
      simp only [hne, Bool.false_eq_true, if_false]
  rw [List.map_congr_left hmap, List.map_id']

theorem replace_of_not_has (h : bs.has name = false) :
    (bs.map fun b => if b.1 == name then (name, value) else b) = bs := by
  have hmap : ∀ b ∈ bs, (if b.1 == name then (name, value) else b) = b := by
    intro b hb
    have hne : (b.1 == name) = false := by simpa using List.any_eq_false.1 h b hb
    rw [hne]
    rfl
  rw [List.map_congr_left hmap, List.map_id']

/-- A name that is bound once is bound in place. -/
theorem set_append_cons {old : α} (h : (bs ++ (name, old) :: cs).names.Nodup) :
    set (bs ++ (name, old) :: cs) name value = bs ++ (name, value) :: cs := by
  have hbs : bs.has name = false := not_has_of_nodup h
  have hcs : cs.has name = false := by
    rw [names_append] at h
    exact has_eq_false_iff.2 (List.nodup_cons.1 (List.nodup_append.1 h).2.1).1
  have hhas : has (bs ++ (name, old) :: cs) name = true := by
    rw [has_iff, names_append]
    exact List.mem_append_right _ List.mem_cons_self
  unfold set
  rw [if_pos hhas, List.map_append, List.map_cons, replace_of_not_has hbs, replace_of_not_has hcs,
    beq_self_eq_true, if_pos rfl]

end Set

section InsertSorted

theorem insertSorted_perm (bs : Bindings α) (name : String) (value : α) :
    (bs.insertSorted name value).Perm ((name, value) :: bs) := by
  induction bs with
  | nil => exact .refl _
  | cons b bs ih =>
    unfold insertSorted
    split
    · exact .refl _
    · exact (ih.cons b).trans (.swap (name, value) b bs)

theorem names_insertSorted_perm (bs : Bindings α) (name : String) (value : α) :
    (bs.insertSorted name value).names.Perm (name :: bs.names) :=
  (insertSorted_perm bs name value).map Prod.fst

theorem mem_insertSorted {b : String × α} :
    b ∈ bs.insertSorted name value ↔ b = (name, value) ∨ b ∈ bs := by
  rw [(insertSorted_perm bs name value).mem_iff, List.mem_cons]

theorem has_insertSorted :
    (bs.insertSorted name value).has n = true ↔ n = name ∨ bs.has n = true := by
  rw [has_iff, (names_insertSorted_perm bs name value).mem_iff, List.mem_cons, has_iff]

theorem get?_insertSorted (h : bs.has name = false) :
    (bs.insertSorted name value).get? n = if n = name then some value else bs.get? n := by
  induction bs with
  | nil => exact get?_cons (name, value) [] n
  | cons b bs ih =>
    have hb : b.1 ≠ name ∧ has bs name = false := by
      rw [has_eq_false_iff] at h ⊢
      exact ⟨fun he => h (List.mem_cons.2 (.inl he.symm)), fun he => h (List.mem_cons_of_mem _ he)⟩
    unfold insertSorted
    split
    · exact get?_cons (name, value) (b :: bs) n
    · rw [get?_cons, get?_cons, ih hb.2]
      by_cases hn : n = name
      · subst hn
        rw [if_neg (Ne.symm hb.1)]
        simp
      · simp only [hn, if_false]

/-- Bindings of two names can be inserted in either order. -/
theorem insertSorted_comm (h : name ≠ n) : (bs.insertSorted name value).insertSorted n v =
    (bs.insertSorted n v).insertSorted name value := by
  induction bs with
  | nil =>
    rcases lt_or_gt_of_ne h with hlt | hlt
    · simp only [insertSorted, if_pos hlt, if_neg (lt_asymm hlt)]
    · simp only [insertSorted, if_pos hlt, if_neg (lt_asymm hlt)]
  | cons b bs ih =>
    by_cases hname : name < b.1 <;> by_cases hn : n < b.1
    · rcases lt_or_gt_of_ne h with hlt | hlt
      · simp only [insertSorted, if_pos hname, if_pos hn, if_pos hlt, if_neg (lt_asymm hlt)]
      · simp only [insertSorted, if_pos hname, if_pos hn, if_pos hlt, if_neg (lt_asymm hlt)]
    · have hnot : ¬n < name := fun hlt => hn (hlt.trans hname)
      simp only [insertSorted, if_pos hname, if_neg hn, if_neg hnot]
    · have hnot : ¬name < n := fun hlt => hname (hlt.trans hn)
      simp only [insertSorted, if_neg hname, if_pos hn, if_neg hnot]
    · simp only [insertSorted, if_neg hname, if_neg hn, ih]

theorem insertSorted_of_forall_lt (h : ∀ n ∈ bs.names, n < name) :
    bs.insertSorted name value = bs ++ [(name, value)] := by
  induction bs with
  | nil => rfl
  | cons b bs ih =>
    have hb : ¬name < b.1 := not_lt_of_gt (h b.1 List.mem_cons_self)
    have hbs := ih fun n hn => h n (List.mem_cons_of_mem _ hn)
    unfold insertSorted
    rw [if_neg hb, hbs]
    rfl

/-- Bindings whose names increase. -/
def Sorted (bs : Bindings α) : Prop :=
  bs.names.Pairwise (· < ·)

theorem Sorted.nodup (h : bs.Sorted) : bs.names.Nodup :=
  h.imp ne_of_lt

theorem lt_of_sorted {b : String × α} (h : (bs ++ b :: cs).Sorted) : ∀ n ∈ bs.names, n < b.1 := by
  intro n hn
  unfold Sorted at h
  rw [names_append] at h
  exact (List.pairwise_append.1 h).2.2 n hn b.1 List.mem_cons_self

theorem sorted_insertSorted (h : bs.Sorted) (hn : bs.has name = false) :
    (bs.insertSorted name value).Sorted := by
  induction bs with
  | nil => exact List.pairwise_singleton _ _
  | cons b bs ih =>
    obtain ⟨hb, hbs⟩ := List.pairwise_cons.1 h
    have hne : b.1 ≠ name ∧ has bs name = false := by
      rw [has_eq_false_iff] at hn ⊢
      exact ⟨fun he => hn (List.mem_cons.2 (.inl he.symm)), fun he => hn (List.mem_cons_of_mem _ he)⟩
    unfold insertSorted
    split
    · rename_i hlt
      refine List.pairwise_cons.2 ⟨fun m hm => ?_, h⟩
      rcases List.mem_cons.1 hm with rfl | hm
      · exact hlt
      · exact hlt.trans (hb m hm)
    · rename_i hnot
      have hlt : b.1 < name := lt_of_le_of_ne (not_lt.1 hnot) hne.1
      refine List.pairwise_cons.2 ⟨fun m hm => ?_, ih hbs hne.2⟩
      rcases List.mem_cons.1 ((names_insertSorted_perm bs name value).mem_iff.1 hm) with rfl | hm
      · exact hlt
      · exact hb m hm

end InsertSorted

end Doctype.Bindings
