import Doctype.Entity.Open
import Doctype.Proofs.Cursor.Tokens
import Doctype.Proofs.Model.Bindings

/-! Tables of parameter entities while more entities are declared. -/
namespace Doctype.EntityTable

variable {t u v : EntityTable} {name n : String}

theorem contains_iff :
    t.contains name = true ↔ t.values.has name = true ∨ t.uris.has name = true := by
  unfold contains
  rw [Bool.or_eq_true]

theorem contains_eq_false_iff :
    t.contains name = false ↔ t.values.has name = false ∧ t.uris.has name = false := by
  unfold contains
  rw [Bool.or_eq_false_iff]

/-- What a successful declaration does. -/
theorem declare_cases {kind : EntityKind} {content : String}
    (h : t.declare name kind content = .ok u) :
    isName name = true ∧
      (t.contains name = true ∧ u = t ∨
        t.contains name = false ∧
          (kind = .value ∧ (∃ value, t.expand content = .ok value ∧
              u = { t with values := t.values.insertSorted name value }) ∨
            kind = .uri ∧ u = { t with uris := t.uris.insertSorted name content })) := by
  unfold declare at h
  by_cases hempty : name.isEmpty
  · rw [if_pos hempty] at h
    cases h
  rw [if_neg hempty] at h
  by_cases hname : isName name
  swap
  · have hnot : (!isName name) = true := by simpa using hname
    rw [if_pos hnot] at h
    cases h
  have hnot : ¬(!isName name) = true := by simpa using hname
  rw [if_neg hnot] at h
  refine ⟨hname, ?_⟩
  by_cases hc : t.contains name
  · rw [if_pos hc] at h
    cases h
    exact .inl ⟨hc, rfl⟩
  · rw [if_neg hc] at h
    right
    rw [Bool.not_eq_true] at hc
    refine ⟨hc, ?_⟩
    cases kind with
    | value =>
      left
      cases hx : t.expand content with
      | error e =>
        rw [hx] at h
        cases h
      | ok value =>
        rw [hx] at h
        cases h
        exact ⟨rfl, value, rfl, rfl⟩
    | uri =>
      right
      cases h
      exact ⟨rfl, rfl⟩

theorem not_isEmpty_of_isName (h : isName name = true) : name.isEmpty = false := by
  cases hn : name.isEmpty with
  | false => rfl
  | true =>
    rw [String.isEmpty_iff] at hn
    subst hn
    cases h

/-- A second declaration changes nothing. -/
theorem declare_of_contains {kind : EntityKind} {content : String} (hname : isName name = true)
    (h : t.contains name = true) : t.declare name kind content = .ok t := by
  unfold declare
  rw [not_isEmpty_of_isName hname, hname]
  simp [h]

theorem declare_of_not_contains {kind : EntityKind} {content : String}
    (hname : isName name = true) (h : t.contains name = false) :
    t.declare name kind content =
      match kind with
      | .value => do
        let value ← t.expand content
        return { t with values := t.values.insertSorted name value }
      | .uri => .ok { t with uris := t.uris.insertSorted name content } := by
  unfold declare
  rw [not_isEmpty_of_isName hname, hname, h]
  rfl

/-- What the first table declares, the second declares in the same way. -/
def Kept (t u : EntityTable) : Prop :=
  ∀ name, t.contains name = true →
    u.values.get? name = t.values.get? name ∧ u.uris.get? name = t.uris.get? name

theorem Kept.refl (t : EntityTable) : t.Kept t :=
  fun _ _ => ⟨rfl, rfl⟩

theorem contains_congr (hv : u.values.get? name = t.values.get? name)
    (hu : u.uris.get? name = t.uris.get? name) : u.contains name = t.contains name := by
  unfold contains
  rw [Bindings.has_congr hv, Bindings.has_congr hu]

theorem Kept.contains (h : t.Kept u) (hn : t.contains name = true) : u.contains name = true := by
  obtain ⟨hv, hu⟩ := h name hn
  rw [contains_congr hv hu, hn]

theorem Kept.trans (h : t.Kept u) (h' : u.Kept v) : t.Kept v := by
  intro name hn
  obtain ⟨hv, hu⟩ := h name hn
  obtain ⟨hv', hu'⟩ := h' name (h.contains hn)
  exact ⟨hv'.trans hv, hu'.trans hu⟩

theorem kept_declare {kind : EntityKind} {content : String}
    (h : t.declare name kind content = .ok u) : t.Kept u := by
  obtain ⟨-, ⟨-, rfl⟩ | ⟨hc, hu⟩⟩ := declare_cases h
  · exact .refl _
  · obtain ⟨hvalues, huris⟩ := contains_eq_false_iff.1 hc
    intro n hn
    have hne : n ≠ name := by
      rintro rfl
      rw [hc] at hn
      cases hn
    rcases hu with ⟨-, value, -, rfl⟩ | ⟨-, rfl⟩
    · exact ⟨by rw [Bindings.get?_insertSorted hvalues, if_neg hne], rfl⟩
    · exact ⟨rfl, by rw [Bindings.get?_insertSorted huris, if_neg hne]⟩

/-- A successful declaration declares its name and keeps the others. -/
theorem contains_declare_iff {kind : EntityKind} {content : String}
    (h : t.declare name kind content = .ok u) :
    u.contains n = true ↔ n = name ∨ t.contains n = true := by
  obtain ⟨-, ⟨hc, rfl⟩ | ⟨-, ⟨-, value, -, rfl⟩ | ⟨-, rfl⟩⟩⟩ := declare_cases h
  · constructor
    · exact .inr
    · rintro (rfl | hn)
      · exact hc
      · exact hn
  · rw [contains_iff, contains_iff, Bindings.has_insertSorted, or_assoc]
  · rw [contains_iff, contains_iff, Bindings.has_insertSorted, or_left_comm]

theorem contains_declare {kind : EntityKind} {content : String}
    (h : t.declare name kind content = .ok u) : u.contains name = true :=
  (contains_declare_iff h).2 (.inl rfl)

theorem Kept.replacement {text : String} (h : t.Kept u) (ht : t.replacement name = .ok text) :
    u.replacement name = .ok text := by
  unfold EntityTable.replacement at ht ⊢
  cases hv : t.values.get? name with
  | some value =>
    have hn := contains_iff.2 (.inl (Bindings.has_of_get? hv))
    rw [hv] at ht
    rw [(h name hn).1, hv]
    exact ht
  | none =>
    rw [hv] at ht
    cases hu : t.uris.get? name <;> rw [hu] at ht <;> cases ht

section Expand

variable {c : Char} {cs ds rest : List Char}

theorem bind_eq_ok {ε α β : Type} {x : Except ε α} {f : α → Except ε β} {b : β} :
    (x >>= f) = .ok b ↔ ∃ a, x = .ok a ∧ f a = .ok b := by
  cases x with
  | error e =>
    constructor
    · exact nofun
    · rintro ⟨a, ha, -⟩
      cases ha
  | ok a =>
    constructor
    · exact fun h => ⟨a, rfl, h⟩
    · rintro ⟨a', ha, h⟩
      cases ha
      exact h

theorem expandChars_reference {ref : List Char} (h : reference? cs = some (ref, rest)) :
    t.expandChars ('%' :: cs) = .ok ds ↔
      ∃ text es, t.replacement (.ofList ref) = .ok text ∧ t.expandChars rest = .ok es ∧
        ds = text.toList ++ es := by
  rw [expandChars, if_pos rfl]
  split
  · rename_i ref' rest' h'
    rw [h] at h'
    cases h'
    constructor
    · intro hx
      obtain ⟨text, htext, hx⟩ := bind_eq_ok.1 hx
      obtain ⟨es, hes, hx⟩ := bind_eq_ok.1 hx
      cases hx
      exact ⟨text, es, htext, hes, rfl⟩
    · rintro ⟨text, es, htext, hes, rfl⟩
      rw [htext, hes]
      rfl
  · rename_i h'
    rw [h] at h'
    cases h'

theorem expandChars_cons (h : c = '%' → reference? cs = none) :
    t.expandChars (c :: cs) = .ok ds ↔ ∃ es, t.expandChars cs = .ok es ∧ ds = c :: es := by
  have hbind : (do return c :: (← t.expandChars cs)) = Except.ok ds ↔
      ∃ es, t.expandChars cs = .ok es ∧ ds = c :: es := by
    constructor
    · intro hx
      obtain ⟨es, hes, hx⟩ := bind_eq_ok.1 hx
      cases hx
      exact ⟨es, hes, rfl⟩
    · rintro ⟨es, hes, rfl⟩
      rw [hes]
      rfl
  rw [expandChars]
  by_cases hc : c = '%'
  · rw [if_pos hc]
    split
    · rename_i h'
      rw [h hc] at h'
      cases h'
    · exact hbind
  · rw [if_neg hc]
    exact hbind

/-- References that can be expanded stand for the same text in a larger table. -/
theorem Kept.expandChars (h : t.Kept u) (ht : t.expandChars cs = .ok ds) :
    u.expandChars cs = .ok ds := by
  induction hn : cs.length using Nat.strong_induction_on generalizing cs ds with
  | _ n ih =>
    subst hn
    cases cs with
    | nil =>
      rw [EntityTable.expandChars] at ht ⊢
      exact ht
    | cons c cs =>
      by_cases hplain : c = '%' → reference? cs = none
      · obtain ⟨es, hes, rfl⟩ := (expandChars_cons hplain).1 ht
        exact (expandChars_cons hplain).2 ⟨es, ih _ (Nat.lt_succ_self _) hes rfl, rfl⟩
      · obtain ⟨rfl, hsome⟩ := Classical.not_imp.1 hplain
        obtain ⟨⟨ref, rest⟩, href⟩ := Option.ne_none_iff_exists'.1 hsome
        obtain ⟨text, es, htext, hes, rfl⟩ := (expandChars_reference href).1 ht
        have hlt : rest.length < (cs.length + 1) := (length_lt_of_reference? href).trans
          (Nat.lt_succ_self _)
        exact (expandChars_reference href).2
          ⟨text, es, h.replacement htext, ih _ hlt hes rfl, rfl⟩

end Expand

/-- A text without references. -/
def Inert (text : String) : Prop :=
  ∀ name, isName name = true → ¬('%' :: (name.toList ++ [';'])) <:+: text.toList

theorem reference?_eq_some {cs ref rest : List Char} (h : reference? cs = some (ref, rest)) :
    isNameOf ref = true ∧ cs = ref ++ ';' :: rest := by
  have hspan : cs.takeWhile isNameChar ++ cs.dropWhile isNameChar = cs := List.takeWhile_append_dropWhile
  unfold reference? at h
  split at h
  swap
  · cases h
  rename_i rest' hrest
  by_cases hname : isNameOf (cs.takeWhile isNameChar)
  · rw [if_pos hname] at h
    cases h
    constructor
    · exact hname
    · rw [← hrest, hspan]
  · rw [if_neg hname] at h
    cases h

theorem inert_of_not_mem {text : String} (h : '%' ∉ text.toList) : Inert text :=
  fun _ _ hin => h (hin.subset List.mem_cons_self)

/-- A text without references expands to itself. -/
theorem expand_of_inert {text : String} (h : Inert text) : t.expand text = .ok text := by
  have hsuffix (front cs : List Char) (hcs : text.toList = front ++ cs) :
      t.expandChars cs = .ok cs := by
    induction cs generalizing front with
    | nil => rw [EntityTable.expandChars]
    | cons c cs ih =>
      have hrest : t.expandChars cs = .ok cs := by
        apply ih (front ++ [c])
        rw [hcs, List.append_assoc]
        rfl
      have hnone : c = '%' → reference? cs = none := by
        rintro rfl
        by_contra hsome
        obtain ⟨⟨ref, rest⟩, href⟩ := Option.ne_none_iff_exists'.1 hsome
        obtain ⟨hname, hspan⟩ := reference?_eq_some href
        have hname' : isName (.ofList ref) = true := by
          unfold isName
          rwa [String.toList_ofList]
        apply h (.ofList ref) hname'
        rw [String.toList_ofList, hcs, hspan]
        exact ⟨front, rest, by simp⟩
      exact (expandChars_cons hnone).2 ⟨cs, hrest, rfl⟩
  unfold EntityTable.expand
  rw [hsuffix [] text.toList rfl]
  show Except.ok (String.ofList text.toList) = _
  rw [String.ofList_toList]

theorem Kept.expand {text value : String} (h : t.Kept u) (ht : t.expand text = .ok value) :
    u.expand text = .ok value := by
  unfold EntityTable.expand at ht ⊢
  cases hx : t.expandChars text.toList with
  | error e =>
    rw [hx] at ht
    cases ht
  | ok ds =>
    rw [hx] at ht
    rw [h.expandChars hx]
    exact ht

/-- A reference that can be opened opens the same text in a larger table. -/
theorem Kept.openReference {w : World} {base : Base} {text : EntityText} (h : t.Kept u)
    (ht : t.openReference w name base = .ok text) : u.openReference w name base = .ok text := by
  have hn : t.contains name = true := by
    have hmem := mem_names_of_openReference ht
    unfold names at hmem
    rw [List.mem_append, ← Bindings.has_iff, ← Bindings.has_iff] at hmem
    exact contains_iff.2 hmem
  obtain ⟨hv, hu⟩ := h name hn
  unfold EntityTable.openReference at ht ⊢
  rw [hv, hu]
  exact ht

/-- A table whose names are sorted and declared in one way only. -/
structure Keyed (t : EntityTable) : Prop where
  values : t.values.Sorted
  uris : t.uris.Sorted
  disjoint : ∀ name, t.values.has name = true → t.uris.has name = false
  names : ∀ name, t.contains name = true → isName name = true

theorem keyed_empty : ({} : EntityTable).Keyed :=
  ⟨.nil, .nil, nofun, nofun⟩

theorem Keyed.declare {kind : EntityKind} {content : String} (h : t.Keyed)
    (ht : t.declare name kind content = .ok u) : u.Keyed := by
  obtain ⟨hname, ⟨-, rfl⟩ | ⟨hc, hu⟩⟩ := declare_cases ht
  · exact h
  obtain ⟨hvalues, huris⟩ := contains_eq_false_iff.1 hc
  rcases hu with ⟨-, value, -, rfl⟩ | ⟨-, rfl⟩
  · refine ⟨Bindings.sorted_insertSorted h.values hvalues, h.uris, fun n hn => ?_, fun n hn => ?_⟩
    · rcases Bindings.has_insertSorted.1 hn with rfl | hn
      · exact huris
      · exact h.disjoint n hn
    · rcases contains_iff.1 hn with hn | hn
      · rcases Bindings.has_insertSorted.1 hn with rfl | hn
        · exact hname
        · exact h.names n (contains_iff.2 (.inl hn))
      · exact h.names n (contains_iff.2 (.inr hn))
  · refine ⟨h.values, Bindings.sorted_insertSorted h.uris huris, fun n hn => ?_, fun n hn => ?_⟩
    · rw [← Bool.not_eq_true, Bindings.has_insertSorted]
      rintro (rfl | hu)
      · rw [hvalues] at hn
        cases hn
      · rw [h.disjoint n hn] at hu
        cases hu
    · rcases contains_iff.1 hn with hn | hn
      · exact h.names n (contains_iff.2 (.inl hn))
      · rcases Bindings.has_insertSorted.1 hn with rfl | hn
        · exact hname
        · exact h.names n (contains_iff.2 (.inr hn))

/-- A table as the declarations of a DTD leave it: what names an entity can be quoted. -/
structure Sound (t : EntityTable) : Prop where
  values : t.values.Sorted
  uris : t.uris.Sorted
  disjoint : ∀ name, t.values.has name = true → t.uris.has name = false
  names : ∀ name, t.contains name = true → isName name = true
  quotable : ∀ b ∈ t.uris, Quotable b.2

theorem Sound.keyed (h : t.Sound) : t.Keyed :=
  ⟨h.values, h.uris, h.disjoint, h.names⟩

theorem sound_empty : ({} : EntityTable).Sound :=
  ⟨.nil, .nil, nofun, nofun, nofun⟩

theorem sound_value {b : String × String} (h : isName b.1 = true) : Sound { values := [b] } := by
  have hname : ∀ name, ({ values := [b] } : EntityTable).contains name = true → isName name = true := by
    intro name hcontains
    have hmem : name ∈ Bindings.names [b] := by
      rcases contains_iff.1 hcontains with hhas | hhas
      · exact Bindings.has_iff.1 hhas
      · cases hhas
    rw [List.mem_singleton.1 hmem]
    exact h
  exact ⟨List.pairwise_singleton _ _, .nil, fun _ _ => rfl, hname, nofun⟩

theorem sound_uri {b : String × String} (h : isName b.1 = true) (hquotable : Quotable b.2) :
    Sound { uris := [b] } := by
  have hname : ∀ name, ({ uris := [b] } : EntityTable).contains name = true → isName name = true := by
    intro name hcontains
    have hmem : name ∈ Bindings.names [b] := by
      rcases contains_iff.1 hcontains with hhas | hhas
      · cases hhas
      · exact Bindings.has_iff.1 hhas
    rw [List.mem_singleton.1 hmem]
    exact h
  refine ⟨.nil, List.pairwise_singleton _ _, nofun, hname, fun c hc => ?_⟩
  rw [List.mem_singleton.1 hc]
  exact hquotable

theorem Sound.declare {kind : EntityKind} {content : String} (h : t.Sound)
    (hcontent : kind = .uri → Quotable content) (ht : t.declare name kind content = .ok u) :
    u.Sound := by
  obtain ⟨hvalues, huris, hdisjoint, hnames⟩ := h.keyed.declare ht
  refine ⟨hvalues, huris, hdisjoint, hnames, fun b hb => ?_⟩
  obtain ⟨-, ⟨-, rfl⟩ | ⟨-, ⟨-, value, -, rfl⟩ | ⟨hkind, rfl⟩⟩⟩ := declare_cases ht
  · exact h.quotable b hb
  · exact h.quotable b hb
  · rcases Bindings.mem_insertSorted.1 hb with rfl | hb
    · exact hcontent hkind
    · exact h.quotable b hb

end Doctype.EntityTable
