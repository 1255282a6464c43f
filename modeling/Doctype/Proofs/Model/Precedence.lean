import Doctype.Proofs.Model.Table

/-! The first declaration of a name counts, whatever has been declared before and is declared
after it. -/
namespace Doctype.EntityTable

/-- A call that declares an entity. -/
structure Attempt where
  name : String
  kind : EntityKind
  content : String

namespace Attempt

/-- What a call gives over a table. -/
def on (a : Attempt) (t : EntityTable) : Except Error EntityTable :=
  t.declare a.name a.kind a.content

/-- The table behind a call. A call that fails leaves the table as it was. -/
def leaves (a : Attempt) (t : EntityTable) : EntityTable :=
  match a.on t with
  | .error _ => t
  | .ok u => u

/-- A table holds the entity of a call as the call declares it over another table: the identifier
as it is given, or the value with its references expanded over that table. -/
def StoredIn (a : Attempt) (u t : EntityTable) : Prop :=
  t.kind? a.name = some a.kind ∧
    match a.kind with
    | .value => t.uris.get? a.name = none ∧
        ∃ value, u.expand a.content = .ok value ∧ t.values.get? a.name = some value
    | .uri => t.values.get? a.name = none ∧ t.uris.get? a.name = some a.content

end Attempt

/-- The table behind a history of calls, which begins without entities. -/
def after (history : List Attempt) : EntityTable :=
  history.foldl (fun t a => a.leaves t) empty

/-- A call succeeds behind a history. -/
def Succeeds (before : List Attempt) (a : Attempt) : Prop :=
  ∃ u, a.on (after before) = .ok u

/-- A call is the first one for its name that succeeds. -/
def First (before : List Attempt) (a : Attempt) : Prop :=
  Succeeds before a ∧
    ∀ front b, front ++ [b] <+: before → b.name = a.name → ¬Succeeds front b

variable {before front history more : List Attempt} {a : Attempt} {name : String}
  {t u : EntityTable}

theorem after_append_singleton (history : List Attempt) (a : Attempt) :
    after (history ++ [a]) = a.leaves (after history) := by
  unfold after
  rw [List.foldl_append]
  rfl

theorem after_of_ok (h : a.on (after history) = .ok u) : after (history ++ [a]) = u := by
  rw [after_append_singleton, Attempt.leaves, h]

theorem after_of_error {e : Error} (h : a.on (after history) = .error e) :
    after (history ++ [a]) = after history := by
  rw [after_append_singleton, Attempt.leaves, h]

/-- Later calls do not change what is declared. -/
theorem kept_after_append (history more : List Attempt) :
    (after history).Kept (after (history ++ more)) := by
  induction more using List.reverseRecOn with
  | nil =>
    rw [List.append_nil]
    exact .refl _
  | append_singleton more a ih =>
    rw [← List.append_assoc]
    cases ha : a.on (after (history ++ more)) with
    | error e =>
      rw [after_of_error ha]
      exact ih
    | ok u =>
      rw [after_of_ok ha]
      exact ih.trans (kept_declare ha)

theorem keyed_after (history : List Attempt) : (after history).Keyed := by
  induction history using List.reverseRecOn with
  | nil => exact keyed_empty
  | append_singleton history a ih =>
    cases ha : a.on (after history) with
    | error e =>
      rw [after_of_error ha]
      exact ih
    | ok u =>
      rw [after_of_ok ha]
      exact ih.declare ha

/-- A name is declared once a call for it has succeeded. -/
theorem contains_of_succeeds (ha : front ++ [a] <+: history) (h : Succeeds front a) :
    (after history).contains a.name = true := by
  obtain ⟨u, hu⟩ := h
  obtain ⟨more, rfl⟩ := ha
  have hcontains : (after (front ++ [a])).contains a.name = true := by
    rw [after_of_ok hu]
    exact contains_declare hu
  exact (kept_after_append _ _).contains hcontains

/-- Behind every declared name there is a first call. -/
theorem exists_first (h : (after history).contains name = true) :
    ∃ before a, before ++ [a] <+: history ∧ a.name = name ∧ First before a := by
  induction history using List.reverseRecOn with
  | nil => cases h
  | append_singleton history a ih =>
    by_cases hbefore : (after history).contains name
    · obtain ⟨before, b, hfront, hb⟩ := ih hbefore
      exact ⟨before, b, hfront.trans (List.prefix_append _ _), hb⟩
    · rw [Bool.not_eq_true] at hbefore
      cases ha : a.on (after history) with
      | error e =>
        rw [after_of_error ha, hbefore] at h
        cases h
      | ok u =>
        rw [after_of_ok ha] at h
        have hname : name = a.name := by
          refine ((contains_declare_iff ha).1 h).resolve_right fun hn => ?_
          rw [hbefore] at hn
          cases hn
        subst hname
        have hnone : ∀ front b, front ++ [b] <+: history → b.name = a.name → ¬Succeeds front b := by
          intro front b hfront hname hsucceeds
          have hcontains := contains_of_succeeds hfront hsucceeds
          rw [hname, hbefore] at hcontains
          cases hcontains
        exact ⟨history, a, List.prefix_rfl, rfl, ⟨u, ha⟩, hnone⟩

theorem not_contains_of_first (h : First before a) : (after before).contains a.name = false := by
  by_contra hcontains
  rw [Bool.not_eq_false] at hcontains
  obtain ⟨front, b, hfront, hname, hb, -⟩ := exists_first hcontains
  exact h.2 front b hfront hname hb

theorem kind?_eq_value {value : String} (h : t.values.get? name = some value) :
    t.kind? name = some .value := by
  rw [kind?, Bindings.has_of_get? h, if_pos rfl]

theorem kind?_eq_uri {uri : String} (hvalues : t.values.get? name = none)
    (h : t.uris.get? name = some uri) : t.kind? name = some .uri := by
  rw [kind?, Bindings.get?_eq_none_iff.1 hvalues, Bindings.has_of_get? h]
  rfl

/-- A call that declares something stores it. -/
theorem storedIn_of_on (ht : t.contains a.name = false) (h : a.on t = .ok u) : a.StoredIn t u := by
  obtain ⟨hvalues, huris⟩ := contains_eq_false_iff.1 ht
  obtain ⟨-, ⟨hc, -⟩ | ⟨-, ⟨hkind, value, hvalue, rfl⟩ | ⟨hkind, rfl⟩⟩⟩ := declare_cases h
  · rw [ht] at hc
    cases hc
  · have hget : (t.values.insertSorted a.name value).get? a.name = some value := by
      rw [Bindings.get?_insertSorted hvalues, if_pos rfl]
    rw [Attempt.StoredIn, hkind]
    exact ⟨kind?_eq_value hget, Bindings.get?_eq_none_iff.2 huris, value, hvalue, hget⟩
  · have hget : (t.uris.insertSorted a.name a.content).get? a.name = some a.content := by
      rw [Bindings.get?_insertSorted huris, if_pos rfl]
    have hnone : t.values.get? a.name = none := Bindings.get?_eq_none_iff.2 hvalues
    rw [Attempt.StoredIn, hkind]
    exact ⟨kind?_eq_uri hnone hget, hnone, hget⟩

theorem Kept.kind? (h : t.Kept u) (hn : t.contains name = true) : u.kind? name = t.kind? name := by
  obtain ⟨hvalues, huris⟩ := h name hn
  unfold EntityTable.kind?
  rw [Bindings.has_congr hvalues, Bindings.has_congr huris]

theorem Kept.storedIn {v : EntityTable} (h : t.Kept u) (hn : t.contains a.name = true)
    (ha : a.StoredIn v t) : a.StoredIn v u := by
  obtain ⟨hvalues, huris⟩ := h a.name hn
  unfold Attempt.StoredIn at ha ⊢
  rw [h.kind? hn, hvalues, huris]
  exact ha

theorem storedIn_of_first (hfront : before ++ [a] <+: history) (h : First before a) :
    a.StoredIn (after before) (after history) := by
  obtain ⟨u, hu⟩ := h.1
  obtain ⟨more, rfl⟩ := hfront
  have hkept : u.Kept (after (before ++ [a] ++ more)) := by
    have hkept := kept_after_append (before ++ [a]) more
    rwa [after_of_ok hu] at hkept
  exact hkept.storedIn (contains_declare hu) (storedIn_of_on (not_contains_of_first h) hu)

/-- Behind any history of calls the names are proper and declared in one way only, a call that
fails changes nothing, and a name is declared as the first successful call for it declares it. -/
theorem first_success_counts (history : List Attempt) :
    (after history).Keyed ∧
      (∀ a e, a.on (after history) = .error e → after (history ++ [a]) = after history) ∧
      (∀ name, (after history).contains name = true ↔
        ∃ before a, before ++ [a] <+: history ∧ a.name = name ∧ Succeeds before a) ∧
      (∀ name, (after history).contains name = true →
        ∃ before a, before ++ [a] <+: history ∧ a.name = name ∧ First before a) ∧
      (∀ before a, before ++ [a] <+: history → First before a →
        a.StoredIn (after before) (after history)) ∧
      ∀ more, (after history).Kept (after (history ++ more)) := by
  have hcontains (name : String) : (after history).contains name = true ↔
      ∃ before a, before ++ [a] <+: history ∧ a.name = name ∧ Succeeds before a := by
    constructor
    · intro h
      obtain ⟨before, a, hfront, hname, hfirst⟩ := exists_first h
      exact ⟨before, a, hfront, hname, hfirst.1⟩
    · rintro ⟨before, a, hfront, rfl, hsucceeds⟩
      exact contains_of_succeeds hfront hsucceeds
  exact ⟨keyed_after history, fun _ _ => after_of_error, hcontains, fun _ => exists_first,
    fun _ _ => storedIn_of_first, kept_after_append history⟩

/-- The first call for `a` fails, as there is no `b` yet, and the last one comes too late. -/
example : after [⟨"a", .value, "%b;"⟩, ⟨"b", .value, "x"⟩, ⟨"a", .value, "y%b;"⟩, ⟨"a", .uri, "z"⟩] =
    { values := [("a", "yx"), ("b", "x")] } := by
  cbv

end Doctype.EntityTable
