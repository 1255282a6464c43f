import Doctype.Proofs.Model.Precedence
import Doctype.Proofs.Model.Segments

/-! The expansion of a text depends on the entities that the text refers to, and on no others. Later
declarations leave it as it is, and declarations that do not refer to each other can change places. -/
namespace Doctype.EntityTable

/-- Two tables bind a name alike. -/
def Agree (t u : EntityTable) (name : String) : Prop :=
  u.values.get? name = t.values.get? name ∧ u.uris.get? name = t.uris.get? name

/-- A table with one more entity. -/
def store (t : EntityTable) (name : String) (kind : EntityKind) (text : String) : EntityTable :=
  match kind with
  | .value => { t with values := t.values.insertSorted name text }
  | .uri => { t with uris := t.uris.insertSorted name text }

namespace Attempt

/-- Whether a call succeeds, and with which error it fails. -/
def result (a : Attempt) (t : EntityTable) : Except Error Unit :=
  (fun _ => ()) <$> a.on t

/-- A call has no value that refers to an entity. -/
def Avoids (a : Attempt) (name : String) : Prop :=
  a.kind = .value → ¬Refers a.content name

/-- A call does the same to two tables. -/
inductive Alike (a : Attempt) (t u : EntityTable) : Prop
  | fails {e : Error} : a.on t = .error e → a.on u = .error e → Alike a t u
  | idle : a.on t = .ok t → a.on u = .ok u → Alike a t u
  | stores (text : String) : a.on t = .ok (t.store a.name a.kind text) →
      a.on u = .ok (u.store a.name a.kind text) → Alike a t u

end Attempt

variable {t u : EntityTable} {segments : List Segment} {text value name : String} {a b : Attempt}

section Congruence

theorem Agree.replacement (h : t.Agree u name) : u.replacement name = t.replacement name := by
  unfold EntityTable.replacement
  rw [h.1, h.2]

theorem substitute_congr
    (h : ∀ name, Segment.reference name ∈ segments → t.Agree u name) :
    u.substitute segments = t.substitute segments := by
  induction segments with
  | nil => rfl
  | cons segment segments ih =>
    have hsegments := ih fun n hn => h n (List.mem_cons_of_mem _ hn)
    cases segment with
    | char c => rw [substitute, substitute, hsegments]
    | reference name =>
      rw [substitute, substitute, hsegments, (h name List.mem_cons_self).replacement]

/-- A text is expanded alike where the entities that it refers to are bound alike. -/
theorem expand_congr (h : ∀ name, Refers text name → t.Agree u name) :
    u.expand text = t.expand text := by
  obtain ⟨segments, hsegments⟩ := Segment.exists_splits text.toList
  rw [expand_eq_substitute hsegments, expand_eq_substitute hsegments,
    substitute_congr fun name hname => h name ⟨segments, hsegments, hname⟩]

end Congruence

section Calls

theorem kept_leaves (a : Attempt) (t : EntityTable) : t.Kept (a.leaves t) := by
  unfold Attempt.leaves
  cases h : a.on t with
  | error e => exact .refl t
  | ok u => exact kept_declare h

theorem kept_foldl_leaves (more : List Attempt) (t : EntityTable) :
    t.Kept (more.foldl (fun t a => a.leaves t) t) := by
  induction more generalizing t with
  | nil => exact .refl t
  | cons a more ih => exact (kept_leaves a t).trans (ih (a.leaves t))

/-- A call binds no other name than its own. -/
theorem agree_leaves (b : Attempt) (t : EntityTable) (h : name ≠ b.name) :
    t.Agree (b.leaves t) name := by
  unfold Attempt.leaves
  cases hb : b.on t with
  | error e => exact ⟨rfl, rfl⟩
  | ok u =>
    obtain ⟨-, ⟨-, rfl⟩ | ⟨hc, hu⟩⟩ := declare_cases hb
    · exact ⟨rfl, rfl⟩
    · obtain ⟨hvalues, huris⟩ := contains_eq_false_iff.1 hc
      rcases hu with ⟨-, value, -, rfl⟩ | ⟨-, rfl⟩
      · exact ⟨by rw [Bindings.get?_insertSorted hvalues, if_neg h], rfl⟩
      · exact ⟨rfl, by rw [Bindings.get?_insertSorted huris, if_neg h]⟩

theorem declare_of_not_isName (kind : EntityKind) (content : String) (h : isName name = false) :
    ∃ e, ∀ t : EntityTable, t.declare name kind content = .error e := by
  by_cases hempty : name.isEmpty
  · exact ⟨_, fun t => if_pos hempty⟩
  · refine ⟨badName name, fun t => ?_⟩
    unfold declare
    rw [if_neg hempty, h]
    rfl

/-- A call does the same to tables that bind its name alike, and also the names in its value. -/
theorem alike_of_agree (hname : t.Agree u a.name)
    (hcontent : a.kind = .value → ∀ n, Refers a.content n → t.Agree u n) : a.Alike t u := by
  cases hvalid : isName a.name with
  | false =>
    obtain ⟨e, he⟩ := declare_of_not_isName a.kind a.content hvalid
    exact .fails (he t) (he u)
  | true =>
    have hcontains : u.contains a.name = t.contains a.name := contains_congr hname.1 hname.2
    cases hc : t.contains a.name with
    | true =>
      exact .idle (declare_of_contains hvalid hc) (declare_of_contains hvalid (hcontains.trans hc))
    | false =>
      have ht := @declare_of_not_contains t a.name a.kind a.content hvalid hc
      have hu := @declare_of_not_contains u a.name a.kind a.content hvalid (hcontains.trans hc)
      cases hkind : a.kind with
      | uri =>
        rw [hkind] at ht hu
        refine .stores a.content ?_ ?_
        · rw [Attempt.on, hkind, ht, store]
        · rw [Attempt.on, hkind, hu, store]
      | value =>
        rw [hkind] at ht hu
        have hexpand := expand_congr (hcontent hkind)
        rw [hexpand] at hu
        cases hx : t.expand a.content with
        | error e =>
          rw [hx] at ht hu
          exact .fails (by rw [Attempt.on, hkind, ht]; rfl) (by rw [Attempt.on, hkind, hu]; rfl)
        | ok value =>
          rw [hx] at ht hu
          refine .stores value ?_ ?_
          · rw [Attempt.on, hkind, ht, store]; rfl
          · rw [Attempt.on, hkind, hu, store]; rfl

/-- A call does the same before and after a call for another name that it does not refer to. -/
theorem alike_leaves (h : a.name ≠ b.name) (havoids : a.Avoids b.name) :
    a.Alike t (b.leaves t) := by
  refine alike_of_agree (agree_leaves b t h) fun hkind n hn => agree_leaves b t ?_
  rintro rfl
  exact havoids hkind hn

theorem Attempt.Alike.result (h : a.Alike t u) : a.result u = a.result t := by
  unfold Attempt.result
  cases h with
  | fails ht hu => rw [ht, hu]
  | idle ht hu => rw [ht, hu]; rfl
  | stores _ ht hu => rw [ht, hu]; rfl

theorem Attempt.Alike.leaves (h : a.Alike t u) :
    (a.leaves t = t ∧ a.leaves u = u) ∨
      ∃ text, a.leaves t = t.store a.name a.kind text ∧
        a.leaves u = u.store a.name a.kind text := by
  unfold Attempt.leaves
  cases h with
  | fails ht hu => rw [ht, hu]; exact .inl ⟨rfl, rfl⟩
  | idle ht hu => rw [ht, hu]; exact .inl ⟨rfl, rfl⟩
  | stores text ht hu => rw [ht, hu]; exact .inr ⟨text, rfl, rfl⟩

theorem store_comm {kind kind' : EntityKind} {name' text' : String} (h : name ≠ name') :
    (t.store name kind text).store name' kind' text' =
      (t.store name' kind' text').store name kind text := by
  cases kind <;> cases kind' <;> simp only [store, Bindings.insertSorted_comm h]

/-- Calls for different names that do not refer to each other can change places. -/
theorem leaves_comm (h : a.name ≠ b.name) (ha : a.Avoids b.name) (hb : b.Avoids a.name) :
    b.leaves (a.leaves t) = a.leaves (b.leaves t) := by
  have halike : a.Alike t (b.leaves t) := alike_leaves h ha
  have hblike : b.Alike t (a.leaves t) := alike_leaves h.symm hb
  rcases halike.leaves with ⟨hat, hau⟩ | ⟨text, hat, hau⟩ <;>
    rcases hblike.leaves with ⟨hbt, hbu⟩ | ⟨text', hbt, hbu⟩
  · rw [hau, hbu, hat, hbt]
  · rw [hau, hat]
  · rw [hbu, hbt]
  · rw [hau, hbu, hat, hbt, store_comm h]

end Calls

/-- Expansion is local: tables that bind the entities of a text alike expand it alike. So further calls
leave an expansion as it is, and of two calls for different names that do not refer to each other either
may come first. -/
theorem expand_local :
    (∀ (t u : EntityTable) (text : String), (∀ name, Refers text name → t.Agree u name) →
      u.expand text = t.expand text) ∧
    (∀ (t : EntityTable) (more : List Attempt) (text value : String), t.expand text = .ok value →
      (more.foldl (fun t a => a.leaves t) t).expand text = .ok value) ∧
    ∀ (t : EntityTable) (a b : Attempt), a.name ≠ b.name → a.Avoids b.name → b.Avoids a.name →
      b.leaves (a.leaves t) = a.leaves (b.leaves t) ∧
        a.result (b.leaves t) = a.result t ∧ b.result (a.leaves t) = b.result t :=
  ⟨fun _ _ _ => expand_congr, fun t more _ _ => (kept_foldl_leaves more t).expand,
    fun _ _ _ h ha hb => ⟨leaves_comm h ha hb, (alike_leaves h ha).result,
      (alike_leaves h.symm hb).result⟩⟩

end Doctype.EntityTable
