import Doctype.Source.Order
import Doctype.Source.Stack

/-! Every step of a stack of sources goes down in a well-founded order, so that expanding
references cannot go on for ever. -/
namespace Doctype.SourceStack

/-- The characters that are left in each source, outermost first, and a zero for each declared
entity that is not being expanded. -/
def weights (t : EntityTable) (s : SourceStack) : Weights :=
  ⟨s.sources.reverse.map (·.cursor.remaining + 1) ++
    List.replicate (unopened s.isOpen t.names) 0⟩

theorem push_eq_ok {text : EntityText} {entity : Option String} {s s' : SourceStack}
    (h : s.push text entity = .ok () s') :
    (∀ name, entity = some name → s.isOpen name = false) ∧
      ∃ source : Source, source.entity = entity ∧ s'.sources = source :: s.sources := by
  unfold push at h
  split at h
  · simp at h
  · rename_i hf
    cases h
    refine ⟨fun name hn => ?_, _, rfl, rfl⟩
    subst hn
    simpa [Option.filter_some] using hf

theorem foldl_note_sources (events : List Event) (s : SourceStack) :
    (events.foldl note s).sources = s.sources := by
  induction events generalizing s with
  | nil => rfl
  | cons event events ih => simp [ih, note]

theorem enter_eq_ok {w : World} {t : EntityTable} {name : String} {s s' : SourceStack}
    (h : s.enter w t name = .ok () s') :
    name ∈ t.names ∧ s.isOpen name = false ∧
      ∃ source : Source, source.entity = some name ∧ s'.sources = source :: s.sources := by
  unfold enter at h
  split at h
  · simp at h
  · rename_i text ht
    obtain ⟨hopen, source, he, hs⟩ := push_eq_ok h
    have hsame := foldl_note_sources (t.openEvents w name s.base) s
    refine ⟨EntityTable.mem_names_of_openReference ht, ?_, source, he, ?_⟩
    · simpa [isOpen, hsame] using hopen name rfl
    · rw [hs, hsame]

section Descends

variable {t : EntityTable} {s s' : SourceStack} {source : Source} {rest : List Source}
  {cursor : Cursor}

theorem weights_of_cons (t : EntityTable) (hs : s.sources = source :: rest) :
    (s.weights t).list = rest.reverse.map (·.cursor.remaining + 1) ++
      (source.cursor.remaining + 1) :: List.replicate (unopened s.isOpen t.names) 0 := by
  simp [weights, hs]

theorem isOpen_of_cons (hs : s.sources = source :: rest) (name : String) :
    s.isOpen name = (source.entity == some name || rest.any (·.entity == some name)) := by
  rw [isOpen, hs, List.any_cons]

/-- A source that is closed goes away, and at most one entity becomes unopened. -/
theorem pop_descends (t : EntityTable) (hs : s.sources = source :: rest) (hs' : s'.sources = rest) :
    ShortLex (s'.weights t).list (s.weights t).list := by
  have hopen (name : String) (hne : source.entity ≠ some name) : s'.isOpen name = s.isOpen name := by
    rw [isOpen_of_cons hs, beq_eq_false_iff_ne.2 hne, Bool.false_or, isOpen, hs']
  have hle : unopened s'.isOpen t.names ≤ unopened s.isOpen t.names + 1 := by
    cases he : source.entity with
    | none =>
      have heq : unopened s'.isOpen t.names = unopened s.isOpen t.names :=
        unopened_congr fun name _ => hopen name (by simp [he])
      omega
    | some e =>
      exact unopened_le_add_one fun name hne => hopen name (by simpa [he] using Ne.symm hne)
  have hweights : (s'.weights t).list = rest.reverse.map (·.cursor.remaining + 1) ++
      List.replicate (unopened s'.isOpen t.names) 0 := by
    rw [weights, hs']
  rw [hweights, weights_of_cons t hs]
  cases hn : unopened s'.isOpen t.names with
  | zero =>
    left
    simp only [List.length_append, List.length_cons, List.length_replicate]
    omega
  | succ n =>
    rw [List.replicate_succ]
    refine shortLex_append_cons _ (Nat.succ_pos _) ?_
    rw [List.length_replicate, List.length_replicate]
    omega

/-- A source that is read from gets shorter. -/
theorem read_descends (t : EntityTable) (hs : s.sources = source :: rest)
    (hs' : s'.sources = { source with cursor } :: rest)
    (hlt : cursor.remaining < source.cursor.remaining) :
    ShortLex (s'.weights t).list (s.weights t).list := by
  have hopen : unopened s'.isOpen t.names = unopened s.isOpen t.names :=
    unopened_congr fun name _ => by rw [isOpen_of_cons hs, isOpen_of_cons hs']
  rw [weights_of_cons t hs, weights_of_cons t hs', hopen]
  exact shortLex_append_cons _ (Nat.succ_lt_succ hlt) (Nat.le_refl _)

/-- A source that is opened takes the place of an unopened entity, and what is below it is
shorter. -/
theorem enter_descends {new : Source} {name : String} (hs : s.sources = source :: rest)
    (hs' : s'.sources = new :: { source with cursor } :: rest)
    (hlt : cursor.remaining < source.cursor.remaining) (hnew : new.entity = some name)
    (hmem : name ∈ t.names) (hname : s.isOpen name = false) :
    ShortLex (s'.weights t).list (s.weights t).list := by
  have hopen (n : String) : s'.isOpen n = (some name == some n || s.isOpen n) := by
    rw [isOpen_of_cons hs', hnew, List.any_cons, ← isOpen_of_cons hs]
  have hun : unopened s'.isOpen t.names < unopened s.isOpen t.names := by
    refine unopened_lt (fun n hne => ?_) hmem ?_ hname
    · have hother : (some name == some n) = false := by simpa using Ne.symm hne
      rw [hopen, hother, Bool.false_or]
    · rw [hopen, beq_self_eq_true, Bool.true_or]
  rw [weights_of_cons t hs, weights_of_cons t hs', List.reverse_cons, List.map_append,
    List.map_singleton, List.append_assoc, List.singleton_append]
  refine shortLex_append_cons _ (Nat.succ_lt_succ hlt) ?_
  rw [List.length_cons, List.length_replicate, List.length_replicate]
  exact hun

end Descends

/-- Every step that does not meet the end of input goes down in the order of weights. -/
theorem step_descends {w : World} {t : EntityTable} {s s' : SourceStack} {o : Option Lexeme}
    (h : s.step w t = .ok o s') (ho : ∀ lexeme ∈ o, lexeme.token ≠ .endOfInput) :
    ShortLex (s'.weights t).list (s.weights t).list := by
  unfold step at h
  split at h
  · cases h
    exact absurd rfl (ho _ rfl)
  · rename_i source rest hs
    split at h
    · simp at h
    · rename_i scanned cursor hscan
      have hrem := Cursor.remaining_scan hscan
      simp only at h
      split at h
      · -- the source is closed
        cases h
        exact pop_descends t hs rfl
      · -- a reference is entered
        split at h
        · simp at h
        · rename_i name _ _ _ _ hu
          cases h
          obtain ⟨hmem, hopen, new, he, hnew⟩ := enter_eq_ok hu
          have hname : s.isOpen name = false := by
            rw [isOpen_of_cons hs]
            exact hopen
          exact enter_descends hs hnew (hrem.2 (by simp)) he hmem hname
      · -- a token is given out
        cases h
        exact read_descends t hs rfl (hrem.2 (by simp))

end Doctype.SourceStack
