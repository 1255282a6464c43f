import Doctype.Proofs.Source.Passage

/-! Scanning comes to an end: expanding references does not go on for ever, however the entities
refer to each other. -/
namespace Doctype

open EStateM (Result)

namespace SourceStack

/-- A step that neither fails nor meets the end of input. Every step may see another world. -/
def Goes (t : EntityTable) (s s' : SourceStack) : Prop :=
  ∃ w o, s.step w t = .ok o s' ∧ ∀ lexeme ∈ o, lexeme.token ≠ .endOfInput

/-- Steps on to the next token, but takes no more than a number of steps. -/
def nextWithin (w : World) (t : EntityTable) : Nat → SourceStack →
    Option (Result Error SourceStack Lexeme)
  | 0, _ => none
  | n + 1, s =>
    match s.step w t with
    | .error e s' => some (.error e s')
    | .ok (some lexeme) s' => some (.ok lexeme s')
    | .ok none s' => nextWithin w t n s'

variable {w : World} {t : EntityTable} {s s' : SourceStack}

/-- There is no endless run of steps over one table. -/
theorem goes_wf (t : EntityTable) : WellFounded fun s' s => Goes t s s' := by
  refine Subrelation.wf (r := InvImage ShortLex fun s => (weights t s).list) ?_
    (InvImage.wf _ shortLex_wf)
  rintro s' s ⟨w, o, hstep, ho⟩
  exact step_descends hstep ho

theorem goes_silent (h : s.step w t = .ok none s') : Goes t s s' :=
  ⟨w, none, h, by simp⟩

/-- A few steps find the next token, and more steps do not change it. -/
theorem exists_nextWithin (w : World) (t : EntityTable) (s : SourceStack) :
    ∃ n, ∀ m, n ≤ m → nextWithin w t m s = some (s.next w t) := by
  induction s using (goes_wf t).induction with
  | _ s ih =>
    cases hstep : s.step w t with
    | error e s' =>
      refine ⟨1, fun m hm => ?_⟩
      obtain ⟨m, rfl⟩ := Nat.exists_eq_add_of_le' hm
      rw [nextWithin, next_eq, hstep]
    | ok o s' =>
      cases o with
      | some lexeme =>
        refine ⟨1, fun m hm => ?_⟩
        obtain ⟨m, rfl⟩ := Nat.exists_eq_add_of_le' hm
        rw [nextWithin, next_eq, hstep]
      | none =>
        obtain ⟨n, hn⟩ := ih s' (goes_silent hstep)
        refine ⟨n + 1, fun m hm => ?_⟩
        obtain ⟨m, rfl⟩ := Nat.exists_eq_add_of_le' (show 1 ≤ m by omega)
        have hrest : nextWithin w t m s' = some (s'.next w t) := hn m (by omega)
        rw [nextWithin, next_eq, hstep]
        exact hrest

end SourceStack

/-- A list of tokens that is over: the end of input or an error is its last item and no other. -/
def Ended (items : List (Except Error Lexeme)) : Prop :=
  ∃ (lexemes : List Lexeme) (last : Except Error Lexeme), items = lexemes.map .ok ++ [last] ∧
    (∀ lexeme ∈ lexemes, lexeme.token ≠ .endOfInput) ∧
    ∀ lexeme, last = .ok lexeme → lexeme.token = .endOfInput

section Ended

variable {items : List (Except Error Lexeme)} {lexeme : Lexeme}

theorem ended_error (e : Error) : Ended [.error e] :=
  ⟨[], .error e, rfl, by simp, by simp⟩

theorem ended_end (h : lexeme.token = .endOfInput) : Ended [.ok lexeme] :=
  ⟨[], .ok lexeme, rfl, by simp, by simpa using h⟩

theorem Ended.cons (h : Ended items) (hne : lexeme.token ≠ .endOfInput) :
    Ended (.ok lexeme :: items) := by
  obtain ⟨lexemes, last, rfl, hlexemes, hlast⟩ := h
  exact ⟨lexeme :: lexemes, last, rfl, List.forall_mem_cons.2 ⟨hne, hlexemes⟩, hlast⟩

end Ended

/-- An iterator over the tokens of a stack, which gives nothing more behind the end of input or an
error. -/
structure TokenIterator where
  stack : SourceStack
  done : Bool := false

namespace TokenIterator

open SourceStack

/-- The next item, if there is one. -/
def next (w : World) (t : EntityTable) (i : TokenIterator) :
    Option (Except Error Lexeme) × TokenIterator :=
  if i.done then (none, i)
  else
    match i.stack.next w t with
    | .error e s => (some (.error e), ⟨s, true⟩)
    | .ok lexeme s => (some (.ok lexeme), ⟨s, lexeme.token = .endOfInput⟩)

/-- What an iterator answers when it is asked a number of times. -/
def answers (w : World) (t : EntityTable) : Nat → TokenIterator → List (Option (Except Error Lexeme))
  | 0, _ => []
  | n + 1, i => (i.next w t).1 :: answers w t n (i.next w t).2

variable {w : World} {t : EntityTable} {s : SourceStack}

theorem answers_succ (n : Nat) :
    answers w t (n + 1) ⟨s, false⟩ =
      match s.next w t with
      | .error e s' => some (.error e) :: answers w t n ⟨s', true⟩
      | .ok lexeme s' => some (.ok lexeme) :: answers w t n ⟨s', lexeme.token = .endOfInput⟩ := by
  rw [answers, next]
  cases s.next w t <;> rfl

/-- An iterator that is done stays done. -/
theorem answers_done (n : Nat) : answers w t n ⟨s, true⟩ = List.replicate n none := by
  induction n with
  | zero => rfl
  | succ n ih => exact congrArg (none :: ·) ih

end TokenIterator

namespace SourceStack

variable {w : World} {t : EntityTable} {s s' : SourceStack}

/-- A token that is not the end of input is found by steps that go on. -/
theorem transGen_goes_next {lexeme : Lexeme} (h : s.next w t = .ok lexeme s')
    (hne : lexeme.token ≠ .endOfInput) : Relation.TransGen (fun s' s => Goes t s s') s' s := by
  fun_induction next w t s with
  | case1 => cases h
  | case2 s l s₁ hstep =>
    cases h
    have hgoes : Goes t s s' := ⟨w, some lexeme, hstep, by simpa using hne⟩
    exact .single hgoes
  | case3 s s₁ hstep ih => exact (ih h).tail (goes_silent hstep)

/-- The tokens of a stack are over at some point, and an iterator gives out exactly these. -/
theorem ended_tokens (w : World) (t : EntityTable) (s : SourceStack) :
    Ended (s.tokens w t).1 ∧ ∀ n, TokenIterator.answers w t ((s.tokens w t).1.length + n) ⟨s, false⟩ =
      (s.tokens w t).1.map some ++ List.replicate n none := by
  -- a token may take several steps, so the induction is over runs of steps
  induction s using (goes_wf t).transGen.induction with
  | _ s ih =>
    rw [tokens_eq_next]
    cases hnext : s.next w t with
    | error e s' =>
      refine ⟨ended_error e, fun n => ?_⟩
      rw [List.length_singleton, Nat.add_comm, TokenIterator.answers_succ, hnext]
      exact congrArg (some (.error e) :: ·) (TokenIterator.answers_done n)
    | ok lexeme s' =>
      by_cases hend : lexeme.token = .endOfInput
      · simp only [hend, if_true]
        refine ⟨ended_end hend, fun n => ?_⟩
        rw [List.length_singleton, Nat.add_comm, TokenIterator.answers_succ, hnext]
        simp only [hend, decide_true]
        exact congrArg (some (.ok lexeme) :: ·) (TokenIterator.answers_done n)
      · obtain ⟨hended, hrest⟩ := ih s' (transGen_goes_next hnext hend)
        simp only [hend, if_false]
        refine ⟨hended.cons hend, fun n => ?_⟩
        rw [List.length_cons, Nat.add_right_comm, TokenIterator.answers_succ, hnext]
        simp only [hend, decide_false]
        exact congrArg (some (.ok lexeme) :: ·) (hrest n)

/-- Whatever a table holds and whatever the world is, steps do not go on for ever: the next token
is found after finitely many of them, and there are finitely many tokens until the end of input or
the first error. -/
theorem scanning_ends (t : EntityTable) :
    (WellFounded fun s' s => Goes t s s') ∧
      ∀ w s, (∃ n, ∀ m, n ≤ m → nextWithin w t m s = some (s.next w t)) ∧
        Ended (s.tokens w t).1 ∧
        ∀ n, TokenIterator.answers w t ((s.tokens w t).1.length + n) ⟨s, false⟩ =
          (s.tokens w t).1.map some ++ List.replicate n none :=
  ⟨goes_wf t, fun w s => ⟨exists_nextWithin w t s, ended_tokens w t s⟩⟩

end SourceStack

end Doctype
