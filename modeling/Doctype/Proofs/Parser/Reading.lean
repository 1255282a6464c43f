import Doctype.Parser.Subset
import Doctype.Proofs.Parser.Shape
import Doctype.Proofs.Source.Passage

/-! Reading an item depends on the lexemes that it takes, and on nothing else. -/
namespace Doctype.Parser

open EStateM (Result)

/-- Lexemes with the same token that come, or do not come, from the source of an opener. -/
structure Match (o o' l l' : Lexeme) : Prop where
  token : l.token = l'.token
  source : l.source = o.source ↔ l'.source = o'.source
  lexical : l.token.Lexical ∨ l.token = .endOfInput

/-- The lexemes that are scanned on the way from one state of a parse to another, of which the last
may not have been taken yet. -/
structure Trace (w : World) (p : Parser) (ls : List Lexeme) (s : Parser) : Prop where
  pulls : p.stack.Pulls w p.entities ls s.stack
  frame : s = { p with stack := s.stack, peeked := s.peeked }
  ahead : s.stack.sources ≠ [] → ∀ l ∈ s.peeked, (p.peeked.toList ++ ls).getLast? = some l

/-- The last lexeme has been taken and cannot go on. -/
structure Closed (p : Parser) (ls : List Lexeme) (s : Parser) : Prop where
  sources : s.stack.sources ≠ []
  peeked : s.peeked = none
  last : ∃ l, (p.peeked.toList ++ ls).getLast? = some l ∧ l.token.isClosed

/-- The lexeme that has been looked at stands in a text. -/
def Sane (p : Parser) : Prop :=
  ∀ l ∈ p.peeked, l.token.Lexical ∧ p.stack.sources ≠ [] ∨ l.token = .endOfInput

theorem sane_of_peeked {p : Parser} (h : p.peeked = none) : p.Sane := by
  intro l hl
  rw [h] at hl
  cases hl

/-- The second action succeeds on lexemes that match those of the first. -/
def Answers {α β : Type} (w : World) (o o' : Lexeme) (Q : α → β → Prop) (p : Parser) (a : α)
    (s : Parser) (ls : List Lexeme) (m' : ParserM β) : Prop :=
  ∀ ⦃p' ls' k'⦄, Option.Rel (Match o o') p.peeked p'.peeked →
    p'.stack.Pulls w p'.entities ls' k' → List.Forall₂ (Match o o') ls ls' →
      ∃ b x', m' p' = .ok b { p' with stack := k', peeked := x' } ∧
        Option.Rel (Match o o') s.peeked x' ∧ Q a b

/-- The first action takes some lexemes when it succeeds, and the second succeeds on matching ones.
In the end the first one closes what has been opened, if it has to. -/
def Depends {α β : Type} (w : World) (o o' : Lexeme) (closes : Prop) (Q : α → β → Prop)
    (m : ParserM α) (m' : ParserM β) : Prop :=
  ∀ ⦃p a s⦄, p.Sane → m p = .ok a s →
    s.Sane ∧ (∃ b, Q a b) ∧ ∃ ls, Trace w p ls s ∧ (closes → Closed p ls s) ∧
      (s.stack.sources ≠ [] → Answers w o o' Q p a s ls m')

variable {w : World} {o o' : Lexeme} {C : Prop} {α β γ δ : Type} {Q : α → β → Prop}

section Trace

variable {p s u : Parser} {ls ms : List Lexeme}

/-- The last lexeme on the way is the last one on the whole way. -/
theorem Trace.last (h : Trace w p ls s) (hs : s.stack.sources ≠ []) {l : Lexeme}
    (hl : (s.peeked.toList ++ ms).getLast? = some l) :
    (p.peeked.toList ++ (ls ++ ms)).getLast? = some l := by
  rw [← List.append_assoc, List.getLast?_append]
  rw [List.getLast?_append] at hl
  cases hms : ms.getLast? with
  | some m =>
    rw [hms] at hl
    exact hl
  | none =>
    rw [hms, Option.none_or] at hl
    rw [Option.none_or]
    cases hpeek : s.peeked with
    | none =>
      rw [hpeek] at hl
      cases hl
    | some l' =>
      rw [hpeek] at hl
      cases hl
      exact h.ahead hs _ hpeek

theorem Trace.trans (h : Trace w p ls s) (h' : Trace w s ms u) : Trace w p (ls ++ ms) u := by
  have hentities : s.entities = p.entities := by rw [h.frame]
  refine ⟨h.pulls.append (hentities ▸ h'.pulls), ?_, fun hu l hl => ?_⟩
  · rw [h'.frame, h.frame]
  · exact h.last (h'.pulls.sources hu) (h'.ahead hu l hl)

theorem Trace.closed (h : Trace w p ls s) (h' : Trace w s ms u) (hc : Closed s ms u) :
    Closed p (ls ++ ms) u := by
  obtain ⟨hu, hnone, l, hlast, hclosed⟩ := hc
  exact ⟨hu, hnone, l, h.last (h'.pulls.sources hu) hlast, hclosed⟩

theorem forall₂_append {R : Lexeme → Lexeme → Prop} {ns : List Lexeme}
    (h : List.Forall₂ R (ls ++ ms) ns) :
    ∃ ls' ms', ns = ls' ++ ms' ∧ List.Forall₂ R ls ls' ∧ List.Forall₂ R ms ms' := by
  induction ls generalizing ns with
  | nil => exact ⟨[], ns, rfl, .nil, h⟩
  | cons l ls ih =>
    cases h with
    | cons hl h =>
      obtain ⟨ls', ms', rfl, hls, hms⟩ := ih h
      exact ⟨_ :: ls', ms', rfl, .cons hl hls, hms⟩

end Trace

section Combinators

variable {m : ParserM α} {m' : ParserM β}

/-- What succeeds in two steps succeeds in each of them. -/
theorem exists_of_bind {f : α → ParserM γ} {p u : Parser} {c : γ} (h : (m >>= f) p = .ok c u) :
    ∃ a s, m p = .ok a s ∧ f a s = .ok c u := by
  simp only [Bind.bind, EStateM.bind] at h
  cases hs : m p with
  | error e s =>
    rw [hs] at h
    cases h
  | ok a s =>
    rw [hs] at h
    exact ⟨a, s, rfl, h⟩

theorem depends_pure {a : α} {b : β} (h : Q a b) :
    Depends w o o' False Q (pure a) (pure b) := by
  intro p x s hp hs
  cases hs
  refine ⟨hp, ⟨b, h⟩, [], ⟨.nil _, rfl, fun _ l hl => ?_⟩, False.elim, fun _ => ?_⟩
  · rw [List.append_nil, Option.mem_def.1 hl]
    rfl
  · intro p' ls' k' hpeek hpulls hls
    cases hls
    cases hpulls
    exact ⟨b, p'.peeked, rfl, hpeek, h⟩

theorem depends_throw {h : Halt} : Depends w o o' C Q (throw h) m' :=
  fun _ _ _ _ hs => nomatch hs

theorem depends_unexpected {l : Lexeme} {expected : String} :
    Depends w o o' C Q (unexpected l expected) m' :=
  depends_throw

theorem Depends.bind {R : γ → δ → Prop} {f : α → ParserM γ} {f' : β → ParserM δ}
    (hm : Depends w o o' False Q m m')
    (hf : ∀ a b, Q a b → Depends w o o' C R (f a) (f' b)) :
    Depends w o o' C R (m >>= f) (m' >>= f') := by
  intro p c u hp hbind
  obtain ⟨a, s, hs, hu⟩ := exists_of_bind hbind
  obtain ⟨hsane, ⟨b, hb⟩, ls, htrace, -, hanswers⟩ := hm hp hs
  obtain ⟨hsane', hc, ms, htrace', hclosed, -⟩ := hf a b hb hsane hu
  refine ⟨hsane', hc, ls ++ ms, htrace.trans htrace',
    fun hC => htrace.closed htrace' (hclosed hC), fun hne => ?_⟩
  intro p' ns' k' hpeek hpulls hns
  obtain ⟨ls', ms', rfl, hls, hms⟩ := forall₂_append hns
  obtain ⟨k₁, hpulls₁, hpulls₂⟩ := hpulls.of_append
  obtain ⟨b', x, hm', hx, hb'⟩ := hanswers (htrace'.pulls.sources hne) hpeek hpulls₁ hls
  -- the lexemes that the rest takes do not depend on the value of the second run
  obtain ⟨-, -, ms₂, htrace₂, -, hanswers₂⟩ := hf a b' hb' hsane hu
  obtain rfl : ms₂ = ms := htrace₂.pulls.unique htrace'.pulls
  obtain ⟨c', x', hf', hx', hr⟩ := @hanswers₂ hne { p' with stack := k₁, peeked := x } _ _
    hx hpulls₂ hms
  refine ⟨c', x', ?_, hx', hr⟩
  simp only [Bind.bind, EStateM.bind, hm']
  exact hf'

theorem Depends.mono {R : α → β → Prop} (h : Depends w o o' C Q m m') (hQ : ∀ a b, Q a b → R a b) :
    Depends w o o' C R m m' := by
  intro p a s hp hs
  obtain ⟨hsane, ⟨b, hb⟩, ls, htrace, hclosed, hanswers⟩ := h hp hs
  refine ⟨hsane, ⟨b, hQ a b hb⟩, ls, htrace, hclosed, fun hne => ?_⟩
  intro p' ls' k' hpeek hpulls hls
  obtain ⟨b', x, hm', hx, hb'⟩ := hanswers hne hpeek hpulls hls
  exact ⟨b', x, hm', hx, hQ a b' hb'⟩

/-- What comes behind an action that closes may check its value, but takes nothing more. -/
theorem Depends.check {R : γ → δ → Prop} {f : α → ParserM γ} {f' : β → ParserM δ}
    (h : Depends w o o' C Q m m')
    (hf : ∀ a p c s, f a p = .ok c s →
      s = p ∧ ∀ b, Q a b → ∃ d, R c d ∧ ∀ p', f' b p' = .ok d p') :
    Depends w o o' C R (m >>= f) (m' >>= f') := by
  intro p c s hp hbind
  obtain ⟨a, u, hm, hs⟩ := exists_of_bind hbind
  obtain ⟨rfl, hf'⟩ := hf a u c s hs
  obtain ⟨hsane, ⟨b, hb⟩, ls, htrace, hclosed, hanswers⟩ := h hp hm
  obtain ⟨d, hd, -⟩ := hf' b hb
  refine ⟨hsane, ⟨d, hd⟩, ls, htrace, hclosed, fun hne => ?_⟩
  intro p' ls' k' hpeek hpulls hls
  obtain ⟨b', x, hm', hx, hb'⟩ := hanswers hne hpeek hpulls hls
  obtain ⟨d', hd', hfd⟩ := hf' b' hb'
  refine ⟨d', x, ?_, hx, hd'⟩
  simp only [Bind.bind, EStateM.bind, hm']
  exact hfd _

theorem Depends.map {R : γ → δ → Prop} {f : α → γ} {f' : β → δ} (h : Depends w o o' C Q m m')
    (hf : ∀ a b, Q a b → R (f a) (f' b)) :
    Depends w o o' C R (m >>= fun a => pure (f a)) (m' >>= fun b => pure (f' b)) := by
  refine h.check fun a p c s hs => ?_
  cases hs
  exact ⟨rfl, fun b hb => ⟨f' b, hf a b hb, fun _ => rfl⟩⟩

end Combinators

section Lexemes

/-- For each lexeme there is one that matches it. -/
theorem exists_match {l : Lexeme} (h : l.token.Lexical ∨ l.token = .endOfInput) :
    ∃ l', Match o o' l l' := by
  by_cases hl : l.source = o.source
  · exact ⟨{ l with source := o'.source }, rfl, by simp [hl], h⟩
  · refine ⟨{ l with source := o'.source + 1 }, rfl, ?_, h⟩
    simp [hl]

theorem scan_ok {p s : Parser} {l : Lexeme} (h : scan w p = .ok l s) :
    p.stack.next w p.entities = .ok l s.stack ∧ s = { p with stack := s.stack } := by
  unfold scan at h
  split at h
  · rename_i hn
    cases h
    exact ⟨hn, rfl⟩
  · cases h

theorem scan_eq {p : Parser} {l : Lexeme} {k : SourceStack}
    (h : p.stack.next w p.entities = .ok l k) : scan w p = .ok l { p with stack := k } := by
  unfold scan
  rw [h]

theorem next_of_peeked {p : Parser} {l : Lexeme} (h : p.peeked = some l) :
    next w p = .ok l { p with peeked := none } := by
  simp only [next, bind, EStateM.bind, get_eq_ok, h]
  rfl

theorem next_of_none {p : Parser} (h : p.peeked = none) : next w p = scan w p := by
  simp only [next, bind, EStateM.bind, get_eq_ok, h]

theorem peek_of_peeked {p : Parser} {l : Lexeme} (h : p.peeked = some l) :
    peek w p = .ok l.token p := by
  simp only [peek, bind, EStateM.bind, get_eq_ok, h]
  rfl

theorem peek_of_none {p : Parser} (h : p.peeked = none) :
    peek w p =
      match scan w p with
      | .ok l s => .ok l.token { s with peeked := some l }
      | .error e s => .error e s := by
  simp only [peek, bind, EStateM.bind, get_eq_ok, h]
  cases scan w p <;> rfl

/-- A scanned lexeme stands in an open source, or nothing is left. -/
theorem lexeme_of_next {k k₁ : SourceStack} {t : EntityTable} {l : Lexeme}
    (h : k.next w t = .ok l k₁) :
    l.token.Lexical ∧ k₁.sources ≠ [] ∨ l.token = .endOfInput ∧ k₁.sources = [] := by
  fun_induction SourceStack.next w t k with
  | case1 => cases h
  | case2 k l' k₁ hstep =>
    cases h
    cases hs : k.sources with
    | nil =>
      rw [SourceStack.step_nil hs] at hstep
      cases hstep
      exact .inr ⟨rfl, hs⟩
    | cons source below =>
      obtain ⟨cursor, hc⟩ := SourceStack.step_cases hs hstep
      rcases hc with ⟨-, he, -⟩ | ⟨_, _, _, -, he, -⟩ | ⟨token, location, hscan, he, rfl⟩
      · cases he
      · cases he
      · cases he
        exact .inl ⟨Cursor.lexical_of_scan hscan, by simp [SourceStack.readTo, SourceStack.note]⟩
  | case3 k k₂ hstep ih => exact ih h

/-- Nothing changes when a lexeme is scanned and no source is open. -/
theorem eq_of_next_nil {k k₁ : SourceStack} {t : EntityTable} {l : Lexeme} (hk : k.sources = [])
    (h : k.next w t = .ok l k₁) : k₁ = k := by
  rw [SourceStack.next_of_nil hk] at h
  injection h with _ hk₁
  exact hk₁.symm

/-- A lexeme other than the end is scanned from sources, and leaves them open. -/
theorem open_of_next {k k₁ : SourceStack} {t : EntityTable} {l : Lexeme}
    (h : k.next w t = .ok l k₁) (heof : l.token ≠ .endOfInput) :
    k.sources ≠ [] ∧ l.token.Lexical ∧ k₁.sources ≠ [] := by
  obtain ⟨hlex, hne⟩ := (lexeme_of_next h).resolve_right fun hend => heof hend.1
  refine ⟨fun hk => hne ?_, hlex, hne⟩
  rw [eq_of_next_nil hk h]
  exact hk

/-- One lexeme is taken from open sources, and none when no source is open. -/
theorem pulls_of_next {k k₁ : SourceStack} {t : EntityTable} {l : Lexeme}
    (h : k.next w t = .ok l k₁) :
    ∃ ls, k.Pulls w t ls k₁ ∧ (k₁.sources ≠ [] → ls = [l]) := by
  by_cases hk : k.sources = []
  · obtain rfl : k₁ = k := eq_of_next_nil hk h
    exact ⟨[], .nil _, fun hne => absurd hk hne⟩
  · exact ⟨[l], .cons hk h (.nil _), fun _ => rfl⟩

theorem peeked_of_rel {x : Option Lexeme} (h : Option.Rel (Match o o') none x) : x = none := by
  cases h
  rfl

/-- Where a lexeme is taken, one that matches it is scanned from matching lexemes. -/
theorem scan_of_match {p : Parser} {l : Lexeme} {ls : List Lexeme} {k : SourceStack}
    (hpulls : p.stack.Pulls w p.entities ls k) (hls : List.Forall₂ (Match o o') [l] ls) :
    ∃ l', scan w p = .ok l' { p with stack := k } ∧ Match o o' l l' := by
  cases hls with
  | @cons _ l' _ _ hm hnil =>
    cases hnil
    cases hpulls with
    | cons _ hnext hrest =>
      cases hrest
      exact ⟨l', scan_eq hnext, hm⟩

/-- Taking a lexeme depends on that lexeme. -/
theorem next_ok {p s : Parser} {l : Lexeme} (hp : p.Sane) (h : next w p = .ok l s) :
    s.peeked = none ∧ (l.token.Lexical ∧ s.stack.sources ≠ [] ∨ l.token = .endOfInput) ∧
      ∃ ls, Trace w p ls s ∧ (s.stack.sources ≠ [] → (p.peeked.toList ++ ls).getLast? = some l) ∧
        (s.stack.sources ≠ [] → Answers w o o' (Match o o') p l s ls (next w)) := by
  cases hpeek : p.peeked with
  | some m =>
    rw [next_of_peeked hpeek] at h
    cases h
    refine ⟨rfl, hp l hpeek, [], ⟨.nil _, rfl, fun _ m hm => nomatch hm⟩, fun _ => rfl, fun _ => ?_⟩
    intro p' ls' k' hrel hpulls hls
    rw [hpeek] at hrel
    cases hls
    cases hpulls
    generalize hp' : p'.peeked = x' at hrel
    cases hrel with
    | some hm => exact ⟨_, none, next_of_peeked hp', .none, hm⟩
  | none =>
    rw [next_of_none hpeek] at h
    obtain ⟨hn, hs⟩ := scan_ok h
    have hnone : s.peeked = none := by rw [hs, hpeek]
    obtain ⟨ls, hpulls, hsingle⟩ := pulls_of_next hn
    refine ⟨hnone, (lexeme_of_next hn).imp_right And.left, ls, ⟨hpulls, ?_, fun _ m hm => ?_⟩,
      fun hne => ?_, fun hne => ?_⟩
    · rw [hs]
    · rw [hnone] at hm
      cases hm
    · rw [hsingle hne]
      rfl
    · intro p' ls' k' hrel hpulls' hls
      rw [hpeek] at hrel
      rw [hsingle hne] at hls
      have hp' : p'.peeked = none := peeked_of_rel hrel
      obtain ⟨l', hscan, hm⟩ := scan_of_match hpulls' hls
      refine ⟨l', none, ?_, ?_, hm⟩
      · rw [next_of_none hp', hscan, ← hp']
      · rw [hnone]
        exact .none

theorem depends_next : Depends w o o' False (Match o o') (next w) (next w) := by
  intro p l s hp hs
  obtain ⟨hnone, hlex, ls, htrace, -, hanswers⟩ := next_ok hp hs
  refine ⟨fun m hm => ?_, exists_match (hlex.imp_left And.left), ls, htrace, False.elim, hanswers⟩
  rw [hnone] at hm
  cases hm

theorem expect_ok {token : Token} {expected : String} {p s : Parser} {l : Lexeme}
    (h : expect w token expected p = .ok l s) : next w p = .ok l s ∧ l.token = token := by
  obtain ⟨m, u, hn, hu⟩ := exists_of_bind h
  by_cases ht : m.token = token
  · rw [if_pos ht] at hu
    cases hu
    exact ⟨hn, ht⟩
  · rw [if_neg ht] at hu
    cases hu

theorem depends_expect {token : Token} {expected : String} (hC : C → token.isClosed) :
    Depends w o o' C (fun l l' => Match o o' l l' ∧ l.token = token) (expect w token expected)
      (expect w token expected) := by
  intro p l s hp hs
  obtain ⟨hn, ht⟩ := expect_ok hs
  obtain ⟨hnone, hlex, ls, htrace, hlast, hanswers⟩ := next_ok hp hn
  obtain ⟨l', hl'⟩ := exists_match (hlex.imp_left And.left)
  refine ⟨fun m hm => ?_, ⟨l', hl', ht⟩, ls, htrace, fun hc => ?_, fun hne => ?_⟩
  · rw [hnone] at hm
    cases hm
  · have hclosed := hC hc
    rcases hlex with ⟨-, hne⟩ | heof
    · exact ⟨hne, hnone, l, hlast hne, ht ▸ hclosed⟩
    · rw [← ht, heof] at hclosed
      cases hclosed
  · intro p' ls' k' hpeek hpulls hls
    obtain ⟨b, x, hb, hx, hm⟩ := hanswers hne hpeek hpulls hls
    refine ⟨b, x, ?_, hx, hm, ht⟩
    have htoken : b.token = token := hm.token ▸ ht
    simp only [expect, bind, EStateM.bind, hb, htoken, if_true]
    rfl

theorem depends_peek : Depends w o o' False (fun t t' => t = t') (peek w) (peek w) := by
  intro p t s hp hs
  cases hpeek : p.peeked with
  | some m =>
    rw [peek_of_peeked hpeek] at hs
    cases hs
    refine ⟨hp, ⟨_, rfl⟩, [], ⟨.nil _, rfl, fun _ l hl => ?_⟩, False.elim, fun _ => ?_⟩
    · rw [List.append_nil, Option.mem_def.1 hl]
      rfl
    · intro p' ls' k' hrel hpulls hls
      cases hls
      cases hpulls
      have hrel' := hrel
      rw [hpeek] at hrel
      generalize hp' : p'.peeked = x' at hrel
      cases hrel with
      | some hm =>
        refine ⟨_, p'.peeked, ?_, hrel', hm.token⟩
        rw [peek_of_peeked hp']
  | none =>
    rw [peek_of_none hpeek] at hs
    cases hscan : scan w p with
    | error e u =>
      rw [hscan] at hs
      cases hs
    | ok l u =>
      rw [hscan] at hs
      cases hs
      obtain ⟨hn, hu⟩ := scan_ok hscan
      obtain ⟨ls, hpulls, hsingle⟩ := pulls_of_next hn
      have hframe : ({ u with peeked := some l } : Parser) =
          { p with stack := u.stack, peeked := some l } := by rw [hu]
      refine ⟨fun m hm => ?_, ⟨_, rfl⟩, ls, ⟨hpulls, hframe, fun hne m hm => ?_⟩, False.elim,
        fun hne => ?_⟩
      · cases hm
        exact (lexeme_of_next hn).imp_right And.left
      · cases hm
        rw [hpeek, hsingle hne]
        rfl
      · intro p' ls' k' hrel hpulls' hls
        rw [hpeek] at hrel
        rw [hsingle hne] at hls
        obtain ⟨l', hscan', hm⟩ := scan_of_match hpulls' hls
        refine ⟨l'.token, some l', ?_, .some hm, hm.token⟩
        rw [peek_of_none (peeked_of_rel hrel), hscan']

end Lexemes

end Doctype.Parser
