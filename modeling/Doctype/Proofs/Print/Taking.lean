import Doctype.Proofs.Parser.Resume
import Doctype.Proofs.Print.Spelling

/-! Actions of a parse that take the text they are in front of. -/
namespace Doctype.Parser

/-- In front of some text in the outermost source. Its first lexeme may have been looked at. -/
inductive Facing (source : Source) (cs : List Char) (p : Parser) : Prop
  | unread {c : Cursor} {front : List Char} : p.peeked = none →
      p.stack.sources = [{ source with cursor := c }] → Blank front → c.Shows (front ++ cs) →
      Facing source cs p
  | peeked {c : Cursor} {l : Lexeme} {rest : List Char} : p.peeked = some l →
      p.stack.sources = [{ source with cursor := c }] → l.source = source.id →
      lex cs = .token l.token rest → c.Shows rest → Facing source cs p

/-- Only the place in the sources has changed. -/
structure Still (p q : Parser) : Prop where
  frame : q = { p with stack := q.stack, peeked := q.peeked }
  nextId : q.stack.nextId = p.stack.nextId
  refs : q.stack.refs = p.stack.refs

/-- An action succeeds on a text, gives a value with a property, and leaves the rest of the text. -/
def Takes {α : Type} (source : Source) (m : ParserM α) (cs : List Char) (Q : α → Prop)
    (rest : List Char) : Prop :=
  ∀ p : Parser, p.Facing source cs →
    ∃ a q, m p = .ok a q ∧ Q a ∧ q.Facing source rest ∧ p.Still q

variable {w : World} {source : Source} {α β : Type} {cs ds es rest : List Char} {p q r : Parser}

theorem Still.refl (p : Parser) : p.Still p :=
  ⟨rfl, rfl, rfl⟩

theorem Still.trans (h : p.Still q) (h' : q.Still r) : p.Still r := by
  constructor
  · rw [h'.frame, h.frame]
  · exact h'.nextId.trans h.nextId
  · exact h'.refs.trans h.refs

theorem Facing.of_blank {bs : List Char} (h : p.Facing source (bs ++ cs)) (hb : Blank bs) :
    p.Facing source cs := by
  cases h with
  | unread hpeek hsources hfront hshows =>
    rw [← List.append_assoc] at hshows
    exact .unread hpeek hsources (Passage.blank_append hfront hb) hshows
  | peeked hpeek hsources hsource hlex hshows =>
    rw [lex_blank_append hb] at hlex
    exact .peeked hpeek hsources hsource hlex hshows

theorem Facing.of_shows {c : Cursor} (hpeek : p.peeked = none)
    (hsources : p.stack.sources = [{ source with cursor := c }]) (hshows : c.Shows cs) :
    p.Facing source cs := by
  exact .unread hpeek hsources blank_nil hshows

theorem Stands.facing (h : p.Stands source cs) : p.Facing source cs := by
  obtain ⟨c, front, hsources, hfront, hshows⟩ := h.sources
  exact .unread h.peeked hsources hfront hshows

section Combinators

variable {m : ParserM α} {Q R : α → Prop}

theorem takes_pure {a : α} (h : Q a) : Takes source (pure a) cs Q cs :=
  fun p hp => ⟨a, p, rfl, h, hp, .refl p⟩

theorem Takes.bind {f : α → ParserM β} {S : β → Prop} (h : Takes source m cs Q ds)
    (hf : ∀ a, Q a → Takes source (f a) ds S es) : Takes source (m >>= f) cs S es := by
  intro p hp
  obtain ⟨a, q, hm, ha, hq, hstill⟩ := h p hp
  obtain ⟨b, r, hb, hS, hr, hstill'⟩ := hf a ha q hq
  refine ⟨b, r, ?_, hS, hr, hstill.trans hstill'⟩
  simp only [Bind.bind, EStateM.bind, hm]
  exact hb

/-- What comes behind an action goes on with the value that the action is known to give. -/
theorem Takes.bind_eq {a : α} {f : α → ParserM β} {S : β → Prop}
    (h : Takes source m cs (fun b => b = a) ds) (hf : Takes source (f a) ds S es) :
    Takes source (m >>= f) cs S es := by
  refine h.bind fun b hb => ?_
  rw [hb]
  exact hf

/-- Only a part of the value is known. -/
theorem Takes.bind_fst {γ : Type} {m : ParserM (α × γ)} {a : α} {f : α × γ → ParserM β}
    {S : β → Prop} (h : Takes source m cs (fun b => b.1 = a) ds)
    (hf : ∀ c, Takes source (f (a, c)) ds S es) : Takes source (m >>= f) cs S es := by
  refine h.bind fun b hb => ?_
  have hpair : b = (a, b.2) := Prod.ext hb rfl
  rw [hpair]
  exact hf b.2

theorem Takes.mono (h : Takes source m cs Q rest) (hQ : ∀ a, Q a → R a) :
    Takes source m cs R rest := by
  intro p hp
  obtain ⟨a, q, hm, ha, hq⟩ := h p hp
  exact ⟨a, q, hm, hQ a ha, hq⟩

/-- Blanks in front of a text are skipped. -/
theorem Takes.blank {bs : List Char} (h : Takes source m cs Q rest) (hb : Blank bs) :
    Takes source m (bs ++ cs) Q rest :=
  fun p hp => h p (hp.of_blank hb)

theorem Takes.space (h : Takes source m cs Q rest) : Takes source m (' ' :: cs) Q rest := by
  have hb : Blank [' '] := by
    rintro c hc
    rw [List.mem_singleton.1 hc]
    decide
  exact h.blank hb

end Combinators

section Lexemes

variable {t : Token}

/-- The next token of a source. -/
theorem next_of_lex {s : SourceStack} (table : EntityTable) {c : Cursor} {front : List Char}
    (hs : s.sources = [{ source with cursor := c }]) (hfront : Blank front)
    (hshows : c.Shows (front ++ cs)) (h : lex cs = .token t rest) :
    ∃ (l : Lexeme) (s' : SourceStack) (c' : Cursor), s.next w table = .ok l s' ∧ l.token = t ∧
      l.source = source.id ∧ s'.sources = [{ source with cursor := c' }] ∧ c'.Shows rest ∧
      s'.nextId = s.nextId ∧ s'.refs = s.refs := by
  obtain ⟨l, hl⟩ := Cursor.scan_lex hshows
  rw [lex_blank_append hfront, h] at hl
  obtain ⟨c', hscan, hshows'⟩ := hl
  have hstep := SourceStack.step_token (w := w) (t := table) hs hscan
  have hnext := SourceStack.next_eq w table s
  rw [hstep] at hnext
  exact ⟨_, _, c', hnext, rfl, rfl, rfl, hshows', rfl, SourceStack.refs_given⟩

theorem takes_next (h : lex cs = .token t rest) :
    Takes source (next w) cs (fun l => l.token = t ∧ l.source = source.id) rest := by
  intro p hp
  cases hp with
  | unread hpeek hsources hfront hshows =>
    obtain ⟨l, s, c', hnext, ht, hsource, hs, hshows', hid, hrefs⟩ :=
      next_of_lex (w := w) p.entities hsources hfront hshows h
    refine ⟨l, { p with stack := s }, ?_, ⟨ht, hsource⟩, ?_, ?_⟩
    · rw [next_of_none hpeek, scan_eq hnext]
    · exact .of_shows hpeek hs hshows'
    · exact ⟨rfl, hid, hrefs⟩
  | @peeked c l rest' hpeek hsources hsource hlex hshows =>
    rw [h] at hlex
    injection hlex with ht hrest
    subst hrest
    refine ⟨l, { p with peeked := none }, next_of_peeked hpeek, ⟨ht.symm, hsource⟩, ?_, ?_⟩
    · exact .of_shows rfl hsources hshows
    · exact ⟨rfl, rfl, rfl⟩

theorem takes_peek (h : lex cs = .token t rest) : Takes source (peek w) cs (fun a => a = t) cs := by
  intro p hp
  cases hp with
  | unread hpeek hsources hfront hshows =>
    obtain ⟨l, s, c', hnext, ht, hsource, hs, hshows', hid, hrefs⟩ :=
      next_of_lex (w := w) p.entities hsources hfront hshows h
    refine ⟨l.token, { p with stack := s, peeked := some l }, ?_, ht, ?_, ?_⟩
    · rw [peek_of_none hpeek, scan_eq hnext]
    · exact .peeked rfl hs hsource (ht ▸ h) hshows'
    · exact ⟨rfl, hid, hrefs⟩
  | @peeked c l rest' hpeek hsources hsource hlex hshows =>
    have ht : l.token = t := by
      rw [h] at hlex
      injection hlex with ht
      exact ht.symm
    exact ⟨l.token, p, peek_of_peeked hpeek, ht, .peeked hpeek hsources hsource hlex hshows, .refl p⟩

/-- A keyword ends at the blank behind it. -/
theorem takes_keyword {keyword : String} (h : Nmtoken keyword) :
    Takes source (next w) (keyword.toList ++ ' ' :: rest)
      (fun l => l.token = .name keyword ∧ l.source = source.id) (' ' :: rest) :=
  takes_next (lex_word h (apart_cons (by decide)))

theorem takes_expect {expected : String} (h : lex cs = .token t rest) :
    Takes source (expect w t expected) cs (fun l => l.source = source.id) rest := by
  refine (takes_next h).bind fun l hl => ?_
  rw [if_pos hl.1]
  exact takes_pure hl.2

theorem takes_expectClose {opener : Lexeme} (h : opener.source = source.id) :
    Takes source (expectClose w opener) ('>' :: rest) (fun _ => True) rest := by
  refine (takes_expect (t := .close) rfl).bind fun l hl => ?_
  rw [if_pos (hl.trans h.symm)]
  exact takes_pure trivial

theorem takes_expectName {s expected : String} (h : Nmtoken s) (hrest : Apart rest) :
    Takes source (expectName w expected) (s.toList ++ rest) (fun b => b.1 = s) rest := by
  refine (takes_next (lex_word h hrest)).bind fun l hl => ?_
  rw [hl.1]
  exact takes_pure rfl

theorem takes_expectLiteral {s expected : String} (h : Quotable s) :
    Takes source (expectLiteral w expected) ((quote s).toList ++ rest) (fun a => a = s) rest := by
  refine (takes_next (lex_quote h)).bind fun l hl => ?_
  rw [hl.1]
  exact takes_pure rfl

/-- A parse in front of some text reads an item off it. -/
theorem Stands.reads {fuel : Nat} {Q : Lexeme → Item → Prop} (h : p.Stands source cs)
    (hlex : lex cs = .token t ds) (ht : t ≠ .endOfInput)
    (hitem : ∀ l : Lexeme, l.token = t → l.source = source.id →
      Takes source (item w fuel l) ds (Q l) rest) :
    ∃ l ls i k, Reads w p l ls i k ∧ l.source = source.id ∧ Q l i ∧
      ({ p with stack := k } : Parser).Stands source rest ∧ k.refs = p.stack.refs := by
  obtain ⟨l, p₁, hnext, ⟨hl, hsource⟩, hfacing₁, hstill₁⟩ := takes_next hlex p h.facing (w := w)
  obtain ⟨i, p₂, hread, hi, hfacing, hstill₂⟩ := hitem l hl hsource p₁ hfacing₁
  have hstill := hstill₁.trans hstill₂
  obtain ⟨ls, hreads, hp₂⟩ := Reads.of_item h.peeked hnext (hl ▸ ht) hread
  refine ⟨l, ls, i, p₂.stack, hreads, hsource, hi, ?_, hstill.refs⟩
  cases hfacing with
  | peeked hpeek =>
    rw [hp₂, h.peeked] at hpeek
    cases hpeek
  | unread _ hsources hfront hshows =>
    refine ⟨h.entity, ⟨_, _, hsources, hfront, hshows⟩, ?_, h.peeked, h.sections⟩
    rw [hstill.nextId]
    exact h.fresh

end Lexemes

end Doctype.Parser
