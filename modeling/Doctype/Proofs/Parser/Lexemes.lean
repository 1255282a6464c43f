import Doctype.Proofs.Print.Taking

/-! What the actions of a parse take off the lexemes in front of them. -/
namespace Doctype.Parser

variable {w : World} {p q r : Parser} {l : Lexeme} {t : Token}

section Lookahead

theorem peeked_of_next (h : next w p = .ok l q) : q.peeked = none := by
  cases hp : p.peeked with
  | none =>
    rw [next_of_none hp] at h
    rw [(scan_ok h).2, hp]
  | some m =>
    rw [next_of_peeked hp] at h
    cases h
    rfl

theorem frame_next (h : next w p = .ok l q) :
    q = { p with stack := q.stack, peeked := q.peeked } := by
  cases hp : p.peeked with
  | none =>
    rw [next_of_none hp] at h
    rw [(scan_ok h).2]
  | some m =>
    rw [next_of_peeked hp] at h
    cases h
    rfl

/-- Looking at a token keeps the lexeme that is taken next. -/
theorem peek_eq (w : World) (p : Parser) :
    peek w p =
      match next w p with
      | .ok l q => .ok l.token { q with peeked := some l }
      | .error e q => .error e q := by
  cases hp : p.peeked with
  | none =>
    have hpeek := peek_of_none (w := w) hp
    have hnext := next_of_none (w := w) hp
    cases hscan : scan w p <;> simp only [hpeek, hnext, hscan]
  | some l =>
    rw [peek_of_peeked hp, next_of_peeked hp]
    dsimp only
    rw [← hp]

theorem peek_of_next (h : next w p = .ok l q) :
    ∃ p', peek w p = .ok l.token p' ∧ next w p' = .ok l q := by
  refine ⟨{ q with peeked := some l }, ?_, ?_⟩
  · rw [peek_eq, h]
  · rw [next_of_peeked rfl, ← peeked_of_next h]

theorem exists_of_peek (h : peek w p = .ok t q) :
    ∃ l r, l.token = t ∧ next w p = .ok l r ∧ next w q = .ok l r := by
  cases hn : next w p with
  | error e r =>
    rw [peek_eq, hn] at h
    cases h
  | ok l r =>
    obtain ⟨p', hpeek, hnext⟩ := peek_of_next hn
    rw [h] at hpeek
    cases hpeek
    exact ⟨l, r, rfl, rfl, hnext⟩

end Lookahead

/-- A parse takes some lexemes, one after the other, and is left in a state. Whether the lexeme that
follows has been looked at does not matter. -/
inductive Delivers (w : World) : Parser → List Lexeme → Parser → Prop
  | nil {p q : Parser} : next w p = next w q → Delivers w p [] q
  | cons {p p₁ q : Parser} {l : Lexeme} {ls : List Lexeme} :
      next w p = .ok l p₁ → Delivers w p₁ ls q → Delivers w p (l :: ls) q

/-- How far a parse has come: what it has recorded, and whether it has taken what it has looked at. -/
def progress (p : Parser) : Nat :=
  p.stack.journal.length + if p.peeked = none then 1 else 0

section Progress

theorem progress_next (h : next w p = .ok l q) : p.progress ≤ q.progress := by
  unfold progress
  rw [if_pos (peeked_of_next h)]
  cases hp : p.peeked with
  | none =>
    rw [next_of_none hp] at h
    have hle := (SourceStack.journal_next (scan_ok h).1).length_le
    rw [if_pos rfl]
    omega
  | some m =>
    rw [next_of_peeked hp] at h
    cases h
    simp

/-- Before the end of the input a parse comes further with every lexeme. -/
theorem progress_next_lt (h : next w p = .ok l q) (hl : l.token ≠ .endOfInput) :
    p.progress < q.progress := by
  unfold progress
  rw [if_pos (peeked_of_next h)]
  cases hp : p.peeked with
  | none =>
    rw [next_of_none hp] at h
    obtain ⟨hscan, -⟩ := scan_ok h
    have hlt := SourceStack.journal_next_lt (open_of_next hscan hl).1 hscan
    rw [if_pos rfl]
    omega
  | some m =>
    rw [next_of_peeked hp] at h
    cases h
    simp

end Progress

namespace Delivers

variable {ls ms : List Lexeme}

theorem refl (w : World) (p : Parser) : Delivers w p [] p :=
  .nil rfl

/-- What is delivered depends on the lexeme that is taken next, looked at or not. -/
theorem of_next (h : Delivers w p ls q) (hp : next w r = next w p) : Delivers w r ls q := by
  cases h with
  | nil hnext => exact .nil (hp.trans hnext)
  | cons hnext hrest => exact .cons (hp.trans hnext) hrest

theorem trans (h : Delivers w p ls q) (h' : Delivers w q ms r) : Delivers w p (ls ++ ms) r := by
  induction h with
  | nil hnext => exact h'.of_next hnext
  | cons hnext _ ih => exact .cons hnext (ih h')

theorem exists_of_append (h : Delivers w p (ls ++ ms) r) :
    ∃ q, Delivers w p ls q ∧ Delivers w q ms r := by
  induction ls generalizing p with
  | nil => exact ⟨p, .refl w p, h⟩
  | cons l ls ih =>
    cases h with
    | cons hnext hrest =>
      obtain ⟨q, hq, hr⟩ := ih hrest
      exact ⟨q, .cons hnext hq, hr⟩

/-- The next lexeme is the first one that is delivered, or the one behind all of them. -/
theorem exists_head {c : Lexeme} (h : Delivers w p ls q) (hq : next w q = .ok c r) :
    ∃ l s, next w p = .ok l s ∧ l.token ∈ (ls.map (·.token) ++ [c.token]).head? := by
  cases h with
  | nil hnext => exact ⟨c, r, hnext.trans hq, rfl⟩
  | cons hnext _ => exact ⟨_, _, hnext, rfl⟩

theorem progress_lt {c : Lexeme} (h : Delivers w p ls q) (hq : next w q = .ok c r)
    (hc : c.token ≠ .endOfInput) : p.progress < r.progress := by
  induction h with
  | nil hnext => exact progress_next_lt (hnext.trans hq) hc
  | cons hnext _ ih => exact (progress_next hnext).trans_lt (ih hq)

/-- Two ways to the same state take the same lexemes. -/
theorem eq_of_next {c c' : Lexeme} {q' : Parser} (h : Delivers w p ls q) (h' : Delivers w p ms q')
    (hq : next w q = .ok c r) (hq' : next w q' = .ok c' r) (hc : c.token ≠ .endOfInput)
    (hc' : c'.token ≠ .endOfInput) : ls = ms ∧ c = c' := by
  -- a way that is longer than the other would come back to the state it has been in
  induction h generalizing ms with
  | nil hnext =>
    cases h' with
    | nil hnext' =>
      cases (hnext.trans hq).symm.trans (hnext'.trans hq')
      exact ⟨rfl, rfl⟩
    | cons hnext' hrest =>
      cases hnext'.symm.trans (hnext.trans hq)
      exact absurd (hrest.progress_lt hq' hc') (lt_irrefl _)
  | cons hnext hrest ih =>
    cases h' with
    | nil hnext' =>
      cases hnext.symm.trans (hnext'.trans hq')
      exact absurd (hrest.progress_lt hq hc) (lt_irrefl _)
    | cons hnext' hrest' =>
      cases hnext.symm.trans hnext'
      obtain ⟨rfl, hcloser⟩ := ih hrest' hq
      exact ⟨rfl, hcloser⟩

/-- The same lexeme, met in the same state, is preceded by the same lexemes. -/
theorem unique {c : Lexeme} {q' : Parser} (h : Delivers w p ls q) (h' : Delivers w p ms q')
    (hq : next w q = .ok c r) (hq' : next w q' = .ok c r) (hc : c.token ≠ .endOfInput) :
    ls = ms :=
  (h.eq_of_next h' hq hq' hc hc).1

/-- Nothing but the place in the sources has changed where a lexeme is taken. -/
theorem frame {c : Lexeme} (h : Delivers w p ls q) (hq : Parser.next w q = .ok c r) :
    r = { p with stack := r.stack, peeked := r.peeked } := by
  induction h with
  | nil hnext => exact frame_next (hnext.trans hq)
  | cons hnext _ ih =>
    rw [ih hq, frame_next hnext]

end Delivers

/-- A text begins with some tokens. -/
inductive Lexed : List Char → List Token → List Char → Prop
  | nil (cs : List Char) : Lexed cs [] cs
  | cons {cs ds rest : List Char} {t : Token} {ts : List Token} :
      lex cs = .token t ds → Lexed ds ts rest → Lexed cs (t :: ts) rest

/-- The tokens of a text are delivered to the parse that is in front of it. -/
theorem Facing.delivers {source : Source} {cs rest : List Char} {ts : List Token}
    (hlexed : Lexed cs ts rest) (h : p.Facing source cs) :
    ∃ ls q, Delivers w p ls q ∧ ls.map (·.token) = ts ∧ q.Facing source rest := by
  induction hlexed generalizing p with
  | nil => exact ⟨[], p, .refl w p, rfl, h⟩
  | cons hlex _ ih =>
    obtain ⟨l, p₁, hnext, ⟨hl, -⟩, hfacing, -⟩ := takes_next hlex p h
    obtain ⟨ls, q, hls, hts, hq⟩ := ih hfacing
    exact ⟨l :: ls, q, .cons hnext hls, by rw [List.map_cons, hl, hts], hq⟩

variable {α β : Type}

/-- Where an action succeeds, it has taken tokens that stand for its outcome. -/
def Accepts (w : World) (R : List Token → α → Prop) (m : ParserM α) (p : Parser) : Prop :=
  ∀ a q, m p = .ok a q → ∃ ls, Delivers w p ls q ∧ R (ls.map (·.token)) a

namespace Accepts

variable {R : List Token → α → Prop} {m : ParserM α}

theorem pure {a : α} (h : R [] a) : Accepts w R (pure a) p := by
  intro b q hb
  cases hb
  exact ⟨[], .refl w p, h⟩

theorem throw (halt : Halt) : Accepts w R (throw halt) p :=
  fun _ _ h => nomatch h

theorem unexpected (l : Lexeme) (expected : String) : Accepts w R (unexpected l expected) p :=
  throw _

theorem mono {R' : List Token → α → Prop} (h : Accepts w R m p) (hR : ∀ ts a, R ts a → R' ts a) :
    Accepts w R' m p := by
  intro a q ha
  obtain ⟨ls, hls, hr⟩ := h a q ha
  exact ⟨ls, hls, hR _ _ hr⟩

theorem bind {S : List Token → β → Prop} {f : α → ParserM β} (h : Accepts w R m p)
    (hf : ∀ ts a q, R ts a → Accepts w (fun us b => S (ts ++ us) b) (f a) q) :
    Accepts w S (m >>= f) p := by
  intro b r hb
  obtain ⟨a, q, ha, hb⟩ := exists_of_bind hb
  obtain ⟨ls, hls, hR⟩ := h a q ha
  obtain ⟨ms, hms, hS⟩ := hf _ a q hR b r hb
  refine ⟨ls ++ ms, hls.trans hms, ?_⟩
  rwa [List.map_append]

theorem next {f : Lexeme → ParserM α}
    (hf : ∀ l q, next w p = .ok l q → Accepts w (fun ts a => R (l.token :: ts) a) (f l) q) :
    Accepts w R (next w >>= f) p := by
  intro a r ha
  obtain ⟨l, q, hl, ha⟩ := exists_of_bind ha
  obtain ⟨ls, hls, hR⟩ := hf l q hl a r ha
  exact ⟨l :: ls, .cons hl hls, hR⟩

theorem next_eq {f : Lexeme → ParserM α} (hl : Parser.next w p = .ok l q)
    (hf : Accepts w (fun ts a => R (l.token :: ts) a) (f l) q) :
    Accepts w R (Parser.next w >>= f) p := by
  refine .next fun m r hm => ?_
  cases hl.symm.trans hm
  exact hf

/-- The token that has been looked at is the one that is taken next. -/
theorem peek {f : Token → ParserM α}
    (hf : ∀ l q r, Parser.next w q = .ok l r → Accepts w R (f l.token) q) :
    Accepts w R (peek w >>= f) p := by
  intro a u ha
  obtain ⟨t, q, ht, ha⟩ := exists_of_bind ha
  obtain ⟨l, r, rfl, hp, hq⟩ := exists_of_peek ht
  obtain ⟨ls, hls, hR⟩ := hf l q r hq a u ha
  exact ⟨ls, hls.of_next (hp.trans hq.symm), hR⟩

theorem expectName (expected : String) :
    Accepts w (fun ts b => ts = [.name b.1]) (expectName w expected) p := by
  refine .next fun l q _ => ?_
  split
  · rename_i name hname
    exact .pure (by rw [hname])
  · exact .unexpected _ _

theorem expectLiteral (expected : String) :
    Accepts w (fun ts value => ts = [.literal value]) (expectLiteral w expected) p := by
  refine .next fun l q _ => ?_
  split
  · rename_i value hvalue
    exact .pure (by rw [hvalue])
  · exact .unexpected _ _

theorem expect (t : Token) (expected : String) :
    Accepts w (fun ts _ => ts = [t]) (expect w t expected) p := by
  refine .next fun l q _ => ?_
  split
  · rename_i ht
    exact .pure (by rw [ht])
  · exact .unexpected _ _

end Accepts

/-- In front of some tokens, an action takes these and has an outcome. The token behind them shows
that it may stop there. -/
def Yields (w : World) (stop : Token → Prop) (m : ParserM α) (ts : List Token) (a : α) : Prop :=
  ∀ p ls q l r, Delivers w p ls q → ls.map (·.token) = ts → next w q = .ok l r → stop l.token →
    ∃ q', m p = .ok a q' ∧ next w q' = .ok l r

namespace Yields

variable {stop : Token → Prop} {m : ParserM α} {ts us : List Token} {a : α} {b : β}

theorem pure : Yields w stop (pure a) [] a := by
  intro p ls q l r hls hts hl _
  obtain rfl := List.map_eq_nil_iff.1 hts
  cases hls with
  | nil hnext => exact ⟨p, rfl, hnext.trans hl⟩

theorem mono {stop' : Token → Prop} (h : Yields w stop m ts a) (hstop : ∀ t, stop' t → stop t) :
    Yields w stop' m ts a :=
  fun p ls q l r hls hts hl hs => h p ls q l r hls hts hl (hstop _ hs)

/-- One action after another. The token behind the first one is the first token of the other, or
the token behind both. -/
theorem bind {stop' : Token → Prop} {f : α → ParserM β} (h : Yields w stop m ts a)
    (hf : Yields w stop' (f a) us b) (hstop : ∀ t, stop' t → ∀ u ∈ (us ++ [t]).head?, stop u) :
    Yields w stop' (m >>= f) (ts ++ us) b := by
  intro p ls r l u hls hts hl hs
  obtain ⟨ls₁, ls₂, rfl, rfl, rfl⟩ := List.map_eq_append_iff.1 hts
  obtain ⟨q, hq, hr⟩ := hls.exists_of_append
  obtain ⟨m', v, hnext, hhead⟩ := hr.exists_head hl
  obtain ⟨q', ha, hq'⟩ := h p ls₁ q m' v hq rfl hnext (hstop _ hs _ hhead)
  obtain ⟨r', hb, hr'⟩ := hf q' ls₂ r l u (hr.of_next (hq'.trans hnext.symm)) rfl hl hs
  refine ⟨r', ?_, hr'⟩
  simp only [Bind.bind, EStateM.bind, ha]
  exact hb

theorem next {f : Lexeme → ParserM α} {t : Token}
    (hf : ∀ l : Lexeme, l.token = t → Yields w stop (f l) ts a) :
    Yields w stop (next w >>= f) (t :: ts) a := by
  intro p ls q l r hls hts hl hs
  cases hls with
  | nil => cases hts
  | @cons _ p₁ _ m ls hnext hrest =>
    injection hts with ht hts
    obtain ⟨q', ha, hq'⟩ := hf m ht p₁ ls q l r hrest hts hl hs
    refine ⟨q', ?_, hq'⟩
    simp only [Bind.bind, EStateM.bind, hnext]
    exact ha

/-- Looking at the first token, or at the token behind all of them. -/
theorem peek {f : Token → ParserM α}
    (hf : ∀ t, stop t → ∀ u ∈ (ts ++ [t]).head?, Yields w (· = t) (f u) ts a) :
    Yields w stop (peek w >>= f) ts a := by
  intro p ls q l r hls hts hl hs
  subst hts
  obtain ⟨m', v, hnext, hhead⟩ := hls.exists_head hl
  obtain ⟨p', hpeek, hp'⟩ := peek_of_next hnext
  obtain ⟨q', ha, hq'⟩ := hf l.token hs _ hhead p' ls q l r
    (hls.of_next (hp'.trans hnext.symm)) rfl hl rfl
  refine ⟨q', ?_, hq'⟩
  simp only [Bind.bind, EStateM.bind, hpeek]
  exact ha

theorem map {f : α → β} (h : Yields w stop m ts a) :
    Yields w stop (m >>= fun a => Pure.pure (f a)) ts (f a) := by
  rw [← List.append_nil ts]
  refine h.bind .pure fun t ht u hu => ?_
  cases hu
  exact ht

theorem expectName {f : String × Location → ParserM α} {name expected : String}
    (hf : ∀ location, Yields w stop (f (name, location)) ts a) :
    Yields w stop (expectName w expected >>= f) (.name name :: ts) a := by
  unfold Parser.expectName
  rw [bind_assoc]
  refine .next fun l hl => ?_
  rw [hl]
  exact hf _

theorem expectLiteral {f : String → ParserM α} {value expected : String}
    (hf : Yields w stop (f value) ts a) :
    Yields w stop (expectLiteral w expected >>= f) (.literal value :: ts) a := by
  unfold Parser.expectLiteral
  rw [bind_assoc]
  refine .next fun l hl => ?_
  rw [hl]
  exact hf

theorem expect {f : Lexeme → ParserM α} {t : Token} {expected : String}
    (hf : ∀ l : Lexeme, l.token = t → Yields w stop (f l) ts a) :
    Yields w stop (expect w t expected >>= f) (t :: ts) a := by
  unfold Parser.expect
  rw [bind_assoc]
  refine .next fun l hl => ?_
  rw [if_pos hl]
  exact hf l hl

end Yields

/-- Where an action succeeds, it has taken the body of a declaration, which stands for its outcome, and
the `>` behind it, which is from the source of the opener. -/
def AcceptsBody (w : World) (o : Lexeme) (R : List Lexeme → α → Prop) (m : ParserM α)
    (p : Parser) : Prop :=
  ∀ a r, m p = .ok a r → ∃ ls q c, Delivers w p ls q ∧ next w q = .ok c r ∧ c.token = .close ∧
    c.source = o.source ∧ R ls a

namespace AcceptsBody

variable {o : Lexeme} {R : List Lexeme → β → Prop}

theorem throw (halt : Halt) : AcceptsBody w o R (throw halt) p :=
  fun _ _ h => nomatch h

theorem mono {R' : List Lexeme → β → Prop} {m : ParserM β} (h : AcceptsBody w o R m p)
    (hR : ∀ ls b, R ls b → R' ls b) : AcceptsBody w o R' m p := by
  intro b r hb
  obtain ⟨ls, q, c, hls, hq, hclose, hsource, hr⟩ := h b r hb
  exact ⟨ls, q, c, hls, hq, hclose, hsource, hR _ _ hr⟩

theorem map {S : List Lexeme → α → Prop} {m : ParserM α} {f : α → β} (h : AcceptsBody w o S m p)
    (hR : ∀ ls a, S ls a → R ls (f a)) : AcceptsBody w o R (m >>= fun a => Pure.pure (f a)) p := by
  intro b r hb
  obtain ⟨a, q, ha, hb⟩ := exists_of_bind hb
  cases hb
  obtain ⟨ls, q', c, hls, hq', hclose, hsource, hS⟩ := h a _ ha
  exact ⟨ls, q', c, hls, hq', hclose, hsource, hR ls a hS⟩

theorem expectClose {b : β} (h : R [] b) :
    AcceptsBody w o R (expectClose w o >>= fun _ => pure b) p := by
  intro b' r hb
  obtain ⟨u, q, hclose, hb⟩ := exists_of_bind hb
  cases hb
  obtain ⟨c, q, hexpect, hc⟩ := exists_of_bind hclose
  obtain ⟨hnext, htoken⟩ := expect_ok hexpect
  split at hc
  · rename_i hsource
    cases hc
    exact ⟨[], p, c, .refl w p, hnext, htoken, hsource, h⟩
  · cases hc

theorem bind {S : List Token → α → Prop} {m : ParserM α} {f : α → ParserM β} (h : Accepts w S m p)
    (hf : ∀ ms a q, S (ms.map (·.token)) a → AcceptsBody w o (fun ls b => R (ms ++ ls) b) (f a) q) :
    AcceptsBody w o R (m >>= f) p := by
  intro b r hb
  obtain ⟨a, q, ha, hb⟩ := exists_of_bind hb
  obtain ⟨ms, hms, hS⟩ := h a q ha
  obtain ⟨ls, q', c, hls, hq', hclose, hsource, hR⟩ := hf ms a q hS b r hb
  exact ⟨ms ++ ls, q', c, hms.trans hls, hq', hclose, hsource, hR⟩

theorem next {f : Lexeme → ParserM β}
    (hf : ∀ l q, next w p = .ok l q → AcceptsBody w o (fun ls b => R (l :: ls) b) (f l) q) :
    AcceptsBody w o R (next w >>= f) p := by
  intro b r hb
  obtain ⟨l, q, hl, hb⟩ := exists_of_bind hb
  obtain ⟨ls, q', c, hls, hq', hclose, hsource, hR⟩ := hf l q hl b r hb
  exact ⟨l :: ls, q', c, .cons hl hls, hq', hclose, hsource, hR⟩

theorem next_eq {f : Lexeme → ParserM β} (hl : Parser.next w p = .ok l q)
    (hf : AcceptsBody w o (fun ls b => R (l :: ls) b) (f l) q) :
    AcceptsBody w o R (Parser.next w >>= f) p := by
  refine .next fun m r hm => ?_
  cases hl.symm.trans hm
  exact hf

theorem peek {f : Token → ParserM β}
    (hf : ∀ l q r, Parser.next w q = .ok l r → AcceptsBody w o R (f l.token) q) :
    AcceptsBody w o R (peek w >>= f) p := by
  intro b u hb
  obtain ⟨t, q, ht, hb⟩ := exists_of_bind hb
  obtain ⟨l, r, rfl, hp, hq⟩ := exists_of_peek ht
  obtain ⟨ls, q', c, hls, hq', hclose, hsource, hR⟩ := hf l q r hq b u hb
  exact ⟨ls, q', c, hls.of_next (hp.trans hq.symm), hq', hclose, hsource, hR⟩

theorem expectName {f : String × Location → ParserM β} {expected : String}
    (hf : ∀ l name q, l.token = .name name →
      AcceptsBody w o (fun ls b => R (l :: ls) b) (f (name, l.location)) q) :
    AcceptsBody w o R (expectName w expected >>= f) p := by
  unfold Parser.expectName
  rw [bind_assoc]
  refine .next fun l q _ => ?_
  split
  · rename_i name hname
    exact hf l name q hname
  · exact fun _ _ h => nomatch h

end AcceptsBody

/-- In front of the body of a declaration and a `>` from the source of the opener, an action takes
these and has an outcome. -/
def YieldsBody (w : World) (o : Lexeme) (m : ParserM α) (ls : List Lexeme) (a : α) : Prop :=
  ∀ p q c r, Delivers w p ls q → next w q = .ok c r → c.token = .close → c.source = o.source →
    m p = .ok a r

namespace YieldsBody

variable {o : Lexeme} {ls ms : List Lexeme} {a : α} {b : β}

theorem map {m : ParserM α} {f : α → β} (h : YieldsBody w o m ls a) :
    YieldsBody w o (m >>= fun a => Pure.pure (f a)) ls (f a) := by
  intro p q c r hls hq hc hsource
  simp only [Bind.bind, EStateM.bind, h p q c r hls hq hc hsource]
  rfl

theorem expectClose : YieldsBody w o (expectClose w o >>= fun _ => pure b) [] b := by
  intro p q c r hls hq hc hsource
  cases hls with
  | nil hnext =>
    simp only [Parser.expectClose, Parser.expect, Bind.bind, EStateM.bind, hnext.trans hq, hc,
      if_true]
    simp only [Pure.pure, EStateM.pure, hsource, if_true]

theorem bind {stop : Token → Prop} {m : ParserM α} {f : α → ParserM β}
    (h : Yields w stop m (ls.map (·.token)) a) (hf : YieldsBody w o (f a) ms b)
    (hstop : ∀ u ∈ (ms.map Lexeme.token ++ [Token.close]).head?, stop u) :
    YieldsBody w o (m >>= f) (ls ++ ms) b := by
  intro p r c u hls hr hc hsource
  obtain ⟨q, hq, hms⟩ := hls.exists_of_append
  obtain ⟨m', v, hnext, hhead⟩ := hms.exists_head hr
  rw [hc] at hhead
  obtain ⟨q', ha, hq'⟩ := h p ls q m' v hq rfl hnext (hstop _ hhead)
  simp only [Bind.bind, EStateM.bind, ha]
  exact hf q' r c u (hms.of_next (hq'.trans hnext.symm)) hr hc hsource

theorem next {f : Lexeme → ParserM α} (hf : YieldsBody w o (f l) ls a) :
    YieldsBody w o (next w >>= f) (l :: ls) a := by
  intro p q c r hls hq hc hsource
  cases hls with
  | cons hnext hrest =>
    simp only [Bind.bind, EStateM.bind, hnext]
    exact hf _ q c r hrest hq hc hsource

theorem peek {f : Token → ParserM α}
    (hf : ∀ u ∈ (ls.map Lexeme.token ++ [Token.close]).head?, YieldsBody w o (f u) ls a) :
    YieldsBody w o (peek w >>= f) ls a := by
  intro p q c r hls hq hc hsource
  obtain ⟨m', v, hnext, hhead⟩ := hls.exists_head hq
  rw [hc] at hhead
  obtain ⟨p', hpeek, hp'⟩ := peek_of_next hnext
  simp only [Bind.bind, EStateM.bind, hpeek]
  exact hf _ hhead p' q c r (hls.of_next (hp'.trans hnext.symm)) hq hc hsource

theorem expectName {f : String × Location → ParserM α} {name expected : String}
    (hl : l.token = .name name) (hf : YieldsBody w o (f (name, l.location)) ls a) :
    YieldsBody w o (expectName w expected >>= f) (l :: ls) a := by
  unfold Parser.expectName
  rw [bind_assoc]
  refine .next ?_
  rw [hl]
  exact hf

end YieldsBody

end Doctype.Parser
