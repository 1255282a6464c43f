import Doctype.Proofs.Parser.Frame

/-! Two parses that run beside each other. -/
namespace Doctype

/-- What has been declared. -/
abbrev Declared := EntityTable × DocumentType

def Parser.declared (p : Parser) : Declared :=
  (p.entities, p.model)

namespace Passage

variable (k : Passage)

/-- Sections that were opened in corresponding sources. -/
abbrev Sections : List (Nat × Location) → List (Nat × Location) → Prop :=
  List.Forall₂ fun a b => k.ids a.1 b.1

/-- What two parses have declared, related in a way that later items keep, at least as long as the
first parse has declared something good. -/
structure Coupling (w : World) (keep : Bool) (Good : Declared → Prop)
    (R : Declared → Declared → Prop) : Prop where
  opens {d d' : Declared} : R d d' → k.Opens w d.1 d'.1
  declares {d d' e : Declared} {i : Item} : R d d' → i.declares keep d.1 d.2 = some e → Good e →
    ∃ e', i.declares keep d'.1 d'.2 = some e' ∧ R e e'

/-- Parses at corresponding places of a text. -/
structure Beside (keep : Bool) (R : Declared → Declared → Prop) (p p' : Parser) : Prop where
  pairs : k.Pairs p.stack p'.stack
  peeked : p.peeked = none
  peeked' : p'.peeked = none
  keeps : p.keepInstructions = keep
  keeps' : p'.keepInstructions = keep
  declared : R p.declared p'.declared
  sections : k.Sections p.sections p'.sections

/-- The first parse has come to its end, and the second is behind the text. -/
structure Passed (keep : Bool) (R : Declared → Declared → Prop) (p p' : Parser) : Prop where
  behind : k.Behind p.stack p'.stack
  peeked' : p'.peeked = none
  keeps' : p'.keepInstructions = keep
  declared : R p.declared p'.declared
  sections' : p'.sections = []

variable {k}

section Moves

variable {s s' s₁ s₁' : SourceStack} {c c' c₁ c₁' : List (Nat × Location)} {o o' : Lexeme}
  {i i' : Item}

theorem Pairs.noted (h : k.Pairs s s') (hs : s.Noted s₁) (hs' : s'.Noted s₁') :
    k.Pairs s₁ s₁' := by
  obtain ⟨us, us', d, d', ⟨hsources, hsources', hlike, hledger⟩, hwithin⟩ := h
  refine ⟨us, us', d, d', ⟨?_, ?_, hlike, ?_⟩, hwithin⟩
  · rw [hs.sources, hsources]
  · rw [hs'.sources, hsources']
  · exact hledger.congr hs.nextId hs'.nextId hs.refs hs'.refs

/-- The same move is possible in the second parse, and leads to corresponding places. -/
theorem Pairs.moves (h : k.Pairs s s') (hc : k.Sections c c') (ho : k.ids o.source o'.source)
    (hi : Item.Alike o o' i i') (hm : i.Moves s c s₁ c₁) :
    (∃ s₁' c₁', i'.Moves s' c' s₁' c₁') ∧
      ∀ s₁' c₁', i'.Moves s' c' s₁' c₁' → k.Pairs s₁ s₁' ∧ k.Sections c₁ c₁' := by
  have hnoted (hm : s.Noted s₁ ∧ c₁ = c) :
      (∃ s₁' c₁', s'.Noted s₁' ∧ c₁' = c') ∧
        ∀ s₁' c₁', s'.Noted s₁' ∧ c₁' = c' → k.Pairs s₁ s₁' ∧ k.Sections c₁ c₁' := by
    obtain ⟨hs, rfl⟩ := hm
    refine ⟨⟨s', c', .refl _, rfl⟩, fun s₁' c₁' hm' => ?_⟩
    obtain ⟨hs', rfl⟩ := hm'
    exact ⟨h.noted hs hs', hc⟩
  cases hi with
  | included =>
    obtain ⟨rfl, rfl⟩ := hm
    refine ⟨⟨s', _, rfl, rfl⟩, fun s₁' c₁' hm' => ?_⟩
    obtain ⟨rfl, rfl⟩ := hm'
    exact ⟨h, .cons ho hc⟩
  | ignored =>
    obtain ⟨hs, rfl⟩ := hm
    have hskipping (s : SourceStack) (l : Location) : s.Noted (s.note (.skipping l)) :=
      SourceStack.noted_note nofun
    have hpairs := h.noted (hskipping s o.location) (hskipping s' o'.location)
    obtain ⟨s₂', hs₂', hpairs₂⟩ := hpairs.skipIgnored hs
    refine ⟨⟨s₂', c', hs₂', rfl⟩, fun s₁' c₁' hm' => ?_⟩
    obtain ⟨hs', rfl⟩ := hm'
    rw [hs₂'] at hs'
    injection hs' with _ hs'
    subst hs'
    exact ⟨hpairs₂, hc⟩
  | sectionClose =>
    obtain ⟨rfl, l, rfl⟩ := hm
    cases hc with
    | @cons _ b' _ outer' hb houter =>
      have hsource : b'.1 = o'.source := (k.ids_iff hb ho).1 rfl
      have hb' : b' = (o'.source, b'.2) := by rw [← hsource]
      refine ⟨⟨s', outer', rfl, b'.2, by rw [← hb']⟩, fun s₁' c₁' hm' => ?_⟩
      obtain ⟨rfl, l', hc'⟩ := hm'
      cases hc'
      exact ⟨h, houter⟩
  | element => exact hnoted hm
  | attlist => exact hnoted hm
  | parameter => exact hnoted hm
  | entity => exact hnoted hm
  | notation_ => exact hnoted hm
  | comment => exact hnoted hm
  | instruction => exact hnoted hm

theorem declares_of_alike (h : Item.Alike o o' i i') (keep : Bool) (t : EntityTable)
    (d : DocumentType) : i'.declares keep t d = i.declares keep t d := by
  cases h <;> rfl

theorem journal_skipIgnored (h : s.skipIgnored = .ok () s₁) : s₁.journal = s.journal := by
  obtain ⟨source, below, cursor, -, -, rfl⟩ := SourceStack.skipIgnored_eq_ok_iff.1 h
  rfl

theorem journal_moves (h : i.Moves s c s₁ c₁) : s.journal <:+ s₁.journal := by
  cases i with
  | included =>
    obtain ⟨rfl, -⟩ := h
    exact List.suffix_rfl
  | sectionClose =>
    obtain ⟨rfl, -⟩ := h
    exact List.suffix_rfl
  | ignored opener =>
    rw [journal_skipIgnored h.1]
    exact List.suffix_cons _ _
  | element => exact h.1.journal
  | attlist => exact h.1.journal
  | parameter => exact h.1.journal
  | entity => exact h.1.journal
  | notation_ => exact h.1.journal
  | comment => exact h.1.journal
  | instruction => exact h.1.journal

end Moves

section Runs

variable {w : World} {keep : Bool} {Good : Declared → Prop} {R : Declared → Declared → Prop}
  {p p' q : Parser}

theorem journal_advances (h : Parser.Advances w p q) (hp : p.peeked = none) :
    p.stack.journal <:+ q.stack.journal := by
  obtain ⟨l, ls, i, s, hreads, ha⟩ := h.reads hp
  exact hreads.pulls.journal.trans (journal_moves (Parser.effect_of_apply ha).moves)

theorem ends_iff (hp : p.peeked = none) :
    Parser.Ends w p q ↔ p.sections = [] ∧ ∃ l s, p.stack.next w p.entities = .ok l s ∧
      l.token = .endOfInput ∧ q = { p with stack := s } := by
  unfold Parser.Ends
  rw [Parser.next_of_none hp]
  constructor
  · rintro ⟨l, hn, heof, hs⟩
    obtain ⟨hscan, hq⟩ := Parser.scan_ok hn
    rw [hq] at hs
    exact ⟨hs, l, q.stack, hscan, heof, hq⟩
  · rintro ⟨hs, l, s, hn, heof, rfl⟩
    exact ⟨l, Parser.scan_eq hn, heof, hs⟩

/-- Lexemes of corresponding sources match. -/
theorem match_of_likeLexeme {l l' m m' : Lexeme} (hl : k.LikeLexeme l l') (hm : k.LikeLexeme m m') :
    Parser.Match l l' m m' :=
  ⟨hm.token, k.ids_iff hm.source hl.source, .inl hm.lexical⟩

/-- What the first parse reads, the second reads as well, unless what must not be met is met. -/
theorem Beside.advances (h : k.Beside keep R p p') (hk : k.Coupling w keep Good R)
    (ha : Parser.Advances w p q) (hgood : Good q.declared) (hb : ¬k.Barred q.stack) :
    ∃ q', Parser.Advances w p' q' ∧ k.Beside keep R q q' := by
  obtain ⟨hpairs, hpeek, hpeek', hkeep, hkeep', hdeclared, hsections⟩ := h
  obtain ⟨l, ls, i, s₁, hreads, happly⟩ := ha.reads hpeek
  have heffect := Parser.effect_of_apply happly
  have hb₁ : ¬k.Barred s₁ := fun hbarred => hb (hbarred.mono (journal_moves heffect.moves))
  have hlast : ∀ m ∈ (l :: ls).getLast?, m.token.isClosed := hreads.last
  obtain ⟨ms, s₁', hpulls, hlike, hpairs₁⟩ := hpairs.pulls (hk.opens hdeclared) hreads.pulls hlast hb₁
  cases hlike with
  | @cons _ l' _ ls' hl hls =>
    have hmatch : List.Forall₂ (Parser.Match l l') ls ls' :=
      hls.imp fun m m' hm => match_of_likeLexeme hl hm
    obtain ⟨i', halike, hadvances⟩ := hreads.advances hpeek' hpulls hl.token hmatch
    have hdeclares : i.declares keep p.entities p.model = some q.declared := by
      rw [← hkeep]
      exact heffect.declares
    obtain ⟨e', he', hR⟩ := hk.declares hdeclared hdeclares hgood
    rw [← declares_of_alike halike, ← hkeep'] at he'
    obtain ⟨⟨s₂', c₂', hm'⟩, hmoves⟩ := hpairs₁.moves hsections hl.source halike heffect.moves
    have hdeclares' : i'.declares p'.keepInstructions p'.entities p'.model = some (e'.1, e'.2) := he'
    obtain ⟨q', hq'⟩ := Parser.apply_of_declares (p := { p' with stack := s₁' }) hdeclares' hm'
    have heffect' := Parser.effect_of_apply hq'
    have hdeclared' : some q'.declared = some e' := heffect'.declares.symm.trans he'
    cases hdeclared'
    obtain ⟨hpairs', hsections'⟩ := hmoves _ _ heffect'.moves
    refine ⟨q', hadvances q' hq', hpairs', ?_, ?_, ?_, ?_, hR, hsections'⟩
    · exact heffect.peeked.trans hpeek
    · exact heffect'.peeked.trans hpeek'
    · exact heffect.keep.trans hkeep
    · exact heffect'.keep.trans hkeep'

/-- Two parses stay beside each other. -/
theorem Beside.reaches (h : k.Beside keep R p p') (hk : k.Coupling w keep Good R)
    (hr : Parser.Reaches w p q)
    (hgood : ∀ r, Parser.Reaches w p r → Parser.Reaches w r q → Good r.declared)
    (hb : ¬k.Barred q.stack) :
    ∃ q', Parser.Reaches w p' q' ∧ k.Beside keep R q q' := by
  induction hr with
  | refl => exact ⟨p', .refl, h⟩
  | @tail r q hr hq ih =>
    have hpeek := Parser.Reaches.peeked hr h.peeked
    have hb' : ¬k.Barred r.stack := fun hbarred => hb (hbarred.mono (journal_advances hq hpeek))
    obtain ⟨r', hr', hbeside⟩ := ih (fun u hu hu' => hgood u hu (hu'.tail hq)) hb'
    obtain ⟨q', hq', hbeside'⟩ := hbeside.advances hk hq (hgood q (hr.tail hq) .refl) hb
    exact ⟨q', hr'.tail hq', hbeside'⟩

end Runs

end Passage

namespace Parser

variable {w : World} {p q e : Parser} {s : SourceStack}

/-- A parse comes to its end in a state. -/
def Completes (w : World) (p e : Parser) : Prop :=
  ∃ r, Reaches w p r ∧ Ends w r e

theorem Ends.declared (h : Ends w p q) (hp : p.peeked = none) :
    q.declared = p.declared ∧ q.keepInstructions = p.keepInstructions ∧ q.peeked = none := by
  obtain ⟨-, l, s, -, -, rfl⟩ := (Passage.ends_iff hp).1 h
  exact ⟨rfl, rfl, hp⟩

theorem Reaches.completes_iff (h : Reaches w p q) (hp : p.peeked = none) :
    Completes w p e ↔ Completes w q e := by
  constructor
  · rintro ⟨r, hr, he⟩
    exact ⟨r, h.of_ends hr he hp, he⟩
  · rintro ⟨r, hr, he⟩
    exact ⟨r, h.trans hr, he⟩

/-- A parse depends on the next lexeme of its sources, not on the way to it. -/
theorem completes_of_next (hp : p.peeked = none)
    (hn : p.stack.next w p.entities = s.next w p.entities) (h : Completes w p e) :
    Completes w { p with stack := s } e := by
  have hnext : next w p = next w { p with stack := s } := by
    rw [next_of_none hp, next_of_none (p := { p with stack := s }) hp]
    unfold scan
    rw [hn]
  obtain ⟨r, hr, he⟩ := h
  rcases Relation.ReflTransGen.cases_head hr with rfl | ⟨p₁, hstep, hr⟩
  · obtain ⟨l, hl, heof, hs⟩ := he
    exact ⟨_, .refl, l, hnext ▸ hl, heof, hs⟩
  · obtain ⟨fuel, l, p₂, i, p₃, hl, hrest⟩ := hstep
    exact ⟨r, .head ⟨fuel, l, p₂, i, p₃, hnext ▸ hl, hrest⟩ hr, he⟩

theorem completes_congr (hp : p.peeked = none)
    (hn : p.stack.next w p.entities = s.next w p.entities) :
    Completes w p e ↔ Completes w { p with stack := s } e := by
  constructor
  · exact completes_of_next hp hn
  · exact completes_of_next (p := { p with stack := s }) (s := p.stack) hp hn.symm

end Parser

namespace Passage

variable {k : Passage} {w : World} {keep : Bool} {Good : Declared → Prop}
  {R : Declared → Declared → Prop} {p p' q r : Parser}

/-- When the first parse has come to its end, the second goes on behind the text, inside of the same
sections. -/
theorem Beside.passed_inside (h : k.Beside keep R p p') (hk : k.Coupling w keep Good R)
    (hr : Parser.Reaches w p q) (he : Parser.Ends w q r)
    (hgood : ∀ u, Parser.Reaches w p u → Parser.Reaches w u q → Good u.declared)
    (hb : ¬k.Barred r.stack) :
    ∃ r', k.Passed keep R r r' ∧
      ∀ outer e, Parser.Completes w (p'.inside outer) e ↔ Parser.Completes w (r'.inside outer) e := by
  have hpeek := Parser.Reaches.peeked hr h.peeked
  obtain ⟨hnil, l, s, hn, heof, rfl⟩ := (ends_iff hpeek).1 he
  have hb' : ¬k.Barred q.stack := fun hbarred => hb (hbarred.mono (SourceStack.journal_next hn))
  obtain ⟨q', hr', hbeside⟩ := h.reaches hk hr hgood hb'
  obtain ⟨s', hn', hbehind⟩ := hbeside.pairs.ends (hk.opens hbeside.declared) hn heof hb
  refine ⟨{ q' with stack := s' }, ⟨hbehind, hbeside.peeked', hbeside.keeps', hbeside.declared, ?_⟩,
    fun outer e => ?_⟩
  · have hsections := hbeside.sections
    rw [hnil] at hsections
    exact List.forall₂_nil_left_iff.1 hsections
  · have hinside : Parser.Reaches w (p'.inside outer) (q'.inside outer) := hr'.inside h.peeked' outer
    rw [hinside.completes_iff h.peeked']
    exact Parser.completes_congr (p := q'.inside outer) hbeside.peeked' hn'

/-- When the first parse has come to its end, the second goes on behind the text. -/
theorem Beside.passed (h : k.Beside keep R p p') (hk : k.Coupling w keep Good R)
    (hr : Parser.Reaches w p q) (he : Parser.Ends w q r)
    (hgood : ∀ u, Parser.Reaches w p u → Parser.Reaches w u q → Good u.declared)
    (hb : ¬k.Barred r.stack) :
    ∃ r', k.Passed keep R r r' ∧
      ∀ e, Parser.Completes w p' e ↔ Parser.Completes w r' e := by
  obtain ⟨r', hpassed, hiff⟩ := h.passed_inside hk hr he hgood hb
  refine ⟨r', hpassed, fun e => ?_⟩
  have hnone := hiff [] e
  rwa [Parser.inside_nil, Parser.inside_nil] at hnone

end Passage

end Doctype
