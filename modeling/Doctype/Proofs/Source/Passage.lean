import Doctype.Proofs.Cursor.Seam
import Doctype.Proofs.Source.Steps
import Mathlib.Data.List.Forall2

/-! Two stacks of sources that read the same text in different surroundings. -/
namespace Doctype

/-- How often an entity has been met. -/
def SourceStack.refs (s : SourceStack) (name : String) : Nat :=
  s.journal.count (.referenced name)

/-- A text that one run reads in its outermost source, and another run in some source, with
something else behind it. -/
structure Passage where
  /-- How the numbers of sources correspond. -/
  ids : Nat → Nat → Prop
  /-- How the bases correspond. -/
  bases : Base → Base → Prop
  /-- The source of the first run. -/
  outer : Source
  /-- The source of the second run. -/
  inner : Source
  /-- The sources below it. -/
  below : List Source
  /-- What stands behind the text in the first run. -/
  tail : List Char
  /-- What stands behind the text in the second run. -/
  tail' : List Char
  /-- The entity whose replacement text the second run reads, which must not be met. -/
  barred : Option String
  /-- How often the first run has met it before. -/
  met : Nat
  /-- How much more often the first run may have met an entity. -/
  lead : String → Nat
  blank : Blank tail
  ids_iff {a a' b b' : Nat} : ids a a' → ids b b' → (a = b ↔ a' = b')
  ids_outer : ids outer.id inner.id
  bases_outer : bases outer.base inner.base
  entities : ∀ source ∈ inner :: below, ∀ name ∈ source.entity, name ∈ barred

namespace Passage

variable (k : Passage)

/-- What the first run can open, the second can open as well. -/
def Opens (w : World) (t t' : EntityTable) : Prop :=
  ∀ name base base' text, name ∉ k.barred → k.bases base base' →
    t.openReference w name base = .ok text →
      ∃ text', t'.openReference w name base' = .ok text' ∧ text'.content = text.content ∧
        k.bases (text.origin.base?.getD base) (text'.origin.base?.getD base')

/-- Sources with the same text to come. -/
structure Like (a a' : Source) : Prop where
  id : k.ids a.id a'.id
  entity : a.entity = a'.entity
  base : k.bases a.base a'.base
  cursor : a.cursor.Alike .renamed a'.cursor

/-- Cursors within the text. -/
def Within (c c' : Cursor) : Prop :=
  ∃ front front' text, Blank front ∧ Blank front' ∧ c.Shows (front ++ text ++ k.tail) ∧
    c'.Shows (front' ++ text ++ k.tail')

/-- Stacks whose next sources correspond, and which have met the same entities. -/
structure Ledger (s s' : SourceStack) : Prop where
  nextId : ∀ i, k.ids (s.nextId + i) (s'.nextId + i)
  fresh : k.outer.id < s.nextId
  fresh' : k.inner.id < s'.nextId
  met : ∀ name ∈ k.barred, k.met ≤ s.refs name
  refs : ∀ name, s.refs name ≤ s'.refs name + k.lead name

/-- Stacks with corresponding sources above the text. -/
structure Above (s s' : SourceStack) (us us' : List Source) (c c' : Cursor) : Prop where
  sources : s.sources = us ++ [{ k.outer with cursor := c }]
  sources' : s'.sources = us' ++ { k.inner with cursor := c' } :: k.below
  like : List.Forall₂ k.Like us us'
  ledger : k.Ledger s s'

/-- Stacks that read the text. -/
def Pairs (s s' : SourceStack) : Prop :=
  ∃ us us' c c', k.Above s s' us us' c c' ∧ k.Within c c'

/-- Lexemes that differ in location and depth, and in the number of the source. -/
structure LikeLexeme (l l' : Lexeme) : Prop where
  token : l.token = l'.token
  source : k.ids l.source l'.source
  lexical : l.token.Lexical

/-- The first run has met the entity that must not be met. -/
def Barred (s : SourceStack) : Prop :=
  ∃ name ∈ k.barred, k.met < s.refs name

/-- The second run is behind the text. -/
structure Behind (s s' : SourceStack) : Prop where
  sources : ∃ c front, s'.sources = { k.inner with cursor := c } :: k.below ∧ Blank front ∧
    c.Shows (front ++ k.tail')
  ledger : k.Ledger s s'

end Passage

namespace SourceStack

/-- Nothing but blanks is left. -/
def Drained (s : SourceStack) : Prop :=
  ∀ source ∈ s.sources, ∃ cs, source.cursor.Shows cs ∧ Blank cs

variable {w : World} {t : EntityTable} {s s' : SourceStack}

theorem next_eq (w : World) (t : EntityTable) (s : SourceStack) :
    s.next w t =
      match s.step w t with
      | .error e s' => .error e s'
      | .ok (some lexeme) s' => .ok lexeme s'
      | .ok none s' => s'.next w t := by
  rw [next]
  split <;> simp_all

theorem Drained.step {o : Option Lexeme} (h : s.Drained) (hs : s.step w t = .ok o s') :
    s'.Drained ∧ ∀ lexeme ∈ o, lexeme.token = .endOfInput := by
  cases hsources : s.sources with
  | nil =>
    rw [step_nil hsources] at hs
    cases hs
    exact ⟨h, fun lexeme hl => by cases hl; rfl⟩
  | cons source below =>
    obtain ⟨cs, hshows, hblank⟩ := h source (by rw [hsources]; exact List.mem_cons_self)
    obtain ⟨cursor, hc⟩ := step_cases hsources hs
    have hscan {r : Scanned} (hr : source.cursor.scan = .ok r cursor) : r = .exhausted := by
      obtain ⟨l, rest, ho, -⟩ := hshows.lex_eq hr
      rw [lex_eq_exhausted.2 hblank] at ho
      cases ho
      rfl
    rcases hc with ⟨-, rfl, rfl⟩ | ⟨name, location, text, hr, -⟩ | ⟨token, location, hr, -⟩
    · refine ⟨fun a ha => h a ?_, nofun⟩
      rw [hsources]
      exact List.mem_cons_of_mem _ ha
    · cases hscan hr
    · cases hscan hr

/-- After blanks only the end of input is left. -/
theorem Drained.next {lexeme : Lexeme} (h : s.Drained) (hn : s.next w t = .ok lexeme s') :
    s'.Drained ∧ lexeme.token = .endOfInput := by
  fun_induction SourceStack.next w t s with
  | case1 => cases hn
  | case2 s lexeme' s'' hstep =>
    cases hn
    obtain ⟨hd, ho⟩ := h.step hstep
    exact ⟨hd, ho _ rfl⟩
  | case3 s s'' hstep ih => exact ih (h.step hstep).1 hn

theorem journal_step {o : Option Lexeme} (hs : s.step w t = .ok o s') :
    s.journal <:+ s'.journal := by
  cases hsources : s.sources with
  | nil =>
    rw [step_nil hsources] at hs
    cases hs
    exact List.suffix_rfl
  | cons source below =>
    obtain ⟨cursor, hc⟩ := step_cases hsources hs
    rcases hc with ⟨-, -, rfl⟩ | ⟨name, location, text, -, -, -, -, rfl⟩ | ⟨token, location, -, -, rfl⟩
    · exact List.suffix_cons _ _
    · rw [entered, ← List.cons_append]
      exact List.suffix_append _ _
    · exact List.suffix_cons _ _

theorem journal_next {lexeme : Lexeme} (hn : s.next w t = .ok lexeme s') :
    s.journal <:+ s'.journal := by
  fun_induction SourceStack.next w t s with
  | case1 => cases hn
  | case2 s lexeme' s'' hstep =>
    cases hn
    exact journal_step hstep
  | case3 s s'' hstep ih => exact (journal_step hstep).trans (ih hn)

section Refs

variable {source : Source} {below : List Source} {cursor : Cursor}

theorem refs_note {e : Event} (h : ∀ name, e ≠ .referenced name) : (s.note e).refs = s.refs :=
  funext fun name => List.count_cons_of_ne (h name)

theorem refs_closed : (s.readTo source below cursor).pop.2.refs = s.refs :=
  refs_note (s := { s with sources := below }) nofun

theorem refs_given {l : Location} {token : Token} :
    ((s.readTo source below cursor).note (.scanned l token)).refs = s.refs :=
  refs_note (s := s.readTo source below cursor) nofun

theorem count_openEvents (w : World) (t : EntityTable) (name n : String) (base : Base) :
    (t.openEvents w name base).count (.referenced n) = if n = name then 1 else 0 := by
  have hsought (paths : List Path) : (paths.map Event.sought).count (.referenced n) = 0 := by
    rw [List.count_eq_zero, List.mem_map]
    rintro ⟨path, -, he⟩
    cases he
  have hplace (place : Located) : (place.events name).count (.referenced n) = 0 := by
    cases place <;> rfl
  unfold EntityTable.openEvents
  rw [List.count_cons]
  have htail (es : List Event) (he : es.count (.referenced n) = 0) :
      es.count (.referenced n) + (if (Event.referenced name == .referenced n) then 1 else 0) =
        if n = name then 1 else 0 := by
    rw [he, Nat.zero_add]
    by_cases hn : n = name
    · simp [hn]
    · have hne : (Event.referenced name == Event.referenced n) = false := by
        simpa using Ne.symm hn
      rw [hne, if_neg hn]
      rfl
  refine htail _ ?_
  split
  · rfl
  · rw [List.count_append, hsought, Nat.zero_add]
    split
    · exact hplace _
    · rfl

/-- Entering a reference is recorded. -/
theorem refs_entered (w : World) (t : EntityTable) (name : String) (text : EntityText)
    (s : SourceStack) (n : String) :
    (s.entered w t name text).refs n = s.refs n + if n = name then 1 else 0 := by
  simp only [refs, entered]
  rw [List.count_cons_of_ne (by simp), List.count_append, List.count_reverse, count_openEvents]
  omega

end Refs

end SourceStack

namespace Passage

variable {k : Passage} {w : World} {t t' : EntityTable} {s s' s₁ : SourceStack}

theorem Pairs.sources' (h : k.Pairs s s') : s'.sources ≠ [] := by
  obtain ⟨us, us', c, c', habove, -⟩ := h
  rw [habove.sources']
  simp

theorem Pairs.base (h : k.Pairs s s') : k.bases s.base s'.base := by
  obtain ⟨us, us', c, c', habove, -⟩ := h
  have hlike := habove.like
  have hs := habove.sources
  have hs' := habove.sources'
  cases hlike with
  | nil =>
    simp only [SourceStack.base, hs, hs', List.nil_append]
    exact k.bases_outer
  | cons ha _ =>
    simp only [SourceStack.base, hs, hs', List.cons_append]
    exact ha.base

/-- What is being expanded in the second run is being expanded in the first, or must not be met. -/
theorem Pairs.isOpen (h : k.Pairs s s') {name : String} (ho : s'.isOpen name) :
    s.isOpen name ∨ name ∈ k.barred := by
  obtain ⟨us, us', c, c', habove, -⟩ := h
  simp only [SourceStack.isOpen, List.any_eq_true, beq_iff_eq] at ho ⊢
  obtain ⟨a', ha', he⟩ := ho
  rw [habove.sources'] at ha'
  rcases List.mem_append.1 ha' with ha' | ha'
  · left
    obtain ⟨a, ha, hlike⟩ := exists_of_mem_right habove.like ha'
    refine ⟨a, ?_, hlike.entity.trans he⟩
    rw [habove.sources]
    exact List.mem_append_left _ ha
  · right
    rcases List.mem_cons.1 ha' with rfl | ha'
    · exact k.entities k.inner List.mem_cons_self name he
    · exact k.entities a' (List.mem_cons_of_mem _ ha') name he
where
  exists_of_mem_right {R : Source → Source → Prop} {us us' : List Source} {a' : Source}
      (h : List.Forall₂ R us us') (ha : a' ∈ us') : ∃ a ∈ us, R a a' := by
    induction h with
    | nil => cases ha
    | cons hr _ ih =>
      rcases List.mem_cons.1 ha with rfl | ha
      · exact ⟨_, List.mem_cons_self, hr⟩
      · obtain ⟨a, ha, hr⟩ := ih ha
        exact ⟨a, List.mem_cons_of_mem _ ha, hr⟩

theorem Ledger.congr {s₁' : SourceStack} (h : k.Ledger s s') (hid : s₁.nextId = s.nextId)
    (hid' : s₁'.nextId = s'.nextId) (hrefs : s₁.refs = s.refs) (hrefs' : s₁'.refs = s'.refs) :
    k.Ledger s₁ s₁' := by
  obtain ⟨hnext, hfresh, hfresh', hmet, hle⟩ := h
  constructor
  · rwa [hid, hid']
  · rwa [hid]
  · rwa [hid']
  · rwa [hrefs]
  · rwa [hrefs, hrefs']

theorem Ledger.entered (h : k.Ledger s s') {name : String} {text text' : EntityText} :
    k.Ledger (s.entered w t name text) (s'.entered w t' name text') := by
  obtain ⟨hnext, hfresh, hfresh', hmet, hle⟩ := h
  constructor
  · intro i
    have := hnext (1 + i)
    simp only [SourceStack.entered]
    rwa [Nat.add_assoc, Nat.add_assoc]
  · simp only [SourceStack.entered]
    omega
  · simp only [SourceStack.entered]
    omega
  · intro n hn
    have := hmet n hn
    rw [SourceStack.refs_entered]
    omega
  · intro n
    have := hle n
    rw [SourceStack.refs_entered, SourceStack.refs_entered]
    omega

/-- A reference that the first run enters, the second enters as well. -/
theorem Pairs.entered (h : k.Pairs s s') (ho : k.Opens w t t') {name : String} {text : EntityText}
    (hopen : t.openReference w name s.base = .ok text) (hnot : ¬s.isOpen name) :
    k.Barred (s.entered w t name text) ∨
      ∃ s₁', s'.enter w t' name = .ok () s₁' ∧ k.Pairs (s.entered w t name text) s₁' := by
  have hbase := h.base
  by_cases hbarred : name ∈ k.barred
  · left
    obtain ⟨_, _, _, _, habove, -⟩ := h
    have hmet := habove.ledger.met name hbarred
    refine ⟨name, hbarred, ?_⟩
    rw [SourceStack.refs_entered, if_pos rfl]
    omega
  · right
    obtain ⟨text', hopen', hcontent, hbases⟩ := ho _ _ _ _ hbarred hbase hopen
    have hnot' : ¬s'.isOpen name := fun ho' => (h.isOpen ho').elim hnot hbarred
    obtain ⟨us, us', c, c', habove, hwithin⟩ := h
    refine ⟨_, SourceStack.enter_ok hopen' hnot', ?_⟩
    refine ⟨s.expanding name text :: us, s'.expanding name text' :: us', c, c',
      ⟨?_, ?_, .cons ⟨?_, rfl, hbases, ?_⟩ habove.like, habove.ledger.entered⟩, hwithin⟩
    · simp only [SourceStack.entered, habove.sources, List.cons_append]
    · simp only [SourceStack.entered, habove.sources', List.cons_append]
    · exact habove.ledger.nextId 0
    · exact ⟨trivial, rfl, by simp [Cursor.rest, SourceStack.expanding, hcontent], by
        simp [Likeness.renamed, SourceStack.expanding, hcontent]⟩

/-- What a step of the first run means for the second. -/
inductive Step (k : Passage) (w : World) (t' : EntityTable) (s' s₁ : SourceStack) :
    Option Lexeme → Prop
  | silent {s₁'} : s'.step w t' = .ok none s₁' → k.Pairs s₁ s₁' → Step k w t' s' s₁ none
  | token {l l' s₁'} : s'.step w t' = .ok (some l') s₁' → k.LikeLexeme l l' → k.Pairs s₁ s₁' →
      Step k w t' s' s₁ (some l)
  /-- A token that may go on in the second run. -/
  | drained {l} : l.token.isClosed = false → l.token.Lexical → s₁.Drained →
      Step k w t' s' s₁ (some l)
  | behind : s₁.sources = [] → k.Behind s₁ s' → Step k w t' s' s₁ none
  | barred {o} : k.Barred s₁ → Step k w t' s' s₁ o

/-- A step in a source above the text. -/
theorem Above.step {u u' : Source} {us us' : List Source} {c c' : Cursor} {o : Option Lexeme}
    (h : k.Above s s' (u :: us) (u' :: us') c c') (hwithin : k.Within c c') (ho : k.Opens w t t')
    (hs : s.step w t = .ok o s₁) : k.Step w t' s' s₁ o := by
  obtain ⟨hsources, hsources', hlike, hledger⟩ := h
  rw [List.cons_append] at hsources hsources'
  cases hlike with
  | cons hu hlike =>
    obtain ⟨d, hd⟩ := SourceStack.step_cases hsources hs
    rcases hd with ⟨hscan, rfl, rfl⟩ | ⟨name, l, text, hscan, rfl, hopen, hnot, rfl⟩ |
      ⟨token, l, hscan, rfl, rfl⟩
    · obtain ⟨r', d', hscan', hr, hd⟩ := Cursor.AlikeResult.of_ok (hscan ▸ Cursor.agree_scan hu.cursor)
      cases hr
      refine .silent (SourceStack.step_exhausted hsources' hscan') ?_
      exact ⟨us, us', c, c', ⟨rfl, rfl, hlike,
        hledger.congr rfl rfl SourceStack.refs_closed SourceStack.refs_closed⟩, hwithin⟩
    · obtain ⟨r', d', hscan', hr, hd⟩ := Cursor.AlikeResult.of_ok (hscan ▸ Cursor.agree_scan hu.cursor)
      cases hr
      have hpairs : k.Pairs (s.readTo u (us ++ [{ k.outer with cursor := c }]) d)
          (s'.readTo u' (us' ++ { k.inner with cursor := c' } :: k.below) d') :=
        ⟨_ :: us, _ :: us', c, c', ⟨rfl, rfl, .cons ⟨hu.id, hu.entity, hu.base, hd⟩ hlike,
          hledger.congr rfl rfl rfl rfl⟩, hwithin⟩
      rcases hpairs.entered ho hopen hnot with hbarred | ⟨s₁', henter, hp⟩
      · exact .barred hbarred
      · refine .silent ?_ hp
        rw [SourceStack.step_reference hsources' hscan', henter]
    · obtain ⟨r', d', hscan', hr, hd⟩ := Cursor.AlikeResult.of_ok (hscan ▸ Cursor.agree_scan hu.cursor)
      cases hr
      refine .token (SourceStack.step_token hsources' hscan')
        ⟨rfl, hu.id, Cursor.lexical_of_scan hscan⟩ ?_
      exact ⟨_ :: us, _ :: us', c, c', ⟨rfl, rfl, .cons ⟨hu.id, hu.entity, hu.base, hd⟩ hlike,
        hledger.congr rfl rfl SourceStack.refs_given SourceStack.refs_given⟩, hwithin⟩

section Within

variable {c c' d : Cursor}

theorem blank_append {cs ds : List Char} (hc : Blank cs) (hd : Blank ds) : Blank (cs ++ ds) :=
  fun a ha => (List.mem_append.1 ha).elim (hc a) (hd a)

theorem Within.lex_eq (h : k.Within c c') {r : Scanned} (hs : c.scan = .ok r d) :
    ∃ l front' text rest, Blank front' ∧ c'.Shows (front' ++ text ++ k.tail') ∧
      ((lex text).before k.tail).outcome l = some (r, rest) ∧ d.Shows rest := by
  obtain ⟨front, front', text, hfront, hfront', hshows, hshows'⟩ := h
  obtain ⟨l, rest, ho, hd⟩ := hshows.lex_eq hs
  rw [List.append_assoc, lex_blank_append hfront, lex_append_blank text k.blank] at ho
  exact ⟨l, front', text, rest, hfront', hshows', ho, hd⟩

theorem scan_of_lex {cs rest : List Char} {r : Location → Scanned} (hc : c'.Shows cs)
    (ho : ∀ l, (lex cs).outcome l = some (r l, rest)) :
    ∃ l' d', c'.scan = .ok (r l') d' ∧ d'.Shows rest := by
  obtain ⟨l', hl'⟩ := Cursor.scan_lex hc
  rw [ho] at hl'
  obtain ⟨d', hd', hshows⟩ := hl'
  exact ⟨l', d', hd', hshows⟩

theorem Within.exhausted (h : k.Within c c') (hs : c.scan = .ok .exhausted d) :
    ∃ front, Blank front ∧ c'.Shows (front ++ k.tail') := by
  obtain ⟨l, front', text, rest, hfront', hshows', ho, -⟩ := h.lex_eq hs
  have hblank : Blank text := by
    cases hx : lex text <;> rw [hx] at ho <;> cases ho
    exact lex_eq_exhausted.1 hx
  exact ⟨front' ++ text, blank_append hfront' hblank, hshows'⟩

theorem Within.reference (h : k.Within c c') {name : String} {l : Location}
    (hs : c.scan = .ok (.reference name l) d) :
    ∃ l' d', c'.scan = .ok (.reference name l') d' ∧ k.Within d d' := by
  obtain ⟨l, front', text, rest, hfront', hshows', ho, hd⟩ := h.lex_eq hs
  cases hx : lex text <;> rw [hx] at ho <;> cases ho
  rename_i rest
  have hlex : lex (front' ++ text ++ k.tail') = .reference name (rest ++ k.tail') := by
    rw [List.append_assoc, lex_blank_append hfront', lex_append_reference _ hx]
  obtain ⟨l', d', hscan', hd'⟩ := scan_of_lex (r := Scanned.reference name) hshows'
    fun l => by rw [hlex]; rfl
  exact ⟨l', d', hscan', [], [], rest, blank_nil, blank_nil, hd, hd'⟩

theorem Within.token (h : k.Within c c') {token : Token} {l : Location}
    (hs : c.scan = .ok (.token token l) d) :
    (token.isClosed = false ∧ ∃ cs, d.Shows cs ∧ Blank cs) ∨
      ∃ l' d', c'.scan = .ok (.token token l') d' ∧ k.Within d d' := by
  obtain ⟨l, front', text, rest, hfront', hshows', ho, hd⟩ := h.lex_eq hs
  cases hx : lex text <;> rw [hx] at ho <;> cases ho
  rename_i rest
  by_cases hsettled : rest ≠ [] ∨ token.isClosed
  · right
    have hlex : lex (front' ++ text ++ k.tail') = .token token (rest ++ k.tail') := by
      rw [List.append_assoc, lex_blank_append hfront', lex_append_token _ hx hsettled]
    obtain ⟨l', d', hscan', hd'⟩ := scan_of_lex (r := Scanned.token token) hshows'
      fun l => by rw [hlex]; rfl
    exact ⟨l', d', hscan', [], [], rest, blank_nil, blank_nil, hd, hd'⟩
  · left
    simp only [ne_eq, not_or, not_not, Bool.not_eq_true] at hsettled
    obtain ⟨rfl, hclosed⟩ := hsettled
    exact ⟨hclosed, _, hd, k.blank⟩

end Within

/-- A step in the text itself. -/
theorem Above.step_within {c c' : Cursor} {o : Option Lexeme} (h : k.Above s s' [] [] c c')
    (hwithin : k.Within c c') (ho : k.Opens w t t') (hs : s.step w t = .ok o s₁) :
    k.Step w t' s' s₁ o := by
  obtain ⟨hsources, hsources', -, hledger⟩ := h
  rw [List.nil_append] at hsources hsources'
  obtain ⟨d, hd⟩ := SourceStack.step_cases hsources hs
  rcases hd with ⟨hscan, rfl, rfl⟩ | ⟨name, l, text, hscan, rfl, hopen, hnot, rfl⟩ |
    ⟨token, l, hscan, rfl, rfl⟩
  · obtain ⟨front, hfront, hshows⟩ := hwithin.exhausted hscan
    exact .behind rfl ⟨⟨c', front, hsources', hfront, hshows⟩,
      hledger.congr rfl rfl SourceStack.refs_closed rfl⟩
  · obtain ⟨l', d', hscan', hd⟩ := hwithin.reference hscan
    have hpairs : k.Pairs (s.readTo { k.outer with cursor := c } [] d)
        (s'.readTo { k.inner with cursor := c' } k.below d') :=
      ⟨[], [], d, d', ⟨rfl, rfl, .nil, hledger.congr rfl rfl rfl rfl⟩, hd⟩
    rcases hpairs.entered ho hopen hnot with hbarred | ⟨s₁', henter, hp⟩
    · exact .barred hbarred
    · refine .silent ?_ hp
      rw [SourceStack.step_reference hsources' hscan', henter]
  · rcases hwithin.token hscan with ⟨hclosed, cs, hshows, hblank⟩ | ⟨l', d', hscan', hd⟩
    · refine .drained hclosed (Cursor.lexical_of_scan hscan) fun source hsource => ?_
      obtain rfl : source = { k.outer with cursor := d } := List.mem_singleton.1 hsource
      exact ⟨cs, hshows, hblank⟩
    · refine .token (SourceStack.step_token hsources' hscan')
        ⟨rfl, k.ids_outer, Cursor.lexical_of_scan hscan⟩ ?_
      exact ⟨[], [], d, d', ⟨rfl, rfl, .nil,
        hledger.congr rfl rfl SourceStack.refs_given SourceStack.refs_given⟩, hd⟩

theorem Pairs.step {o : Option Lexeme} (h : k.Pairs s s') (ho : k.Opens w t t')
    (hs : s.step w t = .ok o s₁) : k.Step w t' s' s₁ o := by
  obtain ⟨us, us', c, c', habove, hwithin⟩ := h
  have hlike := habove.like
  cases hlike with
  | nil => exact habove.step_within hwithin ho hs
  | cons => exact habove.step hwithin ho hs

/-- What the next lexeme of the first run means for the second. -/
inductive Next (k : Passage) (w : World) (t' : EntityTable) (s' s₁ : SourceStack) (l : Lexeme) :
    Prop
  | token {l' s₁'} : s'.next w t' = .ok l' s₁' → k.LikeLexeme l l' → k.Pairs s₁ s₁' →
      Next k w t' s' s₁ l
  | drained : l.token.isClosed = false → l.token.Lexical → s₁.Drained → Next k w t' s' s₁ l
  | behind {s₁'} : l.token = .endOfInput → s₁.sources = [] → s'.next w t' = s₁'.next w t' →
      k.Behind s₁ s₁' → Next k w t' s' s₁ l
  | barred : k.Barred s₁ → Next k w t' s' s₁ l

theorem Barred.mono (h : k.Barred s) (hs : s.journal <:+ s₁.journal) : k.Barred s₁ := by
  obtain ⟨name, hname, hlt⟩ := h
  exact ⟨name, hname, hlt.trans_le (hs.sublist.count_le _)⟩

theorem Pairs.next {l : Lexeme} (h : k.Pairs s s') (ho : k.Opens w t t')
    (hn : s.next w t = .ok l s₁) : k.Next w t' s' s₁ l := by
  fun_induction SourceStack.next w t s generalizing s' with
  | case1 => cases hn
  | case2 s lexeme s₁ hstep =>
    cases hn
    cases h.step ho hstep with
    | token hstep' hlike hp =>
      refine .token ?_ hlike hp
      rw [SourceStack.next_eq, hstep']
    | drained hclosed hlex hd => exact .drained hclosed hlex hd
    | barred hb => exact .barred hb
  | case3 s s₂ hstep ih =>
    cases h.step ho hstep with
    | @silent s₁' hstep' hp =>
      have hnext : s'.next w t' = s₁'.next w t' := by rw [SourceStack.next_eq, hstep']
      cases ih hp hn with
      | token hn' hlike hp => exact .token (hnext.trans hn') hlike hp
      | drained hclosed hlex hd => exact .drained hclosed hlex hd
      | behind heof hnil hn' hb => exact .behind heof hnil (hnext.trans hn') hb
      | barred hb => exact .barred hb
    | behind hnil hb =>
      rw [SourceStack.next_eq, SourceStack.step_nil hnil] at hn
      cases hn
      exact .behind rfl hnil rfl hb
    | barred hb => exact .barred (hb.mono (SourceStack.journal_next hn))

/-- An ignored section ends in both texts at the same place. -/
theorem Within.skipSections {c c' d : Cursor} (h : k.Within c c')
    (hskip : c.skipSections 0 = .ok true d) :
    ∃ d', c'.skipSections 0 = .ok true d' ∧ k.Within d d' := by
  obtain ⟨front, front', text, hfront, hfront', hshows, hshows'⟩ := h
  have hleft := Cursor.gives_skipSections hshows 0
  rw [List.append_assoc, leaveSections_blank_append hfront,
    leaveSections_append_blank text k.blank] at hleft
  cases hleave : leaveSections 0 text with
  | none =>
    rw [hleave] at hleft
    obtain ⟨e, he, -⟩ := hleft
    rw [hskip] at he
    cases he
  | some rest =>
    rw [hleave] at hleft
    obtain ⟨e, he, hrest⟩ := hleft
    rw [hskip] at he
    cases he
    have hright := Cursor.gives_skipSections hshows' 0
    rw [List.append_assoc, leaveSections_blank_append hfront', leaveSections_append _ hleave]
      at hright
    obtain ⟨d', hskip', hrest'⟩ := hright
    exact ⟨d', hskip', [], [], rest, blank_nil, blank_nil, hrest, hrest'⟩

/-- An ignored section ends in both runs at the same place. -/
theorem Pairs.skipIgnored (h : k.Pairs s s') (hs : s.skipIgnored = .ok () s₁) :
    ∃ s₁', s'.skipIgnored = .ok () s₁' ∧ k.Pairs s₁ s₁' := by
  obtain ⟨us, us', c, c', ⟨hsources, hsources', hlike, hledger⟩, hwithin⟩ := h
  obtain ⟨source, below, d, hcons, hskip, rfl⟩ := SourceStack.skipIgnored_eq_ok_iff.1 hs
  rw [hcons] at hsources
  cases hlike with
  | nil =>
    obtain ⟨rfl, rfl⟩ := List.cons_eq_cons.1 hsources
    obtain ⟨d', hskip', hwithin'⟩ := hwithin.skipSections hskip
    exact ⟨_, SourceStack.skipIgnored_ok hsources' hskip', [], [], d, d',
      ⟨rfl, rfl, .nil, hledger.congr rfl rfl rfl rfl⟩, hwithin'⟩
  | @cons u u' us us' hu hlike =>
    obtain ⟨rfl, rfl⟩ := List.cons_eq_cons.1 hsources
    obtain ⟨_, d', hskip', rfl, hd⟩ :=
      Cursor.AlikeResult.of_ok (hskip ▸ Cursor.agree_skipSections 0 hu.cursor)
    exact ⟨_, SourceStack.skipIgnored_ok hsources' hskip', _ :: us, _ :: us', c, c',
      ⟨rfl, rfl, .cons ⟨hu.id, hu.entity, hu.base, hd⟩ hlike, hledger.congr rfl rfl rfl rfl⟩,
      hwithin⟩

end Passage

namespace SourceStack

section Journal

variable {w : World} {t : EntityTable} {s s₁ : SourceStack}

theorem journal_step_lt {o : Option Lexeme} (hne : s.sources ≠ []) (hs : s.step w t = .ok o s₁) :
    s.journal.length < s₁.journal.length := by
  obtain ⟨source, below, hsources⟩ := List.exists_cons_of_ne_nil hne
  obtain ⟨cursor, hc⟩ := step_cases hsources hs
  rcases hc with ⟨-, -, rfl⟩ | ⟨name, location, text, -, -, -, -, rfl⟩ | ⟨token, location, -, -, rfl⟩
  · exact Nat.lt_succ_self _
  · simp only [entered, readTo, List.length_cons, List.length_append]
    omega
  · exact Nat.lt_succ_self _

/-- A scan leaves a mark in the journal unless the stack is empty. -/
theorem journal_next_lt {l : Lexeme} (hne : s.sources ≠ []) (hn : s.next w t = .ok l s₁) :
    s.journal.length < s₁.journal.length := by
  rw [next_eq] at hn
  split at hn
  · cases hn
  · rename_i hstep
    cases hn
    exact journal_step_lt hne hstep
  · rename_i s₂ hstep
    exact (journal_step_lt hne hstep).trans_le (journal_next hn).length_le

end Journal

/-- Scanning some lexemes one after the other, each from a stack that is not empty. -/
inductive Pulls (w : World) (t : EntityTable) : SourceStack → List Lexeme → SourceStack → Prop
  | nil (s : SourceStack) : Pulls w t s [] s
  | cons {s s₁ s₂ : SourceStack} {l : Lexeme} {ls : List Lexeme} : s.sources ≠ [] →
      s.next w t = .ok l s₁ → Pulls w t s₁ ls s₂ → Pulls w t s (l :: ls) s₂

namespace Pulls

variable {w : World} {t : EntityTable} {s s₁ s₂ : SourceStack} {ls ms : List Lexeme}

theorem append (h : Pulls w t s ls s₁) (h' : Pulls w t s₁ ms s₂) :
    Pulls w t s (ls ++ ms) s₂ := by
  induction h with
  | nil => exact h'
  | cons hne hn _ ih => exact .cons hne hn (ih h')

theorem of_append (h : Pulls w t s (ls ++ ms) s₂) :
    ∃ s₁, Pulls w t s ls s₁ ∧ Pulls w t s₁ ms s₂ := by
  induction ls generalizing s with
  | nil => exact ⟨s, .nil s, h⟩
  | cons l ls ih =>
    cases h with
    | cons hne hn h =>
      obtain ⟨s₁, hls, hms⟩ := ih h
      exact ⟨s₁, .cons hne hn hls, hms⟩

theorem journal (h : Pulls w t s ls s₁) : s.journal <:+ s₁.journal := by
  induction h with
  | nil => exact List.suffix_rfl
  | cons _ hn _ ih => exact (journal_next hn).trans ih

theorem sources (h : Pulls w t s ls s₁) (hne : s₁.sources ≠ []) : s.sources ≠ [] := by
  cases h with
  | nil => exact hne
  | cons hs => exact hs

/-- What has been scanned can be told from the stacks. -/
theorem unique (h : Pulls w t s ls s₁) (h' : Pulls w t s ms s₁) : ls = ms := by
  induction h generalizing ms with
  | nil s =>
    cases h' with
    | nil => rfl
    | cons hne hn hp =>
      have hlt := journal_next_lt hne hn
      have hle := hp.journal.length_le
      omega
  | cons hne hn hp ih =>
    cases h' with
    | nil =>
      have hlt := journal_next_lt hne hn
      have hle := hp.journal.length_le
      omega
    | cons _ hn' hp' =>
      rw [hn] at hn'
      cases hn'
      rw [ih hp']

theorem drained (h : Pulls w t s ls s₁) (hs : s.Drained) :
    ∀ l ∈ ls, l.token = .endOfInput := by
  induction h with
  | nil => nofun
  | cons _ hn _ ih =>
    obtain ⟨hd, he⟩ := hs.next hn
    intro l hl
    rcases List.mem_cons.1 hl with rfl | hl
    · exact he
    · exact ih hd l hl

end Pulls

end SourceStack

namespace Passage

variable {k : Passage} {w : World} {t t' : EntityTable} {s s' s₁ : SourceStack}

/-- Lexemes of the first run are lexemes of the second run, if the last of them cannot go on. -/
theorem Pairs.pulls {ls : List Lexeme} (h : k.Pairs s s') (ho : k.Opens w t t')
    (hp : s.Pulls w t ls s₁) (hlast : ∀ l ∈ ls.getLast?, l.token.isClosed) (hb : ¬k.Barred s₁) :
    ∃ ls' s₁', s'.Pulls w t' ls' s₁' ∧ List.Forall₂ k.LikeLexeme ls ls' ∧ k.Pairs s₁ s₁' := by
  induction hp generalizing s' with
  | nil s => exact ⟨[], s', .nil s', .nil, h⟩
  | @cons s s₂ s₁ l ls hne hn hp ih =>
    have hlast' : ∀ l ∈ ls.getLast?, l.token.isClosed := by
      intro m hm
      refine hlast m ?_
      rw [List.getLast?_cons, Option.mem_def.1 hm]
      rfl
    -- no later lexeme can be closed once the text is drained
    have hno (hopen : l.token.isClosed = false) (hd : s₂.Drained) : False := by
      cases hls : ls.getLast? with
      | none =>
        have := hlast l (by rw [List.getLast?_cons, hls]; rfl)
        rw [hopen] at this
        cases this
      | some m =>
        have hclosed := hlast' m hls
        rw [hp.drained hd m (List.mem_of_getLast? hls)] at hclosed
        cases hclosed
    cases h.next ho hn with
    | token hn' hlike hpairs =>
      obtain ⟨ls', s₁', hp', hls, hpairs⟩ := ih hpairs hlast' hb
      exact ⟨_ :: ls', s₁', .cons h.sources' hn' hp', .cons hlike hls, hpairs⟩
    | drained hclosed _ hd => exact absurd (hno hclosed hd) id
    | behind heof hnil _ _ =>
      have hd : s₂.Drained := by
        intro source hsource
        rw [hnil] at hsource
        cases hsource
      exact absurd (hno (by rw [heof]; rfl) hd) id
    | barred hbarred => exact absurd (hbarred.mono hp.journal) hb

/-- At the end of the text the second run goes on with what stands behind. -/
theorem Pairs.ends {l : Lexeme} (h : k.Pairs s s') (ho : k.Opens w t t')
    (hn : s.next w t = .ok l s₁) (heof : l.token = .endOfInput) (hb : ¬k.Barred s₁) :
    ∃ s₁', s'.next w t' = s₁'.next w t' ∧ k.Behind s₁ s₁' := by
  cases h.next ho hn with
  | token _ hlike _ =>
    have := hlike.lexical
    rw [heof] at this
    exact absurd this id
  | drained _ hlex _ =>
    rw [heof] at hlex
    exact absurd hlex id
  | behind _ _ hn' hbehind => exact ⟨_, hn', hbehind⟩
  | barred hbarred => exact absurd hbarred hb

end Passage

namespace SourceStack

variable {w : World} {t : EntityTable} {s : SourceStack} {source : Source} {below : List Source}
  {cs : List Char}

/-- A source that is blank is closed. -/
theorem next_of_blank (hs : s.sources = source :: below) (hshows : source.cursor.Shows cs)
    (hblank : Blank cs) :
    ∃ s' : SourceStack, s.next w t = s'.next w t ∧ s'.sources = below ∧ s'.nextId = s.nextId ∧
      s'.refs = s.refs := by
  obtain ⟨l, hl⟩ := Cursor.scan_lex hshows
  rw [lex_eq_exhausted.2 hblank] at hl
  obtain ⟨cursor, hc, -⟩ := hl
  refine ⟨(s.readTo source below cursor).pop.2, ?_, rfl, rfl, refs_closed⟩
  rw [next_eq, step_exhausted hs hc]

theorem next_of_nil (hs : s.sources = []) : s.next w t = .ok s.endLexeme s := by
  rw [next_eq, step_nil hs]

end SourceStack

end Doctype
