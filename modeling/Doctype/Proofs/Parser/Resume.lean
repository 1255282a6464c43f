import Doctype.Proofs.Parser.Beside

/-! Reading a text at the beginning of a longer one. -/
namespace Doctype

/-- A text in the outermost source of both parses, from which on the sources of the first parse are
numbered from `m`, and those of the second from `n`. -/
def Passage.resume (source : Source) (h : source.entity = none) (m n : Nat) (hm : source.id < m)
    (hn : source.id < n) (tail : List Char) (lead : String → Nat) : Passage where
  ids a b := a = source.id ∧ b = source.id ∨ ∃ i, a = m + i ∧ b = n + i
  bases a b := a = b
  outer := source
  inner := source
  below := []
  tail := []
  tail' := tail
  barred := none
  met := 0
  lead := lead
  blank := blank_nil
  ids_iff := by
    rintro a a' b b' (⟨rfl, rfl⟩ | ⟨i, rfl, rfl⟩) (⟨rfl, rfl⟩ | ⟨j, rfl, rfl⟩) <;> omega
  ids_outer := .inl ⟨rfl, rfl⟩
  bases_outer := rfl
  entities := by
    intro a ha name hname
    rw [List.mem_singleton.1 ha, h] at hname
    cases hname

namespace Parser

/-- A parse that stands between two items in the outermost source, in front of some text. -/
structure Stands (source : Source) (cs : List Char) (p : Parser) : Prop where
  entity : source.entity = none
  sources : ∃ c front, p.stack.sources = [{ source with cursor := c }] ∧ Blank front ∧
    c.Shows (front ++ cs)
  fresh : source.id < p.stack.nextId
  peeked : p.peeked = none
  sections : p.sections = []

variable {w : World} {p p' q r : Parser} {source : Source} {cs tail : List Char} {keep : Bool}
  {Good : Declared → Prop} {R : Declared → Declared → Prop} {lead : String → Nat}

theorem stands_start (options : Options) (name text : String) :
    (start options name text).Stands (outermost options { name, unread := .done }) text.toList := by
  constructor
  · rfl
  · exact ⟨_, [], rfl, blank_nil, shows_ofText name text⟩
  · exact Nat.one_lt_two
  · rfl
  · rfl
where
  shows_ofText (name text : String) :
      ({ name, unread := .ofText text } : Cursor).Shows ([] ++ text.toList) :=
    Cursor.shows_ofText name text

theorem refs_start (options : Options) (name text n : String) :
    (start options name text).stack.refs n = 0 := by
  unfold SourceStack.refs start
  cases options.base with
  | none => rfl
  | some path =>
    have hne : Event.sought path ≠ .referenced n := nofun
    exact List.count_cons_of_ne hne

/-- The journal of a parse mentions the references that have been met. -/
theorem count_referenced (p : Parser) (n : String) :
    (p.conclusion :: p.stack.journal).count (.referenced n) = p.stack.refs n := by
  have hne : p.conclusion ≠ .referenced n := nofun
  exact List.count_cons_of_ne hne

/-- Sources that are numbered from the same number on correspond to themselves. -/
theorem Stands.beside (h : p.Stands source cs) (h' : p'.Stands source (cs ++ tail))
    (hkeep : p.keepInstructions = keep) (hkeep' : p'.keepInstructions = keep)
    (hR : R p.declared p'.declared) (hrefs : ∀ n, p.stack.refs n ≤ p'.stack.refs n + lead n) :
    (Passage.resume source h.entity _ _ h.fresh h'.fresh tail lead).Beside keep R p p' := by
  obtain ⟨c, front, hsources, hfront, hshows⟩ := h.sources
  obtain ⟨c', front', hsources', hfront', hshows'⟩ := h'.sources
  have hledger : (Passage.resume source h.entity _ _ h.fresh h'.fresh tail lead).Ledger
      p.stack p'.stack := by
    constructor
    · exact fun i => .inr ⟨i, rfl, rfl⟩
    · exact h.fresh
    · exact h'.fresh
    · exact nofun
    · exact hrefs
  have hwithin : (Passage.resume source h.entity _ _ h.fresh h'.fresh tail lead).Within c c' := by
    refine ⟨front, front', cs, hfront, hfront', ?_, ?_⟩
    · change c.Shows (front ++ cs ++ [])
      rwa [List.append_nil]
    · change c'.Shows (front' ++ cs ++ tail)
      rwa [List.append_assoc]
  refine ⟨⟨[], [], c, c', ⟨hsources, hsources', .nil, hledger⟩, hwithin⟩, h.peeked, h'.peeked,
    hkeep, hkeep', hR, ?_⟩
  rw [h.sections, h'.sections]
  exact .nil

/-- A parse at the end of a text, and a parse at the same place of a longer text. -/
structure Meets (source : Source) (tail : List Char) (lead : String → Nat) (keep : Bool)
    (R : Declared → Declared → Prop) (m n : Nat) (p p' : Parser) : Prop where
  stands' : p'.Stands source tail
  keeps' : p'.keepInstructions = keep
  declared : R p.declared p'.declared
  nextId : ∃ i, p.stack.nextId = m + i ∧ p'.stack.nextId = n + i
  refs : ∀ name, p.stack.refs name ≤ p'.stack.refs name + lead name

/-- A parse that completes a text passes the same text at the beginning of a longer one, inside of
whatever sections. -/
theorem Stands.passes_inside (R : Declared → Declared → Prop) (lead : String → Nat)
    (h : p.Stands source cs) (h' : p'.Stands source (cs ++ tail))
    (hkeep : p.keepInstructions = keep) (hkeep' : p'.keepInstructions = keep)
    (hR : R p.declared p'.declared) (hrefs : ∀ n, p.stack.refs n ≤ p'.stack.refs n + lead n)
    (hk : ∀ k : Passage, (∀ a b, k.bases a b ↔ a = b) → k.Coupling w keep Good R)
    (hr : Reaches w p q) (he : Ends w q r)
    (hgood : ∀ u, Reaches w p u → Reaches w u q → Good u.declared) :
    ∃ r', Meets source tail lead keep R p.stack.nextId p'.stack.nextId r r' ∧
      ∀ outer e, Completes w (p'.inside outer) e ↔ Completes w (r'.inside outer) e := by
  have hcoupling := hk (Passage.resume source h.entity _ _ h.fresh h'.fresh tail lead) fun _ _ =>
    Iff.rfl
  obtain ⟨r', ⟨⟨hsources, hledger⟩, hpeek, hkeep, hdeclared, hsections⟩, hiff⟩ :=
    (h.beside h' hkeep hkeep' hR hrefs).passed_inside hcoupling hr he hgood nofun
  refine ⟨r', ⟨⟨h.entity, hsources, hledger.fresh', hpeek, hsections⟩, hkeep, hdeclared, ?_,
    hledger.refs⟩, hiff⟩
  have hfresh : source.id < r.stack.nextId := hledger.fresh
  rcases hledger.nextId 0 with ⟨hid, -⟩ | hid
  · omega
  · exact hid

/-- A parse that completes a text passes the same text at the beginning of a longer one. -/
theorem Stands.passes (R : Declared → Declared → Prop) (lead : String → Nat)
    (h : p.Stands source cs) (h' : p'.Stands source (cs ++ tail))
    (hkeep : p.keepInstructions = keep) (hkeep' : p'.keepInstructions = keep)
    (hR : R p.declared p'.declared) (hrefs : ∀ n, p.stack.refs n ≤ p'.stack.refs n + lead n)
    (hk : ∀ k : Passage, (∀ a b, k.bases a b ↔ a = b) → k.Coupling w keep Good R)
    (hr : Reaches w p q) (he : Ends w q r)
    (hgood : ∀ u, Reaches w p u → Reaches w u q → Good u.declared) :
    ∃ r', Meets source tail lead keep R p.stack.nextId p'.stack.nextId r r' ∧
      ∀ e, Completes w p' e ↔ Completes w r' e := by
  obtain ⟨r', hmeets, hiff⟩ := h.passes_inside R lead h' hkeep hkeep' hR hrefs hk hr he hgood
  refine ⟨r', hmeets, fun e => ?_⟩
  have hnone := hiff [] e
  rwa [inside_nil, inside_nil] at hnone

theorem coupling_eq (k : Passage) (hk : ∀ a b, k.bases a b ↔ a = b) :
    k.Coupling w keep (fun _ => True) Eq := by
  constructor
  · rintro a b rfl name base base' text - hbase hopen
    rw [hk] at hbase
    subst hbase
    exact ⟨text, hopen, rfl, (hk _ _).2 rfl⟩
  · rintro a b e i rfl hi -
    exact ⟨e, hi, rfl⟩

/-- A text that parses is passed at the beginning of a longer one. -/
theorem start_append {options : Options} {name text : String} (tail : String)
    (hr : Reaches w (start options name text) q) (he : Ends w q r) :
    ∃ r', Meets (outermost options { name, unread := .done }) tail.toList (fun _ => 0)
        options.keepInstructions Eq 2 2 r r' ∧
      ∀ e, Completes w (start options name (text ++ tail)) e ↔ Completes w r' e := by
  have hboth := stands_start options name (text ++ tail)
  rw [String.toList_append] at hboth
  exact (stands_start options name text).passes Eq (fun _ => 0) hboth rfl rfl rfl
    (fun _ => le_refl _) coupling_eq hr he fun _ _ _ => trivial

/-- In front of nothing a parse comes to its end. -/
theorem Stands.completes (h : p.Stands source []) :
    ∃ e, Completes w p e ∧ e.declared = p.declared ∧ e.stack.refs = p.stack.refs := by
  obtain ⟨c, front, hsources, hfront, hshows⟩ := h.sources
  rw [List.append_nil] at hshows
  obtain ⟨s, hn, hs, -, hrefs⟩ :=
    SourceStack.next_of_blank (w := w) (t := p.entities) hsources hshows hfront
  rw [SourceStack.next_of_nil hs] at hn
  refine ⟨{ p with stack := s }, ⟨p, .refl, ?_⟩, rfl, hrefs⟩
  exact (Passage.ends_iff h.peeked).2 ⟨h.sections, _, s, hn, rfl, rfl⟩

theorem Completes.unique {e e' : Parser} (h : Completes w p e) (h' : Completes w p e')
    (hp : p.peeked = none) : e = e' := by
  obtain ⟨q, hq, he⟩ := h
  obtain ⟨q', hq', he'⟩ := h'
  rcases Relation.ReflTransGen.cases_head (hq.of_ends hq' he' hp) with rfl | ⟨u, hu, -⟩
  · obtain ⟨l, hl, -⟩ := he
    obtain ⟨l', hl', -⟩ := he'
    rw [hl] at hl'
    injection hl' with _ he
  · exact absurd hu he.not_advances

theorem parses_iff_completes {options : Options} {name text : String} {m : DocumentType} :
    Parses w options name text m ↔
      options.Usable w ∧ ∃ e, Completes w (start options name text) e ∧ m = e.result := by
  rw [parses_iff]
  constructor
  · rintro ⟨hu, p, q, hr, he, hm⟩
    exact ⟨hu, q, ⟨p, hr, he⟩, hm⟩
  · rintro ⟨hu, q, ⟨p, hr, he⟩, hm⟩
    exact ⟨hu, p, q, hr, he, hm⟩

/-- A text parses to one document type at most, with whatever fuel. -/
theorem Parses.unique {options : Options} {name text : String} {m m' : DocumentType}
    (h : Parses w options name text m) (h' : Parses w options name text m') : m = m' := by
  obtain ⟨-, e, he, rfl⟩ := parses_iff_completes.1 h
  obtain ⟨-, e', he', rfl⟩ := parses_iff_completes.1 h'
  rw [he.unique he' rfl]

end Parser

end Doctype
