import Doctype.Proofs.Parser.Runs

/-! A parse inside of sections goes on as it does outside. -/
namespace Doctype.Parser

/-- The same parse inside of some open sections. -/
def inside (outer : List (Nat × Location)) (p : Parser) : Parser :=
  { p with sections := p.sections ++ outer }

variable {w : World} {p q : Parser} {outer : List (Nat × Location)}

@[simp]
theorem inside_nil (p : Parser) : p.inside [] = p := by
  unfold inside
  rw [List.append_nil]

theorem entities_inside (outer : List (Nat × Location)) (p : Parser) :
    (p.inside outer).entities = p.entities :=
  rfl

/-- An action that never fails and does not look at the open sections. -/
theorem ok_inside {m : ParserM Unit} {f : Parser → Parser} (hm : ∀ p, m p = .ok () (f p))
    (hf : f (p.inside outer) = (f p).inside outer) (h : m p = .ok () q) :
    m (p.inside outer) = .ok () (q.inside outer) := by
  rw [hm] at h ⊢
  cases h
  rw [hf]

theorem declareParameter_inside {name : String} {location : Location} {definition : Definition}
    (h : declareParameter name location definition p = .ok () q) (outer : List (Nat × Location)) :
    declareParameter name location definition (p.inside outer) = .ok () (q.inside outer) := by
  rw [declareParameter_eq] at h ⊢
  rw [entities_inside]
  cases ht : definition.declare p.entities name with
  | error e =>
    rw [ht] at h
    cases h
  | ok t =>
    rw [ht] at h
    cases h
    by_cases hc : p.entities.contains name
    · simp only [inside, hc, if_true]
    · simp only [inside, hc, Bool.false_eq_true, if_false]

theorem declareEntity_inside {name : String} {location : Location} {definition : Definition}
    (h : declareEntity name location definition p = .ok () q) (outer : List (Nat × Location)) :
    declareEntity name location definition (p.inside outer) = .ok () (q.inside outer) := by
  rw [declareEntity_eq] at h ⊢
  rw [entities_inside]
  cases he : definition.resolve p.entities with
  | error e =>
    rw [he] at h
    cases h
  | ok e =>
    rw [he] at h
    cases h
    rw [apply_ite (inside outer)]
    rfl

theorem skipIgnored_inside (h : skipIgnored p = .ok () q) (outer : List (Nat × Location)) :
    skipIgnored (p.inside outer) = .ok () (q.inside outer) := by
  have hstack : (p.inside outer).stack = p.stack := rfl
  unfold skipIgnored at h ⊢
  rw [hstack]
  cases hs : p.stack.skipIgnored with
  | error e k =>
    rw [hs] at h
    cases h
  | ok u k =>
    rw [hs] at h
    cases h
    rfl

/-- A `]]>` closes the innermost section, which is one of the inner ones. -/
theorem closeSection_inside {closer : Lexeme} (h : closeSection closer p = .ok () q)
    (outer : List (Nat × Location)) :
    closeSection closer (p.inside outer) = .ok () (q.inside outer) := by
  rw [closeSection_eq] at h ⊢
  simp only [inside]
  cases hs : p.sections with
  | nil =>
    rw [hs] at h
    cases h
  | cons a inner =>
    obtain ⟨source, location⟩ := a
    rw [hs] at h
    by_cases hsource : source = closer.source
    · simp only [hsource, if_true] at h
      cases h
      simp only [List.cons_append, hsource, if_true]
    · simp only [hsource, if_false] at h
      cases h

/-- An item has the same effect inside of a section, for it closes at most its own sections. -/
theorem apply_inside {i : Item} (h : i.apply p = .ok () q) (outer : List (Nat × Location)) :
    i.apply (p.inside outer) = .ok () (q.inside outer) := by
  cases i with
  | element name content =>
    refine ok_inside (declareElement_eq name content) ?_ h
    rw [apply_ite (inside outer)]
    rfl
  | attlist name defs => exact ok_inside (defineAttributes_eq name defs) rfl h
  | parameter => exact declareParameter_inside h outer
  | entity => exact declareEntity_inside h outer
  | notation_ name ids =>
    refine ok_inside (declareNotation_eq name ids) ?_ h
    rw [apply_ite (inside outer)]
    rfl
  | included opener =>
    cases h
    rfl
  | ignored opener => exact skipIgnored_inside h outer
  | sectionClose closer => exact closeSection_inside h outer
  | comment =>
    cases h
    rfl
  | instruction target data =>
    refine ok_inside (keepInstruction_eq target data) ?_ h
    rw [apply_ite (inside outer)]
    rfl

/-- An item is read inside of a section as it is outside. -/
theorem Reads.advances_inside {l : Lexeme} {ls : List Lexeme} {i : Item} {k : SourceStack}
    (h : Reads w p l ls i k) (hp : p.peeked = none)
    (ha : i.apply (inside outer { p with stack := k }) = .ok () q) :
    Advances w (p.inside outer) q := by
  have hls : List.Forall₂ (Match l l) ls ls :=
    forall₂_match fun m hm => pulls_lexical h.pulls m (List.mem_cons_of_mem _ hm)
  have hpeek : (p.inside outer).peeked = none := hp
  obtain ⟨i', halike, hadvances⟩ := h.advances hpeek h.pulls rfl hls
  exact hadvances q (apply_of_alike halike ha)

theorem Reads.advances_of_apply {l : Lexeme} {ls : List Lexeme} {i : Item} {k : SourceStack}
    (h : Reads w p l ls i k) (hp : p.peeked = none)
    (ha : i.apply { p with stack := k } = .ok () q) : Advances w p q := by
  rw [← inside_nil p]
  apply h.advances_inside hp
  rwa [inside_nil]

theorem Advances.inside (h : Advances w p q) (hp : p.peeked = none)
    (outer : List (Nat × Location)) : Advances w (p.inside outer) (q.inside outer) := by
  obtain ⟨l, ls, i, k, hreads, ha⟩ := h.reads hp
  exact hreads.advances_inside hp (apply_inside ha outer)

theorem Reaches.inside (h : Reaches w p q) (hp : p.peeked = none)
    (outer : List (Nat × Location)) : Reaches w (p.inside outer) (q.inside outer) := by
  induction h with
  | refl => exact .refl
  | tail hr hq ih => exact ih.tail (hq.inside (Reaches.peeked hr hp) outer)

end Doctype.Parser
