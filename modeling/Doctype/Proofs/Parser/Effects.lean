import Doctype.Proofs.Parser.Declarations

/-! The effect of an item: what it declares, and what it does to the sources and the sections. -/
namespace Doctype

/-- The entities and the document type behind an item. -/
def Item.declares (keep : Bool) (t : EntityTable) (d : DocumentType) :
    Item → Option (EntityTable × DocumentType)
  | element name content => some (t, d.addElement name content)
  | attlist name defs => some (t, d.addAttributes name defs)
  | parameter name _ definition => (definition.declare t name).toOption.map (·, d)
  | entity name _ definition =>
    (definition.resolve t).toOption.map fun e => (t, d.addEntity name e)
  | notation_ name ids => some (t, d.addNotation name ids)
  | instruction target data =>
    some (t, if keep && !Parser.isTextDeclaration target then d.addInstruction ⟨target, data⟩ else d)
  | _ => some (t, d)

/-- Some events have been recorded, but no reference. -/
structure SourceStack.Noted (k k₁ : SourceStack) : Prop where
  sources : k₁.sources = k.sources
  nextId : k₁.nextId = k.nextId
  refs : k₁.refs = k.refs
  journal : k.journal <:+ k₁.journal

/-- What an item does to the sources and the sections. -/
def Item.Moves (k : SourceStack) (sections : List (Nat × Location)) (k₁ : SourceStack)
    (sections₁ : List (Nat × Location)) : Item → Prop
  | included opener => k₁ = k ∧ sections₁ = (opener.source, opener.location) :: sections
  | ignored opener =>
    (k.note (.skipping opener.location)).skipIgnored = .ok () k₁ ∧ sections₁ = sections
  | sectionClose closer => k₁ = k ∧ ∃ location, sections = (closer.source, location) :: sections₁
  | _ => k.Noted k₁ ∧ sections₁ = sections

namespace SourceStack

variable {k k₁ k₂ : SourceStack}

theorem Noted.refl (k : SourceStack) : k.Noted k :=
  ⟨rfl, rfl, rfl, List.suffix_rfl⟩

theorem Noted.trans (h : k.Noted k₁) (h' : k₁.Noted k₂) : k.Noted k₂ :=
  ⟨h'.sources.trans h.sources, h'.nextId.trans h.nextId, h'.refs.trans h.refs,
    h.journal.trans h'.journal⟩

theorem noted_note {e : Event} (h : ∀ name, e ≠ .referenced name) : k.Noted (k.note e) :=
  ⟨rfl, rfl, refs_note h, List.suffix_cons _ _⟩

theorem noted_noteAll {es : List Event} (h : ∀ e ∈ es, ∀ name, e ≠ .referenced name) :
    k.Noted (es.foldl note k) := by
  induction es generalizing k with
  | nil => exact .refl k
  | cons e es ih =>
    exact (noted_note (h e List.mem_cons_self)).trans
      (ih fun e' he' => h e' (List.mem_cons_of_mem _ he'))

end SourceStack

namespace Parser

open EStateM (Result)

/-- An effect on the state of a parse between two items. -/
structure Effect (i : Item) (p q : Parser) : Prop where
  declares : i.declares p.keepInstructions p.entities p.model = some (q.entities, q.model)
  moves : i.Moves p.stack p.sections q.stack q.sections
  keep : q.keepInstructions = p.keepInstructions
  peeked : q.peeked = p.peeked

variable {p q : Parser} {name : String}

theorem declareElement_eq (name : String) (content : ContentSpec) (p : Parser) :
    declareElement name content p =
      .ok () (if p.model.elements.has name then { p with stack := p.stack.note (.keptElement name) }
        else { p with model := p.model.addElement name content }) := by
  simp only [declareElement, bind, EStateM.bind, get_eq_ok]
  split <;> rfl

theorem effect_element {content : ContentSpec}
    (h : declareElement name content p = .ok () q) : Effect (.element name content) p q := by
  rw [declareElement_eq] at h
  cases h
  split
  · rename_i hhas
    refine ⟨?_, ⟨SourceStack.noted_note nofun, rfl⟩, rfl, rfl⟩
    simp only [Item.declares, DocumentType.addElement, Bindings.add, hhas, if_true]
  · exact ⟨rfl, ⟨.refl _, rfl⟩, rfl, rfl⟩

theorem declareNotation_eq (name : String) (ids : Notation) (p : Parser) :
    declareNotation name ids p =
      .ok () (if p.model.notations.has name then { p with stack := p.stack.note (.keptNotation name) }
        else { p with model := p.model.addNotation name ids }) := by
  simp only [declareNotation, bind, EStateM.bind, get_eq_ok]
  split <;> rfl

theorem effect_notation {ids : Notation} (h : declareNotation name ids p = .ok () q) :
    Effect (.notation_ name ids) p q := by
  rw [declareNotation_eq] at h
  cases h
  split
  · rename_i hhas
    refine ⟨?_, ⟨SourceStack.noted_note nofun, rfl⟩, rfl, rfl⟩
    simp only [Item.declares, DocumentType.addNotation, Bindings.add, hhas, if_true]
  · exact ⟨rfl, ⟨.refl _, rfl⟩, rfl, rfl⟩

theorem defineAttributes_eq (name : String) (defs : List (String × AttributeDef)) (p : Parser) :
    defineAttributes name defs p =
      .ok ()
        { p with
          stack := ((redefined (p.model.attributes name) defs).map (Event.keptAttribute · name)).foldl
            SourceStack.note p.stack
          model := p.model.addAttributes name defs } := by
  rfl

theorem effect_attlist {defs : List (String × AttributeDef)}
    (h : defineAttributes name defs p = .ok () q) : Effect (.attlist name defs) p q := by
  rw [defineAttributes_eq] at h
  cases h
  refine ⟨rfl, ⟨SourceStack.noted_noteAll fun e he n => ?_, rfl⟩, rfl, rfl⟩
  obtain ⟨a, -, rfl⟩ := List.mem_map.1 he
  exact nofun

theorem declareParameter_eq (name : String) (location : Location) (definition : Definition)
    (p : Parser) :
    declareParameter name location definition p =
      let p₁ := if p.entities.contains name then
        { p with stack := p.stack.note (.keptParameter name) } else p
      match definition.declare p.entities name with
      | .ok t => .ok () { p₁ with entities := t }
      | .error e => .error (.error (e.locate location)) p₁ := by
  simp only [declareParameter, bind, EStateM.bind, get_eq_ok]
  by_cases hc : p.entities.contains name
  · simp only [hc, if_true]
    cases definition.declare p.entities name <;> rfl
  · simp only [hc, Bool.false_eq_true, if_false]
    cases definition.declare p.entities name <;> rfl

theorem effect_parameter {location : Location} {definition : Definition}
    (h : declareParameter name location definition p = .ok () q) :
    Effect (.parameter name location definition) p q := by
  rw [declareParameter_eq] at h
  cases ht : definition.declare p.entities name with
  | error e =>
    rw [ht] at h
    cases h
  | ok t =>
    rw [ht] at h
    by_cases hc : p.entities.contains name
    · simp only [hc, if_true] at h
      cases h
      exact ⟨by simp only [Item.declares, ht]; rfl, ⟨SourceStack.noted_note nofun, rfl⟩, rfl, rfl⟩
    · simp only [hc, Bool.false_eq_true, if_false] at h
      cases h
      exact ⟨by simp only [Item.declares, ht]; rfl, ⟨.refl _, rfl⟩, rfl, rfl⟩

theorem declareEntity_eq (name : String) (location : Location) (definition : Definition)
    (p : Parser) :
    declareEntity name location definition p =
      match definition.resolve p.entities with
      | .ok e =>
        .ok () (if p.model.entities.has name then { p with stack := p.stack.note (.keptEntity name) }
          else { p with model := p.model.addEntity name e })
      | .error e => .error (.error (e.locate location)) p := by
  simp only [declareEntity, bind, EStateM.bind, get_eq_ok]
  cases definition.resolve p.entities with
  | error e => rfl
  | ok e =>
    change (if p.model.entities.has name then note (.keptEntity name)
      else update (·.addEntity name e)) p = _
    by_cases hc : p.model.entities.has name
    · simp only [hc, if_true]
      rfl
    · simp only [hc, Bool.false_eq_true, if_false]
      rfl

theorem effect_entity {location : Location} {definition : Definition}
    (h : declareEntity name location definition p = .ok () q) :
    Effect (.entity name location definition) p q := by
  rw [declareEntity_eq] at h
  cases he : definition.resolve p.entities with
  | error e =>
    rw [he] at h
    cases h
  | ok e =>
    rw [he] at h
    cases h
    split
    · rename_i hhas
      refine ⟨?_, ⟨SourceStack.noted_note nofun, rfl⟩, rfl, rfl⟩
      simp only [Item.declares, he, DocumentType.addEntity, Bindings.add, hhas, if_true]
      rfl
    · exact ⟨by simp only [Item.declares, he]; rfl, ⟨.refl _, rfl⟩, rfl, rfl⟩

theorem keepInstruction_eq (target data : String) (p : Parser) :
    keepInstruction target data p =
      .ok () (if p.keepInstructions && !isTextDeclaration target then
        { p with model := p.model.addInstruction ⟨target, data⟩ }
        else { p with stack := p.stack.note (.discarding target) }) := by
  simp only [keepInstruction, bind, EStateM.bind, get_eq_ok]
  split <;> rfl

theorem effect_instruction {target data : String}
    (h : keepInstruction target data p = .ok () q) : Effect (.instruction target data) p q := by
  rw [keepInstruction_eq] at h
  cases h
  split
  · rename_i hkeep
    exact ⟨by simp only [Item.declares, hkeep, if_true], ⟨.refl _, rfl⟩, rfl, rfl⟩
  · rename_i hkeep
    refine ⟨?_, ⟨SourceStack.noted_note nofun, rfl⟩, rfl, rfl⟩
    simp only [Item.declares, hkeep]
    rfl

theorem effect_ignored {opener : Lexeme} (h : Item.apply (.ignored opener) p = .ok () q) :
    Effect (.ignored opener) p q := by
  have hskip : skipIgnored { p with stack := p.stack.note (.skipping opener.location) } =
      .ok () q := h
  unfold skipIgnored at hskip
  split at hskip
  · rename_i k hk
    cases hskip
    exact ⟨rfl, ⟨hk, rfl⟩, rfl, rfl⟩
  · cases hskip

theorem closeSection_eq (closer : Lexeme) (p : Parser) :
    closeSection closer p =
      match p.sections with
      | [] => unexpected closer "a markup declaration" p
      | (source, location) :: outer =>
        if source = closer.source then .ok () { p with sections := outer }
        else
          unexpected closer
            ("the section opened at " ++ location.text ++ " to end in the same entity") p := by
  simp only [closeSection, bind, EStateM.bind, get_eq_ok]
  cases p.sections with
  | nil => rfl
  | cons a outer =>
    obtain ⟨source, location⟩ := a
    by_cases hs : source = closer.source
    · simp only [hs, if_true]
      rfl
    · simp only [hs, if_false]

theorem effect_sectionClose {closer : Lexeme} (h : closeSection closer p = .ok () q) :
    Effect (.sectionClose closer) p q := by
  rw [closeSection_eq] at h
  cases hs : p.sections with
  | nil =>
    rw [hs] at h
    cases h
  | cons a outer =>
    obtain ⟨source, location⟩ := a
    rw [hs] at h
    by_cases hsource : source = closer.source
    · simp only [hsource, if_true] at h
      cases h
      exact ⟨rfl, ⟨rfl, location, by rw [hs, hsource]⟩, rfl, rfl⟩
    · simp only [hsource, if_false] at h
      cases h

/-- An item that takes effect has its effect. -/
theorem effect_of_apply {i : Item} (h : i.apply p = .ok () q) : Effect i p q := by
  cases i with
  | element name content => exact effect_element h
  | attlist name defs => exact effect_attlist h
  | parameter name location definition => exact effect_parameter h
  | entity name location definition => exact effect_entity h
  | notation_ name ids => exact effect_notation h
  | included opener =>
    cases h
    exact ⟨rfl, ⟨rfl, rfl⟩, rfl, rfl⟩
  | ignored opener => exact effect_ignored h
  | sectionClose closer => exact effect_sectionClose h
  | comment =>
    cases h
    exact ⟨rfl, ⟨.refl _, rfl⟩, rfl, rfl⟩
  | instruction target data => exact effect_instruction h

/-- An item takes effect if it declares something and its move is possible. -/
theorem apply_of_declares {i : Item} {t : EntityTable} {d : DocumentType} {k : SourceStack}
    {sections : List (Nat × Location)}
    (hd : i.declares p.keepInstructions p.entities p.model = some (t, d))
    (hm : i.Moves p.stack p.sections k sections) : ∃ q, i.apply p = .ok () q := by
  cases i with
  | element name content => exact ⟨_, declareElement_eq name content p⟩
  | attlist name defs => exact ⟨_, defineAttributes_eq name defs p⟩
  | parameter name location definition =>
    simp only [Item.declares] at hd
    have he := declareParameter_eq name location definition p
    cases ht : definition.declare p.entities name with
    | error e =>
      rw [ht] at hd
      cases hd
    | ok t' =>
      rw [ht] at he
      exact ⟨_, he⟩
  | entity name location definition =>
    simp only [Item.declares] at hd
    have he := declareEntity_eq name location definition p
    cases ht : definition.resolve p.entities with
    | error e =>
      rw [ht] at hd
      cases hd
    | ok e =>
      rw [ht] at he
      exact ⟨_, he⟩
  | notation_ name ids => exact ⟨_, declareNotation_eq name ids p⟩
  | included opener => exact ⟨_, rfl⟩
  | ignored opener =>
    have hk := hm.1
    refine ⟨{ p with stack := k }, ?_⟩
    change skipIgnored { p with stack := p.stack.note (.skipping opener.location) } = _
    unfold skipIgnored
    rw [hk]
  | sectionClose closer =>
    obtain ⟨location, hs⟩ := hm.2
    refine ⟨{ p with sections := sections }, ?_⟩
    change closeSection closer p = _
    rw [closeSection_eq, hs]
    exact if_pos rfl
  | comment => exact ⟨_, rfl⟩
  | instruction target data => exact ⟨_, keepInstruction_eq target data p⟩

end Parser

end Doctype
