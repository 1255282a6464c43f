import Doctype.Proofs.Parser.Congruence
import Doctype.Proofs.Parser.Nested

/-! Whether processing instructions are kept makes no difference to anything else. -/
namespace Doctype

open EStateM (Result)

/-- The same outcome in both runs, and states that are related. -/
inductive Lockstep {ε σ α : Type} (R : σ → σ → Prop) : Result ε σ α → Result ε σ α → Prop
  | ok (a : α) {s s' : σ} : R s s' → Lockstep R (.ok a s) (.ok a s')
  | error (e : ε) {s s' : σ} : R s s' → Lockstep R (.error e s) (.error e s')

namespace Lockstep

variable {ε σ α β : Type} {R : σ → σ → Prop} {a : α} {e : ε} {s : σ} {r : Result ε σ α}

theorem of_ok (h : Lockstep R (.ok a s) r) : ∃ s', r = .ok a s' ∧ R s s' := by
  generalize hr : Result.ok a s = r₀ at h
  cases h with
  | ok _ h =>
    cases hr
    exact ⟨_, rfl, h⟩
  | error => cases hr

theorem of_error (h : Lockstep R (.error e s) r) : ∃ s', r = .error e s' ∧ R s s' := by
  generalize hr : Result.error e s = r₀ at h
  cases h with
  | ok => cases hr
  | error _ h =>
    cases hr
    exact ⟨_, rfl, h⟩

end Lockstep

namespace SourceStack

/-- The same sources, whatever has been recorded. -/
def Echoes (s s' : SourceStack) : Prop :=
  ∃ journal, s' = { s with journal }

variable {w : World} {t : EntityTable} {s s' : SourceStack} {name : String}

theorem Echoes.note (h : s.Echoes s') (event event' : Event) :
    (s.note event).Echoes (s'.note event') := by
  obtain ⟨journal, rfl⟩ := h
  exact ⟨_, rfl⟩

theorem lockstep_enter (h : s.Echoes s') :
    Lockstep Echoes (s.enter w t name) (s'.enter w t name) := by
  obtain ⟨journal, rfl⟩ := h
  rw [enter_eq, enter_eq]
  have hbase : ({ s with journal } : SourceStack).base = s.base := rfl
  have hopen : ({ s with journal } : SourceStack).isOpen name = s.isOpen name := rfl
  rw [hbase, hopen]
  cases t.openReference w name s.base with
  | error e => exact .error e ⟨_, rfl⟩
  | ok text =>
    cases s.isOpen name
    · exact .ok () ⟨_, rfl⟩
    · exact .error _ ⟨_, rfl⟩

theorem lockstep_step (h : s.Echoes s') : Lockstep Echoes (s.step w t) (s'.step w t) := by
  obtain ⟨journal, rfl⟩ := h
  let s' : SourceStack := { s with journal }
  change Lockstep Echoes _ (s'.step w t)
  cases hs : s.sources with
  | nil =>
    have hs' : s'.sources = [] := hs
    rw [step_nil hs, step_nil hs']
    exact .ok _ ⟨_, rfl⟩
  | cons source below =>
    have hs' : s'.sources = source :: below := hs
    cases hscan : source.cursor.scan with
    | error e cursor =>
      rw [step_error hs hscan, step_error hs' hscan]
      exact .error e ⟨_, rfl⟩
    | ok scanned cursor =>
      cases scanned with
      | exhausted =>
        rw [step_exhausted hs hscan, step_exhausted hs' hscan]
        exact .ok none ⟨_, rfl⟩
      | token token location =>
        rw [step_token hs hscan, step_token hs' hscan]
        exact .ok _ ⟨_, rfl⟩
      | reference name location =>
        rw [step_reference hs hscan, step_reference hs' hscan]
        have hread : (s.readTo source below cursor).Echoes (s'.readTo source below cursor) :=
          ⟨_, rfl⟩
        have henter : Lockstep Echoes ((s.readTo source below cursor).enter w t name) _ :=
          lockstep_enter hread
        generalize (s.readTo source below cursor).enter w t name = r at henter
        generalize (s'.readTo source below cursor).enter w t name = r' at henter
        cases henter with
        | ok _ h => exact .ok none h
        | error e h => exact .error _ h

theorem lockstep_next (h : s.Echoes s') : Lockstep Echoes (s.next w t) (s'.next w t) := by
  fun_induction SourceStack.next w t s generalizing s' with
  | case1 s e u hstep =>
    obtain ⟨u', hstep', hu⟩ := (hstep ▸ lockstep_step h).of_error
    rw [next_eq, hstep']
    exact .error e hu
  | case2 s l u hstep =>
    obtain ⟨u', hstep', hu⟩ := (hstep ▸ lockstep_step h).of_ok
    rw [next_eq, hstep']
    exact .ok l hu
  | case3 s u hstep ih =>
    obtain ⟨u', hstep', hu⟩ := (hstep ▸ lockstep_step h).of_ok
    rw [next_eq w t s', hstep']
    exact ih hu

theorem lockstep_skipIgnored (h : s.Echoes s') : Lockstep Echoes s.skipIgnored s'.skipIgnored := by
  have hsources : s'.sources = s.sources := by
    obtain ⟨journal, rfl⟩ := h
    rfl
  unfold skipIgnored
  rw [hsources]
  obtain ⟨journal, rfl⟩ := h
  split
  · exact .error _ ⟨_, rfl⟩
  · rename_i source below hs
    cases source.cursor.skipSections 0 with
    | error e cursor => exact .error e ⟨_, rfl⟩
    | ok closed cursor =>
      cases closed
      · exact .error _ ⟨_, rfl⟩
      · exact .ok () ⟨_, rfl⟩

end SourceStack

namespace Parser

/-- The same state of a parse, except for the instructions in it and for what has been recorded. -/
def Agrees (p p' : Parser) : Prop :=
  ∃ journal instructions keepInstructions,
    p' = { p with
      stack := { p.stack with journal }
      model := { p.model with instructions }
      keepInstructions }

/-- The same outcomes from states that agree, which agree again. -/
def InStep {α : Type} (m m' : ParserM α) : Prop :=
  ∀ p p', p.Agrees p' → Lockstep Agrees (m p) (m' p')

variable {α β : Type} {w : World} {p p' : Parser}

theorem Agrees.withStack {k k' : SourceStack} (h : p.Agrees p') (hk : k.Echoes k') :
    ({ p with stack := k } : Parser).Agrees { p' with stack := k' } := by
  obtain ⟨-, instructions, keepInstructions, rfl⟩ := h
  obtain ⟨journal, rfl⟩ := hk
  exact ⟨journal, instructions, keepInstructions, rfl⟩

theorem Agrees.withPeeked (h : p.Agrees p') (peeked : Option Lexeme) :
    ({ p with peeked } : Parser).Agrees { p' with peeked } := by
  obtain ⟨journal, instructions, keepInstructions, rfl⟩ := h
  exact ⟨journal, instructions, keepInstructions, rfl⟩

theorem Agrees.withEntities (h : p.Agrees p') (entities : EntityTable) :
    ({ p with entities } : Parser).Agrees { p' with entities } := by
  obtain ⟨journal, instructions, keepInstructions, rfl⟩ := h
  exact ⟨journal, instructions, keepInstructions, rfl⟩

theorem Agrees.stack (h : p.Agrees p') : p.stack.Echoes p'.stack := by
  obtain ⟨journal, -, -, rfl⟩ := h
  exact ⟨journal, rfl⟩

theorem Agrees.note (h : p.Agrees p') (event : Event) :
    ({ p with stack := p.stack.note event } : Parser).Agrees
      { p' with stack := p'.stack.note event } :=
  h.withStack (h.stack.note event event)

theorem Agrees.entities (h : p.Agrees p') : p'.entities = p.entities := by
  obtain ⟨-, -, -, rfl⟩ := h
  rfl

theorem Agrees.peeked (h : p.Agrees p') : p'.peeked = p.peeked := by
  obtain ⟨-, -, -, rfl⟩ := h
  rfl

theorem Agrees.sections (h : p.Agrees p') : p'.sections = p.sections := by
  obtain ⟨-, -, -, rfl⟩ := h
  rfl

theorem inStep_pure (a : α) : InStep (pure a) (pure a) :=
  fun _ _ h => .ok a h

theorem inStep_throw (halt : Halt) : InStep (throw halt : ParserM α) (throw halt) :=
  fun _ _ h => .error halt h

theorem InStep.bind {m m' : ParserM α} {f f' : α → ParserM β} (hm : InStep m m')
    (hf : ∀ a, InStep (f a) (f' a)) : InStep (m >>= f) (m' >>= f') := by
  intro p p' h
  have hlock := hm p p' h
  simp only [Bind.bind, EStateM.bind]
  generalize m p = r at hlock
  generalize m' p' = r' at hlock
  cases hlock with
  | ok a h => exact hf a _ _ h
  | error e h => exact .error e h

theorem inStep_scan (w : World) : InStep (scan w) (scan w) := by
  intro p p' h
  have hlock := SourceStack.lockstep_next (w := w) (t := p.entities) h.stack
  have hentities : p'.stack.next w p'.entities = p'.stack.next w p.entities := by rw [h.entities]
  unfold scan
  rw [hentities]
  generalize p.stack.next w p.entities = r at hlock
  generalize p'.stack.next w p.entities = r' at hlock
  cases hlock with
  | ok l hk => exact .ok l (h.withStack hk)
  | error e hk => exact .error _ (h.withStack hk)

theorem inStep_next (w : World) : InStep (next w) (next w) := by
  intro p p' h
  have hpeeked := h.peeked
  cases hp : p.peeked with
  | none =>
    rw [hp] at hpeeked
    rw [next_of_none hp, next_of_none hpeeked]
    exact inStep_scan w p p' h
  | some l =>
    rw [hp] at hpeeked
    rw [next_of_peeked hp, next_of_peeked hpeeked]
    exact .ok l (h.withPeeked none)

theorem inStep_peek (w : World) : InStep (peek w) (peek w) := by
  intro p p' h
  have hpeeked := h.peeked
  cases hp : p.peeked with
  | none =>
    rw [hp] at hpeeked
    rw [peek_of_none hp, peek_of_none hpeeked]
    have hlock := inStep_scan w p p' h
    generalize scan w p = r at hlock
    generalize scan w p' = r' at hlock
    cases hlock with
    | ok l h => exact .ok l.token (h.withPeeked (some l))
    | error e h => exact .error e h
  | some l =>
    rw [hp] at hpeeked
    rw [peek_of_peeked hp, peek_of_peeked hpeeked]
    exact .ok l.token h

theorem congruence_inStep (w : World) : Congruence w w InStep where
  pure := inStep_pure
  bind := InStep.bind
  grammar _ _ _ := inStep_throw _
  outOfFuel := inStep_throw _
  next := inStep_next w
  peek := inStep_peek w

theorem inStep_finish (l : Lexeme) : InStep (finish l) (finish l) := by
  intro p p' h
  rw [finish_eq, finish_eq, h.sections]
  cases p.sections with
  | nil => exact .ok () h
  | cons => exact .error _ h

theorem inStep_skipIgnored : InStep skipIgnored skipIgnored := by
  intro p p' h
  have hlock := SourceStack.lockstep_skipIgnored h.stack
  unfold skipIgnored
  generalize p.stack.skipIgnored = r at hlock
  generalize p'.stack.skipIgnored = r' at hlock
  cases hlock with
  | ok _ hk => exact .ok () (h.withStack hk)
  | error e hk => exact .error _ (h.withStack hk)

theorem inStep_declareElement (name : String) (content : ContentSpec) :
    InStep (declareElement name content) (declareElement name content) := by
  intro p p' h
  obtain ⟨journal, instructions, keepInstructions, rfl⟩ := h
  rw [declareElement_eq, declareElement_eq]
  dsimp only
  split
  · exact .ok () ⟨_, _, _, rfl⟩
  · exact .ok () ⟨_, _, _, rfl⟩

theorem inStep_defineAttributes (name : String) (defs : AttributeList) :
    InStep (defineAttributes name defs) (defineAttributes name defs) := by
  intro p p' h
  obtain ⟨journal, instructions, keepInstructions, rfl⟩ := h
  rw [defineAttributes_eq, defineAttributes_eq, SourceStack.foldl_note, SourceStack.foldl_note]
  exact .ok () ⟨_, _, _, rfl⟩

theorem inStep_declareParameter (name : String) (location : Location) (d : Definition) :
    InStep (declareParameter name location d) (declareParameter name location d) := by
  intro p p' h
  have hcontains : p'.entities.contains name = p.entities.contains name := by rw [h.entities]
  have hdeclare : d.declare p'.entities name = d.declare p.entities name := by rw [h.entities]
  rw [declareParameter_eq, declareParameter_eq, hcontains, hdeclare]
  have hnoted : (if p.entities.contains name then
        { p with stack := p.stack.note (.keptParameter name) } else p).Agrees
      (if p.entities.contains name then
        { p' with stack := p'.stack.note (.keptParameter name) } else p') := by
    split
    · exact h.note _
    · exact h
  cases d.declare p.entities name with
  | ok t => exact .ok () (hnoted.withEntities t)
  | error e => exact .error _ hnoted

theorem inStep_declareEntity (name : String) (location : Location) (d : Definition) :
    InStep (declareEntity name location d) (declareEntity name location d) := by
  intro p p' h
  obtain ⟨journal, instructions, keepInstructions, rfl⟩ := h
  rw [declareEntity_eq, declareEntity_eq]
  dsimp only
  cases d.resolve p.entities with
  | error e => exact .error _ ⟨_, _, _, rfl⟩
  | ok e =>
    dsimp only
    split
    · exact .ok () ⟨_, _, _, rfl⟩
    · exact .ok () ⟨_, _, _, rfl⟩

theorem inStep_declareNotation (name : String) (ids : Notation) :
    InStep (declareNotation name ids) (declareNotation name ids) := by
  intro p p' h
  obtain ⟨journal, instructions, keepInstructions, rfl⟩ := h
  rw [declareNotation_eq, declareNotation_eq]
  dsimp only
  split
  · exact .ok () ⟨_, _, _, rfl⟩
  · exact .ok () ⟨_, _, _, rfl⟩

theorem inStep_closeSection (closer : Lexeme) : InStep (closeSection closer) (closeSection closer) := by
  intro p p' h
  rw [closeSection_eq, closeSection_eq, h.sections]
  cases p.sections with
  | nil => exact .error _ h
  | cons a outer =>
    dsimp only
    split
    · obtain ⟨journal, instructions, keepInstructions, rfl⟩ := h
      exact .ok () ⟨_, _, _, rfl⟩
    · exact .error _ h

/-- One of the two states may keep the instruction and the other one not. -/
theorem inStep_keepInstruction (target data : String) :
    InStep (keepInstruction target data) (keepInstruction target data) := by
  intro p p' h
  obtain ⟨journal, instructions, keepInstructions, rfl⟩ := h
  rw [keepInstruction_eq, keepInstruction_eq]
  apply Lockstep.ok
  split
  · split
    · exact ⟨_, _, _, rfl⟩
    · exact ⟨_, _, _, rfl⟩
  · split
    · exact ⟨_, _, _, rfl⟩
    · exact ⟨_, _, _, rfl⟩

/-- An item has the same effect on states that agree, whether or not it is an instruction that is
kept. -/
theorem inStep_apply (i : Item) : InStep i.apply i.apply := by
  cases i with
  | element name content => exact inStep_declareElement name content
  | attlist name defs => exact inStep_defineAttributes name defs
  | parameter name location d => exact inStep_declareParameter name location d
  | entity name location d => exact inStep_declareEntity name location d
  | notation_ name ids => exact inStep_declareNotation name ids
  | included opener =>
    intro p p' h
    obtain ⟨journal, instructions, keepInstructions, rfl⟩ := h
    exact .ok () ⟨_, _, _, rfl⟩
  | ignored opener => exact fun p p' h => inStep_skipIgnored _ _ (h.note (.skipping opener.location))
  | sectionClose closer => exact inStep_closeSection closer
  | comment => exact inStep_pure ()
  | instruction target data => exact inStep_keepInstruction target data

/-- Runs over states that agree stay in step. -/
theorem inStep_subset (w : World) (fuel : Nat) : InStep (subset w fuel) (subset w fuel) :=
  (congruence_inStep w).subset inStep_apply inStep_finish fuel

end Parser

/-- The processing instruction that an item is, unless it is a text declaration: its target is `xml`
in upper or lower case. -/
def Mark.instruction? : Mark → Option Instruction
  | .item (l :: _) _ =>
    match l.token with
    | .instruction target data =>
      if target.toList.map Char.toLower = ['x', 'm', 'l'] then none else some ⟨target, data⟩
    | _ => none
  | _ => none

/-- The processing instruction to be kept of an item. -/
def Item.instruction? : Item → Option Instruction
  | .instruction target data =>
    if Parser.isTextDeclaration target then none else some ⟨target, data⟩
  | _ => none

theorem Item.Spans.instruction? {ls : List Lexeme} {i : Item} (h : i.Spans ls) :
    (Mark.item ls i).instruction? = i.instruction? := by
  cases h with
  | declaration hopener _ _ hi =>
    have hnone : i.instruction? = none := by cases i <;> first | rfl | cases hi
    simp only [Mark.instruction?, hopener, hnone]
  | conditional hopener _ _ hi =>
    rcases hi with rfl | rfl <;> simp only [Mark.instruction?, hopener] <;> rfl
  | sectionClose hcloser => simp only [Mark.instruction?, hcloser, Item.instruction?]
  | comment hl => simp only [Mark.instruction?, hl, Item.instruction?]
  | @instruction l target data hl =>
    simp only [Mark.instruction?, hl, Item.instruction?, Parser.isTextDeclaration, beq_iff_eq]

/-- Instructions are added at the end, if they are kept. -/
theorem Item.instructions_of_declares {keep : Bool} {t u : EntityTable} {d e : DocumentType}
    {i : Item} (h : i.declares keep t d = some (u, e)) :
    e.instructions = d.instructions ++ if keep then i.instruction?.toList else [] := by
  have hsame (he : e.instructions = d.instructions) (hi : i.instruction? = none) :
      e.instructions = d.instructions ++ if keep then i.instruction?.toList else [] := by
    rw [he, hi]
    cases keep <;> exact (List.append_nil _).symm
  cases i with
  | instruction target data =>
    cases h
    cases keep <;> cases ht : Parser.isTextDeclaration target <;>
      simp [DocumentType.addInstruction, Item.instruction?, ht]
  | parameter name location definition =>
    obtain ⟨t', -, he⟩ := Option.map_eq_some_iff.1 h
    cases he
    exact hsame rfl rfl
  | entity name location definition =>
    obtain ⟨t', -, he⟩ := Option.map_eq_some_iff.1 h
    cases he
    exact hsame rfl rfl
  | _ =>
    cases h
    exact hsame rfl rfl

theorem instruction?_turns (ts : List Turn) (n : Nat) :
    (ts.map (Turn.mark n)).filterMap Mark.instruction? = [] := by
  refine List.filterMap_eq_nil_iff.2 fun a ha => ?_
  obtain ⟨t, -, rfl⟩ := List.mem_map.1 ha
  cases t <;> rfl

namespace Parser

variable {w : World} {fuel : Nat} {p q : Parser} {marks : List Mark}

/-- The instructions that a run adds are those among its items, in their order. -/
theorem Transcribes.instructions (h : Transcribes w fuel p marks q) (hp : p.peeked = none) :
    q.model.instructions = p.model.instructions ++
      if p.keepInstructions then marks.filterMap Mark.instruction? else [] := by
  induction h with
  | @ends fuel p q l hn heof hs =>
    rw [next_of_none hp] at hn
    obtain ⟨-, hq⟩ := scan_ok hn
    rw [hq, instruction?_turns]
    split <;> exact (List.append_nil _).symm
  | @item fuel p p₁ p₂ p₃ q l ls i marks hn heof hi hpulls ha _ ih =>
    have hreading := reading_of_item hp hn heof hi hpulls ha
    obtain ⟨-, -, hp₂⟩ := Reads.of_item hp hn heof hi
    have heffect := effect_of_apply ha
    have hadded := Item.instructions_of_declares heffect.declares
    have hkeep : p₃.keepInstructions = p.keepInstructions := by rw [heffect.keep, hp₂]
    have hbefore : p₂.model = p.model := by rw [hp₂]
    have hkeep₂ : p₂.keepInstructions = p.keepInstructions := by rw [hp₂]
    rw [hbefore, hkeep₂] at hadded
    rw [ih hreading.peeked, hadded, hkeep, List.filterMap_append, instruction?_turns,
      List.nil_append, List.filterMap_cons, hreading.spans.instruction?, List.append_assoc]
    cases p.keepInstructions with
    | false => rfl
    | true => cases i.instruction? <;> rfl

/-- The instructions of a parse, by its transcript. -/
theorem Transcript.instructions {options : Options} {s : SourceStack} {m : DocumentType}
    (h : Transcript w fuel options s marks m) :
    m.instructions =
      if options.keepInstructions then marks.filterMap Mark.instruction? else [] := by
  cases h with
  | @parse b q marks hb htranscribes =>
    have hopened : (s.ids.reverse.map (Mark.opened · 0)).filterMap Mark.instruction? = [] := by
      refine List.filterMap_eq_nil_iff.2 fun a ha => ?_
      obtain ⟨id, -, rfl⟩ := List.mem_map.1 ha
      rfl
    rw [List.filterMap_append, hopened, List.nil_append]
    exact htranscribes.instructions rfl

theorem result_of_agrees (h : p.Agrees q) :
    q.result = { p.result with instructions := q.result.instructions } := by
  obtain ⟨-, instructions, -, rfl⟩ := h
  rfl

/-- Parses of the same sources that differ in whether instructions are kept. -/
theorem lockstep_parseSources (w : World) (fuel : Nat) (base : Option Path) (s : SourceStack) :
    (∃ halt, (parseSources w fuel ⟨base, true⟩ s).1 = .error halt ∧
      (parseSources w fuel ⟨base, false⟩ s).1 = .error halt) ∨
    ∃ m m', (parseSources w fuel ⟨base, true⟩ s).1 = .ok m ∧
      (parseSources w fuel ⟨base, false⟩ s).1 = .ok m' ∧
      m' = { m with instructions := m'.instructions } := by
  have hbased : s.based w ⟨base, false⟩ = s.based w ⟨base, true⟩ := rfl
  rw [parseSources_eq, parseSources_eq, hbased]
  cases s.based w ⟨base, true⟩ with
  | error e b => exact .inl ⟨.error e, rfl, rfl⟩
  | ok u b =>
    have hlock := inStep_subset w fuel { stack := b, keepInstructions := true }
      { stack := b, keepInstructions := false } ⟨_, _, _, rfl⟩
    simp only [parse_eq]
    generalize subset w fuel { stack := b, keepInstructions := true } = r at hlock
    generalize subset w fuel { stack := b, keepInstructions := false } = r' at hlock
    cases hlock with
    | error halt => exact .inl ⟨halt, rfl, rfl⟩
    | ok _ h => exact .inr ⟨_, _, rfl, rfl, result_of_agrees h⟩

/-- Whether processing instructions are kept makes no difference to whether and how a parse fails,
nor to anything else in the document type. The instructions that are kept are those met between
declarations, in the order of the parse, without text declarations. -/
theorem parse_keepInstructions (w : World) (fuel : Nat) (base : Option Path) (input : Input) :
    (∃ halt, (input.parse w fuel ⟨base, true⟩).1 = .error halt ∧
      (input.parse w fuel ⟨base, false⟩).1 = .error halt) ∨
    ∃ m s marks, (input.parse w fuel ⟨base, true⟩).1 = .ok m ∧
      (input.parse w fuel ⟨base, false⟩).1 = .ok { m with instructions := [] } ∧
      input.opened w = .ok s ∧
      (∀ marks', Transcript w fuel ⟨base, true⟩ s marks' m ↔ marks' = marks) ∧
      m.instructions = marks.filterMap Mark.instruction? := by
  rw [Input.parse_eq, Input.parse_eq]
  cases input.opened w with
  | error e => exact .inl ⟨.error e, rfl, rfl⟩
  | ok s =>
    obtain hfails | ⟨m, m', hkept, hdropped, hsame⟩ := lockstep_parseSources w fuel base s
    · exact .inl hfails
    · obtain ⟨marks, hmarks⟩ := exists_transcript hkept
      obtain ⟨marks', hmarks'⟩ := exists_transcript hdropped
      have hnone : m'.instructions = [] := ((hmarks' marks').2 rfl).instructions
      rw [hnone] at hsame
      refine .inr ⟨m, s, marks, hkept, hsame ▸ hdropped, rfl, hmarks, ?_⟩
      exact ((hmarks marks).2 rfl).instructions

end Parser

end Doctype
