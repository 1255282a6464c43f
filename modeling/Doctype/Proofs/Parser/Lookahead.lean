import Doctype.Proofs.Cursor.Positions
import Doctype.Proofs.Parser.Growth
import Doctype.Proofs.Parser.Congruence
import Doctype.Proofs.Parser.Transcript
import Doctype.Proofs.Print.Roundtrip

/-! No token is read ahead of what takes effect. Whatever a declaration or a section does, it does
behind the last character of its last token. -/
namespace Doctype

namespace SourceStack

/-- The innermost source is the one that a lexeme of one character comes from, and nothing behind
that lexeme has been scanned. -/
def StopsBehind (k : SourceStack) (l : Lexeme) (c : Char) : Prop :=
  ∃ source below front, k.sources = source :: below ∧ source.id = l.source ∧
    Cursor.TakesMark c l.token l.location front source.cursor

variable {w : World} {t : EntityTable} {s s' : SourceStack} {ls : List Lexeme} {l : Lexeme}
  {c : Char}

theorem stopsBehind_of_next (h : s.next w t = .ok l s') (hc : c ≠ '\n')
    (hspelled : ∀ spelling, l.token.ReadFrom spelling → spelling.toList = [c])
    (heof : l.token ≠ .endOfInput) : s'.StopsBehind l c := by
  obtain ⟨-, hlexeme⟩ := next_readsFrom h
  obtain ⟨-, source, ⟨s₁, below, cursor, -, -, hscan, hsources⟩, hsource⟩ := hlexeme heof
  exact ⟨_, below, source.cursor, hsources, hsource.symm, Cursor.takesMark_of_scan hscan hc hspelled⟩

theorem Pulls.stopsBehind (h : s.Pulls w t ls s') (hl : ls.getLast? = some l) (hc : c ≠ '\n')
    (hspelled : ∀ spelling, l.token.ReadFrom spelling → spelling.toList = [c])
    (heof : l.token ≠ .endOfInput) : s'.StopsBehind l c := by
  obtain ⟨s₁, hn⟩ := h.exists_next hl
  exact stopsBehind_of_next hn hc hspelled heof

theorem StopsBehind.of_sources (h : s.StopsBehind l c) (hs : s'.sources = s.sources) :
    s'.StopsBehind l c := by
  obtain ⟨source, below, front, hsources, hrest⟩ := h
  exact ⟨source, below, front, hs.trans hsources, hrest⟩

end SourceStack

namespace Parser

open EStateM (Result)

/-- The state that an action leaves, whether it has failed or not. -/
def left {α : Type} : Result Halt Parser α → Parser
  | .ok _ p => p
  | .error _ p => p

/-- An action that declares nothing, whether it fails or not. -/
def DeclaresNothing {α : Type} (m : ParserM α) : Prop :=
  ∀ p, (left (m p)).declared = p.declared

variable {w : World} {fuel n : Nat} {p q p₁ p₂ p₃ : Parser} {l : Lexeme} {i : Item}

section Reading

theorem declaresNothing_pure {α : Type} (a : α) : DeclaresNothing (pure a) :=
  fun _ => rfl

theorem declaresNothing_throw {α : Type} (halt : Halt) :
    DeclaresNothing (throw halt : ParserM α) :=
  fun _ => rfl

theorem DeclaresNothing.bind {α β : Type} {m : ParserM α} {f : α → ParserM β}
    (hm : DeclaresNothing m) (hf : ∀ a, DeclaresNothing (f a)) : DeclaresNothing (m >>= f) := by
  intro p
  have hp := hm p
  simp only [Bind.bind, EStateM.bind]
  cases hr : m p with
  | error e q =>
    rw [hr] at hp
    exact hp
  | ok a q =>
    rw [hr] at hp
    exact (hf a q).trans hp

theorem declaresNothing_scan (w : World) : DeclaresNothing (scan w) := by
  intro p
  unfold scan
  split <;> rfl

theorem declaresNothing_next (w : World) : DeclaresNothing (next w) := by
  intro p
  cases hp : p.peeked with
  | none =>
    rw [next_of_none hp]
    exact declaresNothing_scan w p
  | some l =>
    rw [next_of_peeked hp]
    rfl

theorem declaresNothing_peek (w : World) : DeclaresNothing (peek w) := by
  intro p
  cases hp : p.peeked with
  | none =>
    have hscan := declaresNothing_scan w p
    rw [peek_of_none hp]
    cases hs : scan w p with
    | error e q =>
      rw [hs] at hscan
      exact hscan
    | ok l q =>
      rw [hs] at hscan
      exact hscan
  | some l =>
    rw [peek_of_peeked hp]
    rfl

theorem congruence_declaresNothing (w : World) : Congruence w w fun m _ => DeclaresNothing m where
  pure := declaresNothing_pure
  bind := DeclaresNothing.bind
  grammar _ _ _ := declaresNothing_throw _
  outOfFuel := declaresNothing_throw _
  next := declaresNothing_next w
  peek := declaresNothing_peek w

theorem left_finish (l : Lexeme) (p : Parser) : left (finish l p) = p := by
  rw [finish_eq]
  split <;> rfl

end Reading

section Effects

theorem peeked_declareParameter (name : String) (location : Location) (definition : Definition)
    (p : Parser) : (left (declareParameter name location definition p)).peeked = p.peeked := by
  rw [declareParameter_eq]
  cases definition.declare p.entities name <;> dsimp only <;> split <;> rfl

theorem peeked_declareEntity (name : String) (location : Location) (definition : Definition)
    (p : Parser) : (left (declareEntity name location definition p)).peeked = p.peeked := by
  rw [declareEntity_eq]
  cases definition.resolve p.entities with
  | error e => rfl
  | ok e =>
    dsimp only [left]
    split <;> rfl

theorem peeked_skipIgnored (p : Parser) : (left (skipIgnored p)).peeked = p.peeked := by
  unfold skipIgnored
  split <;> rfl

theorem peeked_closeSection (closer : Lexeme) (p : Parser) :
    (left (closeSection closer p)).peeked = p.peeked := by
  rw [closeSection_eq]
  split
  · rfl
  · split <;> rfl

theorem peeked_of_ok (h : i.apply p = .ok () q) : (left (i.apply p)).peeked = p.peeked := by
  rw [h]
  exact (effect_of_apply h).peeked

/-- No effect looks at a lexeme or takes one, whether it succeeds or not. -/
theorem peeked_apply (i : Item) (p : Parser) : (left (i.apply p)).peeked = p.peeked := by
  cases i with
  | parameter name location definition => exact peeked_declareParameter name location definition p
  | entity name location definition => exact peeked_declareEntity name location definition p
  | ignored opener => exact peeked_skipIgnored _
  | sectionClose closer => exact peeked_closeSection closer p
  | element name content => exact peeked_of_ok (declareElement_eq name content p)
  | attlist name defs => exact peeked_of_ok (defineAttributes_eq name defs p)
  | notation_ name ids => exact peeked_of_ok (declareNotation_eq name ids p)
  | instruction target data => exact peeked_of_ok (keepInstruction_eq target data p)
  | included | comment => rfl

end Effects

/-- A parse with some fuel begins a round, in which it reads an item, in some state with some fuel
left. Whether it comes to its end does not matter. -/
inductive Rounds (w : World) : Nat → Parser → Nat → Parser → Prop
  | refl (fuel : Nat) (p : Parser) : Rounds w fuel p fuel p
  | step {fuel n : Nat} {p p₁ p₂ p₃ q : Parser} {l : Lexeme} {i : Item} : next w p = .ok l p₁ →
      l.token ≠ .endOfInput → item w fuel l p₁ = .ok i p₂ → i.apply p₂ = .ok () p₃ →
        Rounds w fuel p₃ n q → Rounds w (fuel + 1) p n q

/-- What a parse does is what is left to do in a round. -/
theorem Rounds.subset_eq (h : Rounds w fuel p n q) : subset w fuel p = subset w n q := by
  induction h with
  | refl => rfl
  | step hn heof hi ha _ ih =>
    rw [subset_succ]
    simp only [hn, hi, ha]
    rw [if_neg heof, ih]

/-- A parse that succeeds has begun a round in which nothing was left. -/
theorem rounds_of_subset (h : subset w fuel p = .ok () q) :
    ∃ n r, Rounds w fuel p n r ∧ Ends w r q := by
  induction fuel generalizing p with
  | zero => cases h
  | succ fuel ih =>
    obtain ⟨n, hfuel, h⟩ := subset_cases h
    cases hfuel
    rcases h with ⟨l, hn, heof, hs⟩ | ⟨l, p₁, i, p₂, p₃, hn, heof, hi, ha, hrest⟩
    · exact ⟨fuel + 1, p, .refl _ p, l, hn, heof, hs⟩
    · obtain ⟨n, r, hr, he⟩ := ih hrest
      exact ⟨n, r, .step hn heof hi ha hr, he⟩

theorem not_endOfInput_of_item (hi : item w fuel l p₁ = .ok i p₂) : l.token ≠ .endOfInput := by
  intro heof
  unfold item at hi
  rw [heof] at hi
  cases hi

theorem peeked_of_item (hp : p.peeked = none) (hn : next w p = .ok l p₁)
    (hi : item w fuel l p₁ = .ok i p₂) : p₂.peeked = none := by
  obtain ⟨ls, -, hp₂⟩ := Reads.of_item hp hn (not_endOfInput_of_item hi) hi
  rw [hp₂]
  exact hp

theorem Rounds.peeked (h : Rounds w fuel p n q) (hp : p.peeked = none) : q.peeked = none := by
  induction h with
  | refl => exact hp
  | step hn _ hi ha _ ih =>
    exact ih ((effect_of_apply ha).peeked.trans (peeked_of_item hp hn hi))

/-- An item has been read and takes effect: nothing has been looked at, neither before the effect
nor behind it. -/
structure Boundary (w : World) (p : Parser) (l : Lexeme) (i : Item) (p₂ : Parser) : Prop where
  before : p₂.peeked = none
  behind : (left (i.apply p₂)).peeked = none
  /-- A declaration takes effect right behind its `>`, and what it declares holds from there on. -/
  declaration : i.isDeclaration → ∃ body closer,
    p.stack.Pulls w p.entities (l :: (body ++ [closer])) p₂.stack ∧
      closer.token = .close ∧ closer.source = l.source ∧
        ∀ p₃, i.apply p₂ = .ok () p₃ → p₃.stack.StopsBehind closer '>' ∧ next w p₃ = scan w p₃ ∧
          ∀ name location definition, i = .parameter name location definition →
            p₃.entities.contains name = true
  /-- An ignored section is left from right behind its `[`, in the source of its `<![`. -/
  ignored : ∀ opener, i = .ignored opener → opener = l ∧ ∃ keyword bracket,
    p.stack.Pulls w p.entities [l, keyword, bracket] p₂.stack ∧
      bracket.token = .bracket ∧ bracket.source = l.source ∧ p₂.stack.StopsBehind bracket '[' ∧
        i.apply p₂ = skipIgnored { p₂ with stack := p₂.stack.note (.skipping l.location) }

/-- In a round nothing is read ahead. -/
structure NothingAhead (w : World) (p : Parser) : Prop where
  begins : p.peeked = none
  /-- Reading declares nothing, whether it fails or not. -/
  reads : (left (next w p)).declared = p.declared ∧ ∀ fuel l p₁, next w p = .ok l p₁ →
    (left (item w fuel l p₁)).declared = p.declared
  /-- Whoever looks for open sections at the end of input changes nothing. -/
  ends : ∀ l p₁, next w p = .ok l p₁ → p₁.peeked = none ∧ left (finish l p₁) = p₁
  item : ∀ fuel l p₁ i p₂, next w p = .ok l p₁ → item w fuel l p₁ = .ok i p₂ →
    Boundary w p l i p₂

section Boundaries

/-- A parameter entity that has been declared is in the table. -/
theorem contains_of_declareParameter {name : String} {location : Location} {definition : Definition}
    (h : (Item.parameter name location definition).apply p = .ok () q) :
    q.entities.contains name = true := by
  obtain ⟨hdeclare, -⟩ := Item.declares_parameter.1 (effect_of_apply h).declares
  obtain ⟨kind, content, hd⟩ := Definition.declare_kind hdeclare
  exact EntityTable.contains_declare hd

/-- A declaration leaves the sources as they are. -/
theorem sources_of_declaration (hi : i.isDeclaration) (h : i.apply p = .ok () q) :
    q.stack.sources = p.stack.sources := by
  have hmoves := (effect_of_apply h).moves
  cases i with
  | element | attlist | parameter | entity | notation_ => exact hmoves.1.sources
  | included | ignored | sectionClose | comment | instruction => cases hi

/-- Behind the effect of an item the next lexeme is scanned, by the entities that are known then. -/
theorem next_of_apply (hp : p.peeked = none) (h : i.apply p = .ok () q) : next w q = scan w q :=
  next_of_none ((effect_of_apply h).peeked.trans hp)

theorem boundary_of_item (hp : p.peeked = none) (hn : next w p = .ok l p₁)
    (hi : item w fuel l p₁ = .ok i p₂) : Boundary w p l i p₂ := by
  have hbefore := peeked_of_item hp hn hi
  obtain ⟨ls, hreads, -⟩ := Reads.of_item hp hn (not_endOfInput_of_item hi) hi
  have hspans := spans_of_item hp hn hi hreads.pulls
  -- an item ends with its last lexeme, so that the sources stop behind the one that closes it
  refine ⟨hbefore, (peeked_apply i p₂).trans hbefore, fun hdeclaration => ?_, ?_⟩
  · cases hspans with
    | @declaration _ closer body _ _ _ hclose hsource _ =>
      have hlast : (l :: (body ++ [closer])).getLast? = some closer := by
        rw [← List.cons_append, List.getLast?_concat]
      have hstops : p₂.stack.StopsBehind closer '>' :=
        hreads.pulls.stopsBehind hlast (by decide)
          (fun _ hread => Token.toList_of_readFrom_close (hclose ▸ hread)) (hclose ▸ nofun)
      refine ⟨body, closer, hreads.pulls, hclose, hsource, fun p₃ ha => ⟨?_, ?_, ?_⟩⟩
      · exact hstops.of_sources (sources_of_declaration hdeclaration ha)
      · exact next_of_apply hbefore ha
      · rintro name location definition rfl
        exact contains_of_declareParameter ha
    | conditional _ _ _ hitem => rcases hitem with rfl | rfl <;> cases hdeclaration
    | sectionClose | comment | instruction => cases hdeclaration
  · rintro opener rfl
    cases hspans with
    | declaration _ _ _ hdeclaration => cases hdeclaration
    | @conditional _ keyword bracket _ _ hbracket hsource hitem =>
      have hstops : p₂.stack.StopsBehind bracket '[' :=
        hreads.pulls.stopsBehind rfl (by decide)
          (fun _ hread => Token.toList_of_readFrom_bracket (hbracket ▸ hread)) (hbracket ▸ nofun)
      obtain rfl : opener = l := by
        rcases hitem with hitem | hitem <;> cases hitem
        rfl
      exact ⟨rfl, keyword, bracket, hreads.pulls, hbracket, hsource, hstops, rfl⟩

theorem nothingAhead_of_peeked (hp : p.peeked = none) : NothingAhead w p where
  begins := hp
  reads := by
    have hnext := declaresNothing_next w p
    refine ⟨hnext, fun fuel l p₁ hn => ?_⟩
    rw [hn] at hnext
    exact ((congruence_declaresNothing w).item fuel l p₁).trans hnext
  ends l p₁ hn := by
    rw [next_of_none hp] at hn
    obtain ⟨-, hp₁⟩ := scan_ok hn
    exact ⟨by rw [hp₁, hp], left_finish l p₁⟩
  item fuel l p₁ i p₂ hn hi := boundary_of_item hp hn hi

end Boundaries

/-- No token is read ahead. In every round of every parse nothing has been looked at when it begins,
when an item takes effect and behind the effect, and nothing else declares anything; so what is
declared holds from the first character behind the declaration, and an ignored section is left from
the first character inside of it. Nothing has been looked at either when a parse is complete. -/
theorem nothingAhead_of_parse (w : World) (fuel : Nat) (keep : Bool) (s : SourceStack) :
    let p : Parser := { stack := s, keepInstructions := keep }
    (∀ n q, Rounds w fuel p n q → subset w fuel p = subset w n q ∧ NothingAhead w q) ∧
      ∀ m q, parse w fuel p = .ok m q →
        q.peeked = none ∧ m = { q.model with parameters := q.entities } := by
  intro p
  refine ⟨fun n q h => ⟨h.subset_eq, nothingAhead_of_peeked (h.peeked rfl)⟩, fun m q h => ?_⟩
  rw [parse_eq] at h
  cases hs : subset w fuel p with
  | error e q' =>
    rw [hs] at h
    cases h
  | ok u q' =>
    rw [hs] at h
    cases h
    obtain ⟨n, r, hr, l, hn, -, -⟩ := rounds_of_subset hs
    obtain ⟨hpeeked, -⟩ := (nothingAhead_of_peeked (hr.peeked rfl)).ends l q' hn
    exact ⟨hpeeked, rfl⟩

theorem parse_specimen : ∃ fuel q,
    parse bare fuel (start { keepInstructions := true } "a.dtd"
      "<!ENTITY % e \"<!ELEMENT b ANY>\n\">\n<!ELEMENT b ANY>\n<?p x?>\n") = .ok .specimen q := by
  obtain ⟨fuel, h⟩ := parses_specimen
  rw [parseText_eq bare fuel (usable_of_parseText h)] at h
  split at h
  · rename_i q hq
    cases h
    exact ⟨fuel, q, hq⟩
  · cases h

/-- A parse in which an entity is declared, up to the round in which nothing is left. -/
theorem nothingAhead_of_parse_specimen : ∃ fuel n r q,
    let p := start { keepInstructions := true } "a.dtd"
      "<!ENTITY % e \"<!ELEMENT b ANY>\n\">\n<!ELEMENT b ANY>\n<?p x?>\n"
    (Rounds bare fuel p n r ∧ r.entities.contains "e" = true ∧
        subset bare fuel p = subset bare n r ∧ NothingAhead bare r) ∧
      parse bare fuel p = .ok .specimen q ∧ q.peeked = none ∧
        .specimen = { q.model with parameters := q.entities } := by
  obtain ⟨fuel, q, h⟩ := parse_specimen
  have hparse := h
  rw [parse_eq] at hparse
  split at hparse
  · cases hparse
  · rename_i q' hsubset
    injection hparse with hresult
    obtain ⟨n, r, hrounds, hends⟩ := rounds_of_subset hsubset
    obtain ⟨hdeclared, -, -⟩ := hends.declared (hrounds.peeked rfl)
    have hentities : r.entities = DocumentType.specimen.parameters := by
      injection hdeclared with hentities
      rw [← hentities, ← hresult]
      rfl
    have hcontains : r.entities.contains "e" = true := by
      rw [hentities]
      decide
    obtain ⟨hround, hend⟩ := nothingAhead_of_parse bare fuel true (start { keepInstructions := true }
      "a.dtd" "<!ENTITY % e \"<!ELEMENT b ANY>\n\">\n<!ELEMENT b ANY>\n<?p x?>\n").stack
    obtain ⟨heq, hnothing⟩ := hround n r hrounds
    exact ⟨fuel, n, r, q, ⟨hrounds, hcontains, heq, hnothing⟩, h, hend _ q h⟩

end Parser

end Doctype
