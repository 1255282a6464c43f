import Doctype.Proofs.Parser.Congruence
import Doctype.Proofs.Parser.Inclusion
import Doctype.Proofs.Source.Faults

/-! Where the errors of a parse come from. Each of them has one location. -/
namespace Doctype

namespace Error

/-- Errors that carry no location and can be raised in a parse. -/
inductive Bare : Error → Prop
  | invalidEntity (detail : String) : Bare (.invalidEntity detail)
  | undeclaredEntity (name : String) : Bare (.undeclaredEntity name)
  | unresolvedReference (name target reason : String) :
      Bare (.unresolvedReference name target reason)
  | cyclicEntity (name : String) : Bare (.cyclicEntity name)
  | io (cause : IoError) : Bare (.io cause)

/-- Errors that have exactly one location, of their own or put around them. -/
inductive Placed : Error → Prop
  | lexical (l : Location) (detail : String) : Placed (.lexical l detail)
  | grammar (l : Location) (found expected : String) : Placed (.grammar l found expected)
  | located (l : Location) {e : Error} : e.Bare → Placed (.located l e)

/-- The errors of reading an item: those of the sources, and those of the grammar. -/
inductive Syntactic : Error → Prop
  | sourced {e : Error} : e.Sourced → Syntactic e
  | grammar (l : Location) (found expected : String) : Syntactic (.grammar l found expected)

variable {e : Error}

theorem Bare.location? (h : e.Bare) : e.location? = none := by
  cases h <;> rfl

theorem Bare.root (h : e.Bare) : e.root = e := by
  cases h <;> rfl

theorem Bare.locate (h : e.Bare) (l : Location) : e.locate l = .located l e := by
  unfold Error.locate
  rw [h.location?]

theorem Referential.bare (h : e.Referential) : e.Bare := by
  cases h <;> constructor

theorem Sourced.placed (h : e.Sourced) : e.Placed := by
  cases h with
  | text h =>
    cases h with
    | lexical l detail => exact .lexical l detail
    | io l cause => exact .located l (.io cause)
  | reference l h => exact .located l h.bare

theorem Syntactic.placed (h : e.Syntactic) : e.Placed := by
  cases h with
  | sourced h => exact h.placed
  | grammar l found expected => exact .grammar l found expected

theorem Sourced.root_ne (h : e.Sourced) (detail : String) : e.root ≠ .invalidEntity detail := by
  cases h with
  | text h => cases h <;> exact nofun
  | reference l h => cases h <;> exact nofun

theorem Syntactic.root_ne (h : e.Syntactic) (detail : String) : e.root ≠ .invalidEntity detail := by
  cases h with
  | sourced h => exact h.root_ne detail
  | grammar => exact nofun

theorem Placed.isSome_location? (h : e.Placed) : e.location?.isSome := by
  cases h <;> rfl

/-- Locations are not put around each other. -/
theorem Placed.bare_of_located {l : Location} (h : (Error.located l e).Placed) : e.Bare := by
  cases h with
  | located _ h => exact h

theorem Placed.root_ne (h : e.Placed) (detail : String) :
    e.root ≠ .configuration detail ∧ e.root ≠ .template detail := by
  cases h with
  | lexical => exact ⟨nofun, nofun⟩
  | grammar => exact ⟨nofun, nofun⟩
  | located l h => cases h <;> exact ⟨nofun, nofun⟩

end Error

namespace EntityTable

variable {t : EntityTable} {name text : String} {e : Error}

theorem referential_of_replacement (h : t.replacement name = .error e) : e.Referential := by
  unfold replacement at h
  split at h
  · cases h
  · split at h
    · cases h
      exact .unresolved _ _ _
    · cases h
      exact .undeclared name

theorem referential_of_expandChars {cs : List Char} (h : t.expandChars cs = .error e) :
    e.Referential := by
  fun_induction expandChars t cs with
  | case1 => cases h
  | case2 cs name rest href ih =>
    cases hr : t.replacement (.ofList name) with
    | error e' =>
      rw [hr] at h
      cases h
      exact referential_of_replacement hr
    | ok text =>
      rw [hr] at h
      cases hx : t.expandChars rest with
      | error e' =>
        rw [hx] at h
        cases h
        exact ih hx
      | ok ds =>
        rw [hx] at h
        cases h
  | case3 cs href ih =>
    cases hx : t.expandChars cs with
    | error e' =>
      rw [hx] at h
      cases h
      exact ih hx
    | ok ds =>
      rw [hx] at h
      cases h
  | case4 c cs hc ih =>
    cases hx : t.expandChars cs with
    | error e' =>
      rw [hx] at h
      cases h
      exact ih hx
    | ok ds =>
      rw [hx] at h
      cases h

theorem referential_of_expand (h : t.expand text = .error e) : e.Referential := by
  unfold expand at h
  cases hx : t.expandChars text.toList with
  | error e' =>
    rw [hx] at h
    cases h
    exact referential_of_expandChars hx
  | ok cs =>
    rw [hx] at h
    cases h

theorem bare_of_declare {kind : EntityKind} {content : String}
    (h : t.declare name kind content = .error e) : e.Bare := by
  unfold declare at h
  split at h
  · cases h
    exact .invalidEntity _
  · split at h
    · cases h
      exact .invalidEntity _
    · split at h
      · cases h
      · cases kind with
        | uri => cases h
        | value =>
          cases hx : t.expand content with
          | error e' =>
            rw [hx] at h
            cases h
            exact (referential_of_expand hx).bare
          | ok value =>
            rw [hx] at h
            cases h

end EntityTable

namespace Definition

variable {t : EntityTable} {d : Definition} {e : Error}

theorem bare_of_declare {name : String} (h : d.declare t name = .error e) : e.Bare := by
  unfold declare at h
  split at h
  · exact EntityTable.bare_of_declare h
  · exact EntityTable.bare_of_declare h

theorem referential_of_resolve (h : d.resolve t = .error e) : e.Referential := by
  cases d with
  | literal value =>
    simp only [resolve] at h
    cases hx : t.expand value with
    | error e' =>
      rw [hx] at h
      cases h
      exact EntityTable.referential_of_expand hx
    | ok text =>
      rw [hx] at h
      cases h
  | external id notationName => cases notationName <;> cases h

end Definition

namespace Parser

open EStateM (Result)

variable {w : World} {fuel : Nat} {p q : Parser} {l : Lexeme} {i : Item} {e : Error}

/-- An action that fails with errors of the sources and of the grammar only. -/
def Blames {α : Type} (m : ParserM α) : Prop :=
  ∀ p e q, m p = .error (.error e) q → e.Syntactic

theorem blames_scan (w : World) : Blames (scan w) := by
  intro p e q h
  unfold scan at h
  split at h
  · cases h
  · rename_i hn
    cases h
    exact .sourced (SourceStack.sourced_of_next hn)

theorem blames_next (w : World) : Blames (next w) := by
  intro p e q h
  cases hp : p.peeked with
  | none =>
    rw [next_of_none hp] at h
    exact blames_scan w p e q h
  | some l =>
    rw [next_of_peeked hp] at h
    cases h

theorem blames_peek (w : World) : Blames (peek w) := by
  intro p e q h
  cases hp : p.peeked with
  | none =>
    rw [peek_of_none hp] at h
    cases hs : scan w p with
    | error halt q' =>
      rw [hs] at h
      cases h
      exact blames_scan w p e _ hs
    | ok l q' =>
      rw [hs] at h
      cases h
  | some l =>
    rw [peek_of_peeked hp] at h
    cases h

theorem blames_pure {α : Type} (a : α) : Blames (pure a) := by
  intro p e q h
  cases h

theorem Blames.bind {α β : Type} {m : ParserM α} {f : α → ParserM β} (hm : Blames m)
    (hf : ∀ a, Blames (f a)) : Blames (m >>= f) := by
  intro p e q h
  simp only [Bind.bind, EStateM.bind] at h
  cases hr : m p with
  | error halt q' =>
    rw [hr] at h
    cases h
    exact hm p e _ hr
  | ok a q' =>
    rw [hr] at h
    exact hf a q' e q h

theorem blames_grammar {α : Type} (l : Location) (found expected : String) :
    Blames (fail (α := α) (.grammar l found expected)) := by
  intro p e q h
  cases h
  exact .grammar l found expected

theorem blames_outOfFuel {α : Type} : Blames (throw .outOfFuel : ParserM α) := by
  intro p e q h
  cases h

theorem congruence_blames (w : World) : Congruence w w fun m _ => Blames m where
  pure := blames_pure
  bind := Blames.bind
  grammar := blames_grammar
  outOfFuel := blames_outOfFuel
  next := blames_next w
  peek := blames_peek w

theorem blames_unexpected {α : Type} (l : Lexeme) (expected : String) :
    Blames (unexpected (α := α) l expected) :=
  blames_grammar _ _ _

theorem syntactic_of_closeSection (h : closeSection l p = .error (.error e) q) : e.Syntactic := by
  rw [closeSection_eq] at h
  split at h
  · exact blames_unexpected _ _ p e q h
  · split at h
    · cases h
    · exact blames_unexpected _ _ p e q h

theorem textual_of_skipIgnored (h : skipIgnored p = .error (.error e) q) : e.Textual := by
  unfold skipIgnored at h
  split at h
  · cases h
  · rename_i hskip
    cases h
    exact SourceStack.textual_of_skipIgnored hskip

/-- An item that cannot take effect skips or closes a section that it cannot skip or close, or
declares an entity that cannot be declared. -/
theorem error_of_apply (h : i.apply p = .error (.error e) q) :
    e.Syntactic ∨
      (∃ name location d e', i = .parameter name location d ∧ d.declare p.entities name = .error e' ∧
        e = .located location e') ∨
      ∃ name location d e', i = .entity name location d ∧ d.resolve p.entities = .error e' ∧
        e = .located location e' := by
  cases i with
  | element name content =>
    have happly := declareElement_eq name content p
    exact absurd (h.symm.trans happly) nofun
  | attlist name defs => exact absurd (h.symm.trans (defineAttributes_eq name defs p)) nofun
  | notation_ name ids => exact absurd (h.symm.trans (declareNotation_eq name ids p)) nofun
  | instruction target data => exact absurd (h.symm.trans (keepInstruction_eq target data p)) nofun
  | included | comment => cases h
  | ignored opener =>
    have hskip : skipIgnored { p with stack := p.stack.note (.skipping opener.location) } =
        .error (.error e) q := h
    exact .inl (.sourced (.text (textual_of_skipIgnored hskip)))
  | sectionClose closer => exact .inl (syntactic_of_closeSection h)
  | parameter name location d =>
    have happly := h.symm.trans (declareParameter_eq name location d p)
    cases hd : d.declare p.entities name with
    | ok t =>
      rw [hd] at happly
      cases happly
    | error e' =>
      rw [hd] at happly
      cases happly
      exact .inr (.inl ⟨name, location, d, e', rfl, hd, (Definition.bare_of_declare hd).locate _⟩)
  | entity name location d =>
    have happly := h.symm.trans (declareEntity_eq name location d p)
    cases hd : d.resolve p.entities with
    | ok t =>
      rw [hd] at happly
      cases happly
    | error e' =>
      rw [hd] at happly
      cases happly
      have hbare := (Definition.referential_of_resolve hd).bare
      exact .inr (.inr ⟨name, location, d, e', rfl, hd, hbare.locate _⟩)

/-- What a parse fails at when it has come to some item. -/
inductive Fails (w : World) (r : Parser) (e : Error) : Prop
  /-- There is no item to read, or its section cannot be skipped or closed. -/
  | syntactic : e.Syntactic → Fails w r e
  /-- A parameter entity cannot be declared. -/
  | parameter {fuel : Nat} {l : Lexeme} {r₁ r₂ : Parser} {name : String} {location : Location}
      {d : Definition} {cause : Error} : next w r = .ok l r₁ →
        item w fuel l r₁ = .ok (.parameter name location d) r₂ →
          d.declare r₂.entities name = .error cause → e = .located location cause → Fails w r e
  /-- The value of a general entity cannot be expanded. -/
  | entity {location : Location} {cause : Error} : cause.Referential →
      e = .located location cause → Fails w r e

theorem fails_of_apply {r₁ r₂ : Parser} (hn : next w p = .ok l r₁) (hi : item w fuel l r₁ = .ok i r₂)
    (h : i.apply r₂ = .error (.error e) q) : Fails w p e := by
  obtain he | ⟨name, location, d, cause, rfl, hd, rfl⟩ | ⟨name, location, d, cause, rfl, hd, rfl⟩ :=
    error_of_apply h
  · exact .syntactic he
  · exact .parameter hn hi hd rfl
  · exact .entity (Definition.referential_of_resolve hd) rfl

theorem syntactic_of_finish (h : finish l p = .error (.error e) q) : e.Syntactic := by
  rw [finish_eq] at h
  split at h
  · cases h
  · exact blames_unexpected _ _ _ e q h

/-- A parse fails behind the items that have taken effect. -/
theorem fails_of_subset (h : subset w fuel p = .error (.error e) q) :
    ∃ r, Reaches w p r ∧ Fails w r e := by
  induction fuel generalizing p with
  | zero => cases h
  | succ fuel ih =>
    rw [subset_succ] at h
    cases hn : next w p with
    | error halt p₁ =>
      rw [hn] at h
      cases h
      exact ⟨p, .refl, .syntactic (blames_next w p e _ hn)⟩
    | ok l p₁ =>
      simp only [hn] at h
      by_cases heof : l.token = .endOfInput
      · rw [if_pos heof] at h
        exact ⟨p, .refl, .syntactic (syntactic_of_finish h)⟩
      · rw [if_neg heof] at h
        cases hi : item w fuel l p₁ with
        | error halt p₂ =>
          simp only [hi] at h
          cases h
          exact ⟨p, .refl, .syntactic ((congruence_blames w).item fuel l p₁ e _ hi)⟩
        | ok i p₂ =>
          simp only [hi] at h
          cases ha : i.apply p₂ with
          | error halt p₃ =>
            simp only [ha] at h
            cases h
            exact ⟨p, .refl, fails_of_apply hn hi ha⟩
          | ok u p₃ =>
            simp only [ha] at h
            obtain ⟨r, hr, hfails⟩ := ih h
            exact ⟨r, .head ⟨fuel, l, p₁, i, p₂, hn, heof, hi, ha⟩ hr, hfails⟩

/-- A parameter entity is declared under something that is no name, where its location is. -/
def Misnames (w : World) (r : Parser) (location : Location) (detail : String) : Prop :=
  ∃ fuel l r₁ r₂ name d, next w r = .ok l r₁ ∧
    item w fuel l r₁ = .ok (.parameter name location d) r₂ ∧
      d.declare r₂.entities name = .error (.invalidEntity detail)

theorem Fails.placed (h : Fails w p e) : e.Placed := by
  cases h with
  | syntactic h => exact h.placed
  | parameter hn hi hd he => exact he ▸ .located _ (Definition.bare_of_declare hd)
  | entity h he => exact he ▸ .located _ h.bare

theorem Fails.misnames {detail : String} (h : Fails w p e) (he : e.root = .invalidEntity detail) :
    ∃ location, Misnames w p location detail ∧ e = .located location (.invalidEntity detail) := by
  cases h with
  | syntactic h => exact absurd he (h.root_ne detail)
  | @parameter fuel l r₁ r₂ name location d cause hn hi hd hcause =>
    subst hcause
    obtain rfl : cause = .invalidEntity detail := (Definition.bare_of_declare hd).root.symm.trans he
    exact ⟨location, ⟨fuel, l, r₁, r₂, name, d, hn, hi, hd⟩, rfl⟩
  | entity h hcause =>
    subst hcause
    cases h <;> cases he

/-- Every error of a parse has exactly one location: it is an error of a text or of the grammar at
its own location, or has one put around it, but never two. Errors of settings and of templates do
not occur. An entity under an invalid name is reported where a parameter entity is declared, and
never where a reference is scanned. -/
theorem placed_of_parse (w : World) :
    (∀ fuel s keep e q,
      parse w fuel { stack := s, keepInstructions := keep } = .error (.error e) q →
        e.Placed ∧ e.location?.isSome ∧ (∀ l cause, e = .located l cause → cause.location? = none) ∧
        (∀ detail, e.root ≠ .configuration detail ∧ e.root ≠ .template detail) ∧
        ∀ detail, e.root = .invalidEntity detail →
          ∃ r location, Reaches w { stack := s, keepInstructions := keep } r ∧
            Misnames w r location detail ∧ e = .located location (.invalidEntity detail)) ∧
    ∀ t (k : SourceStack) e k', k.next w t = .error e k' → ∀ detail, e.root ≠ .invalidEntity detail := by
  constructor
  · intro fuel s keep e q h
    rw [parse_eq] at h
    cases hs : subset w fuel { stack := s, keepInstructions := keep } with
    | ok u q' =>
      rw [hs] at h
      cases h
    | error halt q' =>
      rw [hs] at h
      cases h
      obtain ⟨r, hr, hfails⟩ := fails_of_subset hs
      have hplaced := hfails.placed
      refine ⟨hplaced, hplaced.isSome_location?, ?_, hplaced.root_ne, fun detail he => ?_⟩
      · rintro l cause rfl
        exact hplaced.bare_of_located.location?
      · obtain ⟨location, hmisnames, he⟩ := hfails.misnames he
        exact ⟨r, location, hr, hmisnames, he⟩
  · exact fun t k e k' h => (SourceStack.sourced_of_next h).root_ne

theorem parse_digit : ∃ location q,
    parse bare 1 { stack := .ofText "a.dtd" "<!ENTITY % 1 \"x\">" "." } =
      .error (.error (.located location
        (.invalidEntity "`1` is not a valid entity name"))) q := by
  let p : Parser := { stack := .ofText "a.dtd" "<!ENTITY % 1 \"x\">" "." }
  let source : Source :=
    ⟨1, none, .dir ".", { name := "a.dtd", unread := .ofText "<!ENTITY % 1 \"x\">" }⟩
  have hfacing : p.Facing source "<!ENTITY % 1 \"x\">".toList :=
    .of_shows rfl rfl (Cursor.shows_ofText _ _)
  have hlex : lex "<!ENTITY % 1 \"x\">".toList = .token (.decl .entity) " % 1 \"x\">".toList := by
    decide
  obtain ⟨l, p₁, hn, ⟨hl, hsource⟩, hfacing₁, hstill₁⟩ := takes_next (w := bare) hlex p hfacing
  have hname : Nmtoken "1" := nmtoken_of_all (by decide) (by decide)
  have hshaped : (Definition.literal "x").Shaped := .inl (by decide)
  obtain ⟨i, p₂, hi, ⟨location, rfl⟩, -, hstill₂⟩ :=
    takes_parameter bare [] hsource hname hshaped nofun p₁ hfacing₁
  have hentities : p₂.entities = {} := by rw [(hstill₁.trans hstill₂).frame]
  have hitem : item bare 0 l p₁ = .ok (.parameter "1" location (.literal "x")) p₂ := by
    unfold item
    rw [hl]
    exact hi
  have happly : (Item.parameter "1" location (.literal "x")).apply p₂ =
      .error (.error (.located location (.invalidEntity "`1` is not a valid entity name"))) p₂ := by
    refine (declareParameter_eq "1" location (.literal "x") p₂).trans ?_
    rw [hentities]
    rfl
  refine ⟨location, p₂, ?_⟩
  have hsubset : subset bare 1 p =
      .error (.error (.located location (.invalidEntity "`1` is not a valid entity name"))) p₂ := by
    rw [subset_succ]
    simp only [hn, hitem]
    rw [if_neg (hl ▸ nofun)]
    simp only [happly]
  rw [parse_eq, hsubset]

theorem next_undeclared : ∃ e k,
    (SourceStack.ofText "a.dtd" "%e;" ".").next bare {} = .error e k := by
  have hlex : lex "%e;".toList = .reference "e" [] := by decide
  obtain ⟨l, hl⟩ := Cursor.scan_lex (Cursor.shows_ofText "a.dtd" "%e;")
  rw [hlex] at hl
  obtain ⟨cursor, hscan, -⟩ := hl
  let source : Source := ⟨1, none, .dir ".", { name := "a.dtd", unread := .ofText "%e;" }⟩
  let s : SourceStack := .ofText "a.dtd" "%e;" "."
  have hstep : s.step bare {} = _ := SourceStack.step_reference rfl hscan
  have hopen : ({} : EntityTable).openReference bare "e" (s.readTo source [] cursor).base =
      .error (.undeclaredEntity "e") := rfl
  obtain ⟨k, hk⟩ := SourceStack.enter_error hopen
  rw [hk] at hstep
  exact ⟨_, k, by rw [SourceStack.next_eq, hstep]⟩

theorem placed_of_parse_digit :
    (∃ location q,
      parse bare 1 { stack := .ofText "a.dtd" "<!ENTITY % 1 \"x\">" "." } =
        .error (.error (.located location
          (.invalidEntity "`1` is not a valid entity name"))) q ∧
      ∃ r, Reaches bare { stack := .ofText "a.dtd" "<!ENTITY % 1 \"x\">" "." } r ∧
        Misnames bare r location "`1` is not a valid entity name") ∧
    ∃ e k, (SourceStack.ofText "a.dtd" "%e;" ".").next bare {} = .error e k ∧
      ∀ detail, e.root ≠ .invalidEntity detail := by
  obtain ⟨hplaced, hscanned⟩ := placed_of_parse bare
  obtain ⟨location, q, h⟩ := parse_digit
  obtain ⟨-, -, -, -, hmisnames⟩ := hplaced 1 _ false _ q h
  obtain ⟨r, location', hr, hm, he⟩ := hmisnames _ rfl
  cases he
  obtain ⟨e, k, hnext⟩ := next_undeclared
  exact ⟨⟨location, q, h, r, hr, hm⟩, e, k, hnext, hscanned _ _ _ _ hnext⟩

end Parser

end Doctype
