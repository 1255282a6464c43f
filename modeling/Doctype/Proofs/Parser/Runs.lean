import Doctype.Parser.Run
import Doctype.Proofs.Parser.Effects
import Mathlib.Logic.Relation

/-! A parse as a run of items. -/
namespace Doctype

namespace Parser

open EStateM (Result)

/-- An item is read and takes effect. -/
def Advances (w : World) (p q : Parser) : Prop :=
  ∃ fuel l p₁ i p₂, next w p = .ok l p₁ ∧ l.token ≠ .endOfInput ∧ item w fuel l p₁ = .ok i p₂ ∧
    i.apply p₂ = .ok () q

/-- Any number of items. -/
abbrev Reaches (w : World) : Parser → Parser → Prop :=
  Relation.ReflTransGen (Advances w)

/-- Nothing is left, and all sections are closed. -/
def Ends (w : World) (p q : Parser) : Prop :=
  ∃ l, next w p = .ok l q ∧ l.token = .endOfInput ∧ q.sections = []

/-- The lexemes of an item, the item, and what is left behind it. -/
structure Reads (w : World) (p : Parser) (l : Lexeme) (ls : List Lexeme) (i : Item)
    (k : SourceStack) : Prop where
  pulls : p.stack.Pulls w p.entities (l :: ls) k
  lexical : l.token.Lexical
  last : ∀ m ∈ (l :: ls).getLast?, m.token.isClosed
  shaped : i.Shaped
  /-- With enough fuel, matching lexemes are read as a matching item. -/
  answers : ∃ fuel, ∀ ⦃fuel' p' l' ls' k'⦄, fuel ≤ fuel' → p'.peeked = none →
    p'.stack.Pulls w p'.entities (l' :: ls') k' → l.token = l'.token →
      List.Forall₂ (Match l l') ls ls' →
        ∃ p₁ i', next w p' = .ok l' p₁ ∧ item w fuel' l' p₁ = .ok i' { p' with stack := k' } ∧
          Item.Alike l l' i i'

variable {w : World} {p q : Parser}

/-- An item that opens nothing is a single token. -/
theorem item_of_single {fuel : Nat} {l : Lexeme} {i : Item} (h : item w fuel l p = .ok i q)
    (hopens : l.token.opens = false) : q = p ∧ l.token.isClosed := by
  unfold item at h
  generalize l.token = t at *
  split at h
  · cases hopens
  · cases hopens
  · cases h
    exact ⟨rfl, rfl⟩
  · cases h
    exact ⟨rfl, rfl⟩
  · cases h
    exact ⟨rfl, rfl⟩
  · cases h

/-- What is read for an item leaves no lexeme that has been looked at. -/
theorem Reads.of_item {fuel : Nat} {l : Lexeme} {i : Item} {p₁ p₂ : Parser} (hp : p.peeked = none)
    (hn : next w p = .ok l p₁) (heof : l.token ≠ .endOfInput) (hi : item w fuel l p₁ = .ok i p₂) :
    ∃ ls, Reads w p l ls i p₂.stack ∧ p₂ = { p with stack := p₂.stack } := by
  rw [next_of_none hp] at hn
  obtain ⟨hscan, hp₁⟩ := scan_ok hn
  obtain ⟨hsources, hlex, hne⟩ := open_of_next hscan heof
  have hnone : p₁.peeked = none := by rw [hp₁, hp]
  have hsane := sane_of_peeked hnone
  obtain ⟨-, ⟨_, -, hshaped⟩, ls, htrace, hclosed, -⟩ :=
    depends_item (le_refl fuel) rfl hlex hsane hi
  have hentities : p₁.entities = p.entities := by rw [hp₁]
  have hpulls : p.stack.Pulls w p.entities (l :: ls) p₂.stack :=
    .cons hsources hscan (hentities ▸ htrace.pulls)
  -- the last token is the last of what has been opened, or the only one
  have hlast : p₂.stack.sources ≠ [] ∧ p₂.peeked = none ∧
      ∀ m ∈ (l :: ls).getLast?, m.token.isClosed := by
    cases hopens : l.token.opens with
    | true =>
      obtain ⟨hs, hpeek, m, hm, hmc⟩ := hclosed hopens
      refine ⟨hs, hpeek, fun m' hm' => ?_⟩
      rw [hnone] at hm
      have hm : ls.getLast? = some m := hm
      rw [List.getLast?_cons, hm] at hm'
      cases hm'
      exact hmc
    | false =>
      obtain ⟨rfl, hlc⟩ := item_of_single hi hopens
      obtain rfl : ls = [] := htrace.pulls.unique (.nil _)
      exact ⟨hne, hnone, fun m hm => by cases hm; exact hlc⟩
  obtain ⟨hs, hpeek, hlast⟩ := hlast
  refine ⟨ls, ⟨hpulls, hlex, hlast, hshaped, fuel, ?_⟩, ?_⟩
  · intro fuel' p' l' ls' k' hfuel hp' hpulls' htoken hls
    cases hpulls' with
    | @cons _ k₁ _ _ _ hne' hn' hrest =>
      obtain ⟨-, -, ms, htrace', -, hanswers⟩ := depends_item hfuel htoken hlex hsane hi
      obtain rfl : ms = ls := htrace'.pulls.unique htrace.pulls
      obtain ⟨i', x, hi', hx, halike, -⟩ :=
        @hanswers hs { p' with stack := k₁ } ls' k' (by rw [hnone, hp']; exact .none) hrest hls
      rw [hpeek] at hx
      cases hx
      refine ⟨{ p' with stack := k₁ }, i', ?_, ?_, halike⟩
      · rw [next_of_none hp', scan_eq hn']
      · rw [hi', ← hp']
  · rw [htrace.frame, hpeek, hp₁, ← hp]

theorem Advances.reads (h : Advances w p q) (hp : p.peeked = none) :
    ∃ l ls i k, Reads w p l ls i k ∧ i.apply { p with stack := k } = .ok () q := by
  obtain ⟨fuel, l, p₁, i, p₂, hn, heof, hi, ha⟩ := h
  obtain ⟨ls, hreads, hp₂⟩ := Reads.of_item hp hn heof hi
  exact ⟨l, ls, i, p₂.stack, hreads, hp₂ ▸ ha⟩

theorem Advances.peeked (h : Advances w p q) (hp : p.peeked = none) : q.peeked = none := by
  obtain ⟨l, ls, i, k, -, ha⟩ := h.reads hp
  rw [(effect_of_apply ha).peeked]
  exact hp

theorem Reaches.peeked (h : Reaches w p q) (hp : p.peeked = none) : q.peeked = none := by
  induction h with
  | refl => exact hp
  | tail _ hq ih => exact hq.peeked ih

theorem not_endOfInput_of_lexical {t : Token} (h : t.Lexical) : t ≠ .endOfInput := by
  rintro rfl
  exact h

/-- Matching lexemes make a parse advance by a matching item. -/
theorem Reads.advances {l l' : Lexeme} {ls ls' : List Lexeme} {i : Item} {k k' : SourceStack}
    {p' : Parser} (h : Reads w p l ls i k) (hp' : p'.peeked = none)
    (hpulls : p'.stack.Pulls w p'.entities (l' :: ls') k') (htoken : l.token = l'.token)
    (hls : List.Forall₂ (Match l l') ls ls') :
    ∃ i', Item.Alike l l' i i' ∧
      ∀ q', i'.apply { p' with stack := k' } = .ok () q' → Advances w p' q' := by
  obtain ⟨fuel, hanswers⟩ := h.answers
  obtain ⟨p₁, i', hn, hi, halike⟩ := hanswers (le_refl fuel) hp' hpulls htoken hls
  refine ⟨i', halike, fun q' hq' => ⟨fuel, l', p₁, i', _, hn, ?_, hi, hq'⟩⟩
  exact htoken ▸ not_endOfInput_of_lexical h.lexical

theorem pulls_lexical {k k₁ : SourceStack} {t : EntityTable} {ls : List Lexeme}
    (h : k.Pulls w t ls k₁) : ∀ l ∈ ls, l.token.Lexical ∨ l.token = .endOfInput := by
  induction h with
  | nil => nofun
  | cons _ hn _ ih =>
    intro l hl
    rcases List.mem_cons.1 hl with rfl | hl
    · exact (lexeme_of_next hn).imp And.left And.left
    · exact ih l hl

theorem forall₂_match {l : Lexeme} {ls : List Lexeme}
    (h : ∀ m ∈ ls, m.token.Lexical ∨ m.token = .endOfInput) : List.Forall₂ (Match l l) ls ls := by
  induction ls with
  | nil => exact .nil
  | cons m ls ih =>
    exact .cons ⟨rfl, Iff.rfl, h m List.mem_cons_self⟩ (ih fun m' hm' => h m' (List.mem_cons_of_mem _ hm'))

/-- With more fuel the same lexemes are read as the same item, up to locations. -/
theorem Reads.again {l : Lexeme} {ls : List Lexeme} {i : Item} {k : SourceStack}
    (h : Reads w p l ls i k) (hp : p.peeked = none) :
    ∃ fuel, ∀ fuel', fuel ≤ fuel' → ∃ p₁ i', next w p = .ok l p₁ ∧
      item w fuel' l p₁ = .ok i' { p with stack := k } ∧ Item.Alike l l i i' := by
  have hls := forall₂_match (l := l) fun m hm => pulls_lexical h.pulls m (List.mem_cons_of_mem _ hm)
  obtain ⟨fuel, hanswers⟩ := h.answers
  exact ⟨fuel, fun fuel' hfuel => hanswers hfuel hp h.pulls rfl hls⟩

/-- Where an item stands does not matter for its effect. -/
theorem apply_of_alike {l : Lexeme} {i i' : Item} (h : Item.Alike l l i i')
    (ha : i.apply p = .ok () q) : i'.apply p = .ok () q := by
  cases h with
  | @parameter name l l' definition =>
    change declareParameter name l definition p = _ at ha
    change declareParameter name l' definition p = _
    rw [declareParameter_eq] at ha ⊢
    cases ht : definition.declare p.entities name with
    | error e =>
      rw [ht] at ha
      cases ha
    | ok t =>
      rw [ht] at ha
      exact ha
  | @entity name l l' definition =>
    change declareEntity name l definition p = _ at ha
    change declareEntity name l' definition p = _
    rw [declareEntity_eq] at ha ⊢
    cases ht : definition.resolve p.entities with
    | error e =>
      rw [ht] at ha
      cases ha
    | ok e =>
      rw [ht] at ha
      exact ha
  | _ => exact ha

/-- A parse advances in one way at most. -/
theorem Advances.unique {q' : Parser} (h : Advances w p q) (h' : Advances w p q')
    (hp : p.peeked = none) : q = q' := by
  obtain ⟨l, ls, i, k, hreads, ha⟩ := h.reads hp
  obtain ⟨l', ls', i', k', hreads', ha'⟩ := h'.reads hp
  obtain ⟨fuel, hfuel⟩ := hreads.again hp
  obtain ⟨fuel', hfuel'⟩ := hreads'.again hp
  obtain ⟨p₁, j, hn, hj, halike⟩ := hfuel (max fuel fuel') (le_max_left _ _)
  obtain ⟨p₁', j', hn', hj', halike'⟩ := hfuel' (max fuel fuel') (le_max_right _ _)
  rw [hn] at hn'
  cases hn'
  rw [hj] at hj'
  injection hj' with hij hk
  subst hij
  have hq := apply_of_alike halike ha
  have hq' := apply_of_alike halike' ha'
  rw [hk, hq'] at hq
  injection hq with _ hqq
  exact hqq.symm

theorem Ends.not_advances {q' : Parser} (h : Ends w p q) : ¬Advances w p q' := by
  rintro ⟨fuel, l, p₁, i, p₂, hn, heof, -⟩
  obtain ⟨l', hn', heof', -⟩ := h
  rw [hn] at hn'
  cases hn'
  exact heof heof'

/-- A parse that comes to its end passes through every state that it reaches. -/
theorem Reaches.of_ends {r e : Parser} (h : Reaches w p q) (hr : Reaches w p r) (he : Ends w r e)
    (hp : p.peeked = none) : Reaches w q r := by
  induction h using Relation.ReflTransGen.head_induction_on with
  | refl => exact hr
  | @head p p₁ hstep _ ih =>
    rcases Relation.ReflTransGen.cases_head hr with rfl | ⟨p₁', hstep', hr'⟩
    · exact absurd hstep he.not_advances
    · obtain rfl := hstep.unique hstep' hp
      exact ih hr' (hstep.peeked hp)

theorem finish_eq (l : Lexeme) (p : Parser) :
    finish l p =
      match p.sections with
      | [] => .ok () p
      | (_, location) :: _ =>
        unexpected l ("`]]>` closing the section opened at " ++ location.text) p := by
  simp only [finish, bind, EStateM.bind, get_eq_ok]
  cases p.sections <;> rfl

theorem subset_succ (w : World) (fuel : Nat) (p : Parser) :
    subset w (fuel + 1) p =
      match next w p with
      | .error e p₁ => .error e p₁
      | .ok l p₁ =>
        if l.token = .endOfInput then finish l p₁
        else
          match item w fuel l p₁ with
          | .error e p₂ => .error e p₂
          | .ok i p₂ =>
            match i.apply p₂ with
            | .error e p₃ => .error e p₃
            | .ok _ p₃ => subset w fuel p₃ := by
  simp only [subset, bind, EStateM.bind]
  cases next w p with
  | error e p₁ => rfl
  | ok l p₁ =>
    by_cases heof : l.token = .endOfInput
    · simp only [heof, if_true]
    · simp only [heof, if_false]
      unfold EStateM.bind
      cases item w fuel l p₁ with
      | error e p₂ => rfl
      | ok i p₂ =>
        dsimp only
        cases i.apply p₂ <;> rfl

/-- A parse that succeeds has come to the end of input, or reads an item and goes on. -/
theorem subset_cases {fuel : Nat} (h : subset w fuel p = .ok () q) :
    ∃ n, fuel = n + 1 ∧
      ((∃ l, next w p = .ok l q ∧ l.token = .endOfInput ∧ q.sections = []) ∨
        ∃ l p₁ i p₂ p₃, next w p = .ok l p₁ ∧ l.token ≠ .endOfInput ∧ item w n l p₁ = .ok i p₂ ∧
          i.apply p₂ = .ok () p₃ ∧ subset w n p₃ = .ok () q) := by
  cases fuel with
  | zero => cases h
  | succ n =>
    refine ⟨n, rfl, ?_⟩
    obtain ⟨l, p₁, hn, h⟩ := exists_of_bind h
    by_cases heof : l.token = .endOfInput
    · rw [if_pos heof, finish_eq] at h
      left
      cases hs : p₁.sections with
      | nil =>
        rw [hs] at h
        cases h
        exact ⟨l, hn, heof, hs⟩
      | cons =>
        rw [hs] at h
        cases h
    · rw [if_neg heof] at h
      right
      obtain ⟨i, p₂, hi, h⟩ := exists_of_bind h
      obtain ⟨u, p₃, ha, h⟩ := exists_of_bind h
      exact ⟨l, p₁, i, p₂, p₃, hn, heof, hi, ha, h⟩

theorem reaches_of_subset {fuel : Nat} (h : subset w fuel p = .ok () q) :
    ∃ r, Reaches w p r ∧ Ends w r q := by
  induction fuel generalizing p with
  | zero => cases h
  | succ fuel ih =>
    obtain ⟨n, hfuel, h⟩ := subset_cases h
    cases hfuel
    rcases h with ⟨l, hn, heof, hs⟩ | ⟨l, p₁, i, p₂, p₃, hn, heof, hi, ha, hrest⟩
    · exact ⟨p, .refl, l, hn, heof, hs⟩
    · obtain ⟨r, hr, he⟩ := ih hrest
      exact ⟨r, .head ⟨fuel, l, p₁, i, p₂, hn, heof, hi, ha⟩ hr, he⟩

theorem subset_of_ends (h : Ends w p q) (fuel : Nat) : subset w (fuel + 1) p = .ok () q := by
  obtain ⟨l, hn, heof, hs⟩ := h
  rw [subset_succ]
  simp only [hn]
  rw [if_pos heof, finish_eq, hs]

theorem subset_of_advances {r : Parser} {fuel : Nat} (h : Advances w p q) (hp : p.peeked = none)
    (hs : ∀ fuel', fuel ≤ fuel' → subset w fuel' q = .ok () r) :
    ∃ fuel, ∀ fuel', fuel ≤ fuel' → subset w fuel' p = .ok () r := by
  obtain ⟨l, ls, i, k, hreads, ha⟩ := h.reads hp
  obtain ⟨fuel₁, hagain⟩ := hreads.again hp
  refine ⟨max fuel fuel₁ + 1, fun fuel' hfuel' => ?_⟩
  obtain ⟨fuel', rfl⟩ : ∃ n, fuel' = n + 1 := ⟨fuel' - 1, by omega⟩
  obtain ⟨p₁, i', hn, hi, halike⟩ := hagain fuel' (by omega)
  rw [subset_succ]
  simp only [hn]
  rw [if_neg (not_endOfInput_of_lexical hreads.lexical)]
  simp only [hi, apply_of_alike halike ha]
  exact hs fuel' (by omega)

/-- A run up to the end of input is a parse, given enough fuel. -/
theorem subset_of_reaches {r : Parser} (h : Reaches w p q) (he : Ends w q r)
    (hp : p.peeked = none) : ∃ fuel, ∀ fuel', fuel ≤ fuel' → subset w fuel' p = .ok () r := by
  induction h using Relation.ReflTransGen.head_induction_on with
  | refl =>
    refine ⟨1, fun fuel' hfuel' => ?_⟩
    obtain ⟨fuel', rfl⟩ : ∃ n, fuel' = n + 1 := ⟨fuel' - 1, by omega⟩
    exact subset_of_ends he fuel'
  | head hstep _ ih =>
    obtain ⟨fuel, hs⟩ := ih (hstep.peeked hp)
    exact subset_of_advances hstep hp hs

end Parser

/-- A text parses to a document type, given enough fuel. -/
def Parses (w : World) (options : Options) (name text : String) (m : DocumentType) : Prop :=
  ∃ fuel, (parseText w fuel options name text).1 = .ok m

/-- The base of the settings is a directory. -/
def Options.Usable (options : Options) (w : World) : Prop :=
  ∀ path ∈ options.base, w.files.isDirectory path

/-- The directory that relative identifiers in the outermost source refer to. -/
def Options.directory (options : Options) : Path :=
  options.base.getD "."

namespace Parser

/-- The source that a text is parsed from. -/
def outermost (options : Options) (cursor : Cursor) : Source :=
  ⟨1, none, .dir options.directory, cursor⟩

/-- The state in which the parse of a text begins. -/
def start (options : Options) (name text : String) : Parser where
  stack :=
    { sources := [outermost options { name, unread := .ofText text }]
      bottom := .dir "."
      ending := ⟨name, 1, 1⟩
      nextId := 2
      journal := (options.base.map Event.sought).toList }
  keepInstructions := options.keepInstructions

/-- The document type at the end of a parse. -/
def result (p : Parser) : DocumentType :=
  { p.model with parameters := p.entities }

/-- The event at the end of a parse. -/
def conclusion (p : Parser) : Event :=
  .parsed p.model.elements.length p.model.attlists.length p.model.entities.length p.entities.size

variable {w : World} {p q : Parser} {options : Options} {name text : String} {m : DocumentType}

theorem parse_eq (w : World) (fuel : Nat) (p : Parser) :
    parse w fuel p =
      match subset w fuel p with
      | .error e q => .error e q
      | .ok _ q => .ok q.result { q with stack := q.stack.note q.conclusion } := by
  simp only [parse, bind, EStateM.bind]
  cases subset w fuel p <;> rfl

theorem parseText_eq (w : World) (fuel : Nat) (hu : options.Usable w) :
    parseText w fuel options name text =
      match parse w fuel (start options name text) with
      | .ok m q => (.ok m, q.stack.journal)
      | .error e q => (.error e, q.stack.journal) := by
  obtain ⟨base, keep⟩ := options
  cases base with
  | none => rfl
  | some path =>
    have hdir : w.files.isDirectory path = true := hu path rfl
    unfold parseText parseSources
    simp only [SourceStack.setBase, hdir, if_true, SourceStack.ofText, SourceStack.note]
    rfl

theorem usable_of_parseText {fuel : Nat} (h : (parseText w fuel options name text).1 = .ok m) :
    options.Usable w := by
  intro path hpath
  obtain ⟨base, keep⟩ := options
  cases hpath
  by_contra hdir
  unfold parseText parseSources at h
  simp only [SourceStack.setBase, hdir, if_false] at h
  cases h

/-- The outcome of a parse, by its run. -/
theorem parseText_ok {fuel : Nat} (h : (parseText w fuel options name text).1 = .ok m) :
    ∃ p q, Reaches w (start options name text) p ∧ Ends w p q ∧ m = q.result ∧
      (parseText w fuel options name text).2 = q.conclusion :: q.stack.journal := by
  have hu := usable_of_parseText h
  rw [parseText_eq w fuel hu] at h ⊢
  rw [parse_eq] at h ⊢
  cases hs : subset w fuel (start options name text) with
  | error e q =>
    rw [hs] at h
    cases h
  | ok u q =>
    rw [hs] at h
    cases h
    obtain ⟨p, hr, he⟩ := reaches_of_subset hs
    exact ⟨p, q, hr, he, rfl, rfl⟩

/-- A run over a text gives the outcome of its parse. -/
theorem parseText_of_reaches (hu : options.Usable w) (hr : Reaches w (start options name text) p)
    (he : Ends w p q) :
    ∃ fuel, parseText w fuel options name text =
      (.ok q.result, q.conclusion :: q.stack.journal) := by
  obtain ⟨fuel, hs⟩ := subset_of_reaches hr he rfl
  use fuel
  rw [parseText_eq w fuel hu, parse_eq, hs fuel (le_refl fuel)]
  rfl

/-- A text parses to the document type that a run over it ends with. -/
theorem parses_iff :
    Parses w options name text m ↔
      options.Usable w ∧
        ∃ p q, Reaches w (start options name text) p ∧ Ends w p q ∧ m = q.result := by
  constructor
  · rintro ⟨fuel, h⟩
    obtain ⟨p, q, hr, he, hm, -⟩ := parseText_ok h
    exact ⟨usable_of_parseText h, p, q, hr, he, hm⟩
  · rintro ⟨hu, p, q, hr, he, rfl⟩
    obtain ⟨fuel, h⟩ := parseText_of_reaches hu hr he
    use fuel
    rw [h]

end Parser

end Doctype
