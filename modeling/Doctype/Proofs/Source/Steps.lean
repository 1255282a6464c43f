import Doctype.Source.Tokens

/-! The steps of a stack of sources, by what is scanned in the innermost one. -/
namespace Doctype.SourceStack

open EStateM (Result)

variable {w : World} {t : EntityTable} {s s' : SourceStack} {name : String}

theorem foldl_note (events : List Event) (s : SourceStack) :
    events.foldl note s = { s with journal := events.reverse ++ s.journal } := by
  induction events generalizing s with
  | nil => rfl
  | cons event events ih =>
    rw [List.foldl_cons, ih, List.reverse_cons, List.append_assoc]
    rfl

theorem isOpen_iff : s.isOpen name ↔ name ∈ s.sources.filterMap (·.entity) := by
  simp [isOpen, List.mem_filterMap]

/-- A stack with the innermost source read up to a cursor. -/
def readTo (s : SourceStack) (source : Source) (below : List Source) (cursor : Cursor) :
    SourceStack :=
  { s with sources := { source with cursor } :: below }

/-- The source that holds the replacement text of an entity. -/
def expanding (s : SourceStack) (name : String) (text : EntityText) : Source :=
  ⟨s.nextId, some name, text.origin.base?.getD s.base,
    { name := text.origin.text, unread := text.content }⟩

/-- A stack with the replacement text of an entity opened. -/
def entered (w : World) (t : EntityTable) (name : String) (text : EntityText) (s : SourceStack) :
    SourceStack :=
  { s with
    sources := s.expanding name text :: s.sources
    nextId := s.nextId + 1
    journal := .entering text.origin.text (s.depth + 1) ::
      ((t.openEvents w name s.base).reverse ++ s.journal) }

/-- A stack that has recorded what is looked for when an entity is opened. -/
def referred (w : World) (t : EntityTable) (name : String) (s : SourceStack) : SourceStack :=
  { s with journal := (t.openEvents w name s.base).reverse ++ s.journal }

theorem enter_eq (w : World) (t : EntityTable) (name : String) (s : SourceStack) :
    s.enter w t name =
      match t.openReference w name s.base with
      | .error e => .error e (s.referred w t name)
      | .ok text =>
        if s.isOpen name then .error (.cyclicEntity name) (s.referred w t name)
        else .ok () (s.entered w t name text) := by
  unfold enter
  rw [foldl_note]
  cases t.openReference w name s.base with
  | error e => rfl
  | ok text =>
    have hsame : isOpen { s with journal := (t.openEvents w name s.base).reverse ++ s.journal } name =
        s.isOpen name := rfl
    cases ho : s.isOpen name
    · simp only [push, Option.filter_some, hsame, ho, Bool.false_eq_true, if_false]
      rfl
    · simp only [push, Option.filter_some, hsame, ho, if_true]
      rfl

theorem enter_error {e : Error} (h : t.openReference w name s.base = .error e) :
    ∃ s', s.enter w t name = .error e s' :=
  ⟨_, by rw [enter_eq, h]⟩

theorem enter_cycle {text : EntityText} (h : t.openReference w name s.base = .ok text)
    (ho : s.isOpen name) : ∃ s', s.enter w t name = .error (.cyclicEntity name) s' := by
  refine ⟨s.referred w t name, ?_⟩
  simp only [enter_eq, h, ho, if_true]

theorem enter_ok {text : EntityText} (h : t.openReference w name s.base = .ok text)
    (ho : ¬s.isOpen name) : s.enter w t name = .ok () (s.entered w t name text) := by
  simp only [enter_eq, h, ho, Bool.false_eq_true, if_false]

/-- A replacement text is entered if it can be opened and is not being expanded. -/
theorem enter_eq_ok_iff :
    s.enter w t name = .ok () s' ↔
      ∃ text, t.openReference w name s.base = .ok text ∧ ¬s.isOpen name ∧
        s' = s.entered w t name text := by
  constructor
  · intro h
    cases hopen : t.openReference w name s.base with
    | error e =>
      obtain ⟨u, hu⟩ := enter_error hopen
      rw [hu] at h
      cases h
    | ok text =>
      by_cases ho : s.isOpen name
      · obtain ⟨u, hu⟩ := enter_cycle hopen ho
        rw [hu] at h
        cases h
      · rw [enter_ok hopen ho] at h
        cases h
        exact ⟨text, rfl, ho, rfl⟩
  · rintro ⟨text, hopen, ho, rfl⟩
    exact enter_ok hopen ho

section Steps

variable {source : Source} {below : List Source} {cursor : Cursor} {token : Token}
  {location : Location}

theorem step_error (hs : s.sources = source :: below) {e : Error}
    (h : source.cursor.scan = .error e cursor) :
    s.step w t = .error e (s.readTo source below cursor) := by
  unfold step
  simp only [hs, h]
  rfl

theorem step_exhausted (hs : s.sources = source :: below)
    (h : source.cursor.scan = .ok .exhausted cursor) :
    s.step w t = .ok none (s.readTo source below cursor).pop.2 := by
  unfold step
  simp only [hs, h]
  rfl

theorem step_token (hs : s.sources = source :: below)
    (h : source.cursor.scan = .ok (.token token location) cursor) :
    s.step w t = .ok (some ⟨token, location, s.depth, source.id⟩)
      ((s.readTo source below cursor).note (.scanned location token)) := by
  unfold step
  simp only [hs, h, depth, List.length_cons]
  rfl

theorem step_reference (hs : s.sources = source :: below)
    (h : source.cursor.scan = .ok (.reference name location) cursor) :
    s.step w t =
      match (s.readTo source below cursor).enter w t name with
      | .error e s' => .error (e.locate location) s'
      | .ok _ s' => .ok none s' := by
  unfold step
  simp only [hs, h]
  rfl

theorem step_nil (h : s.sources = []) : s.step w t = .ok (some s.endLexeme) s := by
  unfold step
  rw [h]

/-- An ignored section is left where the innermost source closes it. -/
theorem skipIgnored_ok (hs : s.sources = source :: below)
    (h : source.cursor.skipSections 0 = .ok true cursor) :
    s.skipIgnored = .ok () (s.readTo source below cursor) := by
  unfold skipIgnored
  simp only [hs, h, if_true]
  rfl

theorem skipIgnored_eq_ok_iff :
    s.skipIgnored = .ok () s' ↔
      ∃ source below cursor, s.sources = source :: below ∧
        source.cursor.skipSections 0 = .ok true cursor ∧ s' = s.readTo source below cursor := by
  constructor
  · intro h
    unfold skipIgnored at h
    split at h
    · cases h
    · rename_i source below hs
      split at h
      · cases h
      · rename_i closed cursor hskip
        cases closed with
        | false => cases h
        | true =>
          cases h
          exact ⟨source, below, cursor, hs, hskip, rfl⟩
  · rintro ⟨source, below, cursor, hs, hskip, rfl⟩
    exact skipIgnored_ok hs hskip

/-- A step that succeeds closes the innermost source, enters a reference or gives out a token. -/
theorem step_cases {o : Option Lexeme} (hs : s.sources = source :: below)
    (h : s.step w t = .ok o s') :
    ∃ cursor,
      source.cursor.scan = .ok .exhausted cursor ∧ o = none ∧
        s' = (s.readTo source below cursor).pop.2 ∨
      (∃ name location text, source.cursor.scan = .ok (.reference name location) cursor ∧ o = none ∧
        t.openReference w name source.base = .ok text ∧
        ¬(s.readTo source below cursor).isOpen name ∧
        s' = (s.readTo source below cursor).entered w t name text) ∨
      ∃ token location, source.cursor.scan = .ok (.token token location) cursor ∧
        o = some ⟨token, location, s.depth, source.id⟩ ∧
        s' = (s.readTo source below cursor).note (.scanned location token) := by
  cases hscan : source.cursor.scan with
  | error e cursor =>
    rw [step_error hs hscan] at h
    cases h
  | ok r cursor =>
    refine ⟨cursor, ?_⟩
    cases r with
    | exhausted =>
      rw [step_exhausted hs hscan] at h
      cases h
      exact .inl ⟨rfl, rfl, rfl⟩
    | token token location =>
      rw [step_token hs hscan] at h
      cases h
      exact .inr (.inr ⟨token, location, rfl, rfl, rfl⟩)
    | reference name location =>
      rw [step_reference hs hscan] at h
      split at h
      · cases h
      · rename_i u v hv
        cases h
        obtain ⟨text, hopen, ho, rfl⟩ := enter_eq_ok_iff.1 hv
        exact .inr (.inl ⟨name, location, text, rfl, rfl, hopen, ho, rfl⟩)

end Steps

end Doctype.SourceStack
