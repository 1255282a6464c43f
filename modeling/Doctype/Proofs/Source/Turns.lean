import Doctype.Proofs.Source.Passage

/-! Which sources are opened and closed on the way from one stack to another. -/
namespace Doctype

/-- A source is opened or closed. -/
inductive Turn
  | opened (id : Nat)
  | closed (id : Nat)
deriving DecidableEq, Repr

namespace SourceStack

/-- The numbers of the open sources, innermost first. -/
def ids (s : SourceStack) : List Nat :=
  s.sources.map (·.id)

/-- The entities that are being expanded, innermost first. -/
def expanded (s : SourceStack) : List String :=
  s.sources.filterMap (·.entity)

/-- What an action has done that opens or closes one source at most. -/
def turns (s s' : SourceStack) : List Turn :=
  if s.depth < s'.depth then s'.ids.head?.toList.map .opened
  else if s'.depth < s.depth then s.ids.head?.toList.map .closed
  else []

/-- The sources that are opened and closed in front of the next lexeme. -/
def nextTurns (w : World) (t : EntityTable) (s : SourceStack) : List Turn :=
  match _h : s.step w t with
  | .ok none s' => s.turns s' ++ nextTurns w t s'
  | .ok (some _) s' => s.turns s'
  | .error _ s' => s.turns s'
termination_by s.weights t
decreasing_by exact step_descends _h (by simp)

/-- Sources for which the same holds as far as numbers and entities go. -/
structure Stays (s s' : SourceStack) : Prop where
  ids : s'.ids = s.ids
  expanded : s'.expanded = s.expanded
  nextId : s'.nextId = s.nextId

/-- A source on top of the others, with the next number. -/
structure Opens (s s' : SourceStack) : Prop where
  ids : s'.ids = s.nextId :: s.ids
  expanded : s'.expanded = s.expanded ∨ ∃ name ∉ s.expanded, s'.expanded = name :: s.expanded
  nextId : s'.nextId = s.nextId + 1

/-- The innermost source is gone. -/
structure Closes (s : SourceStack) (id : Nat) (s' : SourceStack) : Prop where
  ids : s.ids = id :: s'.ids
  expanded : s'.expanded <:+ s.expanded
  nextId : s'.nextId = s.nextId

/-- The way from one stack to another, on which these sources are opened and closed. -/
inductive Leads : SourceStack → List Turn → SourceStack → Prop
  | refl (s : SourceStack) : Leads s [] s
  | stays {s s₁ s' : SourceStack} {ts : List Turn} : s.Stays s₁ → Leads s₁ ts s' → Leads s ts s'
  | opens {s s₁ s' : SourceStack} {ts : List Turn} :
      s.Opens s₁ → Leads s₁ ts s' → Leads s (.opened s.nextId :: ts) s'
  | closes {s s₁ s' : SourceStack} {ts : List Turn} {id : Nat} :
      s.Closes id s₁ → Leads s₁ ts s' → Leads s (.closed id :: ts) s'

variable {w : World} {t : EntityTable} {s s₁ s' : SourceStack} {ts us : List Turn} {id : Nat}

/-- An action opens or closes one source at most. -/
def Single (s s' : SourceStack) : Prop :=
  s.Stays s' ∨ s.Opens s' ∨ ∃ id, s.Closes id s'

/-- The stack that an action leaves, whether the action has failed or not. -/
def left {α : Type} : EStateM.Result Error SourceStack α → SourceStack
  | .ok _ s => s
  | .error _ s => s

theorem length_ids (s : SourceStack) : s.ids.length = s.depth :=
  List.length_map _

theorem Stays.refl (s : SourceStack) : s.Stays s :=
  ⟨rfl, rfl, rfl⟩

theorem Stays.turns (h : s.Stays s') : s.turns s' = [] := by
  have hdepth : s'.depth = s.depth := by rw [← length_ids, ← length_ids, h.ids]
  unfold SourceStack.turns
  rw [if_neg (by omega), if_neg (by omega)]

theorem Opens.turns (h : s.Opens s') : s.turns s' = [.opened s.nextId] := by
  have hdepth : s'.depth = s.depth + 1 := by
    rw [← length_ids, ← length_ids, h.ids, List.length_cons]
  unfold SourceStack.turns
  rw [if_pos (by omega), h.ids]
  rfl

theorem Closes.turns (h : s.Closes id s') : s.turns s' = [.closed id] := by
  have hdepth : s.depth = s'.depth + 1 := by
    rw [← length_ids, ← length_ids, h.ids, List.length_cons]
  unfold SourceStack.turns
  rw [if_neg (by omega), if_pos (by omega), h.ids]
  rfl

theorem Single.leads (h : s.Single s₁) (h' : s₁.Leads ts s') :
    s.Leads (s.turns s₁ ++ ts) s' := by
  rcases h with h | h | ⟨id, h⟩
  · rw [h.turns]
    exact .stays h h'
  · rw [h.turns]
    exact .opens h h'
  · rw [h.turns]
    exact .closes h h'

theorem Single.leads_self (h : s.Single s') : s.Leads (s.turns s') s' := by
  rw [← List.append_nil (s.turns s')]
  exact h.leads (.refl s')

theorem Leads.append (h : s.Leads ts s₁) (h' : s₁.Leads us s') : s.Leads (ts ++ us) s' := by
  induction h with
  | refl => exact h'
  | stays hs _ ih => exact .stays hs (ih h')
  | opens hs _ ih => exact .opens hs (ih h')
  | closes hs _ ih => exact .closes hs (ih h')

/-- What stays may be left out in front of an action. -/
theorem Stays.single (h : s.Stays s₁) (h' : s₁.Single s') : s.Single s' := by
  obtain ⟨hids, hexpanded, hnext⟩ := h
  rcases h' with ⟨hids', hexpanded', hnext'⟩ | ⟨hids', hexpanded', hnext'⟩ |
    ⟨id, hids', hexpanded', hnext'⟩
  · exact .inl ⟨hids'.trans hids, hexpanded'.trans hexpanded, hnext'.trans hnext⟩
  · rw [hids, hnext] at hids'
    rw [hexpanded] at hexpanded'
    rw [hnext] at hnext'
    exact .inr (.inl ⟨hids', hexpanded', hnext'⟩)
  · rw [hids] at hids'
    rw [hexpanded] at hexpanded'
    exact .inr (.inr ⟨id, hids', hexpanded', hnext'.trans hnext⟩)

section Actions

variable {source : Source} {below : List Source} {cursor : Cursor}

theorem stays_readTo (hs : s.sources = source :: below) (cursor : Cursor) :
    s.Stays (s.readTo source below cursor) := by
  refine ⟨?_, ?_, rfl⟩
  · unfold ids
    rw [hs]
    rfl
  · unfold expanded
    rw [hs]
    rfl

/-- A source that is opened gets the next number, and expands nothing that is being expanded. -/
theorem opens_push {text : EntityText} {entity : Option String}
    (h : s.push text entity = .ok () s') : s.Opens s' := by
  unfold push at h
  split at h
  · cases h
  · rename_i hfree
    cases h
    refine ⟨rfl, ?_, rfl⟩
    cases entity with
    | none => exact .inl rfl
    | some name =>
      have hno : ¬s.isOpen name := by simpa [Option.filter_some] using hfree
      rw [isOpen_iff] at hno
      exact .inr ⟨name, hno, rfl⟩

/-- Whoever fails to open a source leaves everything as it is. -/
theorem eq_of_push_error {text : EntityText} {entity : Option String} {e : Error}
    (h : s.push text entity = .error e s') : s' = s := by
  unfold push at h
  split at h
  · cases h
    rfl
  · cases h

theorem single_push (text : EntityText) (entity : Option String) (s : SourceStack) :
    s.Single (left (s.push text entity)) := by
  cases h : s.push text entity with
  | ok u s' => exact .inr (.inl (opens_push h))
  | error e s' =>
    rw [eq_of_push_error h]
    exact .inl (.refl s)

theorem single_pop (s : SourceStack) : s.Single s.pop.2 := by
  cases hs : s.sources with
  | nil =>
    have hpop : s.pop.2 = s := by
      unfold pop
      rw [hs]
    rw [hpop]
    exact .inl (.refl s)
  | cons source below =>
    refine .inr (.inr ⟨source.id, ?_⟩)
    unfold pop
    rw [hs]
    refine ⟨?_, ?_, rfl⟩
    · unfold ids
      rw [hs]
      rfl
    · unfold expanded
      rw [hs]
      exact (List.suffix_cons source below).filterMap _

theorem stays_setBase (files : FileSystem) (path : Path) (s : SourceStack) :
    s.Stays (left (s.setBase files path)) := by
  unfold setBase
  split
  · split
    · exact ⟨rfl, rfl, rfl⟩
    · rename_i source rest hs
      refine ⟨?_, ?_, rfl⟩
      · unfold left ids
        rw [hs]
        rfl
      · unfold left expanded
        rw [hs]
        rfl
  · exact .refl s

theorem stays_skipIgnored (s : SourceStack) : s.Stays (left s.skipIgnored) := by
  unfold skipIgnored
  split
  · exact .refl s
  · rename_i source rest hs
    split
    · exact stays_readTo hs _
    · dsimp only
      split
      · exact stays_readTo hs _
      · exact stays_readTo hs _

theorem single_enter (name : String) (s : SourceStack) : s.Single (left (s.enter w t name)) := by
  have hnoted : s.Stays ((t.openEvents w name s.base).foldl note s) := by
    rw [foldl_note]
    exact ⟨rfl, rfl, rfl⟩
  unfold enter
  dsimp only
  split
  · exact .inl hnoted
  · exact hnoted.single (single_push _ _ _)

theorem single_step (s : SourceStack) : s.Single (left (s.step w t)) := by
  cases hs : s.sources with
  | nil =>
    rw [step_nil hs]
    exact .inl (.refl s)
  | cons source below =>
    have hread (cursor : Cursor) := stays_readTo hs cursor
    cases hscan : source.cursor.scan with
    | error e cursor =>
      rw [step_error hs hscan]
      exact .inl (hread cursor)
    | ok r cursor =>
      cases r with
      | exhausted =>
        rw [step_exhausted hs hscan]
        exact (hread cursor).single (single_pop _)
      | token token location =>
        rw [step_token hs hscan]
        exact .inl ⟨(hread cursor).ids, (hread cursor).expanded, (hread cursor).nextId⟩
      | reference name location =>
        rw [step_reference hs hscan]
        have henter := single_enter (w := w) (t := t) name (s.readTo source below cursor)
        cases he : (s.readTo source below cursor).enter w t name with
        | error e s' =>
          rw [he] at henter
          exact (hread cursor).single henter
        | ok u s' =>
          rw [he] at henter
          exact (hread cursor).single henter

end Actions

/-- The next lexeme is reached by opening and closing sources. -/
theorem leads_next (w : World) (t : EntityTable) (s : SourceStack) :
    s.Leads (s.nextTurns w t) (left (s.next w t)) := by
  fun_induction SourceStack.next w t s with
  | case1 s e s' hstep =>
    have hsingle := single_step (w := w) (t := t) s
    rw [hstep] at hsingle
    rw [nextTurns, hstep]
    exact hsingle.leads_self
  | case2 s l s' hstep =>
    have hsingle := single_step (w := w) (t := t) s
    rw [hstep] at hsingle
    rw [nextTurns, hstep]
    exact hsingle.leads_self
  | case3 s s' hstep ih =>
    have hsingle := single_step (w := w) (t := t) s
    rw [hstep] at hsingle
    rw [nextTurns, hstep]
    exact hsingle.leads ih

end SourceStack

end Doctype
