import Doctype.Proofs.Parser.Runs
import Doctype.Proofs.Source.Turns

/-! What holds of a stack of sources, whatever has been done to it. -/
namespace Doctype.SourceStack

/-- Sources whose numbers grow from the outermost one to the innermost one, none of which expands an
entity that another one expands. -/
structure Orderly (s : SourceStack) : Prop where
  positive : ∀ id ∈ s.ids, 0 < id
  descending : s.ids.Pairwise (· > ·)
  fresh : ∀ id ∈ s.ids, id < s.nextId
  started : 0 < s.nextId
  distinct : s.expanded.Nodup

/-- What can be done to a stack. -/
inductive Action
  | next (w : World) (t : EntityTable)
  | push (text : EntityText) (entity : Option String)
  | pop
  | setBase (files : FileSystem) (path : Path)
  | skipIgnored

/-- The stack behind an action, which may have failed. -/
def Action.perform : Action → SourceStack → SourceStack
  | next w t, s => left (s.next w t)
  | push text entity, s => left (s.push text entity)
  | pop, s => s.pop.2
  | setBase files path, s => left (s.setBase files path)
  | skipIgnored, s => left s.skipIgnored

/-- The sources that an action opens and closes. -/
def Action.turns : Action → SourceStack → List Turn
  | next w t, s => s.nextTurns w t
  | a, s => s.turns (a.perform s)

/-- The stack behind some actions. -/
def perform : List Action → SourceStack → SourceStack
  | [], s => s
  | a :: actions, s => perform actions (a.perform s)

/-- The sources that some actions open and close. -/
def history : List Action → SourceStack → List Turn
  | [], _ => []
  | a :: actions, s => a.turns s ++ history actions (a.perform s)

/-- The numbers that are given to sources. -/
def opened (ts : List Turn) : List Nat :=
  ts.filterMap fun
    | .opened id => some id
    | .closed _ => none

/-- The stacks to begin with. -/
inductive Begins : SourceStack → Prop
  | new (dir : Path) : Begins (new dir)
  | ofText (name text : String) (dir : Path) : Begins (ofText name text dir)
  | openFile {files : FileSystem} {path : Path} {s : SourceStack} :
      openFile files path = .ok s → Begins s

/-- A lexeme is read from the source that is innermost behind the references in front of it and the
sources that end there. -/
def ReadsFrom (w : World) (t : EntityTable) (s s' : SourceStack) (l : Lexeme) (source : Source) :
    Prop :=
  ∃ s₁ below cursor, Relation.ReflTransGen (fun a b => a.step w t = .ok none b) s s₁ ∧
    s₁.sources = source :: below ∧
    source.cursor.scan = .ok (.token l.token l.location) cursor ∧
    s'.sources = { source with cursor } :: below

variable {w : World} {t : EntityTable} {s s' s₀ : SourceStack} {ts : List Turn} {id : Nat}

theorem Stays.orderly (h : s.Stays s') (hs : s.Orderly) : s'.Orderly := by
  obtain ⟨hids, hexpanded, hnext⟩ := h
  obtain ⟨hpositive, hdescending, hfresh, hstarted, hdistinct⟩ := hs
  constructor
  · rwa [hids]
  · rwa [hids]
  · rwa [hids, hnext]
  · rwa [hnext]
  · rwa [hexpanded]

theorem Opens.orderly (h : s.Opens s') (hs : s.Orderly) : s'.Orderly := by
  obtain ⟨hids, hexpanded, hnext⟩ := h
  obtain ⟨hpositive, hdescending, hfresh, hstarted, hdistinct⟩ := hs
  constructor
  · rw [hids]
    exact List.forall_mem_cons.2 ⟨hstarted, hpositive⟩
  · rw [hids]
    exact List.pairwise_cons.2 ⟨hfresh, hdescending⟩
  · rw [hids, hnext]
    refine List.forall_mem_cons.2 ⟨Nat.lt_succ_self _, fun id hid => ?_⟩
    have hlt := hfresh id hid
    omega
  · omega
  · rcases hexpanded with he | ⟨name, hname, he⟩
    · rwa [he]
    · rw [he]
      exact List.nodup_cons.2 ⟨hname, hdistinct⟩

theorem Closes.orderly (h : s.Closes id s') (hs : s.Orderly) : s'.Orderly := by
  obtain ⟨hids, hexpanded, hnext⟩ := h
  obtain ⟨hpositive, hdescending, hfresh, hstarted, hdistinct⟩ := hs
  rw [hids] at hpositive hdescending hfresh
  constructor
  · exact (List.forall_mem_cons.1 hpositive).2
  · exact (List.pairwise_cons.1 hdescending).2
  · rw [hnext]
    exact (List.forall_mem_cons.1 hfresh).2
  · omega
  · exact hdistinct.sublist hexpanded.sublist

/-- Opening and closing sources keeps them in order. -/
theorem Leads.orderly (h : s.Leads ts s') (hs : s.Orderly) : s'.Orderly := by
  induction h with
  | refl => exact hs
  | stays hstep _ ih => exact ih (hstep.orderly hs)
  | opens hstep _ ih => exact ih (hstep.orderly hs)
  | closes hstep _ ih => exact ih (hstep.orderly hs)

theorem Leads.nextId_le (h : s.Leads ts s') : s.nextId ≤ s'.nextId := by
  induction h with
  | refl => exact le_refl _
  | stays hstep _ ih => exact hstep.nextId ▸ ih
  | opens hstep _ ih =>
    have hnext := hstep.nextId
    omega
  | closes hstep _ ih => exact hstep.nextId ▸ ih

/-- The numbers that are given on the way grow, and have not been given before. -/
theorem Leads.opened (h : s.Leads ts s') :
    (∀ id ∈ opened ts, s.nextId ≤ id) ∧ (opened ts).Pairwise (· < ·) := by
  induction h with
  | refl => exact ⟨nofun, .nil⟩
  | stays hstep _ ih => exact hstep.nextId ▸ ih
  | @opens s s₁ s' ts hstep _ ih =>
    obtain ⟨hge, hsorted⟩ := ih
    have hcons :
        SourceStack.opened (.opened s.nextId :: ts) = s.nextId :: SourceStack.opened ts := rfl
    rw [hstep.nextId] at hge
    rw [hcons]
    constructor
    · refine List.forall_mem_cons.2 ⟨le_refl _, fun id hid => ?_⟩
      have hle := hge id hid
      omega
    · refine List.pairwise_cons.2 ⟨fun id hid => ?_, hsorted⟩
      have hle := hge id hid
      omega
  | closes hstep _ ih => exact hstep.nextId ▸ ih

theorem leads_action (a : Action) (s : SourceStack) : s.Leads (a.turns s) (a.perform s) := by
  cases a with
  | next w t => exact leads_next w t s
  | push text entity => exact (single_push text entity s).leads_self
  | pop => exact (single_pop s).leads_self
  | setBase files path => exact Single.leads_self (.inl (stays_setBase files path s))
  | skipIgnored => exact Single.leads_self (.inl (stays_skipIgnored s))

theorem leads_perform (actions : List Action) (s : SourceStack) :
    s.Leads (history actions s) (perform actions s) := by
  induction actions generalizing s with
  | nil => exact .refl s
  | cons a actions ih => exact (leads_action a s).append (ih (a.perform s))

theorem opens_openFile {files : FileSystem} {path : Path} (h : openFile files path = .ok s) :
    (new ".").Opens s := by
  unfold openFile at h
  split at h
  · cases h
  · split at h
    · cases h
    · rename_i hpush
      cases h
      exact opens_push hpush

theorem Begins.orderly (h : Begins s) : s.Orderly := by
  have hnew (dir : Path) : (SourceStack.new dir).Orderly := ⟨nofun, .nil, nofun, Nat.one_pos, .nil⟩
  cases h with
  | new dir => exact hnew dir
  | ofText name text dir =>
    constructor
    · exact List.forall_mem_singleton.2 Nat.one_pos
    · exact List.pairwise_singleton _ _
    · exact List.forall_mem_singleton.2 Nat.one_lt_two
    · exact Nat.two_pos
    · exact .nil
  | openFile h => exact (opens_openFile h).orderly (hnew ".")

/-- What the next lexeme tells about the sources is true. -/
theorem next_readsFrom {l : Lexeme} (h : s.next w t = .ok l s') :
    (l.token = .endOfInput ↔ s'.sources = []) ∧
      (l.token ≠ .endOfInput →
        l.depth = s'.depth ∧ ∃ source, ReadsFrom w t s s' l source ∧ l.source = source.id) := by
  constructor
  · rcases Parser.lexeme_of_next h with ⟨hlex, hne⟩ | ⟨heof, hnil⟩
    · exact iff_of_false (Parser.not_endOfInput_of_lexical hlex) hne
    · exact iff_of_true heof hnil
  intro heof
  fun_induction SourceStack.next w t s with
  | case1 => cases h
  | case2 s l' s₁ hstep =>
    cases h
    cases hs : s.sources with
    | nil =>
      rw [step_nil hs] at hstep
      cases hstep
      exact absurd rfl heof
    | cons source below =>
      obtain ⟨cursor, hc⟩ := step_cases hs hstep
      rcases hc with ⟨-, he, -⟩ | ⟨_, _, _, -, he, -⟩ | ⟨token, location, hscan, he, rfl⟩
      · cases he
      · cases he
      · cases he
        refine ⟨?_, source, ⟨s, below, cursor, .refl, hs, hscan, rfl⟩, rfl⟩
        unfold depth
        rw [hs]
        rfl
  | case3 s s₁ hstep ih =>
    obtain ⟨hdepth, source, ⟨s₂, below, cursor, hsteps, hrest⟩, hsource⟩ := ih h
    exact ⟨hdepth, source, ⟨s₂, below, cursor, .head hstep hsteps, hrest⟩, hsource⟩

/-- Whatever is done to a stack of sources, with success or not, their numbers grow from the
outermost to the innermost one, and no number is given twice; no two of them expand the same entity;
a source that cannot be opened changes nothing; and a lexeme tells its source and the height of the
stack, which is empty at the end of input and only there. -/
theorem orderly_perform (h : Begins s₀) (actions : List Action) :
    (perform actions s₀).Orderly ∧
      (s₀.ids.reverse ++ opened (history actions s₀)).Pairwise (· < ·) ∧
      (∀ a : Action, (perform actions s₀).nextId ≤ (a.perform (perform actions s₀)).nextId) ∧
      (∀ text entity e s', (perform actions s₀).push text entity = .error e s' →
        s' = perform actions s₀) ∧
      ∀ w t l s', (perform actions s₀).next w t = .ok l s' →
        (l.token = .endOfInput ↔ s'.sources = []) ∧
          (l.token ≠ .endOfInput → l.depth = s'.depth ∧
            ∃ source, ReadsFrom w t (perform actions s₀) s' l source ∧ l.source = source.id) := by
  have hleads := leads_perform actions s₀
  obtain ⟨hge, hsorted⟩ := hleads.opened
  refine ⟨hleads.orderly h.orderly, ?_, ?_, ?_, ?_⟩
  · refine List.pairwise_append.2 ⟨?_, hsorted, fun a ha b hb => ?_⟩
    · exact List.pairwise_reverse.2 h.orderly.descending
    · have hlt := h.orderly.fresh a (List.mem_reverse.1 ha)
      have hle := hge b hb
      omega
  · exact fun a => (leads_action a _).nextId_le
  · exact fun text entity e s' => eq_of_push_error
  · exact fun w t l s' => next_readsFrom

theorem orderly_perform_push :
    Begins (ofText "a.dtd" "" ".") ∧
      (let s := perform [.push ⟨.literal "e", .ofText "x"⟩ (some "e"), .pop,
          .push ⟨.literal "e", .ofText "y"⟩ (some "e"), .push ⟨.literal "e", .ofText "z"⟩ (some "e")]
        (ofText "a.dtd" "" ".")
      s.ids = [3, 1] ∧ s.Orderly) := by
  refine ⟨.ofText _ _ _, by decide, ?_⟩
  exact (orderly_perform (.ofText "a.dtd" "" ".") _).1

end Doctype.SourceStack
