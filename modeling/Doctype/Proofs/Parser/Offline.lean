import Doctype.Proofs.Parser.Congruence
import Doctype.Proofs.Parser.Inclusion
import Doctype.Proofs.Parser.Transcript

/-! A parse that fetches no page is the same on every web. -/
namespace Doctype

open EStateM (Result)

/-- No page has been fetched. -/
def Journal.Offline (journal : Journal) : Prop :=
  ∀ entity url, .fetching entity url ∉ journal

/-- A reference as it is met: what has been declared so far, and what relative identifiers refer to in
the source that it stands in. -/
structure Reference where
  entities : EntityTable
  name : String
  base : Base

namespace Reference

/-- What is recorded when a reference is met. -/
def events (w : World) (r : Reference) : List Event :=
  r.entities.openEvents w r.name r.base

/-- It stands for an external entity whose identifier leads to a page, and to no local file. -/
def Remote (files : FileSystem) (r : Reference) : Prop :=
  ∃ target url, r.entities.uris.get? r.name = some target ∧
    EntityTable.locate files r.name target r.base = .ok (.remote url)

end Reference

/-- An event that neither meets a reference nor fetches a page. -/
def Event.Quiet : Event → Prop
  | referenced _ | fetching .. => False
  | _ => True

/-- How a journal grows while references are met, the last one first: by what is recorded of them,
and by quiet events. -/
inductive Journal.Grows (w : World) (j : Journal) : List Reference → Journal → Prop
  | refl : Grows w j [] j
  | event {e : Event} {refs : List Reference} {j' : Journal} :
      e.Quiet → Grows w j refs j' → Grows w j refs (e :: j')
  | reference (r : Reference) {refs : List Reference} {j' : Journal} :
      Grows w j refs j' → Grows w j (r :: refs) ((r.events w).reverse ++ j')

namespace Journal

variable {w : World} {i j k : Journal} {refs refs' : List Reference}

theorem offline_nil : Offline [] :=
  nofun

theorem offline_cons {e : Event} (h : ∀ entity url, e ≠ .fetching entity url) (hj : Offline j) :
    Offline (e :: j) := by
  intro entity url hmem
  rcases List.mem_cons.1 hmem with he | hmem
  · exact h entity url he.symm
  · exact hj entity url hmem

theorem Offline.of_suffix (h : k.Offline) (hs : j <:+ k) : j.Offline :=
  fun entity url hmem => h entity url (hs.subset hmem)

theorem Grows.trans (h : Grows w i refs j) (h' : Grows w j refs' k) :
    Grows w i (refs' ++ refs) k := by
  induction h' with
  | refl => exact h
  | event he _ ih => exact .event he ih
  | reference r _ ih => exact .reference r ih

theorem Grows.suffix (h : Grows w i refs j) : i <:+ j := by
  induction h with
  | refl => exact List.suffix_rfl
  | event _ _ ih => exact ih.trans (List.suffix_cons _ _)
  | reference _ _ ih => exact ih.trans (List.suffix_append _ _)

theorem offline_append : Offline (i ++ j) ↔ i.Offline ∧ j.Offline := by
  simp only [Offline, List.mem_append, not_or, forall_and]

theorem offline_cons_iff {e : Event} (h : e.Quiet) : Offline (e :: j) ↔ j.Offline := by
  refine ⟨fun hj => hj.of_suffix (List.suffix_cons _ _), offline_cons ?_⟩
  rintro entity url rfl
  exact h

/-- The journal has grown, whatever references have been met. -/
def Grown (w : World) (i j : Journal) : Prop :=
  ∃ refs, Grows w i refs j

theorem Grown.refl : Grown w i i :=
  ⟨[], .refl⟩

theorem Grown.event {e : Event} (he : e.Quiet) (h : Grown w i j) : Grown w i (e :: j) := by
  obtain ⟨refs, h⟩ := h
  exact ⟨refs, .event he h⟩

theorem Grown.trans (h : Grown w i j) (h' : Grown w j k) : Grown w i k := by
  obtain ⟨refs, h⟩ := h
  obtain ⟨refs', h'⟩ := h'
  exact ⟨refs' ++ refs, h.trans h'⟩

theorem Grown.offline (h : Grown w i j) (hj : j.Offline) : i.Offline := by
  obtain ⟨refs, h⟩ := h
  exact hj.of_suffix h.suffix

end Journal

namespace EntityTable

variable {t : EntityTable} {files : FileSystem} {web web' : Web} {w : World} {name : String}
  {base : Base}

theorem openEvents_of_error {target : String} {e : Error} (huri : t.uris.get? name = some target)
    (hplace : locate w.files name target base = .error e) :
    t.openEvents w name base = .referenced name :: (lookups target base).map Event.sought := by
  simp only [openEvents, huri, hplace, List.append_nil]

theorem openEvents_of_located {target : String} {place : Located}
    (huri : t.uris.get? name = some target)
    (hplace : locate w.files name target base = .ok place) :
    t.openEvents w name base =
      .referenced name :: ((lookups target base).map Event.sought ++ place.events name) := by
  simp only [openEvents, huri, hplace]

theorem offline_events_iff (place : Located) (name : String) :
    Journal.Offline (place.events name) ↔ ∀ url, place ≠ .remote url := by
  cases place with
  | byPath path content =>
    have hresolved : Journal.Offline [.resolved name path] :=
      Journal.offline_cons nofun Journal.offline_nil
    exact iff_of_true hresolved (by simp)
  | byUri path content => exact iff_of_true Journal.offline_nil (by simp)
  | remote url =>
    refine iff_of_false (fun h => ?_) fun h => h url rfl
    exact h name url.text List.mem_cons_self

/-- Opening an entity fetches no page unless its identifier leads to one. -/
theorem offline_openEvents_iff :
    Journal.Offline (t.openEvents w name base) ↔
      ∀ target url, t.uris.get? name = some target →
        locate w.files name target base ≠ .ok (.remote url) := by
  have hsought (target : String) (events : List Event) :
      Journal.Offline (.referenced name :: ((lookups target base).map Event.sought ++ events)) ↔
        Journal.Offline events := by
    simp [Journal.Offline]
  cases huri : t.uris.get? name with
  | none =>
    have hevents : t.openEvents w name base = [.referenced name] := by
      simp only [openEvents, huri]
    rw [hevents]
    exact iff_of_true (Journal.offline_cons nofun Journal.offline_nil) nofun
  | some target =>
    have hfound : (∀ target' url, some target = some target' →
        locate w.files name target' base ≠ .ok (.remote url)) ↔
          ∀ url, locate w.files name target base ≠ .ok (.remote url) := by
      refine ⟨fun h url => h target url rfl, fun h target' url htarget => ?_⟩
      cases htarget
      exact h url
    rw [hfound]
    cases hplace : locate w.files name target base with
    | error e =>
      have hevents := hsought target []
      rw [List.append_nil, ← openEvents_of_error huri hplace] at hevents
      exact hevents.trans (iff_of_true Journal.offline_nil (by simp))
    | ok place =>
      rw [openEvents_of_located huri hplace, hsought, offline_events_iff]
      simp

/-- An entity that leads to no page opens in the same way on every web. -/
theorem openReference_of_offline (h : Journal.Offline (t.openEvents ⟨files, web⟩ name base)) :
    t.openReference ⟨files, web'⟩ name base = t.openReference ⟨files, web⟩ name base := by
  cases huri : t.uris.get? name with
  | none =>
    unfold openReference
    rw [huri]
  | some target =>
    rw [openReference_of_uri huri, openReference_of_uri huri]
    cases hplace : locate files name target base with
    | error e => rfl
    | ok place =>
      cases place with
      | byPath | byUri => rfl
      | remote url => exact absurd hplace (offline_openEvents_iff.1 h target url huri)

end EntityTable

/-- The state that is left, whether an action has failed or not. -/
def stateAfter {ε σ α : Type} : Result ε σ α → σ
  | .ok _ s => s
  | .error _ s => s

/-- What an action leaves has recorded what it has done, and on another web the same action has done
the same, unless a page has been fetched. -/
structure Detached {ε σ α : Type} (w : World) (log : σ → Journal) (s : σ) (r r' : Result ε σ α) :
    Prop where
  grown : Journal.Grown w (log s) (log (stateAfter r))
  same : (log (stateAfter r)).Offline → r' = r

namespace Journal

theorem offline_events_iff {w : World} {r : Reference} :
    Offline (r.events w) ↔ ¬r.Remote w.files := by
  unfold Reference.events Reference.Remote
  rw [EntityTable.offline_openEvents_iff]
  push Not
  rfl

/-- Where a journal has grown, no page has been fetched unless a reference led to one. -/
theorem Grows.offline_iff {w : World} {i j : Journal} {refs : List Reference}
    (h : Grows w i refs j) : j.Offline ↔ i.Offline ∧ ∀ r ∈ refs, ¬r.Remote w.files := by
  induction h with
  | refl => exact (and_iff_left nofun).symm
  | event he _ ih => rw [offline_cons_iff he, ih]
  | reference r _ ih =>
    have hreverse : Offline (r.events w).reverse ↔ ¬r.Remote w.files := by
      rw [← offline_events_iff]
      simp only [Offline, List.mem_reverse]
    rw [offline_append, hreverse, ih, List.forall_mem_cons]
    tauto

theorem mem_events (w : World) (r : Reference) : .referenced r.name ∈ r.events w := by
  unfold Reference.events EntityTable.openEvents
  exact List.mem_cons_self

/-- Where a reference is met, the references to its name become more. -/
theorem Grows.count_lt {w : World} {i j : Journal} {refs : List Reference} (h : Grows w i refs j)
    {r : Reference} (hr : r ∈ refs) : i.count (.referenced r.name) < j.count (.referenced r.name) := by
  induction h with
  | refl => cases hr
  | event _ _ ih => exact (ih hr).trans_le (List.Sublist.count_le _ (List.sublist_cons_self _ _))
  | @reference r' refs j' hgrows ih =>
    rw [List.count_append]
    rcases List.mem_cons.1 hr with rfl | hr
    · have hevent : 0 < (r.events w).reverse.count (.referenced r.name) :=
        List.count_pos_iff.2 (List.mem_reverse.2 (mem_events w r))
      have hle := hgrows.suffix.sublist.count_le (.referenced r.name)
      omega
    · exact (ih hr).trans_le (Nat.le_add_left _ _)

/-- Where no reference is met, no page is fetched. -/
theorem Grown.offline_of_count {w : World} {i j : Journal} (h : Grown w i j)
    (hcount : ∀ name, j.count (.referenced name) = i.count (.referenced name)) (hi : i.Offline) :
    j.Offline := by
  obtain ⟨refs, h⟩ := h
  refine h.offline_iff.2 ⟨hi, fun r hr => ?_⟩
  exact absurd (hcount r.name) (h.count_lt hr).ne'

end Journal

namespace SourceStack

theorem detached_enter (files : FileSystem) (web web' : Web) (t : EntityTable) (name : String)
    (s : SourceStack) :
    Detached ⟨files, web⟩ journal s (s.enter ⟨files, web⟩ t name) (s.enter ⟨files, web'⟩ t name) := by
  have hreferred : Journal.Grown ⟨files, web⟩ s.journal (s.referred ⟨files, web⟩ t name).journal :=
    ⟨[⟨t, name, s.base⟩], .reference ⟨t, name, s.base⟩ .refl⟩
  have hoffline (h : (s.referred ⟨files, web⟩ t name).journal.Offline) :
      t.openReference ⟨files, web'⟩ name s.base = t.openReference ⟨files, web⟩ name s.base := by
    refine EntityTable.openReference_of_offline fun entity url hmem => h entity url ?_
    exact List.mem_append_left _ (List.mem_reverse.2 hmem)
  rw [enter_eq, enter_eq]
  cases hopen : t.openReference ⟨files, web⟩ name s.base with
  | error e =>
    refine ⟨hreferred, fun h => ?_⟩
    rw [hoffline h, hopen]
    rfl
  | ok text =>
    by_cases ho : s.isOpen name
    · simp only [ho, if_true]
      refine ⟨hreferred, fun h => ?_⟩
      rw [hoffline h, hopen]
      rfl
    · simp only [ho]
      refine ⟨.event trivial hreferred, fun h => ?_⟩
      have h' := h.of_suffix (List.suffix_cons _ _)
      rw [hoffline h', hopen]
      rfl

theorem detached_step (files : FileSystem) (web web' : Web) (t : EntityTable) (s : SourceStack) :
    Detached ⟨files, web⟩ journal s (s.step ⟨files, web⟩ t) (s.step ⟨files, web'⟩ t) := by
  cases hs : s.sources with
  | nil =>
    rw [step_nil hs, step_nil hs]
    exact ⟨.refl, fun _ => rfl⟩
  | cons source below =>
    cases hscan : source.cursor.scan with
    | error e cursor =>
      rw [step_error hs hscan, step_error hs hscan]
      exact ⟨.refl, fun _ => rfl⟩
    | ok scanned cursor =>
      cases scanned with
      | exhausted =>
        rw [step_exhausted hs hscan, step_exhausted hs hscan]
        exact ⟨.event trivial .refl, fun _ => rfl⟩
      | token token location =>
        rw [step_token hs hscan, step_token hs hscan]
        exact ⟨.event trivial .refl, fun _ => rfl⟩
      | reference name location =>
        rw [step_reference hs hscan, step_reference hs hscan]
        have henter : Detached ⟨files, web⟩ journal _ _ _ :=
          detached_enter files web web' t name (s.readTo source below cursor)
        obtain ⟨hgrown, hsame⟩ := henter
        cases henter : (s.readTo source below cursor).enter ⟨files, web⟩ t name with
        | error e s' =>
          rw [henter] at hgrown hsame
          exact ⟨hgrown, fun h => by rw [hsame h]⟩
        | ok u s' =>
          rw [henter] at hgrown hsame
          exact ⟨hgrown, fun h => by rw [hsame h]⟩

theorem detached_next (files : FileSystem) (web web' : Web) (t : EntityTable) (s : SourceStack) :
    Detached ⟨files, web⟩ journal s (s.next ⟨files, web⟩ t) (s.next ⟨files, web'⟩ t) := by
  fun_induction SourceStack.next ⟨files, web⟩ t s with
  | case1 s e u hstep =>
    obtain ⟨hgrown, hsame⟩ := hstep ▸ detached_step files web web' t s
    exact ⟨hgrown, fun h => by rw [next_eq, hsame h]⟩
  | case2 s l u hstep =>
    obtain ⟨hgrown, hsame⟩ := hstep ▸ detached_step files web web' t s
    exact ⟨hgrown, fun h => by rw [next_eq, hsame h]⟩
  | case3 s u hstep ih =>
    obtain ⟨hgrown, hsame⟩ := hstep ▸ detached_step files web web' t s
    refine ⟨hgrown.trans ih.grown, fun h => ?_⟩
    rw [next_eq, hsame (ih.grown.offline h)]
    exact ih.same h

end SourceStack

namespace Parser

/-- What has been recorded in a parse. -/
def log (p : Parser) : Journal :=
  p.stack.journal

/-- An action that records what it does, and does the same on another web unless a page has been
fetched. -/
def Detaches {α : Type} (w : World) (m m' : ParserM α) : Prop :=
  ∀ p, Detached w log p (m p) (m' p)

variable {α β : Type} {w : World} {files : FileSystem} {web web' : Web}

theorem detaches_still {m : ParserM α} (h : ∀ p, log (stateAfter (m p)) = log p) :
    Detaches w m m := by
  intro p
  constructor
  · rw [h]
    exact .refl
  · exact fun _ => rfl

theorem detaches_pure (a : α) : Detaches w (pure a) (pure a) :=
  detaches_still fun _ => rfl

theorem detaches_throw (halt : Halt) : Detaches w (throw halt : ParserM α) (throw halt) :=
  detaches_still fun _ => rfl

theorem Detaches.bind {m m' : ParserM α} {f f' : α → ParserM β} (hm : Detaches w m m')
    (hf : ∀ a, Detaches w (f a) (f' a)) : Detaches w (m >>= f) (m' >>= f') := by
  intro p
  obtain ⟨hgrown, hsame⟩ := hm p
  simp only [Bind.bind, EStateM.bind]
  cases hr : m p with
  | error e q =>
    rw [hr] at hgrown hsame
    exact ⟨hgrown, fun h => by rw [hsame h]⟩
  | ok a q =>
    rw [hr] at hgrown hsame
    obtain ⟨hgrown', hsame'⟩ := hf a q
    refine ⟨hgrown.trans hgrown', fun h => ?_⟩
    rw [hsame (hgrown'.offline h)]
    exact hsame' h

theorem detaches_scan : Detaches ⟨files, web⟩ (scan ⟨files, web⟩) (scan ⟨files, web'⟩) := by
  intro p
  obtain ⟨hgrown, hsame⟩ := SourceStack.detached_next files web web' p.entities p.stack
  unfold scan
  cases hr : p.stack.next ⟨files, web⟩ p.entities with
  | error e k =>
    rw [hr] at hgrown hsame
    exact ⟨hgrown, fun h => by rw [hsame h]⟩
  | ok l k =>
    rw [hr] at hgrown hsame
    exact ⟨hgrown, fun h => by rw [hsame h]⟩

theorem detaches_next : Detaches ⟨files, web⟩ (next ⟨files, web⟩) (next ⟨files, web'⟩) := by
  intro p
  cases hp : p.peeked with
  | none =>
    rw [next_of_none hp, next_of_none hp]
    exact detaches_scan p
  | some l =>
    rw [next_of_peeked hp, next_of_peeked hp]
    exact ⟨.refl, fun _ => rfl⟩

theorem detaches_peek : Detaches ⟨files, web⟩ (peek ⟨files, web⟩) (peek ⟨files, web'⟩) := by
  intro p
  cases hp : p.peeked with
  | none =>
    rw [peek_of_none hp, peek_of_none hp]
    obtain ⟨hgrown, hsame⟩ := (detaches_scan : Detaches _ _ (scan ⟨files, web'⟩)) p
    cases hr : scan ⟨files, web⟩ p with
    | error e q =>
      rw [hr] at hgrown hsame
      exact ⟨hgrown, fun h => by rw [hsame h]⟩
    | ok l q =>
      rw [hr] at hgrown hsame
      exact ⟨hgrown, fun h => by rw [hsame h]⟩
  | some l =>
    rw [peek_of_peeked hp, peek_of_peeked hp]
    exact ⟨.refl, fun _ => rfl⟩

theorem congruence_detaches (files : FileSystem) (web web' : Web) :
    Congruence ⟨files, web⟩ ⟨files, web'⟩ (Detaches ⟨files, web⟩) where
  pure := detaches_pure
  bind := Detaches.bind
  grammar _ _ _ := detaches_throw _
  outOfFuel := detaches_throw _
  next := detaches_next
  peek := detaches_peek

theorem detaches_get : Detaches w (get : ParserM Parser) get :=
  detaches_still fun _ => rfl

theorem detaches_note {e : Event} (h : e.Quiet) :
    Detaches w (note e) (note e) :=
  fun _ => ⟨.event h .refl, fun _ => rfl⟩

theorem detaches_unexpected (l : Lexeme) (expected : String) :
    Detaches w (unexpected (α := α) l expected) (unexpected l expected) :=
  detaches_throw _

theorem detaches_orFailAt (l : Location) (r : Except Error α) :
    Detaches w (orFailAt l r) (orFailAt l r) := by
  cases r with
  | ok a => exact detaches_pure a
  | error e => exact detaches_throw _

theorem grown_foldl_note (es : List Event) (k : SourceStack)
    (h : ∀ e ∈ es, e.Quiet) :
    Journal.Grown w k.journal (es.foldl SourceStack.note k).journal := by
  induction es generalizing k with
  | nil => exact .refl
  | cons e es ih =>
    have hnote : Journal.Grown w k.journal (k.note e).journal :=
      .event (h e List.mem_cons_self) .refl
    exact hnote.trans (ih _ fun e' he' => h e' (List.mem_cons_of_mem _ he'))

theorem detaches_finish (l : Lexeme) : Detaches w (finish l) (finish l) := by
  refine detaches_get.bind fun p => ?_
  split
  · exact detaches_pure ()
  · exact detaches_unexpected _ _

theorem journal_left_skipIgnored (k : SourceStack) :
    (stateAfter k.skipIgnored).journal = k.journal := by
  unfold SourceStack.skipIgnored
  cases k.sources with
  | nil => rfl
  | cons source below =>
    dsimp only
    cases source.cursor.skipSections 0 with
    | error e cursor => rfl
    | ok closed cursor => cases closed <;> rfl

theorem detaches_skipIgnored : Detaches w skipIgnored skipIgnored := by
  refine detaches_still fun p => ?_
  have hjournal := journal_left_skipIgnored p.stack
  unfold skipIgnored
  cases hk : p.stack.skipIgnored with
  | ok u k =>
    rw [hk] at hjournal
    exact hjournal
  | error e k =>
    rw [hk] at hjournal
    exact hjournal

theorem detaches_apply (i : Item) : Detaches w i.apply i.apply := by
  cases i with
  | element name content =>
    refine detaches_get.bind fun p => ?_
    split
    · exact detaches_note trivial
    · exact detaches_still fun _ => rfl
  | attlist name defs =>
    intro p
    refine ⟨grown_foldl_note _ p.stack fun e he => ?_, fun _ => rfl⟩
    obtain ⟨a, -, rfl⟩ := List.mem_map.1 he
    exact trivial
  | parameter name location d =>
    have hrest (t : EntityTable) : Detaches w
        (do
          let table ← orFailAt location (d.declare t name)
          modify fun p => { p with entities := table })
        (do
          let table ← orFailAt location (d.declare t name)
          modify fun p => { p with entities := table }) :=
      (detaches_orFailAt _ _).bind fun _ => detaches_still fun _ => rfl
    refine detaches_get.bind fun p => ?_
    dsimp only
    split
    · exact (detaches_note (by trivial)).bind fun _ => hrest p.entities
    · exact hrest p.entities
  | entity name location d =>
    refine detaches_get.bind fun p => (detaches_orFailAt _ _).bind fun e => detaches_get.bind fun q => ?_
    split
    · exact detaches_note trivial
    · exact detaches_still fun _ => rfl
  | notation_ name ids =>
    refine detaches_get.bind fun p => ?_
    split
    · exact detaches_note trivial
    · exact detaches_still fun _ => rfl
  | included opener => exact detaches_still fun _ => rfl
  | ignored opener => exact (detaches_note (by trivial)).bind fun _ => detaches_skipIgnored
  | sectionClose closer =>
    refine detaches_get.bind fun p => ?_
    split
    · exact detaches_unexpected _ _
    · split
      · exact detaches_still fun _ => rfl
      · exact detaches_unexpected _ _
  | comment => exact detaches_pure ()
  | instruction target data =>
    refine detaches_get.bind fun p => ?_
    split
    · exact detaches_still fun _ => rfl
    · exact detaches_note trivial

theorem detaches_subset (files : FileSystem) (web web' : Web) (fuel : Nat) :
    Detaches ⟨files, web⟩ (subset ⟨files, web⟩ fuel) (subset ⟨files, web'⟩ fuel) :=
  (congruence_detaches files web web').subset detaches_apply detaches_finish fuel

theorem detaches_parse (files : FileSystem) (web web' : Web) (fuel : Nat) :
    Detaches ⟨files, web⟩ (parse ⟨files, web⟩ fuel) (parse ⟨files, web'⟩ fuel) := by
  refine (detaches_subset files web web' fuel).bind fun _ => detaches_get.bind fun p => ?_
  exact (detaches_note (by trivial)).bind fun _ => detaches_pure _

/-- The journal of open sources grows, and the outcome of their parse is the same on every web unless
a page has been fetched. -/
theorem detached_parseSources (files : FileSystem) (web web' : Web) (fuel : Nat) (options : Options)
    (s : SourceStack) :
    Journal.Grown ⟨files, web⟩ s.journal (parseSources ⟨files, web⟩ fuel options s).2 ∧
      ((parseSources ⟨files, web⟩ fuel options s).2.Offline →
        parseSources ⟨files, web'⟩ fuel options s = parseSources ⟨files, web⟩ fuel options s) := by
  have hbased : s.based ⟨files, web'⟩ options = s.based ⟨files, web⟩ options := rfl
  have hgrown : Journal.Grown ⟨files, web⟩ s.journal
      (stateAfter (s.based ⟨files, web⟩ options)).journal := by
    unfold SourceStack.based
    cases options.base with
    | none => exact .refl
    | some path =>
      have hnoted : Journal.Grown ⟨files, web⟩ s.journal (s.note (.sought path)).journal :=
        .event trivial .refl
      dsimp only
      unfold SourceStack.setBase
      split
      · split <;> exact hnoted
      · exact hnoted
  rw [parseSources_eq, parseSources_eq, hbased]
  cases hb : s.based ⟨files, web⟩ options with
  | error e b =>
    rw [hb] at hgrown
    exact ⟨hgrown, fun _ => rfl⟩
  | ok u b =>
    rw [hb] at hgrown
    obtain ⟨hgrown', hsame⟩ := detaches_parse files web web' fuel
      { stack := b, keepInstructions := options.keepInstructions }
    dsimp only
    cases hp : parse ⟨files, web⟩ fuel
        { stack := b, keepInstructions := options.keepInstructions } with
    | error halt q =>
      rw [hp] at hgrown' hsame
      exact ⟨hgrown.trans hgrown', fun h => by rw [hsame h]⟩
    | ok m q =>
      rw [hp] at hgrown' hsame
      exact ⟨hgrown.trans hgrown', fun h => by rw [hsame h]⟩

/-- In front of a parse no reference is met. -/
theorem grown_before (w : World) (input : Input) : Journal.Grown w [] input.before := by
  cases input with
  | text name content => exact .refl
  | file path => exact .event trivial (.event trivial .refl)

theorem grown_opened {w : World} {input : Input} {s : SourceStack} (h : input.opened w = .ok s) :
    Journal.Grown w [] s.journal := by
  cases input with
  | text name content =>
    cases h
    exact .refl
  | file path =>
    simp only [Input.opened] at h
    cases hs : SourceStack.openFile w.files path with
    | error e =>
      rw [hs] at h
      cases h
    | ok k =>
      rw [hs] at h
      cases h
      unfold SourceStack.openFile at hs
      split at hs
      · cases hs
      · cases hs
        exact .event trivial (grown_before w (.file path))

/-- A parse fetches a page only where it meets a reference whose identifier leads to a page, and to
no local file. If it fetches none, then it is the same on every other web. -/
theorem parse_offline (files : FileSystem) (web web' : Web) (fuel : Nat) (options : Options)
    (input : Input) :
    (∃ refs : List Reference,
      Journal.Grows ⟨files, web⟩ [] refs (input.parse ⟨files, web⟩ fuel options).2 ∧
      ((input.parse ⟨files, web⟩ fuel options).2.Offline ↔ ∀ r ∈ refs, ¬r.Remote files)) ∧
    ((input.parse ⟨files, web⟩ fuel options).2.Offline →
      input.parse ⟨files, web'⟩ fuel options = input.parse ⟨files, web⟩ fuel options) := by
  have hopened : input.opened ⟨files, web'⟩ = input.opened ⟨files, web⟩ := by cases input <;> rfl
  have hmet {j : Journal} (h : Journal.Grown ⟨files, web⟩ [] j) :
      ∃ refs, Journal.Grows ⟨files, web⟩ [] refs j ∧ (j.Offline ↔ ∀ r ∈ refs, ¬r.Remote files) := by
    obtain ⟨refs, h⟩ := h
    exact ⟨refs, h, h.offline_iff.trans (and_iff_right Journal.offline_nil)⟩
  rw [Input.parse_eq, Input.parse_eq, hopened]
  cases ho : input.opened ⟨files, web⟩ with
  | error e => exact ⟨hmet (grown_before _ input), fun _ => rfl⟩
  | ok s =>
    obtain ⟨hgrown, hsame⟩ := detached_parseSources files web web' fuel options s
    exact ⟨hmet ((grown_opened ho).trans hgrown), hsame⟩

variable {p q : Parser} {source : Source} {name : String}

theorem Advances.grown (h : Advances w p q) : Journal.Grown w p.log q.log := by
  obtain ⟨fuel, l, p₁, i, p₂, hn, -, hi, ha⟩ := h
  have hcongruence := congruence_detaches w.files w.web w.web
  have hnext := (hcongruence.next p).grown
  have hitem := (hcongruence.item fuel l p₁).grown
  have happly := (detaches_apply (w := w) i p₂).grown
  rw [hn] at hnext
  rw [hi] at hitem
  rw [ha] at happly
  exact (hnext.trans hitem).trans happly

theorem Reaches.grown (h : Reaches w p q) : Journal.Grown w p.log q.log := by
  induction h with
  | refl => exact .refl
  | tail _ hstep ih => exact ih.trans hstep.grown

theorem Completes.grown (h : Completes w p q) : Journal.Grown w p.log q.log := by
  obtain ⟨r, hr, l, hn, -, -⟩ := h
  have hnext := ((congruence_detaches w.files w.web w.web).next r).grown
  rw [hn] at hnext
  exact hr.grown.trans hnext

/-- In front of a reference to a blank text, at the end of the input, a parse comes to its end. It
fetches nothing more than what the reference makes it fetch. -/
theorem Stands.completes_blank {cs : List Char} {opened : EntityText}
    (h : p.Stands source ('%' :: (name.toList ++ [';']))) (hname : isName name)
    (hopen : p.entities.openReference w name source.base = .ok opened)
    (hcontent : opened.content.readAll = .ok cs) (hblank : Blank cs) :
    ∃ e, Completes w p e ∧ e.declared = p.declared ∧
      (p.log.Offline → Journal.Offline (p.entities.openEvents w name source.base) →
        e.log.Offline) := by
  obtain ⟨c, hshows, hnext⟩ := h.next_reference hname hopen
  -- the replacement text is left, and then the text with the reference
  have hinner : ((p.stack.readTo source [] c).expanding name opened).cursor.Shows cs :=
    Reader.readAll_eq_ok.1 hcontent
  obtain ⟨s, hnext', hsources, hnextId, hrefs⟩ :=
    SourceStack.next_of_blank (w := w) (t := p.entities)
      (s := (p.stack.readTo source [] c).entered w p.entities name opened) rfl hinner hblank
  have hstands : ({ p with stack := s } : Parser).Stands source [] := by
    refine ⟨h.entity, ⟨c, [], hsources, blank_nil, hshows⟩, ?_, h.peeked, h.sections⟩
    show source.id < s.nextId
    rw [hnextId]
    exact Nat.lt_succ_of_lt h.fresh
  obtain ⟨e, hcompletes, hdeclared, hrefs'⟩ := hstands.completes (w := w)
  rw [← completes_congr (p := p) h.peeked (hnext.trans hnext')] at hcompletes
  refine ⟨e, hcompletes, hdeclared, fun hp hevents => ?_⟩
  have hentered : ((p.stack.readTo source [] c).entered w p.entities name opened).journal.Offline := by
    refine Journal.offline_cons (by simp) (Journal.offline_append.2 ⟨?_, hp⟩)
    exact fun entity url hmem => hevents entity url (List.mem_reverse.1 hmem)
  rw [completes_congr (p := p) h.peeked hnext] at hcompletes
  exact hcompletes.grown.offline_of_count (congrFun (hrefs'.trans hrefs)) hentered

/-- A world with an empty file. -/
def hollow : World :=
  ⟨((FileTree.empty "/").insert "f" (.file (.ofText ""))).files, .unreachable⟩

theorem parse_offline_hollow :
    ∃ fuel journal, Input.parse hollow fuel {} (.text "a.dtd" "<!ENTITY % e SYSTEM \"f\">\n%e;") =
        (.ok { parameters := { uris := [("e", "f")] } }, journal) ∧ journal.Offline ∧
      Input.parse ⟨hollow.files, fun _ => .ok (.ofText "<!ELEMENT b ANY>")⟩ fuel {}
          (.text "a.dtd" "<!ENTITY % e SYSTEM \"f\">\n%e;") =
        (.ok { parameters := { uris := [("e", "f")] } }, journal) := by
  have htext : "<!ENTITY % e SYSTEM \"f\">\n%e;" = DocumentType.uriText ("e", "f") ++ "%e;" := by
    decide
  have hstart := stands_start {} "a.dtd" (DocumentType.uriText ("e", "f") ++ "%e;")
  rw [String.toList_append] at hstart
  -- the entity is declared, and then it is referred to
  obtain ⟨p, hreaches, hstands, -, hdeclared, hrefs⟩ :=
    rebuilds_uri (w := hollow) (t := {}) (m := {}) (b := ("e", "f")) rfl (.inl (by decide)) rfl nofun
      _ _ hstart rfl rfl
  injection hdeclared with hentities hmodel
  have hopen : p.entities.openReference hollow "e" (.dir ".") = .ok ⟨.file "./f", .ofText ""⟩ := by
    rw [hentities]
    decide +kernel
  have hrefers : p.Stands _ ('%' :: ("e".toList ++ [';'])) := hstands
  obtain ⟨e, ⟨q, hq, hends⟩, hdeclared, hoffline⟩ :=
    hrefers.completes_blank rfl hopen (Reader.readAll_ofText "") blank_nil
  have hevents : Journal.Offline (p.entities.openEvents hollow "e" (.dir ".")) := by
    have hlocate : EntityTable.locate hollow.files "e" "f" (.dir ".") = .ok (.byPath _ _) :=
      EntityTable.locate_of_read rfl
    rw [hentities]
    refine EntityTable.offline_openEvents_iff.2 fun target url htarget => ?_
    cases htarget
    rw [hlocate]
    simp
  have hlog : e.log.Offline :=
    hoffline (hreaches.grown.offline_of_count (congrFun hrefs) Journal.offline_nil) hevents
  have hu : ({} : Options).Usable hollow := nofun
  obtain ⟨fuel, hparse⟩ := parseText_of_reaches hu (hreaches.trans hq) hends
  injection hdeclared with hentities' hmodel'
  have hresult : e.result = { parameters := { uris := [("e", "f")] } } := by
    unfold result
    rw [hentities', hmodel', hentities, hmodel]
    rfl
  rw [← htext, hresult] at hparse
  have hoffline : Journal.Offline (e.conclusion :: e.log) :=
    Journal.offline_cons (by simp [conclusion]) hlog
  have hjournal : (parseText hollow fuel {} "a.dtd" "<!ENTITY % e SYSTEM \"f\">\n%e;").2.Offline := by
    rw [hparse]
    exact hoffline
  refine ⟨fuel, _, hparse, hoffline, Eq.trans ?_ hparse⟩
  exact (parse_offline hollow.files hollow.web _ fuel {} (.text "a.dtd" _)).2 hjournal

end Parser

end Doctype
