import Doctype.Proofs.Parser.Sections
import Doctype.Proofs.Parser.Transcript

/-! Declarations, sections and sources nest in each other. -/
namespace Doctype

/-- Whether an item opens or closes an `INCLUDE` section. -/
def Item.isSectionMark : Item → Bool
  | included _ | sectionClose _ => true
  | _ => false

/-- Each `INCLUDE` section ends with a `]]>` from the source of its `<![`, and sections nest. -/
inductive Nested : List Item → Prop
  | nil : Nested []
  | other {i : Item} {is : List Item} : i.isSectionMark = false → Nested is → Nested (i :: is)
  | section {opener closer : Lexeme} {is js : List Item} : closer.source = opener.source →
      Nested is → Nested js → Nested (.included opener :: (is ++ .sectionClose closer :: js))

/-- The items among some marks. -/
def items (marks : List Mark) : List Item :=
  marks.filterMap fun
    | .item _ i => some i
    | _ => none

/-- Declarations and sections end in the sources that they begin in, and each source is closed while
as many sections are open as when it was opened. -/
structure Proper (marks : List Mark) : Prop where
  spans : ∀ ls i, .item ls i ∈ marks → i.Spans ls
  sections : Nested (items marks)
  sources : ∀ id n, .opened id n ∈ marks → ∀ n', .closed id n' ∈ marks ↔ n' = n

/-- Items that close the sections which have been opened in some sources, innermost first. -/
inductive Finishes : List Nat → List Item → Prop
  | done {is : List Item} : Nested is → Finishes [] is
  | closes {closer : Lexeme} {sources : List Nat} {is js : List Item} : Nested is →
      Finishes sources js → Finishes (closer.source :: sources) (is ++ .sectionClose closer :: js)

/-- What the marks of the rest of a parse tell about the sources and sections that are open: the
sections have begun in open sources, and a source is closed when just the sections from sources
below it are left. -/
structure Settles (ids : List Nat) (nextId : Nat) (sections : List Nat) (marks : List Mark) :
    Prop where
  alive : ∀ b ∈ sections, b ∈ ids
  kept : ∀ id ∈ ids, ∀ n, .closed id n ∈ marks ↔ n = sections.countP (· < id)
  balanced : ∀ id n, .opened id n ∈ marks → ∀ n', .closed id n' ∈ marks ↔ n' = n
  closed : ∀ id n, .closed id n ∈ marks → id ∈ ids ∨ nextId ≤ id
  opened : ∀ id n, .opened id n ∈ marks → nextId ≤ id

variable {is js : List Item} {i : Item} {ids sections sources : List Nat} {nextId id b : Nat}
  {marks : List Mark} {ls : List Lexeme}

section Sections

theorem Finishes.other (hi : i.isSectionMark = false) (h : Finishes sources is) :
    Finishes sources (i :: is) := by
  cases h with
  | done h => exact .done (.other hi h)
  | closes h hrest => exact .closes (.other hi h) hrest

theorem Finishes.included {opener : Lexeme} (h : Finishes (opener.source :: sources) is) :
    Finishes sources (.included opener :: is) := by
  generalize hs : opener.source :: sources = all at h
  cases h with
  | done => cases hs
  | @closes closer sources' is js hnested hrest =>
    injection hs with hsource hsources
    subst hsources
    cases hrest with
    | done hjs => exact .done (.section hsource.symm hnested hjs)
    | @closes closer' sources is' js' hjs hrest =>
      have hsection := Nested.section hsource.symm hnested hjs
      have hclose : Finishes (closer'.source :: sources) _ := .closes hsection hrest
      simpa only [List.cons_append, List.append_assoc] using hclose

theorem Finishes.sectionClose {closer : Lexeme} (h : Finishes sources is) :
    Finishes (closer.source :: sources) (.sectionClose closer :: is) :=
  .closes .nil h

end Sections

section Sources

theorem Settles.nil (nextId : Nat) : Settles [] nextId [] [] :=
  ⟨nofun, nofun, nofun, nofun, nofun⟩

/-- An item neither opens nor closes a source. -/
theorem Settles.item (h : Settles ids nextId sections marks) (ls : List Lexeme) (i : Item) :
    Settles ids nextId sections (.item ls i :: marks) := by
  have hopened (id n : Nat) : .opened id n ∈ .item ls i :: marks ↔ .opened id n ∈ marks := by simp
  have hclosed (id n : Nat) : .closed id n ∈ .item ls i :: marks ↔ .closed id n ∈ marks := by simp
  obtain ⟨halive, hkept, hbalanced, hpast, hfuture⟩ := h
  constructor
  · exact halive
  · simpa only [hclosed] using hkept
  · simpa only [hclosed, hopened] using hbalanced
  · simpa only [hclosed] using hpast
  · simpa only [hopened] using hfuture

theorem le_head (hids : ids.Pairwise (· > ·)) (hb : ids.head? = some b) : ∀ id ∈ ids, id ≤ b := by
  cases ids with
  | nil => cases hb
  | cons a ids =>
    obtain rfl : a = b := Option.some.inj hb
    have hlt := (List.pairwise_cons.1 hids).1
    exact List.forall_mem_cons.2 ⟨le_refl a, fun id hid => Nat.le_of_lt (hlt id hid)⟩

/-- A section that begins in the innermost source does not count for the sources below it. -/
theorem countP_head (hids : ids.Pairwise (· > ·)) (hb : ids.head? = some b) (hid : id ∈ ids) :
    (b :: sections).countP (· < id) = sections.countP (· < id) := by
  have hle := le_head hids hb id hid
  rw [List.countP_cons_of_neg]
  simpa using hle

theorem settles_cons_iff (hids : ids.Pairwise (· > ·)) (hb : ids.head? = some b) :
    Settles ids nextId (b :: sections) marks ↔ Settles ids nextId sections marks := by
  constructor
  · rintro ⟨halive, hkept, hbalanced, hpast, hfuture⟩
    refine ⟨(List.forall_mem_cons.1 halive).2, fun id hid n => ?_, hbalanced, hpast, hfuture⟩
    rw [hkept id hid n, countP_head hids hb hid]
  · rintro ⟨halive, hkept, hbalanced, hpast, hfuture⟩
    have hmem := List.mem_of_head? hb
    refine ⟨List.forall_mem_cons.2 ⟨hmem, halive⟩, fun id hid n => ?_, hbalanced, hpast, hfuture⟩
    rw [hkept id hid n, countP_head hids hb hid]

theorem Settles.opens (h : Settles (nextId :: ids) (nextId + 1) sections marks)
    (hids : ∀ id ∈ ids, id < nextId) (hsections : ∀ b ∈ sections, b < nextId) :
    Settles ids nextId sections (.opened nextId sections.length :: marks) := by
  obtain ⟨halive, hkept, hbalanced, hpast, hfuture⟩ := h
  have hclosed (id n : Nat) :
      .closed id n ∈ .opened nextId sections.length :: marks ↔ .closed id n ∈ marks := by simp
  constructor
  · intro b hb
    rcases List.mem_cons.1 (halive b hb) with rfl | hmem
    · exact absurd (hsections _ hb) (lt_irrefl _)
    · exact hmem
  · intro id hid n
    rw [hclosed]
    exact hkept id (List.mem_cons_of_mem _ hid) n
  · intro id n hopened n'
    rw [hclosed]
    rcases List.mem_cons.1 hopened with he | hopened
    · cases he
      have hall : sections.countP (· < nextId) = sections.length :=
        List.countP_eq_length.2 fun b hb => by simpa using hsections b hb
      rw [hkept nextId List.mem_cons_self n', hall]
    · exact hbalanced id n hopened n'
  · intro id n hid
    rcases hpast id n ((hclosed id n).1 hid) with hmem | hle
    · rcases List.mem_cons.1 hmem with rfl | hmem
      · exact .inr (le_refl _)
      · exact .inl hmem
    · exact .inr (by omega)
  · intro id n hopened
    rcases List.mem_cons.1 hopened with he | hopened
    · cases he
      exact le_refl _
    · have hle := hfuture id n hopened
      omega

theorem Settles.closes (h : Settles ids nextId sections marks) (hids : (id :: ids).Pairwise (· > ·))
    (hid : id < nextId) :
    Settles (id :: ids) nextId sections (.closed id sections.length :: marks) := by
  obtain ⟨halive, hkept, hbalanced, hpast, hfuture⟩ := h
  have hlt : ∀ a ∈ ids, a < id := (List.pairwise_cons.1 hids).1
  have hopened (k n : Nat) :
      .opened k n ∈ .closed id sections.length :: marks ↔ .opened k n ∈ marks := by simp
  have hclosed {k : Nat} (hk : k ≠ id) (n : Nat) :
      .closed k n ∈ .closed id sections.length :: marks ↔ .closed k n ∈ marks := by simp [hk]
  have hgone (n : Nat) : .closed id n ∉ marks := by
    intro hmem
    rcases hpast id n hmem with hin | hle
    · exact absurd (hlt id hin) (lt_irrefl _)
    · omega
  constructor
  · exact fun b hb => List.mem_cons_of_mem _ (halive b hb)
  · intro k hk n
    rcases List.mem_cons.1 hk with rfl | hk
    · -- when the source is closed, all sections are from sources below it
      have hall : sections.countP (· < k) = sections.length :=
        List.countP_eq_length.2 fun b hb => by simpa using hlt b (halive b hb)
      rw [hall]
      simp [hgone]
    · rw [hclosed (Nat.ne_of_lt (hlt k hk))]
      exact hkept k hk n
  · intro k n hmem n'
    have hmem' := (hopened k n).1 hmem
    have hle := hfuture k n hmem'
    rw [hclosed (by omega)]
    exact hbalanced k n hmem' n'
  · intro k n hmem
    by_cases hk : k = id
    · exact .inl (hk ▸ List.mem_cons_self)
    · exact (hpast k n ((hclosed hk n).1 hmem)).imp_left (List.mem_cons_of_mem _)
  · intro k n hmem
    exact hfuture k n ((hopened k n).1 hmem)

/-- Opening and closing sources in order is settled by what settles the rest. -/
theorem SourceStack.Leads.settles {s s' : SourceStack} {ts : List Turn} (h : s.Leads ts s')
    (hs : s.Orderly) (hsections : ∀ b ∈ sections, b < s.nextId)
    (h' : Settles s'.ids s'.nextId sections marks) :
    Settles s.ids s.nextId sections (ts.map (Turn.mark sections.length) ++ marks) := by
  induction h with
  | refl => exact h'
  | stays hstep _ ih =>
    have hrest := ih (hstep.orderly hs) (hstep.nextId ▸ hsections) h'
    rwa [hstep.ids, hstep.nextId] at hrest
  | opens hstep _ ih =>
    have hrest := ih (hstep.orderly hs) (fun b hb => by
      have hlt := hsections b hb
      have hnext := hstep.nextId
      omega) h'
    rw [hstep.ids, hstep.nextId] at hrest
    exact hrest.opens hs.fresh hsections
  | @closes s s₁ s' ts id hstep _ ih =>
    have hrest := ih (hstep.orderly hs) (hstep.nextId ▸ hsections) h'
    rw [hstep.nextId] at hrest
    have hdescending := hs.descending
    have hfresh := hs.fresh
    rw [hstep.ids] at hdescending hfresh ⊢
    exact hrest.closes hdescending (hfresh id List.mem_cons_self)

end Sources

section Moves

variable {s s' : SourceStack} {c c' : List (Nat × Location)}

theorem stays_of_moves (h : i.Moves s c s' c') : s.Stays s' := by
  have hstays (hsources : s'.sources = s.sources) (hnext : s'.nextId = s.nextId) : s.Stays s' := by
    refine ⟨?_, ?_, hnext⟩
    · unfold SourceStack.ids
      rw [hsources]
    · unfold SourceStack.expanded
      rw [hsources]
  have hnoted (h : s.Noted s' ∧ c' = c) : s.Stays s' := hstays h.1.sources h.1.nextId
  cases i with
  | included opener => exact hstays (congrArg _ h.1) (congrArg _ h.1)
  | sectionClose closer => exact hstays (congrArg _ h.1) (congrArg _ h.1)
  | ignored opener =>
    have hskip := SourceStack.stays_skipIgnored (s.note (.skipping opener.location))
    rw [h.1] at hskip
    exact ⟨hskip.ids, hskip.expanded, hskip.nextId⟩
  | element => exact hnoted h
  | attlist => exact hnoted h
  | parameter => exact hnoted h
  | entity => exact hnoted h
  | notation_ => exact hnoted h
  | comment => exact hnoted h
  | instruction => exact hnoted h

/-- Only its marks open and close sections. -/
theorem sections_of_moves (h : i.Moves s c s' c') :
    i.isSectionMark = false ∧ c' = c ∨
      (∃ opener, i = .included opener ∧ c' = (opener.source, opener.location) :: c) ∨
        ∃ closer location, i = .sectionClose closer ∧ c = (closer.source, location) :: c' := by
  cases i with
  | included opener => exact .inr (.inl ⟨opener, rfl, h.2⟩)
  | sectionClose closer =>
    obtain ⟨-, location, hc⟩ := h
    exact .inr (.inr ⟨closer, location, rfl, hc⟩)
  | ignored => exact .inl ⟨rfl, h.2⟩
  | element => exact .inl ⟨rfl, h.2⟩
  | attlist => exact .inl ⟨rfl, h.2⟩
  | parameter => exact .inl ⟨rfl, h.2⟩
  | entity => exact .inl ⟨rfl, h.2⟩
  | notation_ => exact .inl ⟨rfl, h.2⟩
  | comment => exact .inl ⟨rfl, h.2⟩
  | instruction => exact .inl ⟨rfl, h.2⟩

variable {w : World} {t : EntityTable}

/-- Behind the head of a section its source is the innermost one. -/
theorem head_ids_of_included {opener : Lexeme} (h : Item.Spans ls (.included opener))
    (hpulls : s.Pulls w t ls s') : s'.ids.head? = some opener.source := by
  cases h with
  | declaration _ _ _ hi => cases hi
  | conditional _ hbracket hsource hi =>
    rcases hi with hi | hi
    · cases hi
      rw [← hsource]
      exact hpulls.head_ids rfl (hbracket ▸ nofun)
    · cases hi

theorem head_ids_of_sectionClose {closer : Lexeme} (h : Item.Spans ls (.sectionClose closer))
    (hpulls : s.Pulls w t ls s') : s'.ids.head? = some closer.source := by
  cases h with
  | declaration _ _ _ hi => cases hi
  | conditional _ _ _ hi => rcases hi with hi | hi <;> cases hi
  | sectionClose htoken => exact hpulls.head_ids rfl (htoken ▸ nofun)

end Moves

section Marks

variable {w : World}

theorem item_not_mem_turns (ts : List Turn) (n : Nat) : .item ls i ∉ ts.map (Turn.mark n) := by
  intro h
  obtain ⟨t, -, ht⟩ := List.mem_map.1 h
  cases t <;> cases ht

theorem items_turns (ts : List Turn) (n : Nat) : items (ts.map (Turn.mark n)) = [] := by
  refine List.filterMap_eq_nil_iff.2 fun a ha => ?_
  obtain ⟨t, -, rfl⟩ := List.mem_map.1 ha
  cases t <;> rfl

theorem items_step (ts : List Turn) (n : Nat) (ls : List Lexeme) (i : Item) (marks : List Mark) :
    items (ts.map (Turn.mark n) ++ .item ls i :: marks) = i :: items marks := by
  have hturns := items_turns ts n
  unfold items at hturns ⊢
  rw [List.filterMap_append, hturns]
  rfl

end Marks

namespace Parser

variable {w : World} {fuel : Nat} {p p₁ p₂ p₃ q : Parser} {l : Lexeme} {s : SourceStack}

/-- What reading an item and its effect amount to. -/
structure Reading (w : World) (p : Parser) (ls : List Lexeme) (i : Item) (s : SourceStack)
    (q : Parser) : Prop where
  spans : i.Spans ls
  pulls : p.stack.Pulls w p.entities ls s
  moves : i.Moves s p.sections q.stack q.sections
  peeked : q.peeked = none

theorem reading_of_item (hp : p.peeked = none) (hn : next w p = .ok l p₁)
    (heof : l.token ≠ .endOfInput) (hi : item w fuel l p₁ = .ok i p₂)
    (hpulls : p.stack.Pulls w p.entities (l :: ls) p₂.stack) (ha : i.apply p₂ = .ok () p₃) :
    Reading w p (l :: ls) i p₂.stack p₃ := by
  obtain ⟨-, -, hp₂⟩ := Reads.of_item hp hn heof hi
  have heffect := effect_of_apply ha
  constructor
  · exact spans_of_item hp hn hi hpulls
  · exact hpulls
  · have hmoves := heffect.moves
    rw [hp₂] at hmoves
    exact hmoves
  · rw [heffect.peeked, hp₂]
    exact hp

/-- The declarations of a parse end where they begin. -/
theorem Transcribes.spans (h : Transcribes w fuel p marks q) (hp : p.peeked = none) :
    ∀ ls i, .item ls i ∈ marks → i.Spans ls := by
  induction h with
  | ends => exact fun ls i hmem => absurd hmem (item_not_mem_turns _ _)
  | item hn heof hi hpulls ha _ ih =>
    have hreading := reading_of_item hp hn heof hi hpulls ha
    intro ls i hmem
    rcases List.mem_append.1 hmem with hmem | hmem
    · exact absurd hmem (item_not_mem_turns _ _)
    · rcases List.mem_cons.1 hmem with he | hmem
      · cases he
        exact hreading.spans
      · exact ih hreading.peeked ls i hmem

/-- The sections of a parse nest. -/
theorem Transcribes.finishes (h : Transcribes w fuel p marks q) (hp : p.peeked = none) :
    Finishes (p.sections.map (·.1)) (items marks) := by
  induction h with
  | @ends fuel p q l hn heof hs =>
    rw [next_of_none hp] at hn
    obtain ⟨-, hq⟩ := scan_ok hn
    rw [hq] at hs
    rw [items_turns, hs]
    exact .done .nil
  | item hn heof hi hpulls ha _ ih =>
    have hreading := reading_of_item hp hn heof hi hpulls ha
    have hrest := ih hreading.peeked
    rw [items_step]
    rcases sections_of_moves hreading.moves with
      ⟨hmark, hc⟩ | ⟨opener, rfl, hc⟩ | ⟨closer, _, rfl, hc⟩
    · rw [hc] at hrest
      exact hrest.other hmark
    · rw [hc] at hrest
      exact hrest.included
    · rw [hc]
      exact hrest.sectionClose

/-- A parse ends without open sections, and closes the sources that are still open. -/
theorem settles_of_ends (ho : p.stack.Orderly) (hn : scan w p = .ok l q)
    (heof : l.token = .endOfInput) (hs : q.sections = []) :
    Settles p.stack.ids p.stack.nextId (p.sections.map (·.1))
      ((p.stack.nextTurns w p.entities).map (Turn.mark p.sections.length)) := by
  obtain ⟨hnext, hq⟩ := scan_ok hn
  have hsections : p.sections = [] := by
    rw [hq] at hs
    exact hs
  have hnil : q.stack.ids = [] := by
    unfold SourceStack.ids
    rw [(SourceStack.next_readsFrom hnext).1.1 heof]
    rfl
  have hleads := SourceStack.leads_next w p.entities p.stack
  rw [hnext] at hleads
  have hend : Settles q.stack.ids q.stack.nextId [] [] := by
    rw [hnil]
    exact .nil _
  have hsettles := hleads.settles ho (List.forall_mem_nil _) hend
  rw [List.append_nil] at hsettles
  rwa [hsections]

/-- The item of a reading leaves the sources as they are, and opens and closes sections in the
innermost one only. -/
theorem Reading.settles (h : Reading w p ls i s q) (ho : s.Orderly)
    (hsections : ∀ b ∈ p.sections.map (·.1), b < s.nextId)
    (hrest : (∀ b ∈ q.sections.map (·.1), b < s.nextId) →
      Settles s.ids s.nextId (q.sections.map (·.1)) marks) :
    Settles s.ids s.nextId (p.sections.map (·.1)) marks := by
  have hhead {b : Nat} (hb : s.ids.head? = some b) : b < s.nextId :=
    ho.fresh b (List.mem_of_head? hb)
  rcases sections_of_moves h.moves with ⟨-, hc⟩ | ⟨opener, rfl, hc⟩ | ⟨closer, _, rfl, hc⟩
  · rw [hc] at hrest
    exact hrest hsections
  · have hb := head_ids_of_included h.spans h.pulls
    rw [hc] at hrest
    exact (settles_cons_iff ho.descending hb).1
      (hrest (List.forall_mem_cons.2 ⟨hhead hb, hsections⟩))
  · have hb := head_ids_of_sectionClose h.spans h.pulls
    rw [hc] at hsections ⊢
    exact (settles_cons_iff ho.descending hb).2 (hrest (List.forall_mem_cons.1 hsections).2)

/-- The sources of a parse are settled by the rest of it. -/
theorem Transcribes.settles (h : Transcribes w fuel p marks q) (hp : p.peeked = none)
    (ho : p.stack.Orderly) (hsections : ∀ b ∈ p.sections.map (·.1), b < p.stack.nextId) :
    Settles p.stack.ids p.stack.nextId (p.sections.map (·.1)) marks := by
  induction h with
  | ends hn heof hs =>
    rw [next_of_none hp] at hn
    exact settles_of_ends ho hn heof hs
  | @item fuel p p₁ p₂ p₃ q l ls i marks hn heof hi hpulls ha _ ih =>
    have hreading := reading_of_item hp hn heof hi hpulls ha
    have hleads := hpulls.leads
    have ho₂ : p₂.stack.Orderly := hleads.orderly ho
    have hstays := stays_of_moves hreading.moves
    have hle := hleads.nextId_le
    have hsettles : Settles p₂.stack.ids p₂.stack.nextId (p.sections.map (·.1)) marks := by
      refine hreading.settles ho₂ (fun b hb => ?_) fun h => ?_
      · have hlt := hsections b hb
        omega
      · have hsettles := ih hreading.peeked (hstays.orderly ho₂) (hstays.nextId ▸ h)
        rwa [hstays.ids, hstays.nextId] at hsettles
    have hall := hleads.settles ho hsections (hsettles.item (l :: ls) i)
    rwa [List.length_map] at hall

variable {options : Options} {b : SourceStack} {m : DocumentType}

theorem stays_based (h : s.based w options = .ok () b) : s.Stays b := by
  unfold SourceStack.based at h
  split at h
  · cases h
    exact .refl s
  · rename_i path _
    have hstays := SourceStack.stays_setBase w.files path (s.note (.sought path))
    rw [h] at hstays
    exact ⟨hstays.ids, hstays.expanded, hstays.nextId⟩

/-- What happens in a parse of one source is proper. -/
theorem Transcript.proper (h : Transcript w fuel options s marks m) (ho : s.Orderly)
    (hids : s.ids = [1]) (hnext : s.nextId = 2) : Proper marks := by
  cases h with
  | @parse b q marks hb htranscribes =>
    have hstays := stays_based hb
    have hsettles := htranscribes.settles rfl (hstays.orderly ho) nofun
    change Settles b.ids b.nextId [] marks at hsettles
    rw [hstays.ids, hstays.nextId, hids, hnext] at hsettles
    have hopened := hsettles.opens nofun nofun
    rw [hids]
    constructor
    · intro ls i hmem
      rcases List.mem_cons.1 hmem with he | hmem
      · cases he
      · exact htranscribes.spans rfl ls i hmem
    · have hfinishes := htranscribes.finishes rfl
      cases hfinishes with
      | done h => exact h
    · exact hopened.balanced

theorem parses_included_specimen :
    Parses bare { keepInstructions := true } "a.dtd"
      ("<!ENTITY % e \"<!ELEMENT b ANY>\n\">\n<!ELEMENT b ANY>\n" ++ "<![INCLUDE[" ++ "<?p x?>\n" ++
        "]]>" ++ "") .specimen := by
  apply (parses_included_iff (X := "<?p x?>\n") parses_draft parses_specimen "" _).2
  rw [String.append_empty]
  exact parses_specimen

theorem parseFile_furnished :
    ∃ fuel, (parseFile furnished fuel {} "f").1 = .ok { elements := [("b", .any)] } := by
  obtain ⟨s, base, name, hs, hsources, hnext⟩ : ∃ s base name,
      SourceStack.openFile furnished.files "f" = .ok s ∧
        s.sources = [⟨1, none, base, { name, unread := .ofText "<!ELEMENT b ANY>\n" }⟩] ∧
        s.nextId = 2 := ⟨_, _, _, rfl, rfl, rfl⟩
  let source : Source := ⟨1, none, base, { name, unread := .done }⟩
  let p : Parser := { stack := { s with journal := s.journal ++ [.sought "f", .parsing "f"] } }
  have hm : DocumentType.Sound false { elements := [("b", .any)] } :=
    ⟨DocumentType.proper_any, .empty, .empty, .empty, nofun⟩
  have hrebuilds := rebuilds_text furnished source EntityTable.sound_empty hm ⟨nofun, nofun⟩
  have htext : DocumentType.text { elements := [("b", .any)] } = "<!ELEMENT b ANY>\n" := by decide
  have hstands : p.Stands source ((DocumentType.text { elements := [("b", .any)] }).toList ++ []) := by
    rw [htext]
    refine ⟨rfl, ⟨_, [], hsources, blank_nil, Cursor.shows_ofText _ _⟩, ?_, rfl, rfl⟩
    change 1 < s.nextId
    omega
  obtain ⟨q, hq, hstands', -, he, -⟩ := hrebuilds p [] hstands rfl rfl
  obtain ⟨r, ⟨u, hu, hends⟩, hr, -⟩ := hstands'.completes (w := furnished)
  obtain ⟨fuel, hsubset⟩ := subset_of_reaches (hq.trans hu) hends rfl
  refine ⟨fuel, ?_⟩
  have hparse :
      parse furnished fuel p = .ok r.result { r with stack := r.stack.note r.conclusion } := by
    rw [parse_eq, hsubset fuel (le_refl fuel)]
  unfold parseFile
  simp only [hs]
  rw [parseSources_of_parse rfl hparse]
  have hdeclared := hr.trans he
  injection hdeclared with hentities hmodel
  unfold result
  rw [hentities, hmodel]
  rfl

/-- In a parse of a text or of a file that succeeds, each declaration ends in the source that it
begins in, the marks of each section stand in one source, and each source is closed while as many
sections are open as when it was opened. -/
theorem proper_of_parse (w : World) (fuel : Nat) (options : Options) :
    (∀ name text m, (parseText w fuel options name text).1 = .ok m →
      ∃ marks, (∀ marks', Transcript w fuel options (.ofText name text ".") marks' m ↔
        marks' = marks) ∧ Proper marks) ∧
    ∀ path m, (parseFile w fuel options path).1 = .ok m →
      ∃ s marks, SourceStack.openFile w.files path = .ok s ∧
        (∀ marks', Transcript w fuel options
          { s with journal := s.journal ++ [.sought path, .parsing path] } marks' m ↔
            marks' = marks) ∧ Proper marks := by
  constructor
  · intro name text m h
    obtain ⟨marks, hmarks⟩ := exists_transcript h
    have ho := (SourceStack.Begins.ofText name text ".").orderly
    exact ⟨marks, hmarks, ((hmarks marks).2 rfl).proper ho rfl rfl⟩
  · intro path m h
    unfold parseFile at h
    cases hs : SourceStack.openFile w.files path with
    | error e =>
      rw [hs] at h
      cases h
    | ok s =>
      rw [hs] at h
      obtain ⟨marks, hmarks⟩ := exists_transcript h
      have hopens := SourceStack.opens_openFile hs
      have ho : s.Orderly := (SourceStack.Begins.openFile hs).orderly
      refine ⟨s, marks, rfl, hmarks, ((hmarks marks).2 rfl).proper ?_ hopens.ids hopens.nextId⟩
      exact ⟨ho.positive, ho.descending, ho.fresh, ho.started, ho.distinct⟩

theorem proper_of_parse_furnished :
    (∃ fuel marks, (parseText bare fuel { keepInstructions := true } "a.dtd"
        ("<!ENTITY % e \"<!ELEMENT b ANY>\n\">\n<!ELEMENT b ANY>\n" ++ "<![INCLUDE[" ++ "<?p x?>\n" ++
          "]]>" ++ "")).1 = .ok .specimen ∧
      Transcript bare fuel { keepInstructions := true } (.ofText "a.dtd"
        ("<!ENTITY % e \"<!ELEMENT b ANY>\n\">\n<!ELEMENT b ANY>\n" ++ "<![INCLUDE[" ++ "<?p x?>\n" ++
          "]]>" ++ "") ".") marks .specimen ∧ Proper marks) ∧
    ∃ fuel marks, (parseFile furnished fuel {} "f").1 = .ok { elements := [("b", .any)] } ∧
      Proper marks := by
  obtain ⟨fuel, htext⟩ := parses_included_specimen
  obtain ⟨fuel', hfile⟩ := parseFile_furnished
  obtain ⟨hproper, -⟩ := proper_of_parse bare fuel { keepInstructions := true }
  obtain ⟨-, hproper'⟩ := proper_of_parse furnished fuel' {}
  obtain ⟨marks, hmarks, hmarksProper⟩ := hproper _ _ _ htext
  obtain ⟨s, marks', -, -, hmarksProper'⟩ := hproper' _ _ hfile
  exact ⟨⟨fuel, marks, htext, (hmarks marks).2 rfl, hmarksProper⟩, fuel', marks', hfile,
    hmarksProper'⟩

end Parser

end Doctype
