import Doctype.Parser.Content
import Doctype.Proofs.Parser.Declarations
import Doctype.Proofs.Print.Taking

/-! Printed content models are read as they are. -/
namespace Doctype.Parser

/-- What may stand behind a particle: no name character and no occurrence indicator. -/
inductive Follows : List Char → Prop
  | comma {cs} : Follows (',' :: cs)
  | pipe {cs} : Follows ('|' :: cs)
  | parenClose {cs} : Follows (')' :: cs)
  | close {cs} : Follows ('>' :: cs)

variable {w : World} {source : Source} {rest : List Char}

theorem Follows.apart (h : Follows rest) : Apart rest := by
  cases h <;> exact apart_cons (by decide)

theorem takes_occurrence (o : Occurrence) (h : Follows rest) :
    Takes source (occurrence w) (o.text.toList ++ rest) (fun a => a = o) rest := by
  have htake {t : Token} {c : Char} (o : Occurrence) (hlex : lex (c :: rest) = .token t rest) :
      Takes source (occurrence.take w o) (c :: rest) (fun a => a = o) rest :=
    (takes_next hlex).bind fun _ _ => takes_pure rfl
  cases o with
  | once =>
    cases h with
    | comma => exact (takes_peek (t := .comma) rfl).bind_eq (takes_pure rfl)
    | pipe => exact (takes_peek (t := .pipe) rfl).bind_eq (takes_pure rfl)
    | parenClose => exact (takes_peek (t := .parenClose) rfl).bind_eq (takes_pure rfl)
    | close => exact (takes_peek (t := .close) rfl).bind_eq (takes_pure rfl)
  | optional => exact (takes_peek (t := .question) rfl).bind_eq (htake (t := .question) .optional rfl)
  | zeroOrMore => exact (takes_peek (t := .star) rfl).bind_eq (htake (t := .star) .zeroOrMore rfl)
  | oneOrMore => exact (takes_peek (t := .plus) rfl).bind_eq (htake (t := .plus) .oneOrMore rfl)

theorem apart_occurrence (o : Occurrence) (h : Apart rest) : Apart (o.text.toList ++ rest) := by
  cases o with
  | once => exact h
  | optional => exact apart_cons (c := '?') (by decide)
  | zeroOrMore => exact apart_cons (c := '*') (by decide)
  | oneOrMore => exact apart_cons (c := '+') (by decide)

/-- With enough fuel an action takes a text and gives a value, whatever may follow. -/
def ReadsBack (source : Source) {α : Type} (m : Nat → ParserM α) (cs : List Char) (a : α) : Prop :=
  ∃ n, ∀ fuel, n ≤ fuel → ∀ rest, Follows rest →
    Takes source (m fuel) (cs ++ rest) (fun b => b = a) rest

section Groups

/-- The separators of groups. -/
inductive Separates : Token → Char → Prop
  | comma : Separates .comma ','
  | pipe : Separates .pipe '|'

variable {t : Token} {c : Char}

theorem Separates.lex (h : Separates t c) (rest : List Char) :
    Doctype.lex (c :: rest) = .token t rest := by
  cases h <;> rfl

theorem Separates.follows (h : Separates t c) (rest : List Char) : Follows (c :: rest) := by
  cases h
  · exact .comma
  · exact .pipe

theorem Separates.ne_parenClose (h : Separates t c) : t ≠ .parenClose := by
  cases h <;> decide

theorem Separates.eq_or (h : Separates t c) : t = .pipe ∨ t = .comma := by
  cases h
  · exact .inr rfl
  · exact .inl rfl

/-- Items behind the first one, each behind a separator. -/
def tailText (c : Char) (items : List Particle) : List Char :=
  items.flatMap fun item => c :: item.text.toList

theorem follows_tailText (h : Separates t c) (items : List Particle) :
    Follows (tailText c items ++ ')' :: rest) := by
  cases items with
  | nil => exact .parenClose
  | cons item items => exact h.follows _

theorem takes_groupItems (h : Separates t c) {items : List Particle}
    (hitems : ∀ item ∈ items, ReadsBack source (particle w) item.text.toList item) :
    ∃ n, ∀ fuel, n ≤ fuel → ∀ separator done rest, separator = none ∨ separator = some t →
      Takes source (groupItems w fuel separator done) (tailText c items ++ ')' :: rest)
        (fun b => b = (if items = [] then separator else some t, done ++ items)) rest := by
  induction items with
  | nil =>
    refine ⟨1, fun fuel hfuel separator done rest _ => ?_⟩
    obtain ⟨fuel, rfl⟩ : ∃ k, fuel = k + 1 := ⟨fuel - 1, by omega⟩
    refine (takes_next (t := .parenClose) rfl).bind fun l hl => ?_
    rw [if_pos hl.1]
    exact takes_pure (by simp)
  | cons item items ih =>
    obtain ⟨n, hn⟩ := hitems item List.mem_cons_self
    obtain ⟨n', hn'⟩ := ih fun i hi => hitems i (List.mem_cons_of_mem _ hi)
    refine ⟨max n n' + 1, fun fuel hfuel separator done rest hseparator => ?_⟩
    obtain ⟨fuel, rfl⟩ : ∃ k, fuel = k + 1 := ⟨fuel - 1, by omega⟩
    have htext : tailText c (item :: items) ++ ')' :: rest =
        c :: (item.text.toList ++ (tailText c items ++ ')' :: rest)) := by
      simp [tailText]
    rw [htext]
    refine (takes_next (h.lex _)).bind fun l hl => ?_
    have hfirst : separator.getD l.token = l.token := by
      rcases hseparator with rfl | rfl
      · rfl
      · exact hl.1.symm
    have hor : l.token = .pipe ∨ l.token = .comma := hl.1 ▸ h.eq_or
    rw [if_neg (hl.1 ▸ h.ne_parenClose), if_pos hor, if_pos hfirst, hfirst, hl.1]
    refine (hn fuel (by omega) _ (follows_tailText h items)).bind_eq ?_
    refine (hn' fuel (by omega) (some t) (done ++ [item]) rest (.inr rfl)).mono fun b hb => ?_
    rw [hb]
    by_cases hnil : items = [] <;> simp [hnil]

theorem texts_eq (items : List Particle) : Particle.texts items = items.map Particle.text := by
  induction items with
  | nil => rfl
  | cons item items ih => rw [Particle.texts, ih, List.map_cons]

theorem toList_intercalate (s : String) (hs : s.toList = [c]) (item : Particle)
    (items : List Particle) :
    (s.intercalate (Particle.texts (item :: items))).toList =
      item.text.toList ++ tailText c items := by
  rw [texts_eq, String.toList_intercalate, hs]
  induction items generalizing item with
  | nil => simp [tailText]
  | cons next items ih =>
    have hnext := ih next
    simp only [List.map_cons, tailText, List.flatMap_cons] at hnext ⊢
    rw [List.intercalate_cons_cons, hnext]
    simp

/-- A group is read behind its `(`. -/
theorem takes_group (h : Separates t c) {first : Particle} {items : List Particle} (o : Occurrence)
    (hitems : ∀ item ∈ first :: items, ReadsBack source (particle w) item.text.toList item) :
    ReadsBack source (group w) (first.text.toList ++ tailText c items ++ ')' :: o.text.toList)
      (groupOf (if items = [] then none else some t) (first :: items) o) := by
  obtain ⟨n, hn⟩ := hitems first List.mem_cons_self
  obtain ⟨n', hn'⟩ := takes_groupItems h fun i hi => hitems i (List.mem_cons_of_mem _ hi)
  refine ⟨max n n' + 1, fun fuel hfuel rest hrest => ?_⟩
  obtain ⟨fuel, rfl⟩ : ∃ k, fuel = k + 1 := ⟨fuel - 1, by omega⟩
  have htext : first.text.toList ++ tailText c items ++ ')' :: o.text.toList ++ rest =
      first.text.toList ++ (tailText c items ++ ')' :: (o.text.toList ++ rest)) := by
    simp
  rw [htext]
  refine (hn fuel (by omega) _ (follows_tailText h items)).bind_eq ?_
  refine (hn' fuel (by omega) none [first] _ (.inl rfl)).bind_eq ?_
  exact (takes_occurrence o hrest).bind_eq (takes_pure rfl)

end Groups

section Particles

/-- The character that separates the parts of a group, and the token that it is read as. -/
theorem groupOf_seq {first : Particle} {items : List Particle} {o : Occurrence} :
    groupOf (if items = [] then none else some .comma) (first :: items) o =
      .seq (first :: items) o := by
  unfold groupOf
  by_cases h : items = [] <;> simp [h]

theorem groupOf_choice {first : Particle} {items : List Particle} {o : Occurrence}
    (h : items ≠ []) :
    groupOf (if items = [] then none else some .pipe) (first :: items) o =
      .choice (first :: items) o := by
  unfold groupOf
  rw [if_neg h, if_pos rfl]

/-- A group as it is printed, and what is read behind its `(`. -/
structure GroupText (source : Source) (w : World) (p : Particle) (first : Particle)
    (inside : List Char) : Prop where
  text : p.text.toList = '(' :: inside
  reads : ReadsBack source (group w) inside p
  head : ∃ cs, inside = first.text.toList ++ cs ∧ ∀ rest, Follows (cs ++ rest)
  shaped : first.Shaped

theorem groupText_seq {first : Particle} {items : List Particle} {o : Occurrence}
    (hshaped : first.Shaped)
    (hitems : ∀ item ∈ first :: items, ReadsBack source (particle w) item.text.toList item) :
    GroupText source w (.seq (first :: items) o) first
      (first.text.toList ++ tailText ',' items ++ ')' :: o.text.toList) := by
  constructor
  · simp only [Particle.text, String.toList_append, toList_intercalate (c := ',') "," rfl]
    simp
  · exact groupOf_seq ▸ takes_group .comma o hitems
  · refine ⟨_, List.append_assoc _ _ _, fun rest => ?_⟩
    rw [List.append_assoc]
    exact follows_tailText .comma items
  · exact hshaped

theorem groupText_choice {first : Particle} {items : List Particle} {o : Occurrence}
    (hne : items ≠ []) (hshaped : first.Shaped)
    (hitems : ∀ item ∈ first :: items, ReadsBack source (particle w) item.text.toList item) :
    GroupText source w (.choice (first :: items) o) first
      (first.text.toList ++ tailText '|' items ++ ')' :: o.text.toList) := by
  constructor
  · simp only [Particle.text, String.toList_append, toList_intercalate (c := '|') "|" rfl]
    simp
  · exact groupOf_choice hne ▸ takes_group .pipe o hitems
  · refine ⟨_, List.append_assoc _ _ _, fun rest => ?_⟩
    rw [List.append_assoc]
    exact follows_tailText .pipe items
  · exact hshaped

/-- A group is read as a particle when its `(` is still to come. -/
theorem GroupText.readsBack {p first : Particle} {inside : List Char}
    (h : GroupText source w p first inside) : ReadsBack source (particle w) p.text.toList p := by
  obtain ⟨n, hn⟩ := h.reads
  refine ⟨n + 1, fun fuel hfuel rest hrest => ?_⟩
  obtain ⟨fuel, rfl⟩ : ∃ k, fuel = k + 1 := ⟨fuel - 1, by omega⟩
  rw [h.text, List.cons_append]
  refine (takes_next (t := .parenOpen) rfl).bind fun l hl => ?_
  rw [hl.1]
  exact hn fuel (by omega) rest hrest

theorem readsBack_element {name : String} (o : Occurrence) (h : Nmtoken name) :
    ReadsBack source (particle w) (Particle.element name o).text.toList (.element name o) := by
  refine ⟨1, fun fuel hfuel rest hrest => ?_⟩
  obtain ⟨fuel, rfl⟩ : ∃ k, fuel = k + 1 := ⟨fuel - 1, by omega⟩
  rw [Particle.text, String.toList_append, List.append_assoc]
  refine (takes_next (lex_word h (apart_occurrence o hrest.apart))).bind fun l hl => ?_
  rw [hl.1]
  exact (takes_occurrence o hrest).bind_eq (takes_pure rfl)

/-- Particles are read as they are printed. -/
theorem readsBack_particle {p : Particle} (h : p.Shaped) :
    ReadsBack source (particle w) p.text.toList p ∧
      (p.IsGroup → ∃ first inside, GroupText source w p first inside) := by
  induction h with
  | element hname => exact ⟨readsBack_element _ hname, False.elim⟩
  | @seq items o hne hshaped ih =>
    obtain ⟨first, items, rfl⟩ := List.exists_cons_of_ne_nil hne
    have htext := groupText_seq (o := o) (hshaped first List.mem_cons_self) fun i hi => (ih i hi).1
    exact ⟨htext.readsBack, fun _ => ⟨_, _, htext⟩⟩
  | @choice items o hlen hshaped ih =>
    match items, hlen with
    | first :: second :: items, _ =>
      have htext := groupText_choice (o := o) (List.cons_ne_nil second items)
        (hshaped first List.mem_cons_self) fun i hi => (ih i hi).1
      exact ⟨htext.readsBack, fun _ => ⟨_, _, htext⟩⟩

/-- A particle begins with a name or a `(`. -/
theorem lex_particle {p : Particle} (h : p.Shaped) (hrest : Apart rest) :
    ∃ t cs, lex (p.text.toList ++ rest) = .token t cs ∧ ∀ keyword, t ≠ .hash keyword := by
  cases h with
  | @element name o hname =>
    refine ⟨.name name, o.text.toList ++ rest, ?_, nofun⟩
    rw [Particle.text, String.toList_append, List.append_assoc]
    exact lex_word hname (apart_occurrence o hrest)
  | @seq items o =>
    have htext : (Particle.seq items o).text.toList ++ rest =
        '(' :: ((",".intercalate (Particle.texts items) ++ ")" ++ o.text).toList ++ rest) := by
      simp [Particle.text]
    exact ⟨.parenOpen, _, by rw [htext]; rfl, nofun⟩
  | @choice items o =>
    have htext : (Particle.choice items o).text.toList ++ rest =
        '(' :: (("|".intercalate (Particle.texts items) ++ ")" ++ o.text).toList ++ rest) := by
      simp [Particle.text]
    exact ⟨.parenOpen, _, by rw [htext]; rfl, nofun⟩

end Particles

section ContentSpec

/-- Names of a mixed content model, each behind a `|`. -/
def pipedText (names : List String) : List Char :=
  names.flatMap fun name => '|' :: name.toList

theorem apart_pipedText {names : List String} : Apart (pipedText names ++ ')' :: rest) := by
  cases names with
  | nil => exact apart_cons (by decide)
  | cons name names => exact apart_cons (c := '|') (by decide)

theorem takes_mixedNames {names done : List String} {fuel : Nat} (hnodup : (done ++ names).Nodup)
    (hnames : ∀ name ∈ names, Nmtoken name) (hfuel : names.length < fuel) :
    Takes source (mixedNames w fuel done) (pipedText names ++ ')' :: rest)
      (fun b => b = done ++ names) rest := by
  induction names generalizing done fuel with
  | nil =>
    obtain ⟨fuel, rfl⟩ : ∃ k, fuel = k + 1 := ⟨fuel - 1, by omega⟩
    refine (takes_next (t := .parenClose) rfl).bind fun l hl => ?_
    rw [hl.1, List.append_nil]
    exact takes_pure rfl
  | cons name names ih =>
    obtain ⟨fuel, rfl⟩ : ∃ k, fuel = k + 1 := ⟨fuel - 1, by omega⟩
    rw [List.length_cons] at hfuel
    have htext : pipedText (name :: names) ++ ')' :: rest =
        '|' :: (name.toList ++ (pipedText names ++ ')' :: rest)) := by
      simp [pipedText]
    have hnew : ¬done.contains name := by
      rw [List.contains_iff_mem]
      intro hmem
      exact (List.nodup_append.1 hnodup).2.2 name hmem name List.mem_cons_self rfl
    have hadd : Particle.addName done name = done ++ [name] := by
      unfold Particle.addName
      rw [if_neg hnew]
    rw [htext]
    refine (takes_next (t := .pipe) rfl).bind fun l hl => ?_
    rw [hl.1]
    refine (takes_expectName (hnames name List.mem_cons_self) apart_pipedText).bind_fst fun _ => ?_
    have hnodup' : (done ++ [name] ++ names).Nodup := by simpa using hnodup
    have hlt : names.length < fuel := by omega
    have h := ih hnodup' (fun n hn => hnames n (List.mem_cons_of_mem _ hn)) hlt
    rw [← hadd] at h
    refine h.mono fun c hc => ?_
    rw [hc, hadd]
    simp

theorem takes_mixed {names : List String} {fuel : Nat} (hnodup : names.Nodup)
    (hnames : ∀ name ∈ names, Nmtoken name) (hfuel : names.length < fuel) :
    Takes source (mixed w fuel)
      (pipedText names ++ ')' :: ((if names = [] then [] else ['*']) ++ '>' :: rest))
      (fun b => b = .mixed names) ('>' :: rest) := by
  have hnames' : Takes source (mixedNames w fuel [])
      (pipedText names ++ ')' :: ((if names = [] then [] else ['*']) ++ '>' :: rest))
      (fun b => b = names) ((if names = [] then [] else ['*']) ++ '>' :: rest) :=
    takes_mixedNames hnodup hnames hfuel
  refine hnames'.bind_eq ?_
  by_cases hnil : names = []
  · rw [if_pos hnil, if_pos (by simp [hnil])]
    exact (takes_peek (t := .close) rfl).bind_eq (takes_pure rfl)
  · rw [if_neg hnil, if_neg (by simpa using hnil)]
    exact (takes_expect (t := .star) rfl).bind fun _ _ => takes_pure rfl

/-- Contents are read as they are printed. -/
theorem takes_contentSpec (w : World) (source : Source) {content : ContentSpec}
    (h : content.Shaped) :
    ∃ n, ∀ fuel, n ≤ fuel → ∀ rest, Takes source (contentSpec w fuel)
      (content.text.toList ++ '>' :: rest) (fun b => b = content) ('>' :: rest) := by
  cases content with
  | empty =>
    refine ⟨0, fun fuel _ rest => ?_⟩
    have hword : Nmtoken "EMPTY" := nmtoken_of_all (by decide) (by decide)
    refine (takes_next (lex_word hword (apart_cons (by decide)))).bind fun l hl => ?_
    rw [hl.1]
    exact takes_pure rfl
  | any =>
    refine ⟨0, fun fuel _ rest => ?_⟩
    have hword : Nmtoken "ANY" := nmtoken_of_all (by decide) (by decide)
    refine (takes_next (lex_word hword (apart_cons (by decide)))).bind fun l hl => ?_
    rw [hl.1]
    exact takes_pure rfl
  | mixed names =>
    refine ⟨names.length + 1, fun fuel hfuel rest => ?_⟩
    have htext : (ContentSpec.mixed names).text.toList ++ '>' :: rest =
        '(' :: '#' :: 'P' :: 'C' :: 'D' :: 'A' :: 'T' :: 'A' ::
          (pipedText names ++ ')' :: ((if names = [] then [] else ['*']) ++ '>' :: rest)) := by
      cases names with
      | nil => simp [ContentSpec.text, pipedText]
      | cons name names =>
        simp [ContentSpec.text, pipedText, String.toList_join, List.flatMap_map]
    have hhash : lex ('#' :: 'P' :: 'C' :: 'D' :: 'A' :: 'T' :: 'A' ::
        (pipedText names ++ ')' :: ((if names = [] then [] else ['*']) ++ '>' :: rest))) =
          .token (.hash "PCDATA")
            (pipedText names ++ ')' :: ((if names = [] then [] else ['*']) ++ '>' :: rest)) :=
      lex_hash (s := "PCDATA") (nmtoken_of_all (by decide) (by decide)) apart_pipedText
    rw [htext]
    refine (takes_next (t := .parenOpen) rfl).bind fun l hl => ?_
    rw [hl.1]
    refine (takes_peek hhash).bind fun t ht => ?_
    rw [if_pos ht]
    exact (takes_next hhash).bind fun _ _ => takes_mixed h.1 h.2 (by omega)
  | children p =>
    obtain ⟨first, inside, hgroup⟩ : ∃ first inside, GroupText source w p first inside :=
      (readsBack_particle h.2).2 h.1
    obtain ⟨n, hn⟩ := hgroup.reads
    refine ⟨n, fun fuel hfuel rest => ?_⟩
    have htext : (ContentSpec.children p).text.toList = '(' :: inside := hgroup.text
    rw [htext, List.cons_append]
    refine (takes_next (t := .parenOpen) rfl).bind fun l hl => ?_
    rw [hl.1]
    obtain ⟨cs, rfl, hfollows⟩ := hgroup.head
    obtain ⟨t, ds, hlex, hne⟩ := lex_particle hgroup.shaped (hfollows ('>' :: rest)).apart
    rw [← List.append_assoc] at hlex
    refine (takes_peek hlex).bind fun t' ht => ?_
    rw [if_neg (ht ▸ hne "PCDATA")]
    exact (hn fuel hfuel _ .close).bind_eq (takes_pure rfl)

end ContentSpec

end Doctype.Parser
