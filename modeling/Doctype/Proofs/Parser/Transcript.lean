import Doctype.Proofs.Parser.Closing
import Doctype.Proofs.Source.History

/-! What happens in the course of a parse. -/
namespace Doctype

/-- Something that happens in a parse. -/
inductive Mark
  /-- A source is opened while some sections are open. -/
  | opened (id sections : Nat)
  /-- A source is closed while some sections are open. -/
  | closed (id sections : Nat)
  /-- An item has been read and takes effect. -/
  | item (lexemes : List Lexeme) (i : Item)
deriving DecidableEq, Repr

/-- What happens to the sources while some sections are open. -/
def Turn.mark (sections : Nat) : Turn → Mark
  | opened id => .opened id sections
  | closed id => .closed id sections

namespace SourceStack

/-- The sources that are opened and closed in front of some lexemes. -/
def pullTurns (w : World) (t : EntityTable) : Nat → SourceStack → List Turn
  | 0, _ => []
  | n + 1, s => s.nextTurns w t ++ pullTurns w t n (left (s.next w t))

/-- The sources of a parse with the base of its settings. -/
def based (w : World) (options : Options) (s : SourceStack) :
    EStateM.Result Error SourceStack Unit :=
  match options.base with
  | none => .ok () s
  | some path => (s.note (.sought path)).setBase w.files path

variable {w : World} {t : EntityTable} {s s' : SourceStack} {ls : List Lexeme} {l : Lexeme}

theorem Pulls.leads (h : s.Pulls w t ls s') : s.Leads (s.pullTurns w t ls.length) s' := by
  induction h with
  | nil s => exact .refl s
  | @cons s s₁ s' l ls _ hn _ ih =>
    have hleads := leads_next w t s
    rw [hn] at hleads
    rw [List.length_cons, pullTurns, hn]
    exact hleads.append ih

/-- A lexeme comes from the source that is innermost behind it. -/
theorem head_ids_of_next (h : s.next w t = .ok l s') (heof : l.token ≠ .endOfInput) :
    s'.ids.head? = some l.source := by
  obtain ⟨-, hlexeme⟩ := next_readsFrom h
  obtain ⟨-, source, ⟨s₁, below, cursor, -, -, -, hsources⟩, hsource⟩ := hlexeme heof
  unfold ids
  rw [hsources, hsource]
  rfl

/-- The last of some lexemes is the next one somewhere on the way. -/
theorem Pulls.exists_next (h : s.Pulls w t ls s') (hl : ls.getLast? = some l) :
    ∃ s₁ : SourceStack, s₁.next w t = .ok l s' := by
  induction h with
  | nil => cases hl
  | @cons s s₁ s' m ls _ hn hrest ih =>
    cases hls : ls with
    | nil =>
      subst hls
      cases hl
      cases hrest
      exact ⟨s, hn⟩
    | cons m' ls' =>
      rw [hls, List.getLast?_cons_cons, ← hls] at hl
      exact ih hl

theorem Pulls.head_ids (h : s.Pulls w t ls s') (hl : ls.getLast? = some l)
    (heof : l.token ≠ .endOfInput) : s'.ids.head? = some l.source := by
  obtain ⟨s₁, hn⟩ := h.exists_next hl
  exact head_ids_of_next hn heof

end SourceStack

namespace Parser

/-- The marks of a parse of items up to the end of input. -/
inductive Transcribes (w : World) : Nat → Parser → List Mark → Parser → Prop
  | ends {fuel : Nat} {p q : Parser} {l : Lexeme} : next w p = .ok l q → l.token = .endOfInput →
      q.sections = [] →
        Transcribes w (fuel + 1) p
          ((p.stack.nextTurns w p.entities).map (Turn.mark p.sections.length)) q
  | item {fuel : Nat} {p p₁ p₂ p₃ q : Parser} {l : Lexeme} {ls : List Lexeme} {i : Item}
      {marks : List Mark} : next w p = .ok l p₁ → l.token ≠ .endOfInput →
        item w fuel l p₁ = .ok i p₂ → p.stack.Pulls w p.entities (l :: ls) p₂.stack →
          i.apply p₂ = .ok () p₃ → Transcribes w fuel p₃ marks q →
            Transcribes w (fuel + 1) p
              ((p.stack.pullTurns w p.entities (l :: ls).length).map (Turn.mark p.sections.length) ++
                .item (l :: ls) i :: marks) q

/-- The marks of a parse of open sources, among them those of opening these sources, and the
document type in the end. -/
inductive Transcript (w : World) (fuel : Nat) (options : Options) (s : SourceStack) :
    List Mark → DocumentType → Prop
  | parse {b : SourceStack} {q : Parser} {marks : List Mark} : s.based w options = .ok () b →
      Transcribes w fuel { stack := b, keepInstructions := options.keepInstructions } marks q →
        Transcript w fuel options s (s.ids.reverse.map (.opened · 0) ++ marks) q.result

variable {w : World} {fuel : Nat} {p q : Parser} {marks : List Mark} {options : Options}
  {s : SourceStack} {m : DocumentType}

/-- A parse that succeeds has marks. -/
theorem exists_transcribes (hp : p.peeked = none) (h : subset w fuel p = .ok () q) :
    ∃ marks, Transcribes w fuel p marks q := by
  induction fuel generalizing p with
  | zero => cases h
  | succ fuel ih =>
    obtain ⟨n, hfuel, h⟩ := subset_cases h
    cases hfuel
    rcases h with ⟨l, hn, heof, hs⟩ | ⟨l, p₁, i, p₂, p₃, hn, heof, hi, ha, hrest⟩
    · exact ⟨_, .ends hn heof hs⟩
    · obtain ⟨ls, hreads, hp₂⟩ := Reads.of_item hp hn heof hi
      have hpeek : p₃.peeked = none := by
        rw [(effect_of_apply ha).peeked, hp₂]
        exact hp
      obtain ⟨marks, htranscribes⟩ := ih hpeek hrest
      exact ⟨_, .item hn heof hi hreads.pulls ha htranscribes⟩

/-- The marks are determined by the parse. -/
theorem Transcribes.unique {q' : Parser} {marks' : List Mark} (h : Transcribes w fuel p marks q)
    (h' : Transcribes w fuel p marks' q') : marks = marks' ∧ q = q' := by
  induction h generalizing marks' with
  | ends hn heof _ =>
    cases h' with
    | ends hn' =>
      rw [hn] at hn'
      cases hn'
      exact ⟨rfl, rfl⟩
    | item hn' heof' =>
      rw [hn] at hn'
      cases hn'
      exact absurd heof heof'
  | item hn heof hi hpulls ha _ ih =>
    cases h' with
    | ends hn' heof' =>
      rw [hn] at hn'
      cases hn'
      exact absurd heof' heof
    | item hn' _ hi' hpulls' ha' hrest' =>
      rw [hn] at hn'
      cases hn'
      rw [hi] at hi'
      cases hi'
      rw [ha] at ha'
      cases ha'
      cases hpulls.unique hpulls'
      obtain ⟨rfl, rfl⟩ := ih hrest'
      exact ⟨rfl, rfl⟩

theorem parseSources_eq (w : World) (fuel : Nat) (options : Options) (s : SourceStack) :
    parseSources w fuel options s =
      match s.based w options with
      | .error e b => (.error (.error e), b.journal)
      | .ok _ b =>
        match parse w fuel { stack := b, keepInstructions := options.keepInstructions } with
        | .ok m q => (.ok m, q.stack.journal)
        | .error halt q => (.error halt, q.stack.journal) :=
  rfl

theorem parseSources_of_parse {b : SourceStack} (hb : s.based w options = .ok () b)
    (h : parse w fuel { stack := b, keepInstructions := options.keepInstructions } = .ok m q) :
    parseSources w fuel options s = (.ok m, q.stack.journal) := by
  simp only [parseSources_eq, hb, h]

theorem parseSources_ok (h : (parseSources w fuel options s).1 = .ok m) :
    ∃ b q, s.based w options = .ok () b ∧
      subset w fuel { stack := b, keepInstructions := options.keepInstructions } = .ok () q ∧
      m = q.result := by
  rw [parseSources_eq] at h
  cases hb : s.based w options with
  | error e b =>
    rw [hb] at h
    cases h
  | ok u b =>
    simp only [hb, parse_eq] at h
    cases hs : subset w fuel { stack := b, keepInstructions := options.keepInstructions } with
    | error e q =>
      simp only [hs] at h
      cases h
    | ok u q =>
      simp only [hs] at h
      cases h
      exact ⟨b, q, rfl, hs, rfl⟩

/-- A parse that succeeds has one transcript. -/
theorem exists_transcript (h : (parseSources w fuel options s).1 = .ok m) :
    ∃ marks, ∀ marks', Transcript w fuel options s marks' m ↔ marks' = marks := by
  obtain ⟨b, q, hb, hsubset, rfl⟩ := parseSources_ok h
  obtain ⟨marks, htranscribes⟩ := exists_transcribes rfl hsubset
  refine ⟨_, fun marks' => ⟨fun h' => ?_, fun h' => h' ▸ .parse hb htranscribes⟩⟩
  generalize q.result = m at h'
  cases h' with
  | parse hb' htranscribes' =>
    rw [hb] at hb'
    cases hb'
    rw [(htranscribes.unique htranscribes').1]

end Parser

/-- What can be parsed: a text under a name, or a file. -/
inductive Input
  | text (name content : String)
  | file (path : Path)

namespace Input

/-- Parses an input. -/
def parse (w : World) (fuel : Nat) (options : Options) : Input → Parsed
  | text name content => parseText w fuel options name content
  | file path => parseFile w fuel options path

/-- What is recorded in front of a parse. -/
def before : Input → Journal
  | text _ _ => []
  | file path => [.sought path, .parsing path]

/-- The sources that an input opens. -/
def opened (w : World) : Input → Except Error SourceStack
  | text name content => .ok (.ofText name content ".")
  | file path =>
    (SourceStack.openFile w.files path).map fun s =>
      { s with journal := s.journal ++ [.sought path, .parsing path] }

theorem parse_eq (w : World) (fuel : Nat) (options : Options) (input : Input) :
    input.parse w fuel options =
      match input.opened w with
      | .error e => (.error (.error e), input.before)
      | .ok s => parseSources w fuel options s := by
  cases input with
  | text name content => rfl
  | file path =>
    simp only [parse, parseFile, opened]
    cases SourceStack.openFile w.files path <;> rfl

end Input

end Doctype
