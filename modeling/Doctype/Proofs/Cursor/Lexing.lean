import Doctype.Proofs.Cursor.Buffering

/-! Lexing a list of characters. Scanning a cursor whose text can be read does the same. -/
namespace Doctype

/-- What a text begins with, behind blanks, and what is left of it. -/
inductive Lexed
  | token (token : Token) (rest : List Char)
  | reference (name : String) (rest : List Char)
  | exhausted
  | malformed
deriving DecidableEq

namespace Lexed

/-- What stands before the first occurrence of a terminator, and behind it. -/
def cut (terminator : List Char) : List Char → Option (List Char × List Char)
  | [] => if terminator.isEmpty then some ([], []) else none
  | c :: cs =>
    if terminator.isPrefixOf (c :: cs) then some ([], (c :: cs).drop terminator.length)
    else (cut terminator cs).map fun b => (c :: b.1, b.2)

def percent (cs : List Char) : Lexed :=
  if cs.head?.any isNameStart then
    match cs.dropWhile isNameChar with
    | ';' :: rest => reference (.ofList (cs.takeWhile isNameChar)) rest
    | _ => malformed
  else token .percent cs

def generalRef (cs : List Char) : Option (Token × List Char) :=
  if (cs.takeWhile isNameChar).isEmpty then none
  else
    match cs.dropWhile isNameChar with
    | ';' :: rest => some (.generalRef (.ofList (cs.takeWhile isNameChar)), rest)
    | _ => none

def hash (cs : List Char) : Option (Token × List Char) :=
  if (cs.takeWhile isNameChar).isEmpty then none
  else some (.hash (.ofList (cs.takeWhile isNameChar)), cs.dropWhile isNameChar)

def literal (quote : Char) (cs : List Char) : Option (Token × List Char) :=
  (cut [quote] cs).map fun b => (.literal (.ofList b.1), b.2)

def sectionClose : List Char → Option (Token × List Char)
  | ']' :: '>' :: rest => some (.sectionClose, rest)
  | _ => none

def comment (cs : List Char) : Option (Token × List Char) :=
  (cut ['-', '-', '>'] cs).map fun b => (.comment (.ofList b.1), b.2)

def declaration (cs : List Char) : Option (Token × List Char) :=
  (Keyword.ofText? (.ofList (cs.takeWhile isNameChar))).map fun keyword =>
    (.decl keyword, cs.dropWhile isNameChar)

def instruction (cs : List Char) : Option (Token × List Char) :=
  if (cs.takeWhile isNameChar).isEmpty then none
  else
    (cut ['?', '>'] (cs.dropWhile isNameChar)).map fun b =>
      (.instruction (.ofList (cs.takeWhile isNameChar)) (Text.trim (.ofList b.1)), b.2)

def markup : List Char → Option (Token × List Char)
  | '!' :: '-' :: '-' :: rest => comment rest
  | '!' :: '[' :: rest => some (.sectionOpen, rest)
  | '!' :: rest => declaration rest
  | '?' :: rest => instruction rest
  | _ => none

/-- The token that a character begins, and what is left behind it. -/
def tokenOf (c : Char) (cs : List Char) : Option (Token × List Char) :=
  match c with
  | '[' => some (.bracket, cs)
  | '>' => some (.close, cs)
  | '(' => some (.parenOpen, cs)
  | ')' => some (.parenClose, cs)
  | '|' => some (.pipe, cs)
  | ',' => some (.comma, cs)
  | '?' => some (.question, cs)
  | '*' => some (.star, cs)
  | '+' => some (.plus, cs)
  | '&' => generalRef cs
  | '#' => hash cs
  | '"' => literal '"' cs
  | '\'' => literal '\'' cs
  | ']' => sectionClose cs
  | '<' => markup cs
  | c =>
    if isNameChar c then
      some (.name (.ofList (c :: cs.takeWhile isNameChar)), cs.dropWhile isNameChar)
    else none

end Lexed

/-- Lexes the next token or reference. -/
def lex (cs : List Char) : Lexed :=
  match cs.dropWhile Text.isBlank with
  | [] => .exhausted
  | '%' :: rest => .percent rest
  | c :: rest =>
    match Lexed.tokenOf c rest with
    | some (token, rest) => .token token rest
    | none => .malformed

/-- The scanned item that starts at a location, and what is left behind it. -/
def Lexed.outcome (l : Location) : Lexed → Option (Scanned × List Char)
  | .token t rest => some (.token t l, rest)
  | .reference name rest => some (.reference name l, rest)
  | .exhausted => some (.exhausted, [])
  | .malformed => none

/-- What is left behind the `]]>` that closes `nesting + 1` open sections. -/
def leaveSections : Nat → List Char → Option (List Char)
  | nesting, '<' :: '!' :: '[' :: cs => leaveSections (nesting + 1) cs
  | nesting, ']' :: ']' :: '>' :: cs =>
    if nesting = 0 then some cs else leaveSections (nesting - 1) cs
  | nesting, _ :: cs => leaveSections nesting cs
  | _, [] => none

namespace Cursor

/-- The characters to come are exactly these. -/
def Shows (s : Cursor) (cs : List Char) : Prop :=
  s.rest = cs ∧ s.unread.behind = .done

/-- An action succeeds with a value and leaves certain characters. -/
def Gives {α : Type} (m : CursorM α) (s : Cursor) (a : α) (cs : List Char) : Prop :=
  ∃ t, m s = .ok a t ∧ t.Shows cs

/-- An action has the outcome that is computed from the characters: a value and what is left, or
an error. -/
def Lexes {α : Type} (m : CursorM α) (s : Cursor) : Option (α × List Char) → Prop
  | some (a, cs) => Gives m s a cs
  | none => ∃ e t, m s = .error e t

theorem shows_ofText (name text : String) :
    ({ name, unread := .ofText text } : Cursor).Shows text.toList :=
  Reader.readAll_eq_ok.1 (Reader.readAll_ofText text)

variable {α β : Type} {s : Cursor} {cs : List Char}

theorem gives_pure (h : s.Shows cs) (a : α) : Gives (pure a) s a cs :=
  ⟨s, rfl, h⟩

theorem Gives.bind {m : CursorM α} {f : α → CursorM β} {a : α} {b : β} {ds : List Char}
    (hm : Gives m s a cs) (hf : ∀ t : Cursor, t.Shows cs → Gives (f a) t b ds) :
    Gives (m >>= f) s b ds := by
  obtain ⟨t, ht, hs⟩ := hm
  obtain ⟨u, hu, hus⟩ := hf t hs
  exact ⟨u, by simp only [Bind.bind, EStateM.bind, ht, hu], hus⟩

theorem Gives.bind_lexes {m : CursorM α} {f : α → CursorM β} {a : α}
    {o : Option (β × List Char)} (hm : Gives m s a cs)
    (hf : ∀ t : Cursor, t.Shows cs → Lexes (f a) t o) : Lexes (m >>= f) s o := by
  cases o with
  | none =>
    obtain ⟨t, ht, hs⟩ := hm
    obtain ⟨e, u, hu⟩ := hf t hs
    exact ⟨e, u, by simp only [Bind.bind, EStateM.bind, ht, hu]⟩
  | some b => exact hm.bind hf

theorem lexes_malformed (l : Location) (detail : String) :
    Lexes (α := α) (malformed l detail) s none :=
  ⟨_, _, rfl⟩

theorem fill_of_shows (h : s.Shows cs) (n : Nat) :
    ∃ t, s.fill n = .ok () t ∧ t.Shows cs ∧ ∀ i < n, t.pending[i]? = cs[i]? := by
  obtain ⟨rfl, hd⟩ := h
  have ho : (s.unread.fill n s.pending).1 = .ok () := by
    rw [Reader.fill_outcome, hd]
    rfl
  have hf : ∃ t, s.fill n = .ok () t := by
    unfold fill
    generalize s.unread.fill n s.pending = r at ho ⊢
    obtain ⟨o, pending, unread⟩ := r
    obtain rfl : o = .ok () := ho
    exact ⟨_, rfl⟩
  obtain ⟨t, ht⟩ := hf
  obtain ⟨ha, hp⟩ := fill_eq_ok ht
  exact ⟨t, ht, ⟨ha.rest.symm, ha.behind.symm.trans hd⟩, hp⟩

theorem gives_peekAt (h : s.Shows cs) (i : Nat) : Gives (peekAt i) s cs[i]? cs := by
  obtain ⟨t, ht, hs, hp⟩ := fill_of_shows h (i + 1)
  refine ⟨t, ?_, hs⟩
  simp only [peekAt, bind, EStateM.bind, ht, get_eq_ok, pure,
    EStateM.pure, hp i (by omega)]

theorem gives_peek (h : s.Shows cs) : Gives peek s cs.head? cs := by
  rw [List.head?_eq_getElem?]
  exact gives_peekAt h 0

theorem gives_takeIf_nil (h : s.Shows []) (p : Char → Bool) : Gives (takeIf p) s none [] := by
  obtain ⟨t, ht, hs, hp⟩ := fill_of_shows h 1
  have h0 : t.pending = [] := by simpa using hp 0 (by omega)
  refine ⟨t, ?_, hs⟩
  unfold takeIf
  rw [ht]
  simp only [h0]

theorem gives_takeIf_cons {c : Char} (h : s.Shows (c :: cs)) (p : Char → Bool) :
    if p c then Gives (takeIf p) s (some c) cs else Gives (takeIf p) s none (c :: cs) := by
  obtain ⟨t, ht, hs, hp⟩ := fill_of_shows h 1
  obtain ⟨ds, hd⟩ : ∃ ds, t.pending = c :: ds := by
    have h0 := hp 0 (by omega)
    cases hc : t.pending with
    | nil => simp [hc] at h0
    | cons d ds => exact ⟨ds, by simpa [hc] using h0⟩
  have htake : takeIf p s = if p c then
      .ok (some c) { t with pending := ds, position := t.position.step c } else .ok none t := by
    unfold takeIf
    rw [ht]
    simp only [hd]
  split
  · rename_i hc
    rw [if_pos hc] at htake
    refine ⟨_, htake, ?_, hs.2⟩
    have := hs.1
    simp only [rest, hd] at this ⊢
    simpa using this
  · rename_i hc
    rw [if_neg hc] at htake
    exact ⟨_, htake, hs⟩

theorem gives_bump_cons {c : Char} (h : s.Shows (c :: cs)) : Gives bump s (some c) cs := by
  have := gives_takeIf_cons h fun _ => true
  rwa [if_pos rfl] at this

theorem gives_bump (h : s.Shows cs) : Gives bump s cs.head? cs.tail := by
  cases cs with
  | nil => exact gives_takeIf_nil h _
  | cons c cs => exact gives_bump_cons h

theorem gives_advance (h : s.Shows cs) (n : Nat) : Gives (advance n) s () (cs.drop n) := by
  induction n generalizing s cs with
  | zero => exact gives_pure h ()
  | succ n ih =>
    refine (gives_bump h).bind fun t ht => ?_
    rw [← List.drop_tail]
    exact ih ht

theorem gives_matchesAt (h : s.Shows cs) (ds : List Char) (i : Nat) :
    Gives (matchesAt i ds) s (ds.isPrefixOf (cs.drop i)) cs := by
  induction ds generalizing s i with
  | nil => exact gives_pure h _
  | cons d ds ih =>
    refine (gives_peekAt h i).bind fun t ht => ?_
    by_cases hd : cs[i]? = some d
    · rw [if_pos hd]
      obtain ⟨hi, hg⟩ := List.getElem?_eq_some_iff.1 hd
      rw [List.drop_eq_getElem_cons hi, List.isPrefixOf, hg]
      simpa using ih ht (i + 1)
    · rw [if_neg hd]
      have : (d :: ds).isPrefixOf (cs.drop i) = false := by
        cases hc : cs.drop i with
        | nil => rfl
        | cons c rest =>
          have hci : cs[i]? = some c := by
            rw [← List.head?_drop, hc]
            rfl
          have hne : d ≠ c := fun he => hd (he ▸ hci)
          simp [List.isPrefixOf, hne]
      rw [this]
      exact gives_pure ht _

theorem gives_accept (h : s.Shows cs) (ds : List Char) :
    if ds.isPrefixOf cs then Gives (accept ds) s true (cs.drop ds.length)
    else Gives (accept ds) s false cs := by
  have hm := gives_matchesAt h ds 0
  rw [List.drop_zero] at hm
  split
  · rename_i hd
    refine hm.bind fun t ht => ?_
    rw [if_pos hd]
    exact (gives_advance ht _).bind fun u hu => gives_pure hu _
  · rename_i hd
    refine hm.bind fun t ht => ?_
    rw [if_neg hd]
    exact gives_pure ht _

/-- A mark that is there is taken. -/
theorem gives_accept_mark {mark rest : List Char} (h : s.Shows (mark ++ rest)) :
    Gives (accept mark) s true rest := by
  have hgives := gives_accept h mark
  rw [if_pos (List.isPrefixOf_iff_prefix.2 (List.prefix_append mark rest))] at hgives
  rwa [List.drop_left] at hgives

/-- Nothing is taken where a mark is not there. -/
theorem gives_accept_other {mark : List Char} (h : s.Shows cs) (hno : ∀ rest, cs ≠ mark ++ rest) :
    Gives (accept mark) s false cs := by
  have hgives := gives_accept h mark
  rwa [if_neg] at hgives
  intro hp
  obtain ⟨rest, hrest⟩ := List.isPrefixOf_iff_prefix.1 hp
  exact hno rest hrest.symm

theorem gives_takeWhile (h : s.Shows cs) (p : Char → Bool) :
    Gives (takeWhile p) s (cs.takeWhile p) (cs.dropWhile p) := by
  induction cs generalizing s with
  | nil =>
    obtain ⟨t, ht, hs⟩ := gives_takeIf_nil h p
    refine ⟨t, ?_, hs⟩
    rw [takeWhile_eq, ht]
    rfl
  | cons c cs ih =>
    have hc := gives_takeIf_cons h p
    by_cases hp : p c
    · rw [if_pos hp] at hc
      obtain ⟨t, ht, hs⟩ := hc
      obtain ⟨u, hu, hus⟩ := ih hs
      refine ⟨u, ?_, by rwa [List.dropWhile_cons, if_pos hp]⟩
      rw [takeWhile_eq, ht, List.takeWhile_cons, if_pos hp]
      simp only [hu]
    · rw [if_neg hp] at hc
      obtain ⟨t, ht, hs⟩ := hc
      refine ⟨t, ?_, by rwa [List.dropWhile_cons, if_neg hp]⟩
      rw [takeWhile_eq, ht, List.takeWhile_cons, if_neg hp]

theorem gives_skipBlank (h : s.Shows cs) : Gives skipBlank s () (cs.dropWhile Text.isBlank) :=
  (gives_takeWhile h _).bind fun _ ht => gives_pure ht _

theorem gives_takeName (h : s.Shows cs) :
    Gives takeName s (.ofList (cs.takeWhile isNameChar)) (cs.dropWhile isNameChar) :=
  (gives_takeWhile h _).bind fun _ ht => gives_pure ht _

theorem gives_takeUntil (h : s.Shows cs) (terminator : List Char) :
    match Lexed.cut terminator cs with
    | some b => Gives (takeUntil terminator) s (some b.1) b.2
    | none => Gives (takeUntil terminator) s none [] := by
  induction cs generalizing s with
  | nil =>
    have ha := gives_accept h terminator
    cases terminator with
    | nil =>
      obtain ⟨t, ht, hs⟩ := ha
      refine ⟨t, ?_, hs⟩
      rw [takeUntil_eq, ht]
    | cons d ds =>
      obtain ⟨t, ht, hs⟩ := ha
      obtain ⟨u, hu, hus⟩ := gives_takeIf_nil hs fun _ => true
      refine ⟨u, ?_, hus⟩
      rw [takeUntil_eq, ht]
      simp only [hu]
  | cons c cs ih =>
    have ha := gives_accept h terminator
    simp only [Lexed.cut]
    by_cases hp : terminator.isPrefixOf (c :: cs)
    · rw [if_pos hp] at ha ⊢
      obtain ⟨t, ht, hs⟩ := ha
      refine ⟨t, ?_, hs⟩
      rw [takeUntil_eq, ht]
    · rw [if_neg hp] at ha ⊢
      obtain ⟨t, ht, hs⟩ := ha
      obtain ⟨u, hu, hus⟩ := gives_bump_cons hs
      have hrest := ih hus
      cases hc : Lexed.cut terminator cs with
      | none =>
        rw [hc] at hrest
        obtain ⟨v, hv, hvs⟩ := hrest
        refine ⟨v, ?_, hvs⟩
        rw [takeUntil_eq, ht]
        simp only [bump] at hu
        simp only [hu, hv]
      | some b =>
        rw [hc] at hrest
        obtain ⟨v, hv, hvs⟩ := hrest
        refine ⟨v, ?_, hvs⟩
        rw [takeUntil_eq, ht]
        simp only [bump] at hu
        simp only [hu, hv]

theorem gives_skipSections (h : s.Shows cs) (nesting : Nat) :
    match leaveSections nesting cs with
    | some rest => Gives (skipSections nesting) s true rest
    | none => Gives (skipSections nesting) s false [] := by
  fun_induction leaveSections nesting cs generalizing s with
  | case1 nesting cs ih =>
    obtain ⟨t, ht, hs⟩ : Gives (accept ['<', '!', '[']) s true cs := gives_accept_mark h
    simp only [Gives, skipSections_eq nesting s, ht]
    exact ih hs
  | case2 cs =>
    obtain ⟨t, ht, hs⟩ : Gives (accept ['<', '!', '[']) s false (']' :: ']' :: '>' :: cs) :=
      gives_accept_other h nofun
    obtain ⟨u, hu, hus⟩ : Gives (accept [']', ']', '>']) t true cs := gives_accept_mark hs
    simp only [Gives, skipSections_eq 0 s, ht, hu, if_true]
    exact ⟨u, rfl, hus⟩
  | case3 nesting cs hn ih =>
    obtain ⟨t, ht, hs⟩ : Gives (accept ['<', '!', '[']) s false (']' :: ']' :: '>' :: cs) :=
      gives_accept_other h nofun
    obtain ⟨u, hu, hus⟩ : Gives (accept [']', ']', '>']) t true cs := gives_accept_mark hs
    simp only [Gives, skipSections_eq nesting s, ht, hu, hn, if_false]
    exact ih hus
  | case4 nesting c cs hopen hclose ih =>
    have hno {a b d : Char} (hmark : ∀ rest, c = a → cs = b :: d :: rest → False)
        (rest : List Char) : c :: cs ≠ [a, b, d] ++ rest := by
      intro heq
      obtain ⟨hc, hcs⟩ := List.cons_eq_cons.1 heq
      exact hmark rest hc hcs
    obtain ⟨t, ht, hs⟩ := gives_accept_other h (hno hopen)
    obtain ⟨u, hu, hus⟩ := gives_accept_other hs (hno hclose)
    obtain ⟨v, hv, hvs⟩ := gives_bump_cons hus
    simp only [bump] at hv
    simp only [Gives, skipSections_eq nesting s, ht, hu, hv]
    exact ih hvs
  | case5 nesting =>
    obtain ⟨t, ht, hs⟩ : Gives (accept ['<', '!', '[']) s false [] := gives_accept_other h nofun
    obtain ⟨u, hu, hus⟩ : Gives (accept [']', ']', '>']) t false [] := gives_accept_other hs nofun
    obtain ⟨v, hv, hvs⟩ := gives_takeIf_nil hus fun _ => true
    simp only [Gives, skipSections_eq nesting s, ht, hu, hv]
    exact ⟨v, rfl, hvs⟩

section Scanning

variable (l : Location)

theorem isEmpty_ofList (cs : List Char) : (String.ofList cs).isEmpty = cs.isEmpty := by
  cases cs with
  | nil => rfl
  | cons c cs => simp [← Bool.not_eq_true, String.isEmpty_iff]

/-- Taking a certain character, or failing. -/
theorem lexes_semicolon {m : CursorM α} {o : List Char → α} (detail : String) (h : s.Shows cs)
    (hm : ∀ t rest, t.Shows rest → Gives m t (o rest) rest) :
    Lexes (do if (← peek) = some ';' then let _ ← bump; m else malformed l detail) s
      (match cs with
      | ';' :: rest => some (o rest, rest)
      | _ => none) := by
  refine (gives_peek h).bind_lexes fun t ht => ?_
  split
  · rename_i hc
    obtain ⟨rest, rfl⟩ := List.head?_eq_some_iff.1 hc
    exact (gives_bump_cons ht).bind_lexes fun u hu => hm u _ hu
  · rename_i hc
    split
    · exact absurd rfl hc
    · exact lexes_malformed _ _

theorem lexes_scanGeneralRef (h : s.Shows cs) : Lexes (scanGeneralRef l) s (Lexed.generalRef cs) := by
  refine (gives_takeName h).bind_lexes fun t ht => ?_
  unfold Lexed.generalRef
  rw [isEmpty_ofList]
  split
  · exact lexes_malformed _ _
  · exact lexes_semicolon l _ ht fun u rest hu => gives_pure hu _

theorem lexes_scanHash (h : s.Shows cs) : Lexes (scanHash l) s (Lexed.hash cs) := by
  refine (gives_takeName h).bind_lexes fun t ht => ?_
  unfold Lexed.hash
  rw [isEmpty_ofList]
  split
  · exact lexes_malformed _ _
  · exact gives_pure ht _

/-- Taking everything up to a terminator, or failing. -/
theorem lexes_takeUntil {f : List Char → Token} {detail : String} (h : s.Shows cs)
    (terminator : List Char) :
    Lexes (do
      match ← takeUntil terminator with
      | some text => return f text
      | none => malformed l detail) s
      ((Lexed.cut terminator cs).map fun b => (f b.1, b.2)) := by
  have hc := gives_takeUntil h terminator
  cases ho : Lexed.cut terminator cs with
  | none =>
    rw [ho] at hc
    exact hc.bind_lexes fun t _ => lexes_malformed _ _
  | some b =>
    rw [ho] at hc
    exact hc.bind_lexes fun t ht => gives_pure ht _

theorem lexes_scanLiteral (h : s.Shows cs) (quote : Char) :
    Lexes (scanLiteral l quote) s (Lexed.literal quote cs) :=
  lexes_takeUntil l h _

theorem lexes_scanComment (h : s.Shows cs) : Lexes (scanComment l) s (Lexed.comment cs) :=
  lexes_takeUntil l h _

theorem lexes_scanSectionClose (h : s.Shows cs) :
    Lexes (scanSectionClose l) s (Lexed.sectionClose cs) := by
  have ha := gives_accept h [']', '>']
  unfold Lexed.sectionClose
  split
  · rw [if_pos (by simp)] at ha
    exact ha.bind_lexes fun t ht => gives_pure ht _
  · rename_i hc
    rw [if_neg] at ha
    · exact ha.bind_lexes fun t ht => lexes_malformed _ _
    · intro hp
      obtain ⟨r, rfl⟩ := List.isPrefixOf_iff_prefix.1 hp
      exact hc r rfl

theorem lexes_scanDeclaration (h : s.Shows cs) :
    Lexes (scanDeclaration l) s (Lexed.declaration cs) := by
  refine (gives_takeName h).bind_lexes fun t ht => ?_
  unfold Lexed.declaration
  cases Keyword.ofText? (.ofList (cs.takeWhile isNameChar)) with
  | none => exact lexes_malformed _ _
  | some keyword => exact gives_pure ht _

theorem lexes_scanInstruction (h : s.Shows cs) :
    Lexes (scanInstruction l) s (Lexed.instruction cs) := by
  refine (gives_takeName h).bind_lexes fun t ht => ?_
  unfold Lexed.instruction
  rw [isEmpty_ofList]
  split
  · exact lexes_malformed _ _
  · exact lexes_takeUntil l ht _

theorem lexes_scanMarkup (h : s.Shows cs) : Lexes (scanMarkup l) s (Lexed.markup cs) := by
  have hcomment := gives_accept h ['!', '-', '-']
  split at hcomment
  · rename_i hp
    obtain ⟨r, rfl⟩ := List.isPrefixOf_iff_prefix.1 hp
    exact hcomment.bind_lexes fun t ht => lexes_scanComment l ht
  rename_i hc
  refine hcomment.bind_lexes fun t ht => ?_
  rw [if_neg (by simp)]
  have hopen := gives_accept ht ['!', '[']
  split at hopen
  · rename_i hp
    obtain ⟨r, rfl⟩ := List.isPrefixOf_iff_prefix.1 hp
    exact hopen.bind_lexes fun u hu => gives_pure hu _
  rename_i ho
  refine hopen.bind_lexes fun u hu => ?_
  rw [if_neg (by simp)]
  refine (gives_bump hu).bind_lexes fun v hv => ?_
  -- the opener is neither `!--` nor `![`, so that its first character decides
  split
  · rename_i hh
    obtain ⟨r, rfl⟩ := List.head?_eq_some_iff.1 hh
    unfold Lexed.markup
    split <;> simp_all
    exact lexes_scanDeclaration l hv
  · rename_i hh
    obtain ⟨r, rfl⟩ := List.head?_eq_some_iff.1 hh
    exact lexes_scanInstruction l hv
  · unfold Lexed.markup
    split <;> simp_all
    exact lexes_malformed _ _

theorem lexes_scanToken (h : s.Shows cs) (c : Char) :
    Lexes (scanToken l c) s (Lexed.tokenOf c cs) := by
  unfold scanToken Lexed.tokenOf
  split
  case h_10 => exact lexes_scanGeneralRef l h
  case h_11 => exact lexes_scanHash l h
  case h_12 => exact lexes_scanLiteral l h _
  case h_13 => exact lexes_scanLiteral l h _
  case h_14 => exact lexes_scanSectionClose l h
  case h_15 => exact lexes_scanMarkup l h
  case h_16 =>
    by_cases hn : isNameChar c
    · simp only [hn, if_true]
      exact (gives_takeWhile h _).bind_lexes fun t ht => gives_pure ht _
    · simp only [hn, Bool.false_eq_true, if_false]
      exact lexes_malformed _ _
  all_goals exact gives_pure h _

theorem lexes_scanPercent (h : s.Shows cs) :
    Lexes (scanPercent l) s ((Lexed.percent cs).outcome l) := by
  refine (gives_peek h).bind_lexes fun t ht => ?_
  unfold Lexed.percent
  split
  · refine (gives_takeName ht).bind_lexes fun u hu => ?_
    have hsemi := lexes_semicolon l ("expected `;` after parameter entity reference `%" ++
      .ofList (cs.takeWhile isNameChar) ++ "`") hu
      fun v rest hv => gives_pure hv (Scanned.reference (.ofList (cs.takeWhile isNameChar)) l)
    split
    · rename_i rest hr
      rw [hr] at hsemi
      exact hsemi
    · rename_i hr
      split at hsemi
      · rename_i rest hr'
        exact absurd hr' (hr rest)
      · exact hsemi
  · exact gives_pure ht (Scanned.token .percent l)

/-- What a scan does behind the blanks. -/
def scanFront (l : Location) : CursorM Scanned := do
  match ← bump with
  | none => return .exhausted
  | some '%' => scanPercent l
  | some c => return .token (← scanToken l c) l

theorem scan_eq_scanFront {t : Cursor} (h : skipBlank s = .ok () t) :
    scan s = scanFront t.location t := by
  simp only [scan, scanFront, bind, EStateM.bind, h, get_eq_ok] <;> rfl

theorem lexes_scanFront (h : s.Shows (cs.dropWhile Text.isBlank)) :
    Lexes (scanFront l) s ((lex cs).outcome l) := by
  refine (gives_bump h).bind_lexes fun u hu => ?_
  unfold lex
  cases hd : cs.dropWhile Text.isBlank with
  | nil =>
    rw [hd] at hu
    exact gives_pure hu Scanned.exhausted
  | cons c rest =>
    rw [hd] at hu
    simp only [List.head?_cons, List.tail_cons] at hu ⊢
    split
    · contradiction
    · rename_i hc
      cases hc
      exact lexes_scanPercent _ hu
    · rename_i c' hc' hc
      cases hc
      have htok := lexes_scanToken l hu c
      split
      · simp_all
      · rename_i hc
        simp_all
      · rename_i hc
        cases hc
        cases ho : Lexed.tokenOf c rest with
        | none =>
          rw [ho] at htok
          obtain ⟨e, v, hv⟩ := htok
          exact ⟨e, v, by simp only [bind, EStateM.bind, hv]⟩
        | some b =>
          rw [ho] at htok
          exact Gives.bind htok fun v hv => gives_pure hv _

end Scanning

/-- What is scanned is located behind the blanks. -/
theorem lexes_scan {t : Cursor} (h : s.Shows cs) (ht : skipBlank s = .ok () t) :
    Lexes scan s ((lex cs).outcome t.location) := by
  obtain ⟨t', ht', hs⟩ := gives_skipBlank h
  rw [ht] at ht'
  cases ht'
  have hfront := lexes_scanFront t.location hs
  have hscan := scan_eq_scanFront ht
  cases ho : (lex cs).outcome t.location with
  | none =>
    rw [ho] at hfront
    obtain ⟨e, u, hu⟩ := hfront
    exact ⟨e, u, hscan.trans hu⟩
  | some b =>
    rw [ho] at hfront
    obtain ⟨u, hu, hus⟩ := hfront
    exact ⟨u, hscan.trans hu, hus⟩

/-- Scanning a text that can be read lexes its characters. -/
theorem scan_lex (h : s.Shows cs) : ∃ l, Lexes scan s ((lex cs).outcome l) := by
  obtain ⟨t, ht, -⟩ := gives_skipBlank h
  exact ⟨t.location, lexes_scan h ht⟩

/-- An action that succeeds has the outcome that is computed from the characters. -/
theorem Lexes.of_ok {m : CursorM α} {o : Option (α × List Char)} {a : α} {t : Cursor}
    (h : Lexes m s o) (hm : m s = .ok a t) : ∃ rest, o = some (a, rest) ∧ t.Shows rest := by
  cases o with
  | none =>
    obtain ⟨e, u, hu⟩ := h
    rw [hm] at hu
    cases hu
  | some b =>
    obtain ⟨u, hu, hshows⟩ := h
    rw [hm] at hu
    cases hu
    exact ⟨b.2, rfl, hshows⟩

/-- What a scan of a readable text gives is what its characters begin with. -/
theorem Shows.lex_eq {t : Cursor} (h : s.Shows cs) {r : Scanned} (hs : scan s = .ok r t) :
    ∃ l rest, (lex cs).outcome l = some (r, rest) ∧ t.Shows rest := by
  obtain ⟨l, hl⟩ := scan_lex h
  obtain ⟨rest, ho, hshows⟩ := hl.of_ok hs
  exact ⟨l, rest, ho, hshows⟩

/-- A scan that succeeds gives what the characters before the first unreadable line begin with. -/
theorem lex_of_scan {t : Cursor} {r : Scanned} (hs : scan s = .ok r t) :
    ∃ l, (lex s.rest).outcome l = some (r, t.rest) := by
  let s' : Cursor := ⟨s.name, s.rest, .done, s.position⟩
  have hrest : s'.rest = s.rest := by simp [s', rest, Reader.ahead]
  have halike : Alike .readable s s' := ⟨rfl, rfl, hrest.symm, rfl⟩
  obtain ⟨r', t', ht', hr, ht⟩ := AlikeResult.of_ok (hs ▸ agree_scan halike)
  obtain ⟨l, rest', ho, hshows⟩ := Shows.lex_eq ⟨hrest, rfl⟩ ht'
  rw [← hr.eq fun _ _ => id, ← hshows.1, ← ht.rest] at ho
  exact ⟨l, ho⟩

end Cursor

end Doctype
