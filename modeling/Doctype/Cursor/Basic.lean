import Doctype.Name
import Doctype.Reader

/-! A cursor in a text: characters taken one by one from content that is read by lines. -/
namespace Doctype

/-- A named text, the part of it that is still to come, and the position reached. -/
structure Cursor where
  name : String
  /-- Characters that have been read and not yet taken. -/
  pending : List Char := []
  unread : Reader
  position : Position := .start
deriving DecidableEq, Repr

/-- An action on a cursor. What a failed action has taken stays taken. -/
abbrev CursorM := EStateM Error Cursor

theorem get_eq_ok {ε σ : Type} (s : σ) : (get : EStateM ε σ σ) s = .ok s s :=
  rfl

namespace Cursor

open EStateM (Result)

/-- Where the next character is. -/
def location (s : Cursor) : Location :=
  ⟨s.name, s.position.line, s.position.column⟩

/-- The number of characters that can still be taken. -/
def remaining (s : Cursor) : Nat :=
  s.pending.length + s.unread.size

/-- Reads lines until `n` characters are pending or nothing is left. -/
def fill (n : Nat) (s : Cursor) : Result Error Cursor Unit :=
  let (outcome, pending, unread) := s.unread.fill n s.pending
  let s := { s with pending, unread }
  match outcome with
  | .ok _ => .ok () s
  | .error e => .error ((Error.io e).locate s.location) s

/-- The character at a distance, which stays where it is. -/
def peekAt (offset : Nat) : CursorM (Option Char) := do
  fill (offset + 1)
  return (← get).pending[offset]?

/-- The next character, which stays where it is. -/
def peek : CursorM (Option Char) :=
  peekAt 0

/-- Takes the next character if there is one and it passes a test. -/
def takeIf (p : Char → Bool) (s : Cursor) : Result Error Cursor (Option Char) :=
  match s.fill 1 with
  | .error e s => .error e s
  | .ok _ s =>
    match s.pending with
    | [] => .ok none s
    | c :: rest =>
      if p c then .ok (some c) { s with pending := rest, position := s.position.step c }
      else .ok none s

/-- Takes the next character if there is one. -/
def bump : CursorM (Option Char) :=
  takeIf fun _ => true

/-- Takes up to `n` characters. -/
def advance : Nat → CursorM Unit
  | 0 => pure ()
  | n + 1 => do
    let _ ← bump
    advance n

/-- Whether certain characters stand at a distance. Looks no further than the first difference. -/
def matchesAt (offset : Nat) : List Char → CursorM Bool
  | [] => return true
  | c :: cs => do
    if (← peekAt offset) = some c then matchesAt (offset + 1) cs else return false

/-- Whether certain characters come next. -/
def startsWith (cs : List Char) : CursorM Bool :=
  matchesAt 0 cs

/-- Takes certain characters if they come next. -/
def accept (cs : List Char) : CursorM Bool := do
  if ← startsWith cs then
    advance cs.length
    return true
  else return false

theorem remaining_fill {n : Nat} {s : Cursor} :
    match s.fill n with
    | .ok _ s' => s'.remaining = s.remaining ∧ s.pending <+: s'.pending
    | .error _ s' => s'.remaining = s.remaining := by
  have h := Reader.fill_keeps n s.pending s.unread
  unfold fill
  generalize s.unread.fill n s.pending = r at h
  obtain ⟨outcome, pending, unread⟩ := r
  cases outcome with
  | ok => exact ⟨h.2, h.1⟩
  | error => exact h.2

theorem remaining_takeIf {p : Char → Bool} {s s' : Cursor} {o : Option Char}
    (h : s.takeIf p = .ok o s') : s'.remaining + o.toList.length = s.remaining := by
  have hf := remaining_fill (n := 1) (s := s)
  unfold takeIf at h
  generalize s.fill 1 = r at h hf
  cases r with
  | error => simp at h
  | ok _ t =>
    obtain ⟨hf, -⟩ := hf
    simp only at h
    split at h
    · cases h; simpa using hf
    · rename_i c rest hp
      split at h
      · cases h
        simp only [remaining, hp, List.length_cons] at hf
        simp only [remaining, Option.toList_some, List.length_singleton]
        omega
      · cases h; simpa using hf

theorem remaining_peekAt {i : Nat} {s s' : Cursor} {o : Option Char}
    (h : peekAt i s = .ok o s') :
    s'.remaining = s.remaining ∧ s.pending <+: s'.pending ∧ s'.pending[i]? = o := by
  have hf := remaining_fill (n := i + 1) (s := s)
  simp only [peekAt, bind, EStateM.bind, get_eq_ok, pure,
    EStateM.pure] at h
  generalize s.fill (i + 1) = r at h hf
  cases r with
  | error => simp at h
  | ok _ t => simp only at h; cases h; exact ⟨hf.1, hf.2, rfl⟩

theorem remaining_matchesAt {cs : List Char} {i : Nat} {s s' : Cursor} {b : Bool}
    (h : matchesAt i cs s = .ok b s') :
    s'.remaining = s.remaining ∧ s.pending <+: s'.pending ∧
      (b = true → cs ≠ [] → i + cs.length ≤ s'.pending.length) := by
  induction cs generalizing i s with
  | nil => cases h; simp
  | cons c cs ih =>
    simp only [matchesAt, bind, EStateM.bind] at h
    split at h
    · rename_i o t ho
      obtain ⟨hr, hp, hg⟩ := remaining_peekAt ho
      split at h
      · rename_i hc
        obtain ⟨hr', hp', hl⟩ := ih h
        refine ⟨hr'.trans hr, hp.trans hp', fun hb _ => ?_⟩
        rw [hc] at hg
        have hi := (List.getElem?_eq_some_iff.1 hg).1
        have hle := hp'.length_le
        cases cs with
        | nil => simp only [List.length_cons, List.length_nil]; omega
        | cons d ds =>
          have := hl hb (by simp)
          simp only [List.length_cons] at this ⊢
          omega
      · cases h; exact ⟨hr, hp, by simp⟩
    · simp at h

theorem remaining_advance {n : Nat} {s s' : Cursor} (h : advance n s = .ok () s') :
    s'.remaining ≤ s.remaining ∧ (n ≤ s.pending.length → s'.remaining + n = s.remaining) := by
  induction n generalizing s with
  | zero => cases h; simp
  | succ n ih =>
    simp only [advance, bind, EStateM.bind] at h
    split at h
    · rename_i o t ho
      obtain ⟨hle, heq⟩ := ih h
      have hr := remaining_takeIf ho
      refine ⟨by omega, fun hn => ?_⟩
      have hf := remaining_fill (n := 1) (s := s)
      change s.takeIf _ = _ at ho
      unfold takeIf at ho
      generalize s.fill 1 = r at ho hf
      cases r with
      | error => simp at ho
      | ok _ u =>
        obtain ⟨-, hp⟩ := hf
        have hlen := hp.length_le
        simp only [if_true] at ho
        split at ho
        · rename_i hu; simp only [hu, List.length_nil] at hlen; omega
        · rename_i c rest hu
          cases ho
          simp only [hu, List.length_cons] at hlen
          simp only [Option.toList_some, List.length_singleton] at hr
          have := heq (by simp only; omega)
          omega
    · simp at h

theorem remaining_accept {cs : List Char} {s s' : Cursor} {b : Bool}
    (h : accept cs s = .ok b s') :
    s'.remaining ≤ s.remaining ∧ (b = true → s'.remaining + cs.length = s.remaining) := by
  simp only [accept, bind, EStateM.bind] at h
  split at h
  · rename_i o t ho
    obtain ⟨hr, -, hl⟩ := remaining_matchesAt ho
    split at h
    · rename_i hb
      simp only [EStateM.bind] at h
      split at h
      · rename_i u v hv
        cases h
        obtain ⟨hle, heq⟩ := remaining_advance hv
        refine ⟨by omega, fun _ => ?_⟩
        cases cs with
        | nil => cases hv; simpa using hr
        | cons c cs =>
          have := heq (by have := hl hb (by simp); omega)
          omega
      · simp at h
    · cases h; simp [hr]
  · simp at h

/-- Takes characters as long as they pass a test. -/
def takeWhile (p : Char → Bool) (s : Cursor) : Result Error Cursor (List Char) :=
  match _h : s.takeIf p with
  | .error e s => .error e s
  | .ok none s => .ok [] s
  | .ok (some c) s =>
    match takeWhile p s with
    | .error e s => .error e s
    | .ok cs s => .ok (c :: cs) s
termination_by s.remaining
decreasing_by
  have := remaining_takeIf _h
  simp only [Option.toList_some, List.length_singleton] at this
  omega

/-- Takes blanks. -/
def skipBlank : CursorM Unit := do
  let _ ← takeWhile Text.isBlank

/-- Takes name characters. -/
def takeName : CursorM String := do
  return .ofList (← takeWhile isNameChar)

/-- Takes everything through the first occurrence of a terminator, and gives what stands before
it. Gives nothing if the terminator does not occur. -/
def takeUntil (terminator : List Char) (s : Cursor) : Result Error Cursor (Option (List Char)) :=
  match _h : accept terminator s with
  | .error e s => .error e s
  | .ok true s => .ok (some []) s
  | .ok false s =>
    match _h' : s.takeIf fun _ => true with
    | .error e s => .error e s
    | .ok none s => .ok none s
    | .ok (some c) s =>
      match takeUntil terminator s with
      | .error e s => .error e s
      | .ok none s => .ok none s
      | .ok (some cs) s => .ok (some (c :: cs)) s
termination_by s.remaining
decreasing_by
  have := (remaining_accept _h).1
  have := remaining_takeIf _h'
  simp only [Option.toList_some, List.length_singleton] at this
  omega

/-- Takes everything through the `]]>` that closes `nesting + 1` open sections, and tells
whether there is one. -/
def skipSections (nesting : Nat) (s : Cursor) : Result Error Cursor Bool :=
  match _h : accept ['<', '!', '['] s with
  | .error e s => .error e s
  | .ok true s => skipSections (nesting + 1) s
  | .ok false s =>
    match _h' : accept [']', ']', '>'] s with
    | .error e s => .error e s
    | .ok true s => if nesting = 0 then .ok true s else skipSections (nesting - 1) s
    | .ok false s =>
      match _h'' : s.takeIf fun _ => true with
      | .error e s => .error e s
      | .ok none s => .ok false s
      | .ok (some _) s => skipSections nesting s
termination_by s.remaining
decreasing_by
  · have := (remaining_accept _h).2 rfl
    simp only [List.length_cons] at this
    omega
  · have := (remaining_accept _h).1
    have := (remaining_accept _h').2 rfl
    simp only [List.length_cons] at this
    omega
  · have := (remaining_accept _h).1
    have := (remaining_accept _h').1
    have := remaining_takeIf _h''
    simp only [Option.toList_some, List.length_singleton] at this
    omega

end Cursor

end Doctype
