import Doctype.Proofs.Cursor.Decoding
import Doctype.Proofs.Cursor.Positions

/-! Calls of a cursor. However its text is cut into lines, calls are answered as a list of
characters answers them: those of the text that have not been taken yet. -/
namespace Doctype

namespace Lexed

variable {t cs : List Char}

/-- The cut falls at the first occurrence of the terminator. -/
theorem prefix_of_cut {b : List Char × List Char} (h : cut t cs = some b) {front : List Char}
    (hf : front ++ t <+: cs) : b.1 <+: front := by
  induction cs generalizing b front with
  | nil =>
    simp only [cut] at h
    split at h
    · cases h
      exact List.nil_prefix
    · cases h
  | cons c cs ih =>
    simp only [cut] at h
    split at h
    · cases h
      exact List.nil_prefix
    · rename_i ht
      obtain ⟨b', hb', rfl⟩ := Option.map_eq_some_iff.1 h
      cases front with
      | nil => exact absurd (List.isPrefixOf_iff_prefix.2 hf) ht
      | cons d front =>
        rw [List.cons_append] at hf
        obtain ⟨hd, hrest⟩ := List.cons_prefix_cons.1 hf
        exact List.cons_prefix_cons.2 ⟨hd.symm, ih hb' hrest⟩

/-- There is a cut if the terminator occurs. -/
theorem not_infix_of_cut_eq_none (h : cut t cs = none) : ¬t <:+: cs := by
  induction cs with
  | nil =>
    simp only [cut] at h
    split at h
    · cases h
    · rename_i ht
      simpa using ht
  | cons c cs ih =>
    simp only [cut] at h
    split at h
    · cases h
    · rename_i ht
      rw [List.infix_cons_iff, not_or]
      exact ⟨mt List.isPrefixOf_iff_prefix.2 ht, ih (Option.map_eq_none_iff.1 h)⟩

end Lexed

namespace Cursor

open EStateM (Result)

/-- A call of a cursor. -/
inductive Call
  | fill (n : Nat)
  | peekAt (offset : Nat)
  | startsWith (cs : List Char)
  | bump
  | advance (n : Nat)
  | takeUntil (terminator : List Char)
deriving DecidableEq, Repr

/-- What a call gives. -/
inductive Answer
  | done
  | char (c : Option Char)
  | truth (b : Bool)
  | text (cs : Option (List Char))
deriving DecidableEq, Repr

/-- Makes a call. -/
def Call.run : Call → CursorM Answer
  | fill n => do
    Cursor.fill n
    return .done
  | peekAt offset => return .char (← Cursor.peekAt offset)
  | startsWith cs => return .truth (← Cursor.startsWith cs)
  | bump => return .char (← Cursor.bump)
  | advance n => do
    Cursor.advance n
    return .done
  | takeUntil terminator => return .text (← Cursor.takeUntil terminator)

/-- Makes one call after the other. -/
def runCalls : List Call → CursorM (List Answer)
  | [] => return []
  | call :: calls => do
    let answer ← call.run
    return answer :: (← runCalls calls)

/-- How a call is answered where certain characters are to come, and which of them it takes. -/
inductive Reply (r : List Char) : Call → Answer → List Char → Prop
  | fill (n : Nat) : Reply r (.fill n) .done []
  | peekAt (offset : Nat) : Reply r (.peekAt offset) (.char r[offset]?) []
  | startsWith {cs : List Char} {b : Bool} : (b = true ↔ cs <+: r) →
      Reply r (.startsWith cs) (.truth b) []
  | bump : Reply r .bump (.char r.head?) (r.take 1)
  | advance (n : Nat) : Reply r (.advance n) .done (r.take n)
  /-- No occurrence begins in front of the one that is taken. -/
  | found {terminator x : List Char} : x ++ terminator <+: r →
      (∀ front, front ++ terminator <+: r → x <+: front) →
      Reply r (.takeUntil terminator) (.text (some x)) (x ++ terminator)
  | missing {terminator : List Char} : ¬terminator <:+: r →
      Reply r (.takeUntil terminator) (.text none) r

/-- How calls are answered one after the other, and which characters they take. -/
inductive Replies : List Char → List Call → List Answer → List Char → Prop
  | nil (r : List Char) : Replies r [] [] []
  | cons {p q r : List Char} {call : Call} {a : Answer} {calls : List Call}
      {answers : List Answer} : Reply (p ++ r) call a p → Replies r calls answers q →
      Replies (p ++ r) (call :: calls) (a :: answers) (p ++ q)

section Unique

variable {r p p' : List Char} {a a' : Answer}

/-- The characters to come leave one answer to a call. -/
theorem Reply.unique {call : Call} (h : Reply r call a p) (h' : Reply r call a' p') :
    a = a' ∧ p = p' := by
  cases h with
  | fill | peekAt | bump | advance =>
    cases h'
    exact ⟨rfl, rfl⟩
  | startsWith hb =>
    cases h' with
    | startsWith hb' => exact ⟨congrArg _ (Bool.eq_iff_iff.2 (hb.trans hb'.symm)), rfl⟩
  | found hx hfirst =>
    cases h' with
    | found hy hfirst' =>
      have hxy := (hfirst _ hy).eq_of_length_le (hfirst' _ hx).length_le
      subst hxy
      exact ⟨rfl, rfl⟩
    | missing hno => exact absurd ((List.suffix_append _ _).isInfix.trans hx.isInfix) hno
  | missing hno =>
    cases h' with
    | found hx _ => exact absurd ((List.suffix_append _ _).isInfix.trans hx.isInfix) hno
    | missing => exact ⟨rfl, rfl⟩

theorem Replies.unique {calls : List Call} {answers answers' : List Answer}
    (h : Replies r calls answers p) (h' : Replies r calls answers' p') :
    answers = answers' ∧ p = p' := by
  induction h generalizing answers' p' with
  | nil =>
    cases h'
    exact ⟨rfl, rfl⟩
  | @cons p q r call a calls answers hreply _ ih =>
    generalize hpr : p ++ r = pr at h'
    cases h' with
    | @cons p₂ q₂ r₂ _ a₂ _ answers₂ hreply' hreplies' =>
      rw [hpr] at hreply
      obtain ⟨rfl, rfl⟩ := hreply.unique hreply'
      obtain rfl := List.append_cancel_left hpr
      obtain ⟨rfl, rfl⟩ := ih hreplies'
      exact ⟨rfl, rfl⟩

end Unique

variable {s : Cursor} {p r : List Char} {name : String}

theorem walks_call (call : Call) : Walks call.run := by
  cases call with
  | fill n => exact (walks_fill n).bind fun _ => walks_pure _
  | peekAt offset => exact (walks_peekAt offset).bind fun _ => walks_pure _
  | startsWith cs => exact (walks_matchesAt cs 0).bind fun _ => walks_pure _
  | bump => exact walks_bump.bind fun _ => walks_pure _
  | advance n => exact (walks_advance n).bind fun _ => walks_pure _
  | takeUntil terminator => exact (walks_takeUntil terminator).bind fun _ => walks_pure _

/-- Where every line can be read, a call is answered by the characters to come. -/
theorem gives_call (h : s.Shows r) (call : Call) :
    ∃ a p r', r = p ++ r' ∧ Reply r call a p ∧ Gives call.run s a r' := by
  cases call with
  | fill n =>
    obtain ⟨t, ht, hs, -⟩ := fill_of_shows h n
    have hfill : Gives (Cursor.fill n) s () r := ⟨t, ht, hs⟩
    exact ⟨_, [], r, rfl, .fill n, hfill.bind fun _ hu => gives_pure hu _⟩
  | peekAt offset =>
    exact ⟨_, [], r, rfl, .peekAt offset, (gives_peekAt h offset).bind fun _ hu => gives_pure hu _⟩
  | startsWith cs =>
    have hmatches := gives_matchesAt h cs 0
    exact ⟨_, [], r, rfl, .startsWith List.isPrefixOf_iff_prefix,
      hmatches.bind fun _ hu => gives_pure hu _⟩
  | bump =>
    have hr : r = r.take 1 ++ r.tail := by cases r <;> rfl
    exact ⟨_, _, _, hr, .bump, (gives_bump h).bind fun _ hu => gives_pure hu _⟩
  | advance n =>
    have hr : r = r.take n ++ r.drop n := (List.take_append_drop n r).symm
    exact ⟨_, _, _, hr, .advance n, (gives_advance h n).bind fun _ hu => gives_pure hu _⟩
  | takeUntil terminator =>
    have htake := gives_takeUntil h terminator
    cases hcut : Lexed.cut terminator r with
    | some b =>
      rw [hcut] at htake
      have hr := Lexed.cut_eq_some hcut
      have hoccurs : b.1 ++ terminator <+: r := ⟨b.2, hr.symm⟩
      exact ⟨_, _, _, hr, .found hoccurs fun _ => Lexed.prefix_of_cut hcut,
        htake.bind fun _ hu => gives_pure hu _⟩
    | none =>
      rw [hcut] at htake
      exact ⟨_, r, [], (List.append_nil r).symm, .missing (Lexed.not_infix_of_cut_eq_none hcut),
        htake.bind fun _ hu => gives_pure hu _⟩

/-- So are calls made one after the other, and they pass the characters that they take. -/
theorem Between.runCalls (h : Between name p r s) (calls : List Call) :
    ∃ answers q r' t, r = q ++ r' ∧ Replies r calls answers q ∧
      Cursor.runCalls calls s = .ok answers t ∧ Between name (p ++ q) r' t := by
  induction calls generalizing p r s with
  | nil => exact ⟨[], [], r, s, rfl, .nil r, rfl, by rwa [List.append_nil]⟩
  | cons call calls ih =>
    obtain ⟨a, q, r', rfl, hreply, t, ht, hshows⟩ := gives_call h.shows call
    have hbetween := h.walks (walks_call call) ht hshows rfl
    obtain ⟨answers, q', r'', u, rfl, hreplies, hu, hend⟩ := ih hbetween
    refine ⟨a :: answers, q ++ q', r'', u, by rw [List.append_assoc], .cons hreply hreplies, ?_,
      by rwa [← List.append_assoc]⟩
    simp only [Cursor.runCalls, bind, EStateM.bind, ht, hu]
    rfl

/-- Calls of a cursor at the front of a content that can be read are answered by its characters:
each of them looks at those that have not been taken, which are the pending ones and the unread
ones, and the position is that of the characters taken. Another content of the same characters
answers the same. -/
theorem runCalls_buffered {content : Reader} {c : List Char} (h : content.readAll = .ok c)
    (name : String) (calls : List Call) :
    ∃ answers p u s, Cursor.runCalls calls { name, unread := content } = .ok answers s ∧
      Replies c calls answers p ∧ s.unread.readAll = .ok u ∧ c = p ++ (s.pending ++ u) ∧
      s.position = .behind p ∧
      ∀ content' : Reader, content'.readAll = .ok c →
        ∃ s', Cursor.runCalls calls { name, unread := content' } = .ok answers s' ∧
          s'.rest = s.rest ∧ s'.position = s.position := by
  obtain ⟨answers, p, r, s, rfl, hreplies, hs, hbetween⟩ := (between_start name h).runCalls calls
  have hunread : s.unread.readAll = .ok s.unread.ahead :=
    Reader.readAll_eq_ok.2 ⟨rfl, hbetween.shows.2⟩
  refine ⟨answers, p, s.unread.ahead, s, hs, hreplies, hunread, ?_, hbetween.position,
    fun content' h' => ?_⟩
  · exact congrArg (p ++ ·) hbetween.shows.1.symm
  · obtain ⟨answers', p', r', s', hr, hreplies', hs', hbetween'⟩ :=
      (between_start name h').runCalls calls
    obtain ⟨rfl, rfl⟩ := hreplies.unique hreplies'
    obtain rfl := List.append_cancel_left hr
    exact ⟨s', hs', hbetween'.shows.1.trans hbetween.shows.1.symm,
      hbetween'.position.trans hbetween.position.symm⟩

/-- A terminator with a line feed in it, behind a character of two bytes, and one that does not
occur. -/
theorem runCalls_buffered_feed :
    let content := Reader.ofBytes [0xC3, 0xA9, 0x2D, 0x0A, 0x2D, 0x3E, 0x0A, 0x78]
    let c := "é-\n->\nx".toList
    let calls := [Call.startsWith "é-\n-".toList, .peekAt 4, .bump, .takeUntil "\n->".toList,
      .fill 9, .advance 1, .takeUntil "-->".toList]
    content.readAll = .ok c ∧
      ∃ answers p u s, Cursor.runCalls calls { name := "a.dtd", unread := content } = .ok answers s ∧
        Replies c calls answers p ∧ s.unread.readAll = .ok u ∧ c = p ++ (s.pending ++ u) ∧
        s.position = .behind p ∧
        ∀ content' : Reader, content'.readAll = .ok c →
          ∃ s', Cursor.runCalls calls { name := "a.dtd", unread := content' } = .ok answers s' ∧
            s'.rest = s.rest ∧ s'.position = s.position := by
  intro content c calls
  have hutf8 : Text.utf8Chars? [0xC3, 0xA9, 0x2D, 0x0A, 0x2D, 0x3E, 0x0A, 0x78] = some c := by
    simp [Text.utf8Chars?, Text.decodeUtf8, Text.utf8Lead, Text.utf8Follow]
    decide
  have hread : content.readAll = .ok c := Reader.readAll_ofBytes hutf8
  exact ⟨hread, runCalls_buffered hread "a.dtd" calls⟩

end Cursor

end Doctype
