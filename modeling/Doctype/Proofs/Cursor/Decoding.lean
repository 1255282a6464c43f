import Doctype.Proofs.Cursor.Buffering
import Mathlib.Data.List.TakeWhile

/-! Bytes that are valid UTF-8 throughout are valid line by line: a line feed is a character of its
own, and no byte of a longer one. -/
namespace Doctype

namespace Text

/-- Bytes that stand for one character, whatever follows. -/
structure Encodes (unit : List UInt8) (c : Char) : Prop where
  decode : ∀ rest, decodeUtf8 (unit ++ rest) = some c :: decodeUtf8 rest
  feed : unit = [0x0A] ∨ unit ≠ [] ∧ 0x0A ∉ unit

theorem utf8Chars?_nil : utf8Chars? [] = some [] := by
  simp [utf8Chars?, decodeUtf8]

theorem utf8Chars?_eq_cons {bytes rest : List UInt8} {o : Option Char} {cs : List Char}
    (h : utf8Chars? bytes = some cs) (hd : decodeUtf8 bytes = o :: decodeUtf8 rest) :
    ∃ c cs', o = some c ∧ cs = c :: cs' ∧ utf8Chars? rest = some cs' := by
  rw [utf8Chars?, hd, List.mapM_cons] at h
  obtain ⟨c, hc, h⟩ := Option.bind_eq_some_iff.1 h
  obtain ⟨cs', hcs', h⟩ := Option.bind_eq_some_iff.1 h
  exact ⟨c, cs', hc, (Option.some.inj h).symm, hcs'⟩

theorem Encodes.utf8Chars? {unit rest : List UInt8} {c : Char} {cs : List Char}
    (h : Encodes unit c) (hr : utf8Chars? rest = some cs) :
    utf8Chars? (unit ++ rest) = some (c :: cs) := by
  have hr' : (decodeUtf8 rest).mapM id = some cs := hr
  rw [Text.utf8Chars?, h.decode, List.mapM_cons, hr']
  rfl

theorem le_of_utf8Lead {b lo hi : UInt8} {count : Nat} (h : utf8Lead b = some (lo, hi, count)) :
    0x80 ≤ lo ∧ 0 < count := by
  unfold utf8Lead at h
  repeat' split at h
  all_goals
    cases h
    try decide

/-- As many bytes as a lead byte announces, each of which continues the character. -/
structure Follows (lo hi : UInt8) (count : Nat) (first : UInt8) (others : List UInt8) : Prop where
  ranged : (lo ≤ first && first ≤ hi) = true
  tails : ∀ b ∈ others, isUtf8Tail b = true
  length : (first :: others).length = count

theorem Follows.utf8Follow {lo hi first : UInt8} {count : Nat} {others : List UInt8}
    (h : Follows lo hi count first others) (rest : List UInt8) :
    utf8Follow lo hi count (first :: others ++ rest) = first :: others := by
  have hcount : count - 1 = others.length := by
    rw [← h.length, List.length_cons, Nat.add_sub_cancel]
  rw [List.cons_append, Text.utf8Follow, if_pos h.ranged, hcount, List.take_left,
    List.takeWhile_eq_self_iff.2 h.tails]

theorem follows_of_utf8Follow {lo hi : UInt8} {count : Nat} {bytes : List UInt8}
    (hpos : 0 < count) (h : (utf8Follow lo hi count bytes).length = count) :
    ∃ first others rest, bytes = first :: others ++ rest ∧ Follows lo hi count first others := by
  cases bytes with
  | nil =>
    simp only [utf8Follow, List.length_nil] at h
    omega
  | cons first bytes =>
    simp only [utf8Follow] at h
    split at h
    · rename_i hfirst
      have htake : (bytes.take (count - 1)).length ≤ count - 1 := List.length_take_le _ _
      -- nothing is cut off, so that all of the bytes continue the character
      have hwhole : (bytes.take (count - 1)).takeWhile isUtf8Tail = bytes.take (count - 1) := by
        refine (List.takeWhile_prefix _).eq_of_length_le ?_
        rw [List.length_cons] at h
        omega
      rw [hwhole] at h
      exact ⟨first, bytes.take (count - 1), bytes.drop (count - 1), by simp,
        hfirst, List.takeWhile_eq_self_iff.1 hwhole, h⟩
    · rw [List.length_nil] at h
      omega

theorem Follows.feed_not_mem {lo hi first : UInt8} {count : Nat} {others : List UInt8}
    (h : Follows lo hi count first others) (hlo : 0x80 ≤ lo) : 0x0A ∉ first :: others := by
  have hfirst := h.ranged
  simp only [Bool.and_eq_true, decide_eq_true_eq] at hfirst
  rw [List.mem_cons, not_or]
  constructor
  · rintro rfl
    exact absurd (UInt8.le_trans hlo hfirst.1) (by decide)
  · intro hmem
    exact absurd (h.tails _ hmem) (by decide)

/-- Valid bytes begin with those of their first character. -/
theorem encodes_of_utf8Chars? {bytes : List UInt8} {cs : List Char} (hne : bytes ≠ [])
    (h : utf8Chars? bytes = some cs) :
    ∃ unit c rest cs', bytes = unit ++ rest ∧ cs = c :: cs' ∧ Encodes unit c ∧
      utf8Chars? rest = some cs' := by
  obtain ⟨b, bytes, rfl⟩ := List.exists_cons_of_ne_nil hne
  have hd := decodeUtf8.eq_2 b bytes
  split at hd
  · rename_i hb
    obtain ⟨c, cs', hc, rfl, hcs'⟩ := utf8Chars?_eq_cons h hd
    refine ⟨[b], c, bytes, cs', rfl, rfl, ⟨fun rest => ?_, ?_⟩, hcs'⟩
    · rw [List.singleton_append, decodeUtf8, if_pos hb, hc]
    · by_cases hf : b = 0x0A
      · exact .inl (by rw [hf])
      · exact .inr ⟨by simp, by simpa using Ne.symm hf⟩
  · rename_i hb
    split at hd
    · obtain ⟨c, cs', hc, -⟩ := utf8Chars?_eq_cons h hd
      cases hc
    · rename_i lo hi count hlead
      obtain ⟨c, cs', hc, rfl, hcs'⟩ := utf8Chars?_eq_cons h hd
      split at hc
      · rename_i hlength
        cases hc
        obtain ⟨hlo, hpos⟩ := le_of_utf8Lead hlead
        obtain ⟨first, others, rest, rfl, hfollows⟩ := follows_of_utf8Follow hpos hlength
        rw [hfollows.utf8Follow, List.drop_left] at hcs'
        refine ⟨b :: first :: others, _, rest, cs', rfl, rfl, ⟨fun rest' => ?_, ?_⟩, hcs'⟩
        · rw [List.cons_append, decodeUtf8, if_neg hb, hlead]
          simp only [hfollows.utf8Follow]
          rw [if_pos hfollows.length, List.drop_left]
        · refine .inr ⟨by simp, ?_⟩
          rw [List.mem_cons, not_or]
          exact ⟨fun he => hb (he ▸ by decide), hfollows.feed_not_mem hlo⟩
      · cases hc

end Text

namespace Reader

/-- What reading one line by its bytes gives. -/
def decodeLine (line : List UInt8) : Except IoError (List Char) :=
  (Text.utf8Chars? line).elim (.error .invalidText) .ok

theorem readAll_ofLines_cons {l : Except IoError (List Char)} {ls : List (Except IoError (List Char))}
    {c : List Char} :
    (ofLines (l :: ls)).readAll = .ok c ↔
      ∃ text rest, l = .ok text ∧ (ofLines ls).readAll = .ok rest ∧ c = text ++ rest := by
  cases l with
  | error e => simp [ofLines, readAll]
  | ok text =>
    cases h : (ofLines ls).readAll with
    | error e => simp [ofLines, readAll, h, Functor.map, Except.map]
    | ok rest => simp [ofLines, readAll, h, Functor.map, Except.map, eq_comm]

theorem lines_append {α : Type} {isFeed : α → Bool} {front : List α} (hne : front ≠ [])
    (h : ∀ a ∈ front, isFeed a = false) (rest : List α) :
    lines isFeed (front ++ rest) =
      (front ++ (lines isFeed rest).headD []) :: (lines isFeed rest).tail := by
  induction front with
  | nil => contradiction
  | cons a front ih =>
    obtain ⟨ha, hfront⟩ := List.forall_mem_cons.1 h
    rw [List.cons_append, lines, ha]
    cases front with
    | nil =>
      rw [List.nil_append]
      cases lines isFeed rest <;> rfl
    | cons b front =>
      rw [ih (List.cons_ne_nil b front) hfront]
      rfl

theorem utf8Chars?_of_decodeLine {line : List UInt8} {text : List Char}
    (h : decodeLine line = .ok text) : Text.utf8Chars? line = some text := by
  cases hl : Text.utf8Chars? line with
  | none => simp [decodeLine, hl] at h
  | some text' => simpa [decodeLine, hl] using h

theorem decodeLine_of_utf8Chars? {line : List UInt8} {text : List Char}
    (h : Text.utf8Chars? line = some text) : decodeLine line = .ok text := by
  rw [decodeLine, h, Option.elim_some]

/-- The first line that is read, which is empty where nothing is left, and the others. -/
theorem head_of_readAll {ls : List (List UInt8)} {c : List Char}
    (h : (ofLines (ls.map decodeLine)).readAll = .ok c) :
    ∃ text rest, Text.utf8Chars? (ls.headD []) = some text ∧
      (ofLines (ls.tail.map decodeLine)).readAll = .ok rest ∧ c = text ++ rest := by
  cases ls with
  | nil =>
    cases h
    exact ⟨[], [], Text.utf8Chars?_nil, rfl, rfl⟩
  | cons line ls =>
    obtain ⟨text, rest, hline, hrest, hc⟩ := readAll_ofLines_cons.1 h
    exact ⟨text, rest, utf8Chars?_of_decodeLine hline, hrest, hc⟩

/-- Bytes that are valid UTF-8 can be read to the end. -/
theorem readAll_ofBytes {bytes : List UInt8} {c : List Char}
    (h : Text.utf8Chars? bytes = some c) : (ofBytes bytes).readAll = .ok c := by
  change (ofLines ((lines (· == 0x0A) bytes).map decodeLine)).readAll = .ok c
  induction c generalizing bytes with
  | nil =>
    by_cases hne : bytes = []
    · subst hne
      rfl
    · obtain ⟨_, _, _, _, -, hc, -⟩ := Text.encodes_of_utf8Chars? hne h
      cases hc
  | cons c cs ih =>
    have hne : bytes ≠ [] := by
      rintro rfl
      rw [Text.utf8Chars?_nil] at h
      cases h
    obtain ⟨unit, _, rest, _, rfl, hc, hunit, hrest⟩ := Text.encodes_of_utf8Chars? hne h
    cases hc
    rcases hunit.feed with rfl | ⟨hunitne, hfeed⟩
    · -- the line feed ends a line that has no other character
      have hline := decodeLine_of_utf8Chars? (hunit.utf8Chars? Text.utf8Chars?_nil)
      exact readAll_ofLines_cons.2 ⟨[c], cs, hline, ih hrest, rfl⟩
    · -- the character is put in front of the first line of the rest
      have hnot : ∀ b ∈ unit, (b == 0x0A) = false := fun b hb =>
        beq_false_of_ne (ne_of_mem_of_not_mem hb hfeed)
      obtain ⟨text, others, htext, hothers, rfl⟩ := head_of_readAll (ih hrest)
      rw [lines_append hunitne hnot, List.map_cons]
      have hline := decodeLine_of_utf8Chars? (hunit.utf8Chars? htext)
      exact readAll_ofLines_cons.2 ⟨c :: text, others, hline, hothers, rfl⟩

end Reader

end Doctype
