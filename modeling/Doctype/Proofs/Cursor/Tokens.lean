import Doctype.Proofs.Cursor.Lexing
import Mathlib.Data.List.DropRight

/-! What the tokens of a text look like. -/
namespace Doctype

/-- Characters that are all blank. -/
def Blank (cs : List Char) : Prop :=
  ∀ c ∈ cs, Text.isBlank c

theorem blank_nil : Blank [] :=
  List.forall_mem_nil _

namespace Text

theorem blank_takeWhile (cs : List Char) : Blank (cs.takeWhile isBlank) :=
  fun _ hc => List.mem_takeWhile_imp hc

/-- Trimming takes blanks off the front and off the back. -/
theorem eq_append_trimRight (cs : List Char) : ∃ bs, Blank bs ∧ cs = trimRight cs ++ bs := by
  refine ⟨(cs.reverse.takeWhile isBlank).reverse, ?_, ?_⟩
  · intro c hc
    exact blank_takeWhile cs.reverse c (List.mem_reverse.1 hc)
  · rw [trimRight, ← List.reverse_append, List.takeWhile_append_dropWhile, List.reverse_reverse]

theorem eq_append_trim (s : String) :
    ∃ front back, Blank front ∧ Blank back ∧ s.toList = front ++ (trim s).toList ++ back := by
  obtain ⟨back, hback, he⟩ := eq_append_trimRight (trimLeft s.toList)
  refine ⟨s.toList.takeWhile isBlank, back, blank_takeWhile _, hback, ?_⟩
  rw [trim, String.toList_ofList, List.append_assoc, ← he, trimLeft,
    List.takeWhile_append_dropWhile]

theorem trimRight_trimRight (cs : List Char) : trimRight (trimRight cs) = trimRight cs := by
  rw [trimRight, trimRight, List.reverse_reverse, List.dropWhile_idempotent]

theorem trimRight_cons {c : Char} (hc : isBlank c = false) (cs : List Char) :
    trimRight (c :: cs) = c :: trimRight cs := by
  rw [trimRight, trimRight, List.reverse_cons, List.dropWhile_append]
  split
  · rename_i h
    rw [List.isEmpty_iff.1 h, List.dropWhile_cons, hc]
    rfl
  · rw [List.reverse_append]
    rfl

theorem trimLeft_trimRight_trimLeft (cs : List Char) :
    trimLeft (trimRight (trimLeft cs)) = trimRight (trimLeft cs) := by
  cases h : trimLeft cs with
  | nil => rfl
  | cons c rest =>
    have hc : isBlank c = false := by
      have := List.head_dropWhile_not isBlank (l := cs) (by rw [trimLeft] at h; simp [h])
      simp only [trimLeft] at h
      simpa [h] using this
    rw [trimRight_cons hc, trimLeft, List.dropWhile_cons, hc]
    rfl

theorem trim_trim (s : String) : trim (trim s) = trim s := by
  rw [trim, trim, String.toList_ofList, trimLeft_trimRight_trimLeft, trimRight_trimRight]

end Text

/-- One or more name characters. -/
def Nmtoken (s : String) : Prop :=
  s.toList ≠ [] ∧ ∀ c ∈ s.toList, isNameChar c

theorem nmtoken_of_all {s : String} (hne : s.toList ≠ []) (h : s.toList.all isNameChar) :
    Nmtoken s :=
  ⟨hne, List.all_eq_true.1 h⟩

theorem nmtoken_takeWhile {cs : List Char} (h : ¬(cs.takeWhile isNameChar).isEmpty) :
    Nmtoken (.ofList (cs.takeWhile isNameChar)) := by
  constructor
  · rw [String.toList_ofList]
    simpa using h
  · rw [String.toList_ofList]
    exact fun c hc => List.mem_takeWhile_imp hc

/-- A text that can stand between quotes of one kind. -/
def Quotable (s : String) : Prop :=
  '"' ∉ s.toList ∨ '\'' ∉ s.toList

/-- What a token that stands in a text looks like. -/
def Token.Lexical : Token → Prop
  | name s | hash s | generalRef s => Nmtoken s
  | literal s => Quotable s
  | instruction target data =>
    Nmtoken target ∧ Text.trim data = data ∧ ¬['?', '>'] <:+: data.toList
  | endOfInput => False
  | _ => True

namespace Lexed

/-- A cut falls behind an occurrence of the terminator. -/
theorem cut_eq_some {t cs : List Char} {b : List Char × List Char} (h : cut t cs = some b) :
    cs = b.1 ++ t ++ b.2 := by
  induction cs generalizing b with
  | nil =>
    simp only [cut] at h
    split at h
    · rename_i ht
      cases h
      simpa using ht
    · cases h
  | cons c cs ih =>
    simp only [cut] at h
    split at h
    · rename_i ht
      cases h
      obtain ⟨r, hr⟩ := List.isPrefixOf_iff_prefix.1 ht
      rw [← hr]
      simp
    · obtain ⟨b', hb', rfl⟩ := Option.map_eq_some_iff.1 h
      simpa using ih hb'

/-- The terminator does not occur before the cut. -/
theorem not_infix_of_cut {t cs : List Char} {b : List Char × List Char} (hne : t ≠ [])
    (h : cut t cs = some b) : ¬t <:+: b.1 := by
  induction cs generalizing b with
  | nil =>
    simp only [cut] at h
    split at h <;> cases h
    simpa using hne
  | cons c cs ih =>
    simp only [cut] at h
    split at h
    · cases h
      simpa using hne
    · rename_i hp
      obtain ⟨b', hb', rfl⟩ := Option.map_eq_some_iff.1 h
      intro hin
      rcases List.infix_cons_iff.1 hin with hpre | hin
      · refine hp (List.isPrefixOf_iff_prefix.2 (hpre.trans ?_))
        rw [cut_eq_some hb', List.append_assoc]
        exact List.prefix_append (c :: b'.1) _
      · exact ih hb' hin

/-- A quote does not occur before the cut at it. -/
theorem not_mem_of_cut {quote : Char} {cs : List Char} {b : List Char × List Char}
    (h : cut [quote] cs = some b) : quote ∉ b.1 := by
  intro hq
  obtain ⟨front, back, he⟩ := List.append_of_mem hq
  have hin : [quote] <:+: b.1 := ⟨front, back, by rw [he]; simp⟩
  exact not_infix_of_cut (by simp) h hin

section Lexical

variable {cs rest : List Char} {t : Token}

theorem lexical_generalRef (h : generalRef cs = some (t, rest)) : t.Lexical := by
  unfold generalRef at h
  split at h
  · cases h
  · rename_i hn
    split at h <;> cases h
    exact nmtoken_takeWhile hn

theorem lexical_hash (h : hash cs = some (t, rest)) : t.Lexical := by
  unfold hash at h
  split at h <;> cases h
  rename_i hn
  exact nmtoken_takeWhile hn

theorem lexical_literal {quote : Char} (hq : quote = '"' ∨ quote = '\'')
    (h : literal quote cs = some (t, rest)) : t.Lexical := by
  obtain ⟨b, hb, he⟩ := Option.map_eq_some_iff.1 h
  cases he
  have hno : quote ∉ b.1 := not_mem_of_cut hb
  rcases hq with rfl | rfl
  · exact .inl (by rwa [String.toList_ofList])
  · exact .inr (by rwa [String.toList_ofList])

theorem lexical_instruction (h : instruction cs = some (t, rest)) : t.Lexical := by
  unfold instruction at h
  split at h
  · cases h
  · rename_i hn
    obtain ⟨b, hb, he⟩ := Option.map_eq_some_iff.1 h
    cases he
    refine ⟨nmtoken_takeWhile hn, Text.trim_trim _, fun hin => not_infix_of_cut (by simp) hb ?_⟩
    obtain ⟨front, back, -, -, hs⟩ := Text.eq_append_trim (.ofList b.1)
    rw [String.toList_ofList] at hs
    rw [hs]
    exact hin.trans (List.infix_append _ _ _)

theorem lexical_markup (h : markup cs = some (t, rest)) : t.Lexical := by
  unfold markup at h
  split at h
  · obtain ⟨b, -, he⟩ := Option.map_eq_some_iff.1 h
    cases he
    trivial
  · cases h
    trivial
  · obtain ⟨k, -, he⟩ := Option.map_eq_some_iff.1 h
    cases he
    trivial
  · exact lexical_instruction h
  · cases h

theorem lexical_tokenOf {c : Char} (h : tokenOf c cs = some (t, rest)) : t.Lexical := by
  unfold tokenOf at h
  split at h
  case h_10 => exact lexical_generalRef h
  case h_11 => exact lexical_hash h
  case h_12 => exact lexical_literal (.inl rfl) h
  case h_13 => exact lexical_literal (.inr rfl) h
  case h_14 =>
    unfold sectionClose at h
    split at h <;> cases h
    trivial
  case h_15 => exact lexical_markup h
  case h_16 =>
    split at h <;> cases h
    rename_i hn
    constructor
    · rw [String.toList_ofList]
      simp
    · rw [String.toList_ofList]
      rintro d hd
      rcases List.mem_cons.1 hd with rfl | hd
      · exact hn
      · exact List.mem_takeWhile_imp hd
  all_goals
    cases h
    trivial

end Lexical

end Lexed

/-- Every token of a text is lexical. -/
theorem lexical_of_lex {cs rest : List Char} {t : Token} (h : lex cs = .token t rest) :
    t.Lexical := by
  unfold lex at h
  split at h
  · cases h
  · unfold Lexed.percent at h
    split at h
    · split at h <;> cases h
    · cases h
      trivial
  · split at h <;> cases h
    rename_i ht
    exact Lexed.lexical_tokenOf ht

theorem Cursor.lexical_of_scan {s s' : Cursor} {t : Token} {l : Location}
    (h : scan s = .ok (.token t l) s') : t.Lexical := by
  obtain ⟨l', hl⟩ := lex_of_scan h
  cases hx : lex s.rest with
  | token t' rest =>
    rw [hx] at hl
    cases hl
    exact lexical_of_lex hx
  | reference | exhausted | malformed =>
    rw [hx] at hl
    cases hl

end Doctype
