import Doctype.Literal
import Doctype.Proofs.Cursor.Seam

/-! Words, literals and instructions as they are printed, and the tokens that they are read as. -/
namespace Doctype

/-- A text that does not go on with a name character. -/
def Apart (cs : List Char) : Prop :=
  ∀ c ∈ cs.head?, isNameChar c = false

theorem apart_cons {c : Char} {cs : List Char} (h : isNameChar c = false) : Apart (c :: cs) := by
  rintro d ⟨⟩
  exact h

namespace Lexed

variable {t cs ds : List Char}

theorem cut_of_isPrefixOf {c : Char} (h : t.isPrefixOf (c :: cs)) :
    cut t (c :: cs) = some ([], (c :: cs).drop t.length) := by
  rw [cut, if_pos h]

theorem cut_cons {c : Char} (h : ¬t.isPrefixOf (c :: cs)) :
    cut t (c :: cs) = (cut t cs).map fun b => (c :: b.1, b.2) := by
  rw [cut, if_neg h]

/-- A terminator that begins in a text and ends behind it has its last character twice. -/
theorem mem_of_overlap {front : List Char} {last c : Char}
    (hpre : front ++ [last] <+: c :: cs ++ (front ++ [last] ++ ds))
    (hlen : (c :: cs).length ≤ front.length) : last ∈ front := by
  have hget := List.prefix_iff_getElem?.1 hpre front.length (by simp)
  have hin : front.length - (c :: cs).length < front.length := by
    simp only [List.length_cons] at hlen ⊢
    omega
  rw [List.getElem?_append_right hlen, List.append_assoc, List.getElem?_append_left hin,
    List.getElem_concat_length rfl] at hget
  exact List.mem_of_getElem? hget

/-- A terminator whose last character occurs nowhere else in it is found behind a text without it. -/
theorem cut_terminator (front : List Char) {last : Char} (hlast : last ∉ front)
    (h : ¬(front ++ [last]) <:+: cs) :
    cut (front ++ [last]) (cs ++ (front ++ [last] ++ ds)) = some (cs, ds) := by
  induction cs with
  | nil =>
    obtain ⟨a, as, ht⟩ := List.exists_cons_of_ne_nil
      (List.append_ne_nil_of_right_ne_nil front (List.cons_ne_nil last []))
    have hpre : (a :: as).isPrefixOf (a :: (as ++ ds)) :=
      List.isPrefixOf_iff_prefix.2 (List.prefix_append (a :: as) ds)
    have hdrop : (a :: (as ++ ds)).drop (a :: as).length = ds := List.drop_left
    rw [List.nil_append, ht, List.cons_append, cut_of_isPrefixOf hpre, hdrop]
  | cons c cs ih =>
    have hnot : ¬(front ++ [last]).isPrefixOf (c :: cs ++ (front ++ [last] ++ ds)) := by
      intro hpre
      rcases Nat.lt_or_ge front.length (c :: cs).length with hlen | hlen
      · rw [isPrefixOf_append _ (by rwa [List.length_append])] at hpre
        exact h (List.isPrefixOf_iff_prefix.1 hpre).isInfix
      · exact hlast (mem_of_overlap (List.isPrefixOf_iff_prefix.1 hpre) hlen)
    have hrest := ih fun hin => h (List.infix_cons hin)
    rw [List.cons_append] at hnot ⊢
    rw [cut_cons hnot, hrest]
    rfl

/-- A quote that does not occur in a text ends it. -/
theorem cut_quote {q : Char} (h : q ∉ cs) : cut [q] (cs ++ q :: ds) = some (cs, ds) :=
  cut_terminator [] List.not_mem_nil fun hin => h (hin.subset (List.mem_singleton_self q))

/-- The `?>` of an instruction is the first one behind data without one. -/
theorem cut_instruction (h : ¬['?', '>'] <:+: cs) :
    cut ['?', '>'] (cs ++ '?' :: '>' :: ds) = some (cs, ds) :=
  cut_terminator ['?'] (by decide) h

/-- The `-->` of a comment is the first one behind a text without one. -/
theorem cut_comment (h : ¬['-', '-', '>'] <:+: cs) :
    cut ['-', '-', '>'] (cs ++ '-' :: '-' :: '>' :: ds) = some (cs, ds) :=
  cut_terminator ['-', '-'] (by decide) h

end Lexed

section Words

variable {s : String} {rest : List Char}

theorem not_isBlank_of_isNameChar {c : Char} (h : isNameChar c = true) : Text.isBlank c = false := by
  cases hb : Text.isBlank c with
  | false => rfl
  | true =>
    rw [isNameChar_of_isBlank hb] at h
    cases h

/-- A text that begins with a token begins with no blank and no `%`. -/
theorem lex_of_tokenOf {c : Char} {cs : List Char} {t : Token} (hc : c ≠ '%')
    (hblank : Text.isBlank c = false) (h : Lexed.tokenOf c cs = some (t, rest)) :
    lex (c :: cs) = .token t rest := by
  have hdrop : (c :: cs).dropWhile Text.isBlank = c :: cs :=
    List.dropWhile_cons_of_neg (by rw [hblank]; decide)
  rw [lex_of_cons hc hdrop, h]
  rfl

theorem tokenOf_word {c : Char} {cs : List Char} (h : isNameChar c = true) :
    Lexed.tokenOf c cs =
      some (.name (.ofList (c :: cs.takeWhile isNameChar)), cs.dropWhile isNameChar) := by
  have hne {d : Char} (hd : isNameChar d = false) : c ≠ d := by
    rintro rfl
    rw [h] at hd
    cases hd
  unfold Lexed.tokenOf
  split
  iterate 15
    exact absurd rfl (hne (by decide))
  rw [if_pos h]

theorem lex_word (h : Nmtoken s) (hrest : Apart rest) :
    lex (s.toList ++ rest) = .token (.name s) rest := by
  obtain ⟨hne, hall⟩ := h
  obtain ⟨c, cs, hs⟩ := List.exists_cons_of_ne_nil hne
  rw [hs] at hall
  have hc : isNameChar c = true := hall c List.mem_cons_self
  obtain ⟨ht, hd⟩ := span_word (fun d hd => hall d (List.mem_cons_of_mem _ hd)) hrest
  have hpercent : c ≠ '%' := by
    rintro rfl
    exact absurd hc (by decide)
  rw [hs, List.cons_append]
  apply lex_of_tokenOf hpercent (not_isBlank_of_isNameChar hc)
  rw [tokenOf_word hc, ht, hd, ← hs, String.ofList_toList]

theorem lex_hash (h : Nmtoken s) (hrest : Apart rest) :
    lex ('#' :: (s.toList ++ rest)) = .token (.hash s) rest := by
  obtain ⟨ht, hd⟩ := span_word h.2 hrest
  have hhash : Lexed.hash (s.toList ++ rest) = some (.hash s, rest) := by
    unfold Lexed.hash
    have hne : ¬s.toList.isEmpty := by simpa using h.1
    rw [ht, hd, if_neg hne, String.ofList_toList]
  exact lex_of_tokenOf (by decide) (by decide) hhash

theorem toList_quote (h : Quotable s) :
    ∃ q, (q = '"' ∨ q = '\'') ∧ q ∉ s.toList ∧ (quote s).toList = q :: (s.toList ++ [q]) := by
  unfold quote
  by_cases hd : s.toList.contains '"'
  · have hnot : '\'' ∉ s.toList := h.resolve_left (not_not.2 (List.contains_iff_mem.1 hd))
    have hc : ¬s.toList.contains '\'' := fun hc => hnot (List.contains_iff_mem.1 hc)
    rw [if_pos hd, if_neg hc]
    exact ⟨'\'', .inr rfl, hnot, by simp⟩
  · rw [if_neg hd]
    exact ⟨'"', .inl rfl, fun hc => hd (List.contains_iff_mem.2 hc), by simp⟩

/-- A text between quotes that do not occur in it is read as it is. -/
theorem lex_literal {q : Char} (hq : q = '"' ∨ q = '\'') (h : q ∉ s.toList) :
    lex (q :: (s.toList ++ q :: rest)) = .token (.literal s) rest := by
  have hliteral : Lexed.literal q (s.toList ++ q :: rest) = some (.literal s, rest) := by
    unfold Lexed.literal
    rw [Lexed.cut_quote h, Option.map_some, String.ofList_toList]
  rcases hq with rfl | rfl
  · exact lex_of_tokenOf (by decide) (by decide) hliteral
  · exact lex_of_tokenOf (by decide) (by decide) hliteral

/-- What has been quoted is read as it is. -/
theorem lex_quote (h : Quotable s) : lex ((quote s).toList ++ rest) = .token (.literal s) rest := by
  obtain ⟨q, hq, hnot, hquote⟩ := toList_quote h
  rw [hquote, List.cons_append, List.append_assoc]
  exact lex_literal hq hnot

theorem trim_blank (s : String) : Text.trim (.ofList (' ' :: s.toList)) = Text.trim s := by
  unfold Text.trim
  rw [String.toList_ofList]
  rfl

theorem lex_instruction {target data : String} (htarget : Nmtoken target)
    (htrim : Text.trim data = data) (hdata : ¬['?', '>'] <:+: data.toList) :
    lex ('<' :: '?' :: (target.toList ++ ' ' :: (data.toList ++ '?' :: '>' :: rest))) =
      .token (.instruction target data) rest := by
  have hspace : Apart (' ' :: (data.toList ++ '?' :: '>' :: rest)) := apart_cons (by decide)
  obtain ⟨ht, hd⟩ := span_word htarget.2 hspace
  have hcut : Lexed.cut ['?', '>'] (' ' :: (data.toList ++ '?' :: '>' :: rest)) =
      some (' ' :: data.toList, rest) := by
    rw [← List.cons_append]
    refine Lexed.cut_instruction fun hin => ?_
    rcases List.infix_cons_iff.1 hin with hpre | hin
    · obtain ⟨more, hmore⟩ := hpre
      cases hmore
    · exact hdata hin
  have hinstruction : Lexed.instruction (target.toList ++ ' ' :: (data.toList ++ '?' :: '>' :: rest)) =
      some (.instruction target data, rest) := by
    unfold Lexed.instruction
    have hne : ¬target.toList.isEmpty := by simpa using htarget.1
    rw [ht, hd, if_neg hne, hcut, Option.map_some, trim_blank, htrim, String.ofList_toList]
  exact lex_of_tokenOf (by decide) (by decide) hinstruction

end Words

end Doctype
