import Doctype.Proofs.Cursor.Seam
import Mathlib.Data.List.Infix

/-! Sections inside of an ignored section. -/
namespace Doctype

/-- How often a word occurs in a text. -/
def occurrences (word cs : List Char) : Nat :=
  cs.tails.countP (word.isPrefixOf ·)

/-- Read from left to right, a text closes the sections that it opens and `n` more, and never closes
a section that is not open. -/
structure Closes (n : Nat) (cs : List Char) : Prop where
  never : ∀ front, front <+: cs →
    occurrences [']', ']', '>'] front ≤ occurrences ['<', '!', '['] front + n
  total : occurrences [']', ']', '>'] cs = occurrences ['<', '!', '['] cs + n

/-- The marks `<![` and `]]>` of a text match each other. -/
abbrev Balanced (cs : List Char) : Prop :=
  Closes 0 cs

instance (n : Nat) (cs : List Char) : Decidable (Closes n cs) :=
  decidable_of_iff ((∀ front ∈ cs.inits,
      occurrences [']', ']', '>'] front ≤ occurrences ['<', '!', '['] front + n) ∧
    occurrences [']', ']', '>'] cs = occurrences ['<', '!', '['] cs + n)
    ⟨fun h => ⟨fun front hfront => h.1 front ((List.mem_inits front cs).2 hfront), h.2⟩,
      fun h => ⟨fun front hfront => h.never front ((List.mem_inits front cs).1 hfront), h.total⟩⟩

variable {n : Nat} {c : Char} {cs : List Char}

theorem occurrences_cons (word : List Char) (c : Char) (cs : List Char) :
    occurrences word (c :: cs) =
      occurrences word cs + if word.isPrefixOf (c :: cs) then 1 else 0 := by
  unfold occurrences
  rw [List.tails_cons, List.countP_cons]

theorem occurrences_skip {word : List Char} (h : ¬word.isPrefixOf (c :: cs)) {front : List Char}
    (hfront : front <+: cs) : occurrences word (c :: front) = occurrences word front := by
  have hnot : ¬word.isPrefixOf (c :: front) := by
    intro hp
    have hword : word <+: c :: front := List.isPrefixOf_iff_prefix.1 hp
    have hcons : c :: front <+: c :: cs := List.cons_prefix_cons.2 ⟨rfl, hfront⟩
    exact h (List.isPrefixOf_iff_prefix.2 (hword.trans hcons))
  rw [occurrences_cons, if_neg hnot, Nat.add_zero]

theorem occurrences_open (cs : List Char) :
    occurrences ['<', '!', '['] ('<' :: '!' :: '[' :: cs) = occurrences ['<', '!', '['] cs + 1 ∧
      occurrences [']', ']', '>'] ('<' :: '!' :: '[' :: cs) = occurrences [']', ']', '>'] cs := by
  simp [occurrences_cons, List.isPrefixOf]

theorem occurrences_close (cs : List Char) :
    occurrences ['<', '!', '['] (']' :: ']' :: '>' :: cs) = occurrences ['<', '!', '['] cs ∧
      occurrences [']', ']', '>'] (']' :: ']' :: '>' :: cs) =
        occurrences [']', ']', '>'] cs + 1 := by
  simp [occurrences_cons, List.isPrefixOf]

theorem Closes.of_open (h : Closes n ('<' :: '!' :: '[' :: cs)) : Closes (n + 1) cs := by
  constructor
  · intro front hfront
    have hle := h.never ('<' :: '!' :: '[' :: front) (by simpa using hfront)
    obtain ⟨hopen, hclose⟩ := occurrences_open front
    omega
  · have heq := h.total
    obtain ⟨hopen, hclose⟩ := occurrences_open cs
    omega

theorem Closes.of_close (h : Closes n (']' :: ']' :: '>' :: cs)) : n ≠ 0 ∧ Closes (n - 1) cs := by
  have hne : n ≠ 0 := by
    have hle := h.never [']', ']', '>'] (by simp)
    have hmark : occurrences [']', ']', '>'] [']', ']', '>'] = 1 ∧
        occurrences ['<', '!', '['] [']', ']', '>'] = 0 := by decide
    omega
  refine ⟨hne, ?_, ?_⟩
  · intro front hfront
    have hle := h.never (']' :: ']' :: '>' :: front) (by simpa using hfront)
    obtain ⟨hopen, hclose⟩ := occurrences_close front
    omega
  · have heq := h.total
    obtain ⟨hopen, hclose⟩ := occurrences_close cs
    omega

theorem Closes.of_skip (ho : ¬['<', '!', '['].isPrefixOf (c :: cs))
    (hc : ¬[']', ']', '>'].isPrefixOf (c :: cs)) (h : Closes n (c :: cs)) : Closes n cs := by
  constructor
  · intro front hfront
    have hle := h.never (c :: front) (List.cons_prefix_cons.2 ⟨rfl, hfront⟩)
    rwa [occurrences_skip ho hfront, occurrences_skip hc hfront] at hle
  · have heq := h.total
    rwa [occurrences_skip ho (List.prefix_refl cs), occurrences_skip hc (List.prefix_refl cs)] at heq

/-- The `]]>` behind a text is not part of a mark that begins in the text. -/
theorem not_isPrefixOf_seam {word : List Char} (hword : word ∈ [['<', '!', '['], [']', ']', '>']])
    (h : ¬word.isPrefixOf (c :: cs)) (rest : List Char) :
    ¬word.isPrefixOf (c :: (cs ++ ']' :: ']' :: '>' :: rest)) := by
  simp only [List.mem_cons, List.not_mem_nil, or_false] at hword
  rcases hword with rfl | rfl
  all_goals
    match cs with
    | [] => simp [List.isPrefixOf]
    | [d] => simp [List.isPrefixOf]
    | d :: e :: cs => simpa [List.isPrefixOf] using h

/-- A section ends behind a text that closes its own sections and those around it. -/
theorem leaveSections_of_closes (h : Closes n cs) (rest : List Char) :
    leaveSections n (cs ++ ']' :: ']' :: '>' :: rest) = some rest := by
  fun_induction leaveSections n cs with
  | case1 n cs ih =>
    rw [List.cons_append, List.cons_append, List.cons_append, leaveSections]
    exact ih h.of_open
  | case2 cs => exact absurd rfl h.of_close.1
  | case3 n cs hn ih =>
    rw [List.cons_append, List.cons_append, List.cons_append, leaveSections, if_neg hn]
    exact ih h.of_close.2
  | case4 n c cs hopen hclose ih =>
    have ho := not_isPrefixOf_of_no_rest hopen
    have hc := not_isPrefixOf_of_no_rest hclose
    rw [List.cons_append, leaveSections_skip (not_isPrefixOf_seam (by simp) ho rest)
      (not_isPrefixOf_seam (by simp) hc rest)]
    exact ih (h.of_skip ho hc)
  | case5 n =>
    obtain rfl : n = 0 := by
      have heq := h.total
      have hnone : occurrences [']', ']', '>'] [] = 0 ∧ occurrences ['<', '!', '['] [] = 0 := by
        decide
      omega
    rfl

/-- Other text does not count, but a quoted mark does. -/
example : Balanced "<!ENTITY e '<![ %x; ]]>'> ]] > <! [".toList ∧ ¬Balanced "'<!['".toList := by
  decide

end Doctype
