import Doctype.Template.Basic

/-! Reading a template undoes writing its pieces. -/
namespace Doctype.Piece

theorem read_brace_pair {c : Char} (h : c = '\x7b' ∨ c = '\x7d') (rest : List Char) :
    read (c :: c :: rest) = (char c :: (read rest).1, (read rest).2) := by
  rw [read.eq_def]
  simp [h]

theorem read_plain {c : Char} (h : ¬(c = '\x7b' ∨ c = '\x7d')) (rest : List Char) :
    read (c :: rest) = (char c :: (read rest).1, (read rest).2) := by
  rw [read.eq_def]
  simp [h]

theorem takeWhile_append_brace {label : List Char} (h : '\x7d' ∉ label) (rest : List Char) :
    (label ++ '\x7d' :: rest).takeWhile (· != '\x7d') = label ∧
      (label ++ '\x7d' :: rest).dropWhile (· != '\x7d') = '\x7d' :: rest := by
  induction label with
  | nil => simp
  | cons c label ih =>
    simp only [List.mem_cons, not_or] at h
    have hc : (c != '\x7d') = true := by simpa using Ne.symm h.1
    obtain ⟨h1, h2⟩ := ih h.2
    simp [hc, h1, h2]

theorem read_slot {label : List Char} (h : (slot label).Writable) (rest : List Char) :
    read ('\x7b' :: label ++ '\x7d' :: rest) = (slot label :: (read rest).1, (read rest).2) := by
  obtain ⟨hb, ho⟩ := h
  have ht := takeWhile_append_brace hb rest
  cases label with
  | nil =>
    rw [read.eq_def]
    simp only [List.cons_append, List.nil_append, true_or, if_true]
    simp only [show ¬('\x7d' = '\x7b') by decide, show ¬('\x7b' = '\x7d') by decide, if_false]
    split
    · simp at *
    · rename_i h
      simp only [List.nil_append] at ht
      rw [ht.2] at h
      cases h
      rw [ht.1]
  | cons d label =>
    have hd : d ≠ '\x7b' := by simpa using ho
    rw [read.eq_def]
    simp only [List.cons_append, true_or, if_true, hd, if_false]
    simp only [List.cons_append] at ht
    split
    · simp_all
    · split
      · simp_all
      · rename_i h; rw [ht.2] at h; cases h; rw [ht.1]

/-- Reading undoes writing. -/
theorem read_flatMap_encode {pieces : List Piece} (h : ∀ p ∈ pieces, p.Writable) :
    read (pieces.flatMap encode) = (pieces, none) := by
  induction pieces with
  | nil => simp [read]
  | cons p pieces ih =>
    have ih := ih fun q hq => h q (List.mem_cons_of_mem _ hq)
    have hp := h p List.mem_cons_self
    cases p with
    | char c =>
      by_cases hc : c = '\x7b' ∨ c = '\x7d'
      · simp [encode, hc, read_brace_pair hc, ih]
      · simp [encode, hc, read_plain hc, ih]
    | slot label =>
      have := read_slot hp (pieces.flatMap encode)
      simp only [List.flatMap_cons, encode, List.append_assoc, List.cons_append,
        List.nil_append] at this ⊢
      rw [this, ih]

end Doctype.Piece
