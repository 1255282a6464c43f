import Doctype.Proofs.Cursor.Tokens

/-! Lexing a text that stands before another text. A token that the first text ends within may go on
in the second one; all others are the same. -/
namespace Doctype

/-- A token that ends with its last character, whatever follows. -/
def Token.isClosed : Token → Bool
  | decl _ | percent | hash _ | name _ | endOfInput => false
  | _ => true

theorem Keyword.text_of_ofText? {s : String} {k : Keyword} (h : ofText? s = some k) :
    s = k.text := by
  unfold ofText? at h
  split at h <;> cases h <;> rfl

/-- Puts more characters behind what is left. -/
def Lexed.before (ds : List Char) : Lexed → Lexed
  | .token t rest => .token t (rest ++ ds)
  | .reference name rest => .reference name (rest ++ ds)
  | .exhausted => .exhausted
  | .malformed => .malformed

theorem isNameChar_of_isBlank {c : Char} (h : Text.isBlank c) : isNameChar c = false := by
  have hb : ∀ n : Nat, n < 128 → (Text.blankRanges.any fun r => r.1 ≤ n && n ≤ r.2) →
      n = 9 ∨ n = 10 ∨ n = 11 ∨ n = 12 ∨ n = 13 ∨ n = 32 := by decide
  by_cases hc : c.toNat < 128
  · have hofNat : c = Char.ofNat c.toNat := by simp
    rcases hb c.toNat hc h with h | h | h | h | h | h <;> rw [hofNat, h] <;> decide
  · have hne (d : Char) (hd : d.toNat < 128) : (c == d) = false := by
      rw [beq_eq_false_iff_ne]
      rintro rfl
      exact hc hd
    have hupper : c.isAlpha = false ∧ c.isDigit = false := by
      have hv : c.val.toNat = c.toNat := rfl
      unfold Char.isAlpha Char.isUpper Char.isLower Char.isDigit
      simp only [ge_iff_le, UInt32.le_iff_toNat_le, hv, Bool.or_eq_false_iff, Bool.and_eq_false_iff,
        decide_eq_false_iff_not]
      simp
      omega
    simp [isNameChar, isNameStart, hupper, hne '_' (by decide), hne ':' (by decide),
      hne '-' (by decide), hne '.' (by decide), h]

theorem dropWhile_isBlank_append {bs : List Char} (h : Blank bs) (cs : List Char) :
    (bs ++ cs).dropWhile Text.isBlank = cs.dropWhile Text.isBlank := by
  induction bs with
  | nil => rfl
  | cons b bs ih =>
    rw [List.cons_append, List.dropWhile_cons, if_pos (h b List.mem_cons_self)]
    exact ih fun c hc => h c (List.mem_cons_of_mem _ hc)

theorem blank_of_dropWhile {cs : List Char} (h : cs.dropWhile Text.isBlank = []) : Blank cs := by
  intro c hc
  exact List.dropWhile_eq_nil_iff.1 h c hc

/-- Blanks at the front are not seen. -/
theorem lex_blank_append {bs : List Char} (h : Blank bs) (cs : List Char) :
    lex (bs ++ cs) = lex cs := by
  rw [lex, lex, dropWhile_isBlank_append h]

theorem lex_eq_exhausted {cs : List Char} : lex cs = .exhausted ↔ Blank cs := by
  unfold lex
  constructor
  · intro h
    split at h
    · rename_i hd
      exact blank_of_dropWhile hd
    · unfold Lexed.percent at h
      split at h
      · split at h <;> cases h
      · cases h
    · split at h <;> cases h
  · intro h
    have := dropWhile_isBlank_append h []
    rw [List.append_nil, List.dropWhile_nil] at this
    rw [this]

section Names

variable {cs ds : List Char}

variable (ds) in
/-- Name characters do not go on behind a text if it goes on in some other way itself, or if what
follows begins with no name character. -/
theorem span_append (h : cs.dropWhile isNameChar ≠ [] ∨ ∀ d ∈ ds.head?, isNameChar d = false) :
    (cs ++ ds).takeWhile isNameChar = cs.takeWhile isNameChar ∧
      (cs ++ ds).dropWhile isNameChar = cs.dropWhile isNameChar ++ ds := by
  induction cs with
  | nil =>
    cases ds with
    | nil => simp
    | cons d ds =>
      have hd : isNameChar d = false := by simpa using h
      simp [hd]
  | cons c cs ih =>
    by_cases hc : isNameChar c
    · obtain ⟨ht, hd⟩ := ih (by simpa [List.dropWhile_cons, hc] using h)
      simp [hc, ht, hd]
    · simp [hc]

/-- A word of name characters ends where another character follows. -/
theorem span_word (hcs : ∀ c ∈ cs, isNameChar c) (hds : ∀ d ∈ ds.head?, isNameChar d = false) :
    (cs ++ ds).takeWhile isNameChar = cs ∧ (cs ++ ds).dropWhile isNameChar = ds := by
  have happly : cs.dropWhile isNameChar ≠ [] ∨ ∀ d ∈ ds.head?, isNameChar d = false := .inr hds
  obtain ⟨ht, hd⟩ := span_append ds happly
  constructor
  · rw [ht, List.takeWhile_eq_self_iff]
    exact hcs
  · rw [hd, List.dropWhile_eq_nil_iff.2 hcs, List.nil_append]

theorem head?_blank (h : Blank ds) : ∀ d ∈ ds.head?, isNameChar d = false :=
  fun d hd => isNameChar_of_isBlank (h d (List.mem_of_head? hd))

end Names

namespace Lexed

theorem isPrefixOf_append {t cs : List Char} (ds : List Char) (h : t.length ≤ cs.length) :
    t.isPrefixOf (cs ++ ds) = t.isPrefixOf cs := by
  rw [Bool.eq_iff_iff, List.isPrefixOf_iff_prefix, List.isPrefixOf_iff_prefix]
  constructor
  · exact fun hp => List.prefix_of_prefix_length_le hp (List.prefix_append _ _) h
  · exact fun hp => hp.trans (List.prefix_append _ _)

theorem cut_append {t cs : List Char} {b : List Char × List Char} (ds : List Char)
    (h : cut t cs = some b) : cut t (cs ++ ds) = some (b.1, b.2 ++ ds) := by
  induction cs generalizing b with
  | nil =>
    simp only [cut] at h
    split at h
    · rename_i ht
      cases h
      obtain rfl : t = [] := by simpa using ht
      cases ds <;> simp [cut]
    · cases h
  | cons c cs ih =>
    have hlen : t.length ≤ (c :: cs).length := by
      rw [cut_eq_some h]
      simp only [List.length_append]
      omega
    simp only [cut, List.cons_append] at h ⊢
    rw [← List.cons_append, isPrefixOf_append ds hlen]
    split at h
    · rename_i ht
      cases h
      simp only [ht, if_true, List.drop_append_of_le_length hlen]
    · rename_i ht
      obtain ⟨b', hb', rfl⟩ := Option.map_eq_some_iff.1 h
      simp only [ht, Bool.false_eq_true, if_false, ih hb', Option.map_some]

/-- A text without blanks does not reach into blanks. -/
theorem isPrefixOf_append_blank {t : List Char} (ht : t.any Text.isBlank = false)
    (cs : List Char) {ds : List Char} (hd : Blank ds) :
    t.isPrefixOf (cs ++ ds) = t.isPrefixOf cs := by
  induction t generalizing cs with
  | nil => simp
  | cons c t ih =>
    rw [List.any_cons, Bool.or_eq_false_iff] at ht
    cases cs with
    | nil =>
      cases ds with
      | nil => rfl
      | cons d ds =>
        have hne : c ≠ d := by
          rintro rfl
          have := ht.1
          rw [hd c List.mem_cons_self] at this
          cases this
        simp [List.isPrefixOf, hne]
    | cons e cs =>
      simp only [List.cons_append, List.isPrefixOf]
      rw [ih ht.2]

theorem cut_append_blank {t : List Char} (hne : t ≠ []) (ht : t.any Text.isBlank = false)
    (cs : List Char) {ds : List Char} (hd : Blank ds) :
    cut t (cs ++ ds) = (cut t cs).map fun b => (b.1, b.2 ++ ds) := by
  induction cs with
  | nil =>
    have hnil : t.isEmpty = false := by simpa using hne
    simp only [List.nil_append, cut, hnil, Bool.false_eq_true, if_false, Option.map_none]
    clear hne
    induction ds with
    | nil => simp [cut, hnil]
    | cons d ds ih =>
      have hp : t.isPrefixOf (d :: ds) = false := by
        have := isPrefixOf_append_blank ht [] hd
        rw [List.nil_append] at this
        rw [this]
        cases t with
        | nil => cases hnil
        | cons => rfl
      simp [cut, hp, ih fun c hc => hd c (List.mem_cons_of_mem _ hc)]
  | cons c cs ih =>
    simp only [cut, List.cons_append]
    rw [← List.cons_append, isPrefixOf_append_blank ht _ hd]
    by_cases hp : t.isPrefixOf (c :: cs)
    · have hlen := (List.isPrefixOf_iff_prefix.1 hp).length_le
      simp only [hp, if_true, Option.map_some, List.drop_append_of_le_length hlen]
    · simp only [hp, Bool.false_eq_true, if_false, ih, Option.map_map]
      rfl

section Append

variable {cs rest : List Char} {t : Token} (ds : List Char)

theorem generalRef_append (h : generalRef cs = some (t, rest)) :
    generalRef (cs ++ ds) = some (t, rest ++ ds) := by
  unfold generalRef at h
  split at h
  · cases h
  · rename_i hn
    split at h
    · rename_i r hr
      cases h
      obtain ⟨ht, hd⟩ := span_append ds (.inl (by rw [hr]; simp))
      simp only [generalRef, ht, hd, hr, hn, Bool.false_eq_true, if_false, List.cons_append]
    · cases h

theorem hash_append (h : hash cs = some (t, rest)) (hr : rest ≠ []) :
    hash (cs ++ ds) = some (t, rest ++ ds) := by
  unfold hash at h
  split at h
  · cases h
  · rename_i hn
    cases h
    obtain ⟨ht, hd⟩ := span_append ds (.inl hr)
    simp only [hash, ht, hd, hn, Bool.false_eq_true, if_false]

theorem literal_append {quote : Char} (h : literal quote cs = some (t, rest)) :
    literal quote (cs ++ ds) = some (t, rest ++ ds) := by
  obtain ⟨b, hb, he⟩ := Option.map_eq_some_iff.1 h
  cases he
  rw [literal, cut_append ds hb, Option.map_some]

theorem comment_append (h : comment cs = some (t, rest)) :
    comment (cs ++ ds) = some (t, rest ++ ds) := by
  obtain ⟨b, hb, he⟩ := Option.map_eq_some_iff.1 h
  cases he
  rw [comment, cut_append ds hb, Option.map_some]

theorem sectionClose_append (h : sectionClose cs = some (t, rest)) :
    sectionClose (cs ++ ds) = some (t, rest ++ ds) := by
  unfold sectionClose at h
  split at h
  · cases h
    rfl
  · cases h

theorem declaration_append (h : declaration cs = some (t, rest)) (hr : rest ≠ []) :
    declaration (cs ++ ds) = some (t, rest ++ ds) := by
  obtain ⟨k, hk, he⟩ := Option.map_eq_some_iff.1 h
  cases he
  obtain ⟨ht, hd⟩ := span_append ds (.inl hr)
  rw [declaration, ht, hd, hk, Option.map_some]

theorem instruction_append (h : instruction cs = some (t, rest)) :
    instruction (cs ++ ds) = some (t, rest ++ ds) := by
  unfold instruction at h
  split at h
  · cases h
  · rename_i hn
    obtain ⟨b, hb, he⟩ := Option.map_eq_some_iff.1 h
    cases he
    have hne : cs.dropWhile isNameChar ≠ [] := by
      rw [cut_eq_some hb]
      simp
    obtain ⟨ht, hd⟩ := span_append ds (.inl hne)
    simp only [instruction, ht, hd, hn, Bool.false_eq_true, if_false, cut_append ds hb,
      Option.map_some]

/-- A keyword begins neither a comment nor a section. -/
theorem declaration_head (h : declaration cs = some (t, rest)) :
    ∃ c cs', cs = c :: cs' ∧ c ≠ '-' ∧ c ≠ '[' := by
  obtain ⟨k, hk, -⟩ := Option.map_eq_some_iff.1 h
  have htake : cs.takeWhile isNameChar = k.text.toList := by
    rw [← Keyword.text_of_ofText? hk, String.toList_ofList]
  cases cs with
  | nil => cases k <;> simp [Keyword.text] at htake
  | cons c cs =>
    have hmem : c ∈ k.text.toList := by
      by_cases hn : isNameChar c
      · simp only [← htake, List.takeWhile_cons, hn, if_true, List.mem_cons_self]
      · simp only [List.takeWhile_cons, hn] at htake
        cases k <;> simp [Keyword.text] at htake
    have hnot : '-' ∉ k.text.toList ∧ '[' ∉ k.text.toList := by cases k <;> decide
    exact ⟨c, cs, rfl, fun hc => hnot.1 (hc ▸ hmem), fun hc => hnot.2 (hc ▸ hmem)⟩

theorem markup_declaration {c : Char} (hd : c ≠ '-') (hb : c ≠ '[') (cs : List Char) :
    markup ('!' :: c :: cs) = declaration (c :: cs) := by
  unfold markup
  split <;> simp_all

theorem markup_append (h : markup cs = some (t, rest)) (hr : rest ≠ [] ∨ t.isClosed) :
    markup (cs ++ ds) = some (t, rest ++ ds) := by
  unfold markup at h
  split at h
  · exact comment_append ds h
  · cases h
    rfl
  · have hne : rest ≠ [] := by
      obtain ⟨k, -, hk⟩ := Option.map_eq_some_iff.1 h
      cases hk
      simpa [Token.isClosed] using hr
    have hd := declaration_append ds h hne
    obtain ⟨c, cs, rfl, hd', hb⟩ := declaration_head h
    rw [List.cons_append, List.cons_append, markup_declaration hd' hb]
    exact hd
  · exact instruction_append ds h
  · cases h

theorem tokenOf_append {c : Char} (h : tokenOf c cs = some (t, rest)) (hr : rest ≠ [] ∨ t.isClosed) :
    tokenOf c (cs ++ ds) = some (t, rest ++ ds) := by
  unfold tokenOf at h ⊢
  split at h
  case h_10 => exact generalRef_append ds h
  case h_11 =>
    refine hash_append ds h ?_
    unfold hash at h
    split at h <;> cases h
    simpa [Token.isClosed] using hr
  case h_12 => exact literal_append ds h
  case h_13 => exact literal_append ds h
  case h_14 => exact sectionClose_append ds h
  case h_15 => exact markup_append ds h hr
  case h_16 =>
    split at h <;> cases h
    rename_i hn
    have hne : cs.dropWhile isNameChar ≠ [] := by simpa [Token.isClosed] using hr
    obtain ⟨ht, hd⟩ := span_append ds (.inl hne)
    simp only [hn, if_true, ht, hd]
  all_goals
    cases h
    rfl

theorem percent_append (h : percent cs = .token t rest) (hr : rest ≠ [] ∨ t.isClosed) :
    percent (cs ++ ds) = .token t (rest ++ ds) := by
  unfold percent at h
  split at h
  · split at h <;> cases h
  · rename_i hs
    cases h
    cases cs with
    | nil => simp [Token.isClosed] at hr
    | cons c cs =>
      rw [percent, List.cons_append, List.head?_cons, if_neg (by simpa using hs)]

theorem percent_append_reference {name : String} (h : percent cs = .reference name rest) :
    percent (cs ++ ds) = .reference name (rest ++ ds) := by
  unfold percent at h
  split at h
  · rename_i hs
    split at h
    · rename_i r hr
      cases h
      obtain ⟨ht, hd⟩ := span_append ds (.inl (by rw [hr]; simp))
      cases cs with
      | nil => simp at hs
      | cons c cs =>
        rw [percent, ht, hd, hr, List.cons_append, List.head?_cons, if_pos (by simpa using hs)]
        rfl
    · cases h
  · cases h

end Append

end Lexed

section Append

variable {cs rest : List Char} (ds : List Char)

theorem dropWhile_append_of_ne_nil {p : Char → Bool} (h : cs.dropWhile p ≠ []) :
    (cs ++ ds).dropWhile p = cs.dropWhile p ++ ds := by
  rw [List.dropWhile_append, if_neg (by simpa using h)]

theorem lex_of_cons {c : Char} {front : List Char} (hc : c ≠ '%')
    (hd : cs.dropWhile Text.isBlank = c :: front) :
    lex cs = (Lexed.tokenOf c front).elim .malformed fun b => .token b.1 b.2 := by
  unfold lex
  rw [hd]
  split
  · contradiction
  · rename_i he
    cases he
    exact absurd rfl hc
  · rename_i he
    cases he
    cases Lexed.tokenOf c front <;> rfl

theorem lex_of_percent {front : List Char} (hd : cs.dropWhile Text.isBlank = '%' :: front) :
    lex cs = Lexed.percent front := by
  unfold lex
  rw [hd]
  rfl

theorem lex_reference {name : List Char} (h : isNameOf name) :
    lex ('%' :: (name ++ ';' :: ds)) = .reference (.ofList name) ds := by
  rw [lex_of_percent (List.dropWhile_cons_of_neg (by decide)), Lexed.percent]
  cases name with
  | nil => cases h
  | cons c cs =>
    obtain ⟨hc, hcs⟩ := Bool.and_eq_true_iff.1 h
    rw [List.all_eq_true] at hcs
    have hall : ∀ d ∈ c :: cs, isNameChar d := by
      intro d hd
      rcases List.mem_cons.1 hd with rfl | hd
      · exact Bool.or_eq_true_iff.2 (.inl (Bool.or_eq_true_iff.2 (.inl
          (Bool.or_eq_true_iff.2 (.inl hc)))))
      · exact hcs d hd
    have hend : ∀ d ∈ (';' :: ds).head?, isNameChar d = false := by
      rintro d ⟨⟩
      decide
    obtain ⟨ht, hd⟩ := span_word hall hend
    have hany : ((c :: cs ++ ';' :: ds).head?.any isNameStart) = true := hc
    rw [ht, hd, if_pos hany]
    rfl

/-- A text is blank, or it goes on with a `%` or another character. -/
theorem lex_cases (cs : List Char) :
    cs.dropWhile Text.isBlank = [] ∨
      (∃ front, cs.dropWhile Text.isBlank = '%' :: front ∧ lex cs = Lexed.percent front) ∨
      ∃ c front, c ≠ '%' ∧ cs.dropWhile Text.isBlank = c :: front ∧
        lex cs = (Lexed.tokenOf c front).elim .malformed fun b => .token b.1 b.2 := by
  cases hd : cs.dropWhile Text.isBlank with
  | nil => exact .inl rfl
  | cons c front =>
    by_cases hc : c = '%'
    · subst hc
      exact .inr (.inl ⟨front, rfl, lex_of_percent hd⟩)
    · exact .inr (.inr ⟨c, front, hc, rfl, lex_of_cons hc hd⟩)

/-- A token that cannot go on stays as it is when more characters follow the text. -/
theorem lex_append_token {t : Token} (h : lex cs = .token t rest) (hr : rest ≠ [] ∨ t.isClosed) :
    lex (cs ++ ds) = .token t (rest ++ ds) := by
  rcases lex_cases cs with hd | ⟨front, hd, hl⟩ | ⟨c, front, hc, hd, hl⟩
  · rw [lex, hd] at h
    cases h
  · rw [hl] at h
    have hd' : (cs ++ ds).dropWhile Text.isBlank = '%' :: (front ++ ds) := by
      rw [dropWhile_append_of_ne_nil ds (by simp [hd]), hd, List.cons_append]
    rw [lex_of_percent hd']
    exact Lexed.percent_append ds h hr
  · rw [hl] at h
    have hd' : (cs ++ ds).dropWhile Text.isBlank = c :: (front ++ ds) := by
      rw [dropWhile_append_of_ne_nil ds (by simp [hd]), hd, List.cons_append]
    rw [lex_of_cons hc hd']
    cases ht : Lexed.tokenOf c front with
    | none =>
      rw [ht] at h
      cases h
    | some b =>
      rw [ht] at h
      cases h
      rw [Lexed.tokenOf_append ds ht hr]
      rfl

theorem lex_append_reference {name : String} (h : lex cs = .reference name rest) :
    lex (cs ++ ds) = .reference name (rest ++ ds) := by
  rcases lex_cases cs with hd | ⟨front, hd, hl⟩ | ⟨c, front, hc, hd, hl⟩
  · rw [lex, hd] at h
    cases h
  · rw [hl] at h
    have hd' : (cs ++ ds).dropWhile Text.isBlank = '%' :: (front ++ ds) := by
      rw [dropWhile_append_of_ne_nil ds (by simp [hd]), hd, List.cons_append]
    rw [lex_of_percent hd']
    exact Lexed.percent_append_reference ds h
  · rw [hl] at h
    cases ht : Lexed.tokenOf c front <;> rw [ht] at h <;> cases h

end Append

namespace Lexed

section Blank

variable {cs ds : List Char}

/-- Lexing that is the same when blanks follow the text. -/
def LeavesBlank (f : List Char → Option (Token × List Char)) : Prop :=
  ∀ cs ds, Blank ds → f (cs ++ ds) = (f cs).map fun b => (b.1, b.2 ++ ds)

theorem span_blank (cs : List Char) (h : Blank ds) :
    (cs ++ ds).takeWhile isNameChar = cs.takeWhile isNameChar ∧
      (cs ++ ds).dropWhile isNameChar = cs.dropWhile isNameChar ++ ds :=
  span_append ds (.inr (head?_blank h))

theorem head_ne_of_blank {c : Char} (hc : Text.isBlank c = false) (h : Blank ds) :
    ds.head? ≠ some c := by
  intro hd
  have := h c (List.mem_of_head? hd)
  rw [hc] at this
  cases this

/-- Blanks behind a text do not give it a certain beginning. -/
theorem not_cons_of_blank {c : Char} {r : List Char} (hc : Text.isBlank c = false) (h : Blank ds)
    (hr : ∀ r', r ≠ c :: r') (r' : List Char) : r ++ ds ≠ c :: r' := by
  intro he
  cases r with
  | nil =>
    rw [List.nil_append] at he
    exact head_ne_of_blank hc h (by rw [he]; rfl)
  | cons d r =>
    cases he
    exact hr _ rfl

theorem generalRef_blank : LeavesBlank generalRef := by
  intro cs ds h
  obtain ⟨ht, hd⟩ := span_blank cs h
  unfold generalRef
  rw [ht, hd]
  by_cases hn : (cs.takeWhile isNameChar).isEmpty
  · rw [if_pos hn, if_pos hn]
    rfl
  · rw [if_neg hn, if_neg hn]
    by_cases hr : ∃ r, cs.dropWhile isNameChar = ';' :: r
    · obtain ⟨r, hr⟩ := hr
      rw [hr]
      rfl
    · have hno := not_cons_of_blank (c := ';') (by decide) h (not_exists.1 hr)
      split
      · rename_i he
        exact absurd he (hno _)
      · split
        · rename_i he
          exact absurd ⟨_, he⟩ hr
        · rfl

theorem hash_blank : LeavesBlank hash := by
  intro cs ds h
  obtain ⟨ht, hd⟩ := span_blank cs h
  unfold hash
  rw [ht, hd]
  split <;> rfl

theorem literal_blank {quote : Char} (hq : Text.isBlank quote = false) :
    LeavesBlank (literal quote) := by
  intro cs ds h
  unfold literal
  rw [cut_append_blank (by simp) (by simpa using hq) cs h, Option.map_map, Option.map_map]
  rfl

theorem comment_blank : LeavesBlank comment := by
  intro cs ds h
  unfold comment
  rw [cut_append_blank (by simp) (by decide) cs h, Option.map_map, Option.map_map]
  rfl

theorem declaration_blank : LeavesBlank declaration := by
  intro cs ds h
  obtain ⟨ht, hd⟩ := span_blank cs h
  unfold declaration
  rw [ht, hd, Option.map_map]
  rfl

theorem instruction_blank : LeavesBlank instruction := by
  intro cs ds h
  obtain ⟨ht, hd⟩ := span_blank cs h
  unfold instruction
  rw [ht, hd, cut_append_blank (by simp) (by decide) _ h]
  split
  · rfl
  · rw [Option.map_map, Option.map_map]
    rfl

theorem sectionClose_eq (cs : List Char) :
    sectionClose cs = if [']', '>'].isPrefixOf cs then some (.sectionClose, cs.drop 2) else none := by
  unfold sectionClose
  split
  · rfl
  · rename_i hno
    rw [if_neg]
    intro hp
    obtain ⟨r, rfl⟩ := List.isPrefixOf_iff_prefix.1 hp
    exact hno r rfl

theorem markup_eq (cs : List Char) :
    markup cs =
      if ['!', '-', '-'].isPrefixOf cs then comment (cs.drop 3)
      else if ['!', '['].isPrefixOf cs then some (.sectionOpen, cs.drop 2)
      else if ['!'].isPrefixOf cs then declaration (cs.drop 1)
      else if ['?'].isPrefixOf cs then instruction (cs.drop 1)
      else none := by
  unfold markup
  split
  · rfl
  · rfl
  · rename_i hc ho
    rw [if_neg, if_neg]
    · rfl
    · intro hp
      obtain ⟨r, hr⟩ := List.isPrefixOf_iff_prefix.1 hp
      cases hr
      exact ho r rfl
    · intro hp
      obtain ⟨r, hr⟩ := List.isPrefixOf_iff_prefix.1 hp
      cases hr
      exact hc r rfl
  · rfl
  · rename_i hm hi
    have hno : ¬['!'].isPrefixOf cs := by
      intro hp
      obtain ⟨r, rfl⟩ := List.isPrefixOf_iff_prefix.1 hp
      exact hm r rfl
    rw [if_neg, if_neg, if_neg hno, if_neg]
    · intro hp
      obtain ⟨r, rfl⟩ := List.isPrefixOf_iff_prefix.1 hp
      exact hi r rfl
    · intro hp
      obtain ⟨r, rfl⟩ := List.isPrefixOf_iff_prefix.1 hp
      exact hm _ rfl
    · intro hp
      obtain ⟨r, rfl⟩ := List.isPrefixOf_iff_prefix.1 hp
      exact hm _ rfl

variable (ds) in
theorem drop_append_of_isPrefixOf {t : List Char} (h : t.isPrefixOf cs) :
    (cs ++ ds).drop t.length = cs.drop t.length ++ ds :=
  List.drop_append_of_le_length (List.isPrefixOf_iff_prefix.1 h).length_le

theorem sectionClose_blank : LeavesBlank sectionClose := by
  intro cs ds h
  rw [sectionClose_eq, sectionClose_eq, isPrefixOf_append_blank (by decide) cs h]
  split
  · rename_i hp
    have := drop_append_of_isPrefixOf ds hp
    simp only [List.length_cons, List.length_nil] at this
    rw [this]
    rfl
  · rfl

theorem markup_blank : LeavesBlank markup := by
  intro cs ds h
  have hdrop {t : List Char} (hp : t.isPrefixOf cs) := drop_append_of_isPrefixOf ds hp
  rw [markup_eq, markup_eq, isPrefixOf_append_blank (by decide) cs h,
    isPrefixOf_append_blank (by decide) cs h, isPrefixOf_append_blank (by decide) cs h,
    isPrefixOf_append_blank (by decide) cs h]
  split
  · rename_i hp
    have : (cs ++ ds).drop 3 = cs.drop 3 ++ ds := hdrop hp
    rw [this]
    exact comment_blank _ _ h
  split
  · rename_i hp
    have : (cs ++ ds).drop 2 = cs.drop 2 ++ ds := hdrop hp
    rw [this]
    rfl
  split
  · rename_i hp
    have : (cs ++ ds).drop 1 = cs.drop 1 ++ ds := hdrop hp
    rw [this]
    exact declaration_blank _ _ h
  split
  · rename_i hp
    have : (cs ++ ds).drop 1 = cs.drop 1 ++ ds := hdrop hp
    rw [this]
    exact instruction_blank _ _ h
  · rfl

theorem tokenOf_blank (c : Char) : LeavesBlank (tokenOf c) := by
  intro cs ds h
  unfold tokenOf
  split
  case h_10 => exact generalRef_blank cs ds h
  case h_11 => exact hash_blank cs ds h
  case h_12 => exact literal_blank (by decide) cs ds h
  case h_13 => exact literal_blank (by decide) cs ds h
  case h_14 => exact sectionClose_blank cs ds h
  case h_15 => exact markup_blank cs ds h
  case h_16 =>
    obtain ⟨ht, hd⟩ := span_blank cs h
    rw [ht, hd]
    split <;> rfl
  all_goals rfl

theorem percent_blank (cs : List Char) (h : Blank ds) :
    percent (cs ++ ds) = (percent cs).before ds := by
  obtain ⟨ht, hd⟩ := span_blank cs h
  have hhead : (cs ++ ds).head?.any isNameStart = cs.head?.any isNameStart := by
    cases cs with
    | cons c cs => rfl
    | nil =>
      cases ds with
      | nil => rfl
      | cons d ds =>
        have hnot := isNameChar_of_isBlank (h d List.mem_cons_self)
        simp only [isNameChar, Bool.or_eq_false_iff] at hnot
        exact hnot.1.1.1
  unfold percent
  rw [ht, hd, hhead]
  by_cases hn : cs.head?.any isNameStart
  · rw [if_pos hn, if_pos hn]
    by_cases hr : ∃ r, cs.dropWhile isNameChar = ';' :: r
    · obtain ⟨r, hr⟩ := hr
      rw [hr]
      rfl
    · have hno := not_cons_of_blank (c := ';') (by decide) h (not_exists.1 hr)
      split
      · rename_i he
        exact absurd he (hno _)
      · split
        · rename_i he
          exact absurd ⟨_, he⟩ hr
        · rfl
  · rw [if_neg hn, if_neg hn]
    rfl

end Blank

end Lexed

/-- Blanks behind a text change nothing but what is left. -/
theorem lex_append_blank (cs : List Char) {ds : List Char} (h : Blank ds) :
    lex (cs ++ ds) = (lex cs).before ds := by
  rcases lex_cases cs with hd | ⟨front, hd, hl⟩ | ⟨c, front, hc, hd, hl⟩
  · have hb := blank_of_dropWhile hd
    rw [lex_eq_exhausted.2 hb, lex_eq_exhausted.2 fun c hc => (List.mem_append.1 hc).elim (hb c) (h c)]
    rfl
  · have hd' : (cs ++ ds).dropWhile Text.isBlank = '%' :: (front ++ ds) := by
      rw [dropWhile_append_of_ne_nil ds (by simp [hd]), hd, List.cons_append]
    rw [hl, lex_of_percent hd', Lexed.percent_blank _ h]
  · have hd' : (cs ++ ds).dropWhile Text.isBlank = c :: (front ++ ds) := by
      rw [dropWhile_append_of_ne_nil ds (by simp [hd]), hd, List.cons_append]
    rw [hl, lex_of_cons hc hd', Lexed.tokenOf_blank c _ _ h]
    cases Lexed.tokenOf c front <;> rfl

section Sections

variable {cs ds rest : List Char}

theorem not_isPrefixOf_of_isBlank {c d : Char} {t : List Char} (hc : Text.isBlank c = false)
    (hd : Text.isBlank d) : ¬(c :: t).isPrefixOf (d :: cs) := by
  have hne : (c == d) = false := by
    rw [beq_eq_false_iff_ne]
    rintro rfl
    rw [hc] at hd
    cases hd
  simp [List.isPrefixOf, hne]

theorem leaveSections_skip {n : Nat} {c : Char} (ho : ¬['<', '!', '['].isPrefixOf (c :: cs))
    (hc : ¬[']', ']', '>'].isPrefixOf (c :: cs)) :
    leaveSections n (c :: cs) = leaveSections n cs := by
  rw [leaveSections]
  · rintro r rfl rfl
    exact ho (by simp)
  · rintro r rfl rfl
    exact hc (by simp)

theorem not_isPrefixOf_of_no_rest {a b c d : Char} (h : ∀ r, a = b → cs = c :: d :: r → False) :
    ¬[b, c, d].isPrefixOf (a :: cs) := by
  intro hp
  obtain ⟨r, hr⟩ := List.isPrefixOf_iff_prefix.1 hp
  cases hr
  exact h r rfl rfl

theorem length_le_of_leaveSections {n : Nat} (h : leaveSections n cs = some rest) :
    rest.length + 3 ≤ cs.length := by
  fun_induction leaveSections n cs with
  | case1 n cs ih | case3 n cs _ ih | case4 n c cs _ _ ih =>
    have := ih h
    simp only [List.length_cons]
    omega
  | case2 cs =>
    cases h
    simp
  | case5 => cases h

theorem leaveSections_append {n : Nat} (ds : List Char) (h : leaveSections n cs = some rest) :
    leaveSections n (cs ++ ds) = some (rest ++ ds) := by
  fun_induction leaveSections n cs with
  | case1 n cs ih =>
    rw [List.cons_append, List.cons_append, List.cons_append, leaveSections]
    exact ih h
  | case2 cs =>
    cases h
    rfl
  | case3 n cs hn ih =>
    rw [List.cons_append, List.cons_append, List.cons_append, leaveSections, if_neg hn]
    exact ih h
  | case4 n c cs hopen hclose ih =>
    have hlen := length_le_of_leaveSections h
    have hle : 3 ≤ (c :: cs).length := by
      simp only [List.length_cons]
      omega
    have ho := not_isPrefixOf_of_no_rest hopen
    have hc := not_isPrefixOf_of_no_rest hclose
    rw [← Lexed.isPrefixOf_append ds (by exact hle), List.cons_append] at ho hc
    rw [List.cons_append, leaveSections_skip ho hc]
    exact ih h
  | case5 => cases h

theorem leaveSections_of_blank {n : Nat} (h : Blank ds) : leaveSections n ds = none := by
  induction ds with
  | nil => rfl
  | cons d ds ih =>
    have hd := h d List.mem_cons_self
    rw [leaveSections_skip (not_isPrefixOf_of_isBlank (by decide) hd)
      (not_isPrefixOf_of_isBlank (by decide) hd)]
    exact ih fun c hc => h c (List.mem_cons_of_mem _ hc)

theorem leaveSections_append_blank {n : Nat} (cs : List Char) (h : Blank ds) :
    leaveSections n (cs ++ ds) = (leaveSections n cs).map (· ++ ds) := by
  fun_induction leaveSections n cs with
  | case1 n cs ih =>
    rw [List.cons_append, List.cons_append, List.cons_append, leaveSections]
    exact ih
  | case2 cs => rfl
  | case3 n cs hn ih =>
    rw [List.cons_append, List.cons_append, List.cons_append, leaveSections, if_neg hn]
    exact ih
  | case4 n c cs hopen hclose ih =>
    have ho := not_isPrefixOf_of_no_rest hopen
    have hc := not_isPrefixOf_of_no_rest hclose
    rw [← Lexed.isPrefixOf_append_blank (by decide) _ h, List.cons_append] at ho hc
    rw [List.cons_append, leaveSections_skip ho hc]
    exact ih
  | case5 =>
    rw [List.nil_append, leaveSections_of_blank h]
    rfl

theorem leaveSections_blank_append {n : Nat} (h : Blank ds) (cs : List Char) :
    leaveSections n (ds ++ cs) = leaveSections n cs := by
  induction ds with
  | nil => rfl
  | cons d ds ih =>
    have hd := h d List.mem_cons_self
    rw [List.cons_append, leaveSections_skip (not_isPrefixOf_of_isBlank (by decide) hd)
      (not_isPrefixOf_of_isBlank (by decide) hd)]
    exact ih fun c hc => h c (List.mem_cons_of_mem _ hc)

end Sections

end Doctype
