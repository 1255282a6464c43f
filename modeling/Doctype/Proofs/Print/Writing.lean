import Doctype.Proofs.Print.Spelling
import Doctype.Proofs.Source.Passage

/-! Tokens that are written one behind the other are scanned as they are. -/
namespace Doctype

namespace Token

/-- How tokens are written. A literal stands between quotes of a kind that it does not hold. -/
inductive Spelled : Token → String → Prop
  | decl (keyword : Keyword) : Spelled (.decl keyword) ("<!" ++ keyword.text)
  | sectionOpen : Spelled .sectionOpen "<!["
  | sectionClose : Spelled .sectionClose "]]>"
  | bracket : Spelled .bracket "["
  | close : Spelled .close ">"
  | parenOpen : Spelled .parenOpen "("
  | parenClose : Spelled .parenClose ")"
  | pipe : Spelled .pipe "|"
  | comma : Spelled .comma ","
  | question : Spelled .question "?"
  | star : Spelled .star "*"
  | plus : Spelled .plus "+"
  | percent : Spelled .percent "%"
  | hash (keyword : String) : Spelled (.hash keyword) ("#" ++ keyword)
  | name (text : String) : Spelled (.name text) text
  | literal {text : String} {quote : Char} : quote = '"' ∨ quote = '\'' → quote ∉ text.toList →
      Spelled (.literal text) (quote.toString ++ text ++ quote.toString)
  | generalRef (name : String) : Spelled (.generalRef name) ("&" ++ name ++ ";")
  | comment (text : String) : Spelled (.comment text) ("<!--" ++ text ++ "-->")
  | instruction (target data : String) :
      Spelled (.instruction target data) ("<?" ++ target ++ " " ++ data ++ "?>")

/-- A token that can be written: one that can stand in a text. No comment ends early. -/
def Writable : Token → Prop
  | comment text => ¬['-', '-', '>'] <:+: text.toList
  | token => token.Lexical

/-- The spelling of a token with one blank behind it. -/
def Written (token : Token) (piece : String) : Prop :=
  ∃ spelling blank, token.Spelled spelling ∧ Text.isBlank blank ∧ piece = spelling.push blank

/-- There is a spelling of every token that can be written. -/
theorem Writable.exists_written {token : Token} (h : token.Writable) :
    ∃ piece, token.Written piece := by
  have hspelled : ∃ spelling, token.Spelled spelling := by
    cases token with
    | literal text =>
      rcases h with hdouble | hsingle
      · exact ⟨_, .literal (.inl rfl) hdouble⟩
      · exact ⟨_, .literal (.inr rfl) hsingle⟩
    | endOfInput => exact h.elim
    | _ => exact ⟨_, by constructor⟩
  obtain ⟨spelling, hspelled⟩ := hspelled
  exact ⟨_, spelling, ' ', hspelled, by decide, rfl⟩

end Token

theorem Keyword.ofText?_text (keyword : Keyword) : ofText? keyword.text = some keyword := by
  cases keyword <;> rfl

theorem Keyword.nmtoken_text (keyword : Keyword) : Nmtoken keyword.text := by
  cases keyword <;> exact nmtoken_of_all (by decide) (by decide)

section Lex

variable {token : Token} {s spelling : String} {c : Char} {rest : List Char}

theorem lex_decl (keyword : Keyword) (hrest : Apart rest) :
    lex ('<' :: '!' :: (keyword.text.toList ++ rest)) = .token (.decl keyword) rest := by
  have hdecl : Lexed.declaration (keyword.text.toList ++ rest) = some (.decl keyword, rest) := by
    obtain ⟨ht, hd⟩ := span_word keyword.nmtoken_text.2 hrest
    unfold Lexed.declaration
    rw [ht, hd, String.ofList_toList, keyword.ofText?_text]
    rfl
  -- the keyword does not look like a comment or a section
  have hmarkup : Lexed.markup ('!' :: (keyword.text.toList ++ rest)) = some (.decl keyword, rest) := by
    obtain ⟨c, cs, hcs, hdash, hbracket⟩ := Lexed.declaration_head hdecl
    rw [hcs] at hdecl ⊢
    rw [Lexed.markup_declaration hdash hbracket, hdecl]
  exact lex_of_tokenOf (by decide) (by decide) hmarkup

theorem lex_generalRef (h : Nmtoken s) :
    lex ('&' :: (s.toList ++ ';' :: rest)) = .token (.generalRef s) rest := by
  have hsemicolon : Apart (';' :: rest) := apart_cons (by decide)
  have href : Lexed.generalRef (s.toList ++ ';' :: rest) = some (.generalRef s, rest) := by
    obtain ⟨ht, hd⟩ := span_word h.2 hsemicolon
    have hne : ¬s.toList.isEmpty := by simpa using h.1
    unfold Lexed.generalRef
    simp only [ht, hd, if_neg hne, String.ofList_toList]
  exact lex_of_tokenOf (by decide) (by decide) href

theorem lex_comment (h : ¬['-', '-', '>'] <:+: s.toList) :
    lex ('<' :: '!' :: '-' :: '-' :: (s.toList ++ '-' :: '-' :: '>' :: rest)) =
      .token (.comment s) rest := by
  have hcomment : Lexed.comment (s.toList ++ '-' :: '-' :: '>' :: rest) = some (.comment s, rest) := by
    unfold Lexed.comment
    rw [Lexed.cut_comment h, Option.map_some, String.ofList_toList]
  exact lex_of_tokenOf (by decide) (by decide) hcomment

theorem lex_percent (hc : Text.isBlank c) : lex ('%' :: c :: rest) = .token .percent (c :: rest) := by
  have hname : isNameChar c = false := isNameChar_of_isBlank hc
  have hstart : isNameStart c = false := by
    unfold isNameChar at hname
    simp only [Bool.or_eq_false_iff] at hname
    exact hname.1.1.1
  have hany : ¬(c :: rest).head?.any isNameStart := by
    rw [List.head?_cons, Option.any_some, hstart]
    exact Bool.false_ne_true
  rw [lex_of_percent rfl, Lexed.percent, if_neg hany]

/-- What has been written in front of a blank is read as it is. -/
theorem lex_of_spelled (hs : token.Spelled spelling) (hw : token.Writable) (hc : Text.isBlank c) :
    lex (spelling.toList ++ c :: rest) = .token token (c :: rest) := by
  have hrest : Apart (c :: rest) := apart_cons (isNameChar_of_isBlank hc)
  cases hs with
  | decl keyword =>
    rw [String.toList_append]
    exact lex_decl keyword hrest
  | sectionOpen | sectionClose | bracket | close | parenOpen | parenClose | pipe | comma | question
  | star | plus =>
    exact lex_of_tokenOf (by decide) (by decide) rfl
  | percent => exact lex_percent hc
  | hash keyword =>
    rw [String.toList_append]
    exact lex_hash hw hrest
  | name text => exact lex_word hw hrest
  | @literal text quote hquote hnot =>
    have htext : (quote.toString ++ text ++ quote.toString).toList ++ c :: rest =
        quote :: (text.toList ++ quote :: c :: rest) := by simp
    rw [htext]
    exact lex_literal hquote hnot
  | generalRef name =>
    have htext : ("&" ++ name ++ ";").toList ++ c :: rest =
        '&' :: (name.toList ++ ';' :: c :: rest) := by simp
    rw [htext]
    exact lex_generalRef hw
  | comment text =>
    have htext : ("<!--" ++ text ++ "-->").toList ++ c :: rest =
        '<' :: '!' :: '-' :: '-' :: (text.toList ++ '-' :: '-' :: '>' :: c :: rest) := by simp
    rw [htext]
    exact lex_comment hw
  | instruction target data =>
    have htext : ("<?" ++ target ++ " " ++ data ++ "?>").toList ++ c :: rest =
        '<' :: '?' :: (target.toList ++ ' ' :: (data.toList ++ '?' :: '>' :: c :: rest)) := by simp
    rw [htext]
    exact lex_instruction hw.1 hw.2.1 hw.2.2

end Lex

namespace SourceStack

/-- The token of a lexeme and the height of the stack. -/
def placed (lexeme : Lexeme) : Token × Nat :=
  (lexeme.token, lexeme.depth)

variable {w : World} {t : EntityTable} {s : SourceStack} {source : Source} {token : Token}
  {tokens : List Token} {front rest : List Char} {piece : String} {pieces : List String}

/-- A token that has been written is given out, and the blank behind it is left. -/
theorem step_written (hs : s.sources = [source]) (hfront : Blank front) (hw : token.Writable)
    (hpiece : token.Written piece) (hshows : source.cursor.Shows (front ++ (piece.toList ++ rest))) :
    ∃ lexeme s' cursor blank, s.step w t = .ok (some lexeme) s' ∧ placed lexeme = (token, 1) ∧
      s'.sources = [{ source with cursor }] ∧ Blank [blank] ∧ cursor.Shows (blank :: rest) := by
  obtain ⟨spelling, blank, hspelled, hblank, rfl⟩ := hpiece
  have hlex :
      lex (front ++ ((spelling.push blank).toList ++ rest)) = .token token (blank :: rest) := by
    rw [lex_blank_append hfront, String.toList_push, List.append_assoc]
    exact lex_of_spelled hspelled hw hblank
  obtain ⟨l, hl⟩ := Cursor.scan_lex hshows
  rw [hlex] at hl
  obtain ⟨cursor, hscan, hcursor⟩ := hl
  have hdepth : s.depth = 1 := by rw [depth, hs, List.length_singleton]
  have hplaced : placed ⟨token, l, s.depth, source.id⟩ = (token, 1) := by rw [placed, hdepth]
  have hblanks : Blank [blank] := fun c hc => List.mem_singleton.1 hc ▸ hblank
  exact ⟨_, _, cursor, blank, step_token hs hscan, hplaced, rfl, hblanks, hcursor⟩

/-- A source in which tokens are written gives out these tokens. -/
theorem tokens_of_written (h : List.Forall₂ Token.Written tokens pieces)
    (hw : ∀ token ∈ tokens, token.Writable) (hs : s.sources = [source]) (hfront : Blank front)
    (hshows : source.cursor.Shows (front ++ (String.join pieces).toList)) :
    (s.tokens w t).1.map (Except.map placed) =
      tokens.map (fun token => .ok (token, 1)) ++ [.ok (.endOfInput, 0)] := by
  induction h generalizing s source front with
  | nil =>
    have hblank : Blank (front ++ (String.join []).toList) := by simpa using hfront
    obtain ⟨s', hnext, hs', -⟩ := next_of_blank (w := w) (t := t) hs hshows hblank
    rw [tokens_eq_next, hnext, next_of_nil hs']
    rfl
  | @cons token piece tokens pieces hpiece _ ih =>
    rw [String.join_cons, String.toList_append] at hshows
    have hwritable : token.Writable := hw token List.mem_cons_self
    obtain ⟨lexeme, s', cursor, blank, hstep, hplaced, hs', hblank, hshows'⟩ :=
      step_written (w := w) (t := t) hs hfront hwritable hpiece hshows
    have hnext : s.next w t = .ok lexeme s' := by rw [next_eq, hstep]
    have hne : lexeme.token ≠ .endOfInput := by
      rw [(Prod.mk.inj hplaced).1]
      rintro rfl
      exact hwritable
    have hrest := ih (fun token htoken => hw token (List.mem_cons_of_mem _ htoken)) hs' hblank hshows'
    rw [tokens_eq_next, hnext]
    simp only [hne, if_false, List.map_cons, hrest]
    rw [List.cons_append, ← hplaced]
    rfl

/-- Tokens that can be written have a written form, and a text of such forms gives out the tokens
and then its end, whatever entities there are. -/
theorem tokens_join_written (w : World) (t : EntityTable) (name : String) (dir : Path)
    (h : ∀ token ∈ tokens, token.Writable) :
    (∃ pieces, List.Forall₂ Token.Written tokens pieces) ∧
      ∀ pieces, List.Forall₂ Token.Written tokens pieces →
        ((ofText name (String.join pieces) dir).tokens w t).1.map (Except.map placed) =
          tokens.map (fun token => .ok (token, 1)) ++ [.ok (.endOfInput, 0)] := by
  constructor
  · induction tokens with
    | nil => exact ⟨[], .nil⟩
    | cons token tokens ih =>
      obtain ⟨piece, hpiece⟩ := (h token List.mem_cons_self).exists_written
      obtain ⟨pieces, hpieces⟩ := ih fun token htoken => h token (List.mem_cons_of_mem _ htoken)
      exact ⟨piece :: pieces, .cons hpiece hpieces⟩
  · intro pieces hpieces
    exact tokens_of_written hpieces h rfl blank_nil (Cursor.shows_ofText _ _)

/-- Texts that end like their terminators, quotes of both kinds, and a `%` that begins nothing. -/
theorem tokens_join_written_overlap :
    let w : World := ⟨⟨fun _ => .error .notFound, fun _ => .error .notFound⟩, .unreachable⟩
    let tokens : List Token := [.comment "-", .instruction "p" "x?", .literal "\"", .percent, .name "-1"]
    (∀ token ∈ tokens, token.Writable) ∧
      ((ofText "a.dtd" "<!----->\n<?p x??> '\"' % -1\t" ".").tokens w {}).1.map (Except.map placed) =
        tokens.map (fun token => .ok (token, 1)) ++ [.ok (.endOfInput, 0)] := by
  intro w tokens
  have hcomment : ¬['-', '-', '>'] <:+: "-".toList := by decide
  have hinstruction : (Token.instruction "p" "x?").Writable :=
    ⟨nmtoken_of_all (by decide) (by decide), by decide, by decide⟩
  have hw : ∀ token ∈ tokens, token.Writable := by
    simp only [tokens, List.forall_mem_cons, List.not_mem_nil, false_imp_iff, implies_true, and_true]
    exact ⟨hcomment, hinstruction, .inr (by decide), trivial, nmtoken_of_all (by decide) (by decide)⟩
  have hpieces : List.Forall₂ Token.Written tokens
      ["<!----->\n", "<?p x??> ", "'\"' ", "% ", "-1\t"] := by
    refine .cons ⟨_, '\n', .comment "-", ?_⟩ (.cons ⟨_, ' ', .instruction "p" "x?", ?_⟩
      (.cons ⟨_, ' ', .literal (.inr rfl) ?_, ?_⟩ (.cons ⟨_, ' ', .percent, ?_⟩
      (.cons ⟨_, '\t', .name "-1", ?_⟩ .nil))))
    all_goals decide
  exact ⟨hw, (tokens_join_written w {} "a.dtd" "." hw).2 _ hpieces⟩

end SourceStack

end Doctype
