import Doctype.Proofs.Cursor.Walks
import Doctype.Proofs.Print.Writing

/-! Where a cursor is. Scanning and skipping lose no character of a text, and the position that is
reached is that of the characters taken so far. -/
namespace Doctype

namespace Position

/-- The position behind the first part of a text. A line begins behind each line feed, and the
columns of the last line are counted. -/
def behind (p : List Char) : Position :=
  ⟨1 + p.count '\n', 1 + (p.reverse.takeWhile (· != '\n')).length⟩

theorem behind_concat (p : List Char) (c : Char) : behind (p ++ [c]) = (behind p).step c := by
  by_cases hc : c = '\n'
  · subst hc
    simp [behind, step, Nat.add_assoc]
  · have hcount : [c].count '\n' = 0 := List.count_eq_zero.2 (by simpa using Ne.symm hc)
    simp [behind, step, hc, hcount, Nat.add_assoc]

theorem behind_append (p q : List Char) : behind (p ++ q) = q.foldl step (behind p) := by
  induction q generalizing p with
  | nil => rw [List.append_nil, List.foldl_nil]
  | cons c q ih => rw [List.append_cons, ih, behind_concat, List.foldl_cons]

end Position

/-- A position in a source of a certain name. -/
def Position.inSource (q : Position) (name : String) : Location :=
  ⟨name, q.line, q.column⟩

/-- Lines and columns count from one, and a line feed is the last character of its line. -/
example : Position.behind "a\nbc".toList = ⟨2, 3⟩ ∧ Position.behind "a\n".toList = ⟨2, 1⟩ := by
  decide

namespace Token

/-- The characters that a token is read from. The data of an instruction may have blanks around
it; any other token has its spelling. -/
inductive ReadFrom : Token → String → Prop
  | spelled {token : Token} {spelling : String} : token.Spelled spelling →
      (∀ target data, token ≠ .instruction target data) → ReadFrom token spelling
  | instruction (target raw : String) :
      ReadFrom (.instruction target (Text.trim raw)) ("<?" ++ target ++ raw ++ "?>")

end Token

namespace Lexed

variable {cs rest : List Char} {t : Token}

/-- A token and what is left behind it, read from a text. -/
def ReadsFrom (cs : List Char) (t : Token) (rest : List Char) : Prop :=
  ∃ spelling : String, cs = spelling.toList ++ rest ∧ t.ReadFrom spelling

theorem readsFrom_generalRef (h : generalRef cs = some (t, rest)) :
    ReadsFrom ('&' :: cs) t rest := by
  unfold generalRef at h
  split at h
  · cases h
  · split at h
    · rename_i r hr
      cases h
      have hcs : cs = cs.takeWhile isNameChar ++ ';' :: rest := by
        rw [← hr, List.takeWhile_append_dropWhile]
      refine ⟨"&" ++ .ofList (cs.takeWhile isNameChar) ++ ";", ?_, .spelled (.generalRef _) (by simp)⟩
      simpa using hcs
    · cases h

theorem readsFrom_hash (h : hash cs = some (t, rest)) : ReadsFrom ('#' :: cs) t rest := by
  unfold hash at h
  split at h
  · cases h
  · cases h
    refine ⟨"#" ++ .ofList (cs.takeWhile isNameChar), ?_, .spelled (.hash _) (by simp)⟩
    simp

theorem readsFrom_literal {quote : Char} (hq : quote = '"' ∨ quote = '\'')
    (h : literal quote cs = some (t, rest)) : ReadsFrom (quote :: cs) t rest := by
  obtain ⟨b, hb, he⟩ := Option.map_eq_some_iff.1 h
  cases he
  have hcs : cs = b.1 ++ [quote] ++ b.2 := cut_eq_some hb
  have hnot : quote ∉ (String.ofList b.1).toList := by
    rw [String.toList_ofList]
    exact not_mem_of_cut hb
  refine ⟨quote.toString ++ .ofList b.1 ++ quote.toString, ?_, .spelled (.literal hq hnot) (by simp)⟩
  simpa using hcs

theorem readsFrom_sectionClose (h : sectionClose cs = some (t, rest)) :
    ReadsFrom (']' :: cs) t rest := by
  unfold sectionClose at h
  split at h
  · cases h
    exact ⟨"]]>", rfl, .spelled .sectionClose (by simp)⟩
  · cases h

theorem readsFrom_comment (h : comment cs = some (t, rest)) :
    ReadsFrom ('<' :: '!' :: '-' :: '-' :: cs) t rest := by
  obtain ⟨b, hb, he⟩ := Option.map_eq_some_iff.1 h
  cases he
  have hcs : cs = b.1 ++ ['-', '-', '>'] ++ b.2 := cut_eq_some hb
  refine ⟨"<!--" ++ .ofList b.1 ++ "-->", ?_, .spelled (.comment _) (by simp)⟩
  simpa using hcs

theorem readsFrom_declaration (h : declaration cs = some (t, rest)) :
    ReadsFrom ('<' :: '!' :: cs) t rest := by
  obtain ⟨k, hk, he⟩ := Option.map_eq_some_iff.1 h
  cases he
  have hword : cs.takeWhile isNameChar = k.text.toList := by
    rw [← Keyword.text_of_ofText? hk, String.toList_ofList]
  refine ⟨"<!" ++ k.text, ?_, .spelled (.decl k) (by simp)⟩
  rw [String.toList_append, ← hword]
  simp

theorem readsFrom_instruction (h : instruction cs = some (t, rest)) :
    ReadsFrom ('<' :: '?' :: cs) t rest := by
  unfold instruction at h
  split at h
  · cases h
  · obtain ⟨b, hb, he⟩ := Option.map_eq_some_iff.1 h
    cases he
    have hdata : cs.dropWhile isNameChar = b.1 ++ ['?', '>'] ++ b.2 := cut_eq_some hb
    have hcs : cs = cs.takeWhile isNameChar ++ (b.1 ++ ['?', '>'] ++ b.2) := by
      rw [← hdata, List.takeWhile_append_dropWhile]
    refine ⟨_, ?_, .instruction (.ofList (cs.takeWhile isNameChar)) (.ofList b.1)⟩
    simpa using hcs

theorem readsFrom_markup (h : markup cs = some (t, rest)) : ReadsFrom ('<' :: cs) t rest := by
  unfold markup at h
  split at h
  · exact readsFrom_comment h
  · cases h
    exact ⟨"<![", rfl, .spelled .sectionOpen (by simp)⟩
  · exact readsFrom_declaration h
  · exact readsFrom_instruction h
  · cases h

theorem readsFrom_tokenOf {c : Char} (h : tokenOf c cs = some (t, rest)) :
    ReadsFrom (c :: cs) t rest := by
  unfold tokenOf at h
  split at h
  case h_10 => exact readsFrom_generalRef h
  case h_11 => exact readsFrom_hash h
  case h_12 => exact readsFrom_literal (.inl rfl) h
  case h_13 => exact readsFrom_literal (.inr rfl) h
  case h_14 => exact readsFrom_sectionClose h
  case h_15 => exact readsFrom_markup h
  case h_16 =>
    split at h
    · cases h
      refine ⟨.ofList (c :: cs.takeWhile isNameChar), ?_, .spelled (.name _) (by simp)⟩
      simp
    · cases h
  all_goals
    cases h
    refine ⟨_, ?_, .spelled (by constructor) (by simp)⟩
    rfl

end Lexed

/-- A scanned item at a location, and the characters that it is read from. -/
inductive Scanned.ReadAt (l : Location) : Scanned → List Char → Prop
  | token {token : Token} {spelling : String} : token.ReadFrom spelling →
      ReadAt l (.token token l) spelling.toList
  | reference (name : String) : ReadAt l (.reference name l) ('%' :: (name.toList ++ [';']))

theorem Token.ReadFrom.ne_nil {t : Token} {spelling : String} (h : t.ReadFrom spelling)
    (hl : t.Lexical) : spelling.toList ≠ [] := by
  cases h with
  | instruction target raw => simp
  | spelled hs _ =>
    cases hs with
    | name text => exact hl.1
    | _ => simp

theorem Token.toList_of_readFrom_close {spelling : String} (h : Token.close.ReadFrom spelling) :
    spelling.toList = ['>'] := by
  cases h with
  | spelled hs _ =>
    cases hs
    rfl

theorem Token.toList_of_readFrom_bracket {spelling : String} (h : Token.bracket.ReadFrom spelling) :
    spelling.toList = ['['] := by
  cases h with
  | spelled hs _ =>
    cases hs
    rfl

section Lex

variable {cs rest : List Char}

/-- The token of a text is read from what stands in front of what is left. -/
theorem readsFrom_of_lex {t : Token} (h : lex cs = .token t rest) :
    Lexed.ReadsFrom (cs.dropWhile Text.isBlank) t rest := by
  rcases lex_cases cs with hd | ⟨front, hd, hl⟩ | ⟨c, front, hc, hd, hl⟩
  · rw [lex, hd] at h
    cases h
  · rw [hl] at h
    unfold Lexed.percent at h
    split at h
    · split at h <;> cases h
    · cases h
      rw [hd]
      exact ⟨"%", rfl, .spelled .percent (by simp)⟩
  · rw [hl] at h
    cases ht : Lexed.tokenOf c front with
    | none =>
      rw [ht] at h
      cases h
    | some b =>
      rw [ht] at h
      cases h
      rw [hd]
      exact Lexed.readsFrom_tokenOf ht

/-- So is the reference. -/
theorem reference_of_lex {name : String} (h : lex cs = .reference name rest) :
    cs.dropWhile Text.isBlank = '%' :: (name.toList ++ [';']) ++ rest := by
  rcases lex_cases cs with hd | ⟨front, hd, hl⟩ | ⟨c, front, hc, hd, hl⟩
  · rw [lex, hd] at h
    cases h
  · rw [hl] at h
    unfold Lexed.percent at h
    split at h
    · split at h
      · rename_i r hr
        cases h
        have hfront : front = front.takeWhile isNameChar ++ ';' :: rest := by
          rw [← hr, List.takeWhile_append_dropWhile]
        rw [hd]
        simpa using hfront
      · cases h
    · cases h
  · rw [hl] at h
    cases ht : Lexed.tokenOf c front <;> rw [ht] at h <;> cases h

end Lex

namespace Cursor

open EStateM (Result)

variable {s t u : Cursor} {p q r : List Char} {o : Option Error}

/-- A cursor as it is once certain characters have been taken. -/
structure Passes (p : List Char) (s t : Cursor) : Prop where
  name : t.name = s.name
  rest : s.rest = p ++ t.rest
  behind : t.unread.behind = s.unread.behind
  position : t.position = p.foldl Position.step s.position

theorem Passes.refl (s : Cursor) : Passes [] s s :=
  ⟨rfl, rfl, rfl, rfl⟩

theorem Passes.trans (h : Passes p s t) (h' : Passes q t u) : Passes (p ++ q) s u where
  name := h'.name.trans h.name
  rest := by rw [h.rest, h'.rest, List.append_assoc]
  behind := h'.behind.trans h.behind
  position := by rw [h'.position, h.position, List.foldl_append]

theorem passes_fill {n : Nat} (h : s.fill n = .ok () t) : Passes [] s t := by
  have ha : Ahead s t := (fill_eq_ok h).1
  exact ⟨ha.name.symm, ha.rest, ha.behind.symm, ha.position.symm⟩

theorem passes_taken {c : Char} {rest : List Char} (h : s.pending = c :: rest) :
    Passes [c] s { s with pending := rest, position := s.position.step c } where
  name := rfl
  rest := by rw [Cursor.rest, h]; rfl
  behind := rfl
  position := rfl

/-- A walk through a text that can be read passes characters, also if it ends in an error. -/
theorem Walk.passes (h : Walk s o t) (hr : s.unread.behind = .done) : ∃ p, Passes p s t := by
  induction h with
  | done s => exact ⟨[], .refl s⟩
  | malformed l detail s => exact ⟨[], .refl s⟩
  | filled hf _ ih =>
    have hfill := passes_fill hf
    obtain ⟨p, hp⟩ := ih (hfill.behind.trans hr)
    exact ⟨p, hfill.trans hp⟩
  | unread hf =>
    -- every line of the text can be read
    obtain ⟨t', ht', -⟩ := fill_of_shows ⟨rfl, hr⟩ _
    rw [hf] at ht'
    cases ht'
  | taken hp _ ih =>
    have htaken := passes_taken hp
    obtain ⟨p, hp⟩ := ih (htaken.behind.trans hr)
    exact ⟨_, htaken.trans hp⟩

/-- An action that succeeds passes the characters that were to come and are not any more. -/
theorem Walks.passes {α : Type} {m : CursorM α} {a : α} {r' : List Char} (hm : Walks m)
    (hr : s.Shows r) (ha : m s = .ok a t) (ht : t.Shows r') (hq : r = q ++ r') :
    Passes q s t := by
  obtain ⟨q', hq'⟩ := (hm.ok ha).passes hr.2
  have hpassed : q' ++ r' = q ++ r' := by rw [← hq, ← hr.1, hq'.rest, ht.1]
  obtain rfl : q' = q := List.append_cancel_right hpassed
  exact hq'

/-- A cursor in a text that can be read: behind `p`, with `r` to come. -/
structure Between (name : String) (p r : List Char) (s : Cursor) : Prop where
  name : s.name = name
  shows : s.Shows r
  position : s.position = .behind p

theorem between_start (name : String) {content : Reader} {c : List Char}
    (h : content.readAll = .ok c) : Between name [] c { name, unread := content } :=
  ⟨rfl, Reader.readAll_eq_ok.1 h, rfl⟩

theorem Between.passes {name : String} (h : Between name p r s) (ht : Passes q s t) :
    Between name (p ++ q) t.rest t where
  name := ht.name.trans h.name
  shows := ⟨rfl, ht.behind.trans h.shows.2⟩
  position := by rw [ht.position, h.position, Position.behind_append]

theorem Between.walks {α : Type} {m : CursorM α} {a : α} {name : String} {r' : List Char}
    (h : Between name p r s) (hm : Walks m) (ha : m s = .ok a t) (ht : t.Shows r')
    (hq : r = q ++ r') : Between name (p ++ q) r' t := by
  have hbetween := h.passes (hm.passes h.shows ha ht hq)
  rw [ht.1] at hbetween
  exact hbetween

/-- What a scan takes from a source of which `p` has been taken: blanks, and behind them the
characters of what it gives, which it locates between the two. -/
inductive Scans (name : String) (p : List Char) : List Char → Scanned → Cursor → Prop
  | exhausted {w : List Char} {t : Cursor} : Blank w → Between name (p ++ w) [] t →
      Scans name p w .exhausted t
  | item {w x r : List Char} {scanned : Scanned} {t : Cursor} : Blank w → x ≠ [] →
      scanned.ReadAt ((Position.behind (p ++ w)).inSource name) x →
      Between name (p ++ w ++ x) r t → Scans name p (w ++ x ++ r) scanned t

theorem Between.scan {name : String} {scanned : Scanned} (h : Between name p r s)
    (hs : scan s = .ok scanned t) : Scans name p r scanned t := by
  have hr : r = r.takeWhile Text.isBlank ++ r.dropWhile Text.isBlank :=
    List.takeWhile_append_dropWhile.symm
  have hblank : Blank (r.takeWhile Text.isBlank) := Text.blank_takeWhile r
  obtain ⟨u, hu, hus⟩ := gives_skipBlank h.shows
  have hbehind := h.walks walks_skipBlank hu hus hr
  have hlocation : u.location =
      (Position.behind (p ++ r.takeWhile Text.isBlank)).inSource name := by
    rw [location, hbehind.name, hbehind.position, Position.inSource]
  obtain ⟨rest, ho, hshows⟩ := Lexes.of_ok (lexes_scan h.shows hu) hs
  -- an item is read from what stands between the blanks and what is left
  have hitem {x : List Char} (hx : r.dropWhile Text.isBlank = x ++ rest) (hne : x ≠ [])
      (hread : scanned.ReadAt u.location x) : Scans name p r scanned t := by
    have hrest : r = r.takeWhile Text.isBlank ++ x ++ rest := by
      rw [List.append_assoc, ← hx, ← hr]
    have hend := h.walks walks_scan hs hshows hrest
    rw [← List.append_assoc] at hend
    rw [hlocation] at hread
    rw [hrest]
    exact .item hblank hne hread hend
  cases hl : lex r with
  | malformed =>
    rw [hl] at ho
    cases ho
  | exhausted =>
    rw [hl] at ho
    cases ho
    have hend := h.walks walks_scan hs hshows (List.append_nil r).symm
    exact .exhausted (lex_eq_exhausted.1 hl) hend
  | token token rest' =>
    rw [hl] at ho
    cases ho
    obtain ⟨spelling, hspelling, hread⟩ := readsFrom_of_lex hl
    exact hitem hspelling (hread.ne_nil (lexical_of_lex hl)) (.token hread)
  | reference entity rest' =>
    rw [hl] at ho
    cases ho
    exact hitem (reference_of_lex hl) (List.cons_ne_nil _ _) (.reference entity)

/-- A token of one character has been scanned at a location, and nothing behind it. -/
structure TakesMark (c : Char) (token : Token) (l : Location) (s t : Cursor) : Prop where
  scan : scan s = .ok (.token token l) t
  rest : s.rest.dropWhile Text.isBlank = c :: t.rest
  location : t.location = { l with column := l.column + 1 }

theorem takesMark_of_scan {token : Token} {l : Location} {c : Char}
    (h : scan s = .ok (.token token l) t) (hc : c ≠ '\n')
    (hspelled : ∀ spelling, token.ReadFrom spelling → spelling.toList = [c]) :
    TakesMark c token l s t := by
  -- what is scanned up to here does not depend on lines that cannot be read
  let s' : Cursor := ⟨s.name, s.rest, .done, s.position⟩
  have hrest : s'.rest = s.rest := by simp [s', Cursor.rest, Reader.ahead]
  have halike : Alike .readable s s' := ⟨rfl, rfl, hrest.symm, rfl⟩
  obtain ⟨r', t', hscan', hr, ht⟩ := AlikeResult.of_ok (h ▸ agree_scan halike)
  obtain rfl := hr.eq fun _ _ => id
  have hshows : s'.Shows s.rest := ⟨hrest, rfl⟩
  have hblank : s.rest = s.rest.takeWhile Text.isBlank ++ s.rest.dropWhile Text.isBlank :=
    List.takeWhile_append_dropWhile.symm
  obtain ⟨u, hu, hushows⟩ := gives_skipBlank hshows
  have hbefore := walks_skipBlank.passes hshows hu hushows hblank
  obtain ⟨rest, ho, ht'shows⟩ := Lexes.of_ok (lexes_scan hshows hu) hscan'
  cases hlex : lex s.rest with
  | reference | exhausted | malformed =>
    rw [hlex] at ho
    cases ho
  | token token' rest' =>
    rw [hlex] at ho
    cases ho
    obtain ⟨spelling, hdrop, hread⟩ := readsFrom_of_lex hlex
    rw [hspelled spelling hread, List.singleton_append] at hdrop
    have hall : s.rest = (s.rest.takeWhile Text.isBlank ++ [c]) ++ rest := by
      rw [List.append_assoc, List.singleton_append, ← hdrop, ← hblank]
    have hpasses := walks_scan.passes hshows hscan' ht'shows hall
    have hposition : t'.position = u.position.step c := by
      rw [hpasses.position, List.foldl_append, ← hbefore.position]
      rfl
    refine ⟨h, ?_, ?_⟩
    · rw [ht.rest, ht'shows.1, hdrop]
    · have hname : t.name = u.name := ht.name.trans (hpasses.name.trans hbefore.name.symm)
      unfold Cursor.location
      rw [hname, ht.position, hposition]
      simp [Position.step, hc]

/-- What is done to a source. -/
inductive Move
  | scan
  | skipBlank
  /-- An ignored section is left, with the sections inside it. -/
  | skipSection
deriving DecidableEq

/-- The cursor behind a move, whether the move succeeds or fails. -/
def Move.run (s : Cursor) : Move → Cursor
  | scan => (outcome (Cursor.scan s)).2
  | skipBlank => (outcome (Cursor.skipBlank s)).2
  | skipSection => (outcome (s.skipSections 0)).2

theorem Move.walk (m : Move) (s : Cursor) : ∃ o, Walk s o (m.run s) := by
  cases m with
  | scan => exact ⟨_, walks_scan s⟩
  | skipBlank => exact ⟨_, walks_skipBlank s⟩
  | skipSection => exact ⟨_, walks_skipSections 0 s⟩

/-- Moves lose nothing. -/
theorem Between.moves {name : String} (h : Between name p r s) (moves : List Move) :
    ∃ q r', r = q ++ r' ∧ Between name (p ++ q) r' (moves.foldl Move.run s) := by
  induction moves generalizing p r s with
  | nil => exact ⟨[], r, rfl, by rwa [List.append_nil]⟩
  | cons m moves ih =>
    obtain ⟨o, hwalk⟩ := m.walk s
    obtain ⟨q, hq⟩ := hwalk.passes h.shows.2
    have hr : r = q ++ (m.run s).rest := by rw [← hq.rest, h.shows.1]
    obtain ⟨q', r', hr', hend⟩ := ih (h.passes hq)
    rw [List.append_assoc] at hend
    rw [hr', ← List.append_assoc] at hr
    exact ⟨q ++ q', r', hr, hend⟩

/-- Whatever moves have been made in a source that can be read, the characters taken and those to
come make up its text, and the position is that of the characters taken. A scan that succeeds there
takes blanks and then the characters of what it gives, located where they begin. -/
theorem scanning_lossless {content : Reader} {c : List Char} (h : content.readAll = .ok c)
    (name : String) (moves : List Move) :
    let s := moves.foldl Move.run { name, unread := content }
    ∃ p r, c = p ++ r ∧ Between name p r s ∧
      ∀ scanned t, scan s = .ok scanned t → Scans name p r scanned t := by
  obtain ⟨p, r, hc, hbetween⟩ := (between_start name h).moves moves
  rw [List.nil_append] at hbetween
  exact ⟨p, r, hc, hbetween, fun scanned t hs => hbetween.scan hs⟩

/-- An instruction over two lines, a section that is left, and a literal that is not closed. -/
theorem scanning_lossless_lines :
    let content := Reader.ofText "<?p a\n?>\n <![x]]>]]> %e; 'b\n"
    let c := "<?p a\n?>\n <![x]]>]]> %e; 'b\n".toList
    let s := [Move.scan, .skipSection, .scan, .scan].foldl Move.run
      { name := "a.dtd", unread := content }
    content.readAll = .ok c ∧ ∃ p r, c = p ++ r ∧ Between "a.dtd" p r s ∧
      ∀ scanned t, scan s = .ok scanned t → Scans "a.dtd" p r scanned t := by
  intro content c s
  have hread : content.readAll = .ok c := Reader.readAll_ofText _
  exact ⟨hread, scanning_lossless hread "a.dtd" _⟩

end Cursor

end Doctype
