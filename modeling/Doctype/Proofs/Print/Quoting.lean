import Doctype.Proofs.Cursor.Positions
import Doctype.Proofs.Print.Roundtrip

/-! Whatever a text is, it is read as one literal once it has been quoted, and what stands behind it is
left alone. -/
namespace Doctype

/-- The second text is the first one with a character reference in the place of each `"`: what stands
between them is kept. -/
def Escapes (s t : String) : Prop :=
  ∃ pieces : List String, (∀ piece ∈ pieces, '"' ∉ piece.toList) ∧ s = "\"".intercalate pieces ∧
    t = "&#34;".intercalate pieces

section Escape

/-- What is written in the place of a character holds no `"`. -/
theorem not_mem_escapeQuote (c : Char) : '"' ∉ escapeQuote c := by
  unfold escapeQuote
  split
  · decide
  · rename_i hc
    exact fun h => hc (List.mem_singleton.1 h).symm

theorem not_mem_flatMap_escapeQuote (cs : List Char) : '"' ∉ cs.flatMap escapeQuote := by
  intro h
  obtain ⟨c, -, hc⟩ := List.mem_flatMap.1 h
  exact not_mem_escapeQuote c hc

/-- A text consists of parts without a `"`, and escaping joins them by references. -/
theorem exists_pieces (cs : List Char) :
    ∃ first others, (∀ piece ∈ first :: others, '"' ∉ piece) ∧
      cs = ['"'].intercalate (first :: others) ∧
      cs.flatMap escapeQuote = "&#34;".toList.intercalate (first :: others) := by
  induction cs with
  | nil => exact ⟨[], [], List.forall_mem_singleton.2 List.not_mem_nil, rfl, rfl⟩
  | cons c cs ih =>
    obtain ⟨first, others, hpieces, hcs, hescaped⟩ := ih
    by_cases hc : c = '"'
    · subst hc
      refine ⟨[], first :: others, List.forall_mem_cons.2 ⟨List.not_mem_nil, hpieces⟩, ?_, ?_⟩
      · rw [List.intercalate_cons_cons, ← hcs]
        rfl
      · rw [List.intercalate_cons_cons, List.flatMap_cons, ← hescaped]
        rfl
    · obtain ⟨hfirst, hothers⟩ := List.forall_mem_cons.1 hpieces
      refine ⟨c :: first, others, List.forall_mem_cons.2 ⟨?_, hothers⟩, ?_, ?_⟩
      · exact fun h => (List.mem_cons.1 h).elim (fun he => hc he.symm) hfirst
      · rw [List.intercalate_cons_cons_left, ← hcs]
      · have hkept : escapeQuote c = [c] := if_neg hc
        rw [List.intercalate_cons_cons_left, List.flatMap_cons, hkept, hescaped]
        rfl

theorem ofList_intercalate (separator : String) (pieces : List (List Char)) :
    String.ofList (separator.toList.intercalate pieces) =
      separator.intercalate (pieces.map String.ofList) := by
  have hsame : (pieces.map String.ofList).map String.toList = pieces := by simp
  rw [← String.toList_inj, String.toList_ofList, String.toList_intercalate, hsame]

/-- A text that is written with references in the place of each `"` is escaped. -/
theorem escapes_of_toList {s t : String} (h : t.toList = s.toList.flatMap escapeQuote) :
    Escapes s t := by
  obtain ⟨first, others, hpieces, hs, hescaped⟩ := exists_pieces s.toList
  refine ⟨(first :: others).map String.ofList, fun piece hpiece => ?_, ?_, ?_⟩
  · obtain ⟨cs, hcs, rfl⟩ := List.mem_map.1 hpiece
    rw [String.toList_ofList]
    exact hpieces cs hcs
  · rw [← ofList_intercalate, ← String.toList_inj, String.toList_ofList]
    exact hs
  · rw [← ofList_intercalate, ← hescaped, ← h, String.ofList_toList]

end Escape

section Quote

variable {s : String} {rest : List Char}

/-- A text with quotes of both kinds is written between `"`, which it does not hold any more. -/
theorem toList_quote_escaped (h : ¬Quotable s) :
    (quote s).toList = '"' :: (s.toList.flatMap escapeQuote ++ ['"']) := by
  obtain ⟨hdouble, hsingle⟩ := not_or.1 h
  have hd : s.toList.contains '"' := List.contains_iff_mem.2 (not_not.1 hdouble)
  have hc : s.toList.contains '\'' := List.contains_iff_mem.2 (not_not.1 hsingle)
  unfold quote
  rw [if_pos hd, if_pos hc]
  simp

/-- What has been quoted is read as one literal: as it is, or escaped if it holds quotes of both
kinds. -/
theorem exists_lex_quote (s : String) (rest : List Char) :
    ∃ text, lex ((quote s).toList ++ rest) = .token (.literal text) rest ∧
      (Quotable s → text = s) ∧ (¬Quotable s → Escapes s text) := by
  by_cases h : Quotable s
  · exact ⟨s, lex_quote h, fun _ => rfl, fun hnot => absurd h hnot⟩
  · obtain ⟨text, htext⟩ : ∃ text : String, text.toList = s.toList.flatMap escapeQuote :=
      ⟨_, String.toList_ofList⟩
    refine ⟨text, ?_, fun hs => absurd hs h, fun _ => escapes_of_toList htext⟩
    have hnot : '"' ∉ text.toList := by
      rw [htext]
      exact not_mem_flatMap_escapeQuote s.toList
    rw [toList_quote_escaped h, ← htext, List.cons_append, List.append_assoc]
    exact lex_literal (.inl rfl) hnot

/-- What has been quoted begins with no blank. -/
theorem dropWhile_isBlank_quote (s : String) (rest : List Char) :
    ((quote s).toList ++ rest).dropWhile Text.isBlank = (quote s).toList ++ rest := by
  have hquote : ∃ q cs, (q = '"' ∨ q = '\'') ∧ (quote s).toList = q :: cs := by
    by_cases h : Quotable s
    · obtain ⟨q, hq, -, hs⟩ := toList_quote h
      exact ⟨q, _, hq, hs⟩
    · exact ⟨'"', _, .inl rfl, toList_quote_escaped h⟩
  obtain ⟨q, cs, hq, hs⟩ := hquote
  rw [hs, List.cons_append]
  apply List.dropWhile_cons_of_neg
  rcases hq with rfl | rfl
  · decide
  · decide

end Quote

namespace Cursor

variable {c : Cursor} {p rest : List Char} {token : Token}

/-- A token that stands at a cursor without a blank in front of it is located there, and exactly its
characters are taken. -/
theorem Shows.scan_token (h : c.Shows (p ++ rest)) (hlex : lex (p ++ rest) = .token token rest)
    (hfront : (p ++ rest).dropWhile Text.isBlank = p ++ rest) :
    ∃ t, scan c = .ok (.token token c.location) t ∧ c.Passes p t ∧ t.Shows rest := by
  obtain ⟨u, hu, hus⟩ := gives_skipBlank h
  rw [hfront] at hus
  have hskipped := walks_skipBlank.passes h hu hus (List.nil_append (p ++ rest)).symm
  have hlocation : u.location = c.location := by
    rw [location, location, hskipped.name, hskipped.position, List.foldl_nil]
  have hscan := lexes_scan h hu
  rw [hlex, hlocation] at hscan
  obtain ⟨t, ht, hts⟩ := hscan
  exact ⟨t, ht, walks_scan.passes h ht hts rfl, hts⟩

end Cursor

namespace SourceStack

/-- Where a text stands that has been quoted, whatever the text is and whatever follows, one literal is
read there, and nothing behind it: the cursor has passed exactly what has been written, and all else
stays as it is. The literal is the text, or, if the text holds quotes of both kinds, the text with a
character reference in the place of each `"`. -/
theorem next_quote (w : World) (t : EntityTable) {k : SourceStack} {source : Source}
    {below : List Source} {s : String} {rest : List Char} (hk : k.sources = source :: below)
    (h : source.cursor.Shows ((quote s).toList ++ rest)) :
    ∃ text cursor, k.next w t =
        .ok ⟨.literal text, source.cursor.location, k.depth, source.id⟩
          (note { k with sources := { source with cursor } :: below }
            (.scanned source.cursor.location (.literal text))) ∧
      source.cursor.Passes (quote s).toList cursor ∧ cursor.Shows rest ∧
      (Quotable s → text = s) ∧ (¬Quotable s → Escapes s text) := by
  obtain ⟨text, hlex, hsame, hescaped⟩ := exists_lex_quote s rest
  obtain ⟨cursor, hscan, hpasses, hshows⟩ := h.scan_token hlex (dropWhile_isBlank_quote s rest)
  refine ⟨text, cursor, ?_, hpasses, hshows, hsame, hescaped⟩
  rw [next_eq, step_token hk hscan]
  rfl

/-- Quotes of both kinds, the first and the last character among them, a line feed and markup. -/
theorem next_quote_both :
    let s := "\"it's\n<!-- %x;\""
    let k := ofText "a.dtd" (quote s ++ "'>") "."
    let source : Source := ⟨1, none, .dir ".", { name := "a.dtd", unread := .ofText (quote s ++ "'>") }⟩
    k.sources = [source] ∧ source.cursor.Shows ((quote s).toList ++ ['\'', '>']) ∧
      ∃ text k', k.next Parser.bare {} = .ok ⟨.literal text, ⟨"a.dtd", 1, 1⟩, 1, 1⟩ k' ∧ Escapes s text := by
  intro s k source
  have hshows : source.cursor.Shows ((quote s).toList ++ ['\'', '>']) := by
    have htext := Cursor.shows_ofText "a.dtd" (quote s ++ "'>")
    rwa [String.toList_append] at htext
  have hboth : ¬Quotable s := by
    rintro (hdouble | hsingle)
    · exact hdouble (by decide)
    · exact hsingle (by decide)
  obtain ⟨text, cursor, hnext, -, -, -, hescaped⟩ := next_quote Parser.bare {} (k := k) rfl hshows
  exact ⟨rfl, hshows, text, _, hnext, hescaped hboth⟩

end SourceStack

end Doctype
