import Doctype.Proofs.Cursor.Nesting
import Doctype.Proofs.Cursor.Positions

/-! Leaving an ignored section takes the shortest text in which the marks `]]>` outnumber the marks
`<![`, and does nothing else. -/
namespace Doctype

/-- The marks `]]>` of a text outnumber the marks `<![` by `n`. -/
def Surplus (n : Nat) (cs : List Char) : Prop :=
  occurrences [']', ']', '>'] cs = occurrences ['<', '!', '['] cs + n

instance (n : Nat) (cs : List Char) : Decidable (Surplus n cs) :=
  inferInstanceAs (Decidable (_ = _))

variable {n : Nat} {c : Char} {cs q rest : List Char}

theorem surplus_open : Surplus n ('<' :: '!' :: '[' :: cs) ↔ Surplus (n + 1) cs := by
  obtain ⟨hopen, hclose⟩ := occurrences_open cs
  unfold Surplus
  omega

theorem surplus_close : Surplus (n + 1) (']' :: ']' :: '>' :: cs) ↔ Surplus n cs := by
  obtain ⟨hopen, hclose⟩ := occurrences_close cs
  unfold Surplus
  omega

theorem surplus_skip (ho : ¬['<', '!', '['].isPrefixOf (c :: cs))
    (hc : ¬[']', ']', '>'].isPrefixOf (c :: cs)) (hq : q <+: cs) :
    Surplus n (c :: q) ↔ Surplus n q := by
  unfold Surplus
  rw [occurrences_skip ho hq, occurrences_skip hc hq]

theorem occurrences_eq_zero {word : List Char} (h : cs.length < word.length) :
    occurrences word cs = 0 := by
  have hnone : ∀ tail ∈ cs.tails, ¬word.isPrefixOf tail := by
    intro tail htail hp
    have hword := (List.isPrefixOf_iff_prefix.1 hp).length_le
    have hlen := ((List.mem_tails tail cs).1 htail).length_le
    omega
  exact List.countP_eq_zero.2 hnone

/-- A surplus takes a mark. -/
theorem Surplus.le_length (h : Surplus (n + 1) cs) : 3 ≤ cs.length := by
  by_contra hlen
  have hopen : occurrences ['<', '!', '['] cs = 0 :=
    occurrences_eq_zero (by simp only [List.length_cons, List.length_nil]; omega)
  have hclose : occurrences [']', ']', '>'] cs = 0 :=
    occurrences_eq_zero (by simp only [List.length_cons, List.length_nil]; omega)
  unfold Surplus at h
  omega

theorem exists_of_prefix_cons (h : q <+: c :: cs) (hlen : 0 < q.length) :
    ∃ q', q = c :: q' ∧ q' <+: cs := by
  rcases List.prefix_cons_iff.1 h with rfl | hq
  · cases hlen
  · exact hq

/-- A long prefix of a text that begins with a mark begins with that mark. -/
theorem exists_of_prefix_mark {a b : Char} (h : q <+: a :: b :: c :: cs) (hlen : 3 ≤ q.length) :
    ∃ q', q = a :: b :: c :: q' ∧ q' <+: cs := by
  obtain ⟨q₁, rfl, h₁⟩ := exists_of_prefix_cons h (by omega)
  rw [List.length_cons] at hlen
  obtain ⟨q₂, rfl, h₂⟩ := exists_of_prefix_cons h₁ (by omega)
  rw [List.length_cons] at hlen
  obtain ⟨q₃, rfl, h₃⟩ := exists_of_prefix_cons h₂ (by omega)
  exact ⟨q₃, rfl, h₃⟩

/-- What is left of a text stands behind a part of it that closes one section more than it opens. -/
theorem surplus_of_leaveSections (h : leaveSections n cs = some rest) :
    ∃ p, cs = p ++ rest ∧ Surplus (n + 1) p := by
  fun_induction leaveSections n cs with
  | case1 n cs ih =>
    obtain ⟨p, rfl, hp⟩ := ih h
    exact ⟨'<' :: '!' :: '[' :: p, rfl, surplus_open.2 hp⟩
  | case2 cs =>
    cases h
    exact ⟨[']', ']', '>'], rfl, by decide⟩
  | case3 n cs hn ih =>
    obtain ⟨p, rfl, hp⟩ := ih h
    have hn' : n - 1 + 1 = n := by omega
    rw [hn'] at hp
    exact ⟨']' :: ']' :: '>' :: p, rfl, surplus_close.2 hp⟩
  | case4 n c cs hopen hclose ih =>
    obtain ⟨p, rfl, hp⟩ := ih h
    have ho := not_isPrefixOf_of_no_rest hopen
    have hc := not_isPrefixOf_of_no_rest hclose
    exact ⟨c :: p, rfl, (surplus_skip ho hc (List.prefix_append p rest)).2 hp⟩
  | case5 => cases h

/-- A text that begins with a part of this kind has something left, behind a part that is not
longer. -/
theorem leaveSections_of_surplus (hq : q <+: cs) (h : Surplus (n + 1) q) :
    ∃ p rest, leaveSections n cs = some rest ∧ cs = p ++ rest ∧ p <+: q := by
  have hlen : 3 ≤ q.length := h.le_length
  fun_induction leaveSections n cs generalizing q with
  | case1 n cs ih =>
    obtain ⟨q', rfl, hq'⟩ := exists_of_prefix_mark hq hlen
    have hsurplus := surplus_open.1 h
    obtain ⟨p, rest, hrest, rfl, hp⟩ := ih hq' hsurplus hsurplus.le_length
    exact ⟨'<' :: '!' :: '[' :: p, rest, hrest, rfl, by simpa using hp⟩
  | case2 cs =>
    obtain ⟨q', rfl, hq'⟩ := exists_of_prefix_mark hq hlen
    exact ⟨[']', ']', '>'], cs, rfl, rfl, List.prefix_append _ q'⟩
  | case3 n cs hn ih =>
    obtain ⟨q', rfl, hq'⟩ := exists_of_prefix_mark hq hlen
    have hsurplus : Surplus (n - 1 + 1) q' := by
      rw [Nat.sub_add_cancel (Nat.pos_of_ne_zero hn)]
      exact surplus_close.1 h
    obtain ⟨p, rest, hrest, rfl, hp⟩ := ih hq' hsurplus hsurplus.le_length
    exact ⟨']' :: ']' :: '>' :: p, rest, hrest, rfl, by simpa using hp⟩
  | case4 n c cs hopen hclose ih =>
    have ho := not_isPrefixOf_of_no_rest hopen
    have hc := not_isPrefixOf_of_no_rest hclose
    obtain ⟨q', rfl, hq'⟩ := exists_of_prefix_cons hq (by omega)
    have hsurplus := (surplus_skip ho hc hq').1 h
    obtain ⟨p, rest, hrest, rfl, hp⟩ := ih hq' hsurplus hsurplus.le_length
    exact ⟨c :: p, rest, hrest, rfl, List.cons_prefix_cons.2 ⟨rfl, hp⟩⟩
  | case5 =>
    rw [List.prefix_nil.1 hq] at hlen
    cases hlen

namespace SourceStack

variable {s s' : SourceStack} {source : Source} {others : List Source} {r : List Char}

/-- Leaving a section that is closed takes the text in front of what is left. -/
theorem skipIgnored_closed (hs : s.sources = source :: others) (hr : source.cursor.Shows r)
    {p rest : List Char} (hleft : leaveSections 0 r = some rest) (hp : r = p ++ rest) :
    ∃ cursor, source.cursor.Passes p cursor ∧
      s.skipIgnored = .ok () { s with sources := { source with cursor } :: others } := by
  have hgives := Cursor.gives_skipSections hr 0
  rw [hleft] at hgives
  obtain ⟨cursor, hskip, hcursor⟩ := hgives
  have hpasses := (Cursor.walks_skipSections 0).passes hr hskip hcursor hp
  refine ⟨cursor, hpasses, ?_⟩
  simp only [skipIgnored, hs, hskip, if_true]

/-- Leaving a section that is not closed takes everything, and fails. -/
theorem skipIgnored_unclosed (hs : s.sources = source :: others) (hr : source.cursor.Shows r)
    (hleft : leaveSections 0 r = none) :
    ∃ cursor, source.cursor.Passes r cursor ∧
      s.skipIgnored = .error (.lexical s.location "unterminated IGNORE section")
        { s with sources := { source with cursor } :: others } := by
  have hgives := Cursor.gives_skipSections hr 0
  rw [hleft] at hgives
  obtain ⟨cursor, hskip, hcursor⟩ := hgives
  have hnil : r = r ++ [] := (List.append_nil r).symm
  have hpasses := (Cursor.walks_skipSections 0).passes hr hskip hcursor hnil
  refine ⟨cursor, hpasses, ?_⟩
  simp only [skipIgnored, hs, hskip, Bool.false_eq_true, if_false]

/-- An ignored section is left exactly if the text to come begins with a part whose marks `]]>`
outnumber its marks `<![` by one, and the shortest such part is taken. Otherwise the whole text is
taken, and the error is located where it began. Nothing but the cursor of the innermost source
changes: no source is opened or closed, and no number is given away. -/
theorem skipIgnored_takes_shortest (hs : s.sources = source :: others)
    (hr : source.cursor.Shows r) :
    ((∃ s', s.skipIgnored = .ok () s') ↔ ∃ p, p <+: r ∧ Surplus 1 p) ∧
      (∀ s', s.skipIgnored = .ok () s' → ∃ p cursor, source.cursor.Passes p cursor ∧
        s' = { s with sources := { source with cursor } :: others } ∧
        Surplus 1 p ∧ ∀ q, q <+: r → Surplus 1 q → p <+: q) ∧
      ∀ e s', s.skipIgnored = .error e s' → ∃ cursor, source.cursor.Passes r cursor ∧
        s' = { s with sources := { source with cursor } :: others } ∧
        e = .lexical s.location "unterminated IGNORE section" := by
  cases hleft : leaveSections 0 r with
  | some rest =>
    obtain ⟨p, hp, hsurplus⟩ := surplus_of_leaveSections hleft
    obtain ⟨cursor, hpasses, hskip⟩ := skipIgnored_closed hs hr hleft hp
    have hshortest : ∀ q, q <+: r → Surplus 1 q → p <+: q := by
      intro q hq hsq
      obtain ⟨p', rest', hrest', hp', hpq⟩ := leaveSections_of_surplus hq hsq
      rw [hleft, Option.some.injEq] at hrest'
      have hpp : p ++ rest = p' ++ rest := by rw [← hp, hrest', ← hp']
      rwa [List.append_cancel_right hpp]
    refine ⟨⟨fun _ => ⟨p, ⟨rest, hp.symm⟩, hsurplus⟩, fun _ => ⟨_, hskip⟩⟩, ?_, ?_⟩
    · intro s' hs'
      rw [hskip] at hs'
      cases hs'
      exact ⟨p, cursor, hpasses, rfl, hsurplus, hshortest⟩
    · intro e s' hs'
      rw [hskip] at hs'
      cases hs'
  | none =>
    obtain ⟨cursor, hpasses, hskip⟩ := skipIgnored_unclosed hs hr hleft
    refine ⟨⟨?_, ?_⟩, ?_, ?_⟩
    · rintro ⟨s', hs'⟩
      rw [hskip] at hs'
      cases hs'
    · rintro ⟨p, hp, hsurplus⟩
      obtain ⟨p', rest, hrest, -⟩ := leaveSections_of_surplus hp hsurplus
      rw [hleft] at hrest
      cases hrest
    · intro s' hs'
      rw [hskip] at hs'
      cases hs'
    · intro e s' hs'
      rw [hskip] at hs'
      cases hs'
      exact ⟨cursor, hpasses, rfl, rfl⟩

/-- Marks in a run of their own characters, one section inside another, and a mark behind them. -/
theorem skipIgnored_takes_shortest_runs :
    let s := ofText "a.dtd" "<<![ ]]]> '\n]]]>]]>" "."
    let source : Source :=
      ⟨1, none, .dir ".", { name := "a.dtd", unread := .ofText "<<![ ]]]> '\n]]]>]]>" }⟩
    s.sources = [source] ∧ source.cursor.Shows "<<![ ]]]> '\n]]]>]]>".toList ∧
      ∃ s', s.skipIgnored = .ok () s' := by
  intro s source
  have hshows : source.cursor.Shows "<<![ ]]]> '\n]]]>]]>".toList := Cursor.shows_ofText _ _
  have hexists : ∃ p, p <+: "<<![ ]]]> '\n]]]>]]>".toList ∧ Surplus 1 p :=
    ⟨"<<![ ]]]> '\n]]]>".toList, by decide, by decide⟩
  exact ⟨rfl, hshows, (skipIgnored_takes_shortest rfl hshows).1.2 hexists⟩

end SourceStack

end Doctype
