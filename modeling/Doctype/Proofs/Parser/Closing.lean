import Doctype.Proofs.Parser.Runs

/-! What is opened ends with a token from the source in which it has been opened. -/
namespace Doctype

/-- Whether an item is a markup declaration. -/
def Item.isDeclaration : Item → Bool
  | element .. | attlist .. | parameter .. | entity .. | notation_ .. => true
  | _ => false

/-- The lexemes of an item fit together: a declaration ends with a `>` from the source that it
begins in, and the `[` of a conditional section stands in the source of its `<![`. -/
inductive Item.Spans : List Lexeme → Item → Prop
  | declaration {opener closer : Lexeme} {body : List Lexeme} {keyword : Keyword} {i : Item} :
      opener.token = .decl keyword → closer.token = .close → closer.source = opener.source →
        i.isDeclaration → Spans (opener :: (body ++ [closer])) i
  | conditional {opener keyword bracket : Lexeme} {i : Item} :
      opener.token = .sectionOpen → bracket.token = .bracket → bracket.source = opener.source →
        i = .included opener ∨ i = .ignored opener → Spans [opener, keyword, bracket] i
  | sectionClose {closer : Lexeme} :
      closer.token = .sectionClose → Spans [closer] (.sectionClose closer)
  | comment {l : Lexeme} {text : String} : l.token = .comment text → Spans [l] .comment
  | instruction {l : Lexeme} {target data : String} :
      l.token = .instruction target data → Spans [l] (.instruction target data)

namespace Parser

/-- The last lexeme on the way is a `>` from the source of the opener. -/
def EndsClosed (w : World) (o : Lexeme) (p s : Parser) : Prop :=
  ∃ ls l, Trace w p ls s ∧ (p.peeked.toList ++ ls).getLast? = some l ∧ l.token = .close ∧
    l.source = o.source ∧ s.stack.sources ≠ []

/-- An action that succeeds closes what an opener has opened, and gives a value with a property. -/
def Closing {α : Type} (w : World) (o : Lexeme) (P : α → Prop) (m : ParserM α) : Prop :=
  ∀ ⦃p a s⦄, p.Sane → m p = .ok a s → EndsClosed w o p s ∧ P a

variable {w : World} {o l : Lexeme} {α β γ : Type} {P : α → Prop} {R : β → Prop}
  {p q : Parser} {i : Item}

section Combinators

variable {m m' : ParserM α}

theorem closing_throw {h : Halt} : Closing w o P (throw h) :=
  fun _ _ _ _ hs => nomatch hs

/-- What comes in front of the action that closes does not matter. -/
theorem Depends.closing {Q : α → γ → Prop} {n : ParserM γ} {f : α → ParserM β}
    (h : Depends w o o False Q m n) (hf : ∀ a, Closing w o R (f a)) : Closing w o R (m >>= f) := by
  intro p b u hp hbind
  obtain ⟨a, s, hs, hu⟩ := exists_of_bind hbind
  obtain ⟨hsane, -, ls, htrace, -⟩ := h hp hs
  obtain ⟨⟨ms, l, htrace', hlast, hclose, hsource, hne⟩, hb⟩ := hf a hsane hu
  have hlast' := htrace.last (htrace'.pulls.sources hne) hlast
  exact ⟨⟨ls ++ ms, l, htrace.trans htrace', hlast', hclose, hsource, hne⟩, hb⟩

theorem Closing.map {f : α → β} (h : Closing w o P m) (hf : ∀ a, P a → R (f a)) :
    Closing w o R (m >>= fun a => pure (f a)) := by
  intro p b u hp hbind
  obtain ⟨a, s, hs, hu⟩ := exists_of_bind hbind
  cases hu
  obtain ⟨hends, ha⟩ := h hp hs
  exact ⟨hends, hf a ha⟩

theorem Closing.ite {c : Prop} [Decidable c] (hm : Closing w o P m) (hm' : Closing w o P m') :
    Closing w o P (if c then m else m') := by
  split
  · exact hm
  · exact hm'

end Combinators

theorem closing_expectClose : Closing w o (fun _ => True) (expectClose w o) := by
  intro p a s hp hbind
  obtain ⟨l, u, hexpect, hu⟩ := exists_of_bind hbind
  obtain ⟨hn, htoken⟩ := expect_ok hexpect
  obtain ⟨-, hlex, ls, htrace, hlast, -⟩ := @next_ok w o o _ _ _ hp hn
  split at hu
  · rename_i hsource
    cases hu
    rcases hlex with ⟨-, hne⟩ | heof
    · exact ⟨⟨ls, l, htrace, hlast hne, htoken, hsource, hne⟩, trivial⟩
    · rw [htoken] at heof
      cases heof
  · cases hu

section Declarations

variable (fuel : Nat)

theorem closing_element : Closing w o (·.isDeclaration = true) (element w fuel o) := by
  refine depends_expectName.closing fun b => ?_
  refine (depends_contentSpec (le_refl fuel)).closing fun content => ?_
  exact closing_expectClose.map fun _ _ => rfl

theorem closing_attributes (defs : List (String × AttributeDef)) :
    Closing w o (fun _ => True) (attributes w o fuel defs) := by
  induction fuel generalizing defs with
  | zero => exact closing_throw
  | succ fuel ih =>
    refine depends_peek.closing fun t => Closing.ite ?_ ?_
    · exact closing_expectClose.map fun _ _ => trivial
    · refine depends_expectName.closing fun b => ?_
      refine (depends_attributeType (le_refl fuel)).closing fun type => ?_
      exact depends_defaultDecl.closing fun default => ih _

theorem closing_attlist : Closing w o (·.isDeclaration = true) (attlist w fuel o) := by
  refine depends_expectName.closing fun b => ?_
  exact (closing_attributes fuel []).map fun _ _ => rfl

theorem closing_entity : Closing w o (·.isDeclaration = true) (entity w o) := by
  refine depends_peek.closing fun t => ?_
  have hrest : Closing w o (·.isDeclaration = true) (do
      let b ← expectName w "an entity name"
      let definition ← definition w (decide (t = .percent))
      expectClose w o
      return if decide (t = .percent) then Item.parameter b.1 b.2 definition
        else .entity b.1 b.2 definition) := by
    refine depends_expectName.closing fun b => ?_
    refine depends_definition.closing fun definition => ?_
    refine closing_expectClose.map fun _ _ => ?_
    split <;> rfl
  refine Closing.ite ?_ hrest
  exact depends_next.closing fun _ => hrest

theorem closing_notationDecl : Closing w o (·.isDeclaration = true) (notationDecl w o) := by
  refine depends_expectName.closing fun b => ?_
  refine depends_notationIds.closing fun ids => ?_
  exact closing_expectClose.map fun _ _ => rfl

/-- A markup declaration closes what it has opened. -/
theorem closing_declaration (keyword : Keyword) :
    Closing w o (·.isDeclaration = true) (declaration w fuel keyword o) := by
  cases keyword with
  | element => exact closing_element fuel
  | attlist => exact closing_attlist fuel
  | entity => exact closing_entity
  | notation_ => exact closing_notationDecl

end Declarations

theorem expectName_ok {expected : String} {b : String × Location}
    (h : expectName w expected p = .ok b q) : ∃ l, next w p = .ok l q ∧ l.token = .name b.1 := by
  obtain ⟨l, s, hn, hs⟩ := exists_of_bind h
  generalize ht : l.token = t at hs
  split at hs
  · cases hs
    exact ⟨l, hn, ht⟩
  · cases hs

/-- The head of a conditional section consists of a keyword and a `[` from the source of the
opener. -/
theorem conditional_ok (hp : p.peeked = none) (h : conditional w o p = .ok i q) :
    ∃ keyword bracket, p.stack.Pulls w p.entities [keyword, bracket] q.stack ∧
      bracket.token = .bracket ∧ bracket.source = o.source ∧
        (i = .included o ∨ i = .ignored o) := by
  obtain ⟨b, s, hname, h⟩ := exists_of_bind h
  obtain ⟨bracket, u, hexpect, hu⟩ := exists_of_bind h
  obtain ⟨keyword, hn, hkeyword⟩ := expectName_ok hname
  obtain ⟨hn', hbracket⟩ := expect_ok hexpect
  have heof : keyword.token ≠ .endOfInput := by
    rw [hkeyword]
    exact nofun
  rw [next_of_none hp] at hn
  obtain ⟨hnext, hs⟩ := scan_ok hn
  have hpeek : s.peeked = none := by rw [hs, hp]
  have hentities : s.entities = p.entities := by rw [hs]
  rw [next_of_none hpeek] at hn'
  obtain ⟨hnext', -⟩ := scan_ok hn'
  rw [hentities] at hnext'
  obtain ⟨hne', -, hne⟩ := open_of_next hnext heof
  have hsource : bracket.source = o.source ∧ (i = .included o ∨ i = .ignored o) ∧ q = u := by
    split at hu
    · cases hu
    · rename_i hsource
      refine ⟨not_not.1 hsource, ?_⟩
      split at hu
      · cases hu
        exact ⟨.inl rfl, rfl⟩
      · split at hu
        · cases hu
          exact ⟨.inr rfl, rfl⟩
        · cases hu
  obtain ⟨hsource, hi, rfl⟩ := hsource
  exact ⟨keyword, bracket, .cons hne' hnext (.cons hne hnext' (.nil _)), hbracket, hsource, hi⟩

/-- An item spans the lexemes that are read for it. -/
theorem spans_of_item {fuel : Nat} {p₁ p₂ : Parser} {ls : List Lexeme} (hp : p.peeked = none)
    (hn : next w p = .ok l p₁) (hi : item w fuel l p₁ = .ok i p₂)
    (hpulls : p.stack.Pulls w p.entities (l :: ls) p₂.stack) :
    i.Spans (l :: ls) := by
  rw [next_of_none hp] at hn
  obtain ⟨hnext, hp₁⟩ := scan_ok hn
  have hpeek : p₁.peeked = none := by rw [hp₁, hp]
  have hentities : p₁.entities = p.entities := by rw [hp₁]
  have hsane := sane_of_peeked hpeek
  cases hpulls with
  | @cons _ k _ _ _ hne hnext' hrest =>
    rw [hnext] at hnext'
    cases hnext'
    -- whatever is read for the rest of the item are these lexemes
    have hsame {ms : List Lexeme} (h : p₁.stack.Pulls w p₁.entities ms p₂.stack) : ms = ls := by
      rw [hentities] at h
      exact h.unique hrest
    unfold item at hi
    generalize htoken : l.token = token at hi
    split at hi
    · rename_i keyword
      obtain ⟨⟨ms, closer, htrace, hlast, hclose, hsource, -⟩, hdeclaration⟩ :=
        closing_declaration fuel keyword hsane hi
      rw [hpeek] at hlast
      obtain rfl := hsame htrace.pulls
      obtain ⟨body, hbody⟩ := List.getLast?_eq_some_iff.1 hlast
      have hbody' : ms = body ++ [closer] := hbody
      rw [hbody']
      exact .declaration htoken hclose hsource hdeclaration
    · obtain ⟨keyword, bracket, hms, hbracket, hsource, hitem⟩ := conditional_ok hpeek hi
      obtain rfl := hsame hms
      exact .conditional htoken hbracket hsource hitem
    · cases hi
      obtain rfl := hsame (.nil _)
      exact .sectionClose htoken
    · cases hi
      obtain rfl := hsame (.nil _)
      exact .comment htoken
    · cases hi
      obtain rfl := hsame (.nil _)
      exact .instruction htoken
    · cases hi

end Parser

end Doctype
