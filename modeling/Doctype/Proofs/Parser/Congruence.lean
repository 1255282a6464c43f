import Doctype.Parser.Run

/-! Relations between the actions of two parses. What holds of the actions that take a lexeme, and is
kept when one action follows another, holds of everything that reads declarations. -/
namespace Doctype.Parser

/-- A relation between actions in two worlds that holds of the actions on single lexemes and of
failures, and is kept by sequences. -/
structure Congruence (w w' : World) (G : ∀ {α : Type}, ParserM α → ParserM α → Prop) : Prop where
  pure {α : Type} (a : α) : G (pure a) (pure a)
  bind {α β : Type} {m m' : ParserM α} {f f' : α → ParserM β} :
    G m m' → (∀ a, G (f a) (f' a)) → G (m >>= f) (m' >>= f')
  grammar {α : Type} (l : Location) (found expected : String) :
    G (fail (α := α) (.grammar l found expected)) (fail (.grammar l found expected))
  outOfFuel {α : Type} : G (throw .outOfFuel : ParserM α) (throw .outOfFuel)
  next : G (next w) (next w')
  peek : G (peek w) (peek w')

namespace Congruence

variable {w w' : World} {G : ∀ {α : Type}, ParserM α → ParserM α → Prop} {α β : Type}

theorem ite {c : Prop} [Decidable c] {m n m' n' : ParserM α} (hm : G m m') (hn : G n n') :
    G (if c then m else n) (if c then m' else n') := by
  split
  · exact hm
  · exact hn

variable (h : Congruence w w' G)

include h

theorem unexpected (l : Lexeme) (expected : String) :
    G (unexpected (α := α) l expected) (Parser.unexpected l expected) :=
  h.grammar _ _ _

theorem expectName (expected : String) :
    G (expectName w expected) (Parser.expectName w' expected) := by
  refine h.bind h.next fun l => ?_
  split
  · exact h.pure _
  · exact h.unexpected _ _

theorem expectLiteral (expected : String) :
    G (expectLiteral w expected) (Parser.expectLiteral w' expected) := by
  refine h.bind h.next fun l => ?_
  split
  · exact h.pure _
  · exact h.unexpected _ _

theorem expect (token : Token) (expected : String) :
    G (expect w token expected) (Parser.expect w' token expected) :=
  h.bind h.next fun _ => ite (h.pure _) (h.unexpected _ _)

theorem expectClose (opener : Lexeme) : G (expectClose w opener) (Parser.expectClose w' opener) :=
  h.bind (h.expect _ _) fun _ => ite (h.pure _) (h.unexpected _ _)

theorem occurrence : G (occurrence w) (Parser.occurrence w') := by
  have htake (o : Occurrence) : G (occurrence.take w o) (occurrence.take w' o) :=
    h.bind h.next fun _ => h.pure o
  refine h.bind h.peek fun t => ?_
  split
  · exact htake _
  · exact htake _
  · exact htake _
  · exact h.pure _

theorem mixedNames (fuel : Nat) (names : List String) :
    G (mixedNames w fuel names) (Parser.mixedNames w' fuel names) := by
  induction fuel generalizing names with
  | zero => exact h.outOfFuel
  | succ fuel ih =>
    refine h.bind h.next fun l => ?_
    split
    · exact h.bind (h.expectName _) fun b => ih _
    · exact h.pure _
    · exact h.unexpected _ _

theorem mixed (fuel : Nat) : G (mixed w fuel) (Parser.mixed w' fuel) := by
  refine h.bind (h.mixedNames fuel []) fun names => ite ?_ ?_
  · refine h.bind h.peek fun t => ite ?_ (h.pure _)
    exact h.bind h.next fun _ => h.pure _
  · exact h.bind (h.expect _ _) fun _ => h.pure _

theorem groups (fuel : Nat) :
    G (particle w fuel) (particle w' fuel) ∧ G (group w fuel) (group w' fuel) ∧
      ∀ separator items, G (groupItems w fuel separator items)
        (groupItems w' fuel separator items) := by
  induction fuel with
  | zero => exact ⟨h.outOfFuel, h.outOfFuel, fun _ _ => h.outOfFuel⟩
  | succ fuel ih =>
    obtain ⟨hparticle, hgroup, hitems⟩ := ih
    refine ⟨?_, ?_, fun separator items => ?_⟩
    · refine h.bind h.next fun l => ?_
      split
      · exact h.bind h.occurrence fun _ => h.pure _
      · exact hgroup
      · exact h.unexpected _ _
    · refine h.bind hparticle fun first => h.bind (hitems _ _) fun b => ?_
      exact h.bind h.occurrence fun _ => h.pure _
    · refine h.bind h.next fun l => ite (h.pure _) (ite (ite ?_ ?_) ?_)
      · exact h.bind hparticle fun item => hitems _ _
      · exact h.unexpected _ _
      · exact h.unexpected _ _

theorem contentSpec (fuel : Nat) : G (contentSpec w fuel) (Parser.contentSpec w' fuel) := by
  refine h.bind h.next fun l => ?_
  split
  · exact h.pure _
  · exact h.pure _
  · refine h.bind h.peek fun t => ite ?_ ?_
    · exact h.bind h.next fun _ => h.mixed fuel
    · exact h.bind (h.groups fuel).2.1 fun _ => h.pure _
  · exact h.unexpected _ _

theorem element (fuel : Nat) (opener : Lexeme) :
    G (element w fuel opener) (Parser.element w' fuel opener) := by
  refine h.bind (h.expectName _) fun b => h.bind (h.contentSpec fuel) fun content => ?_
  exact h.bind (h.expectClose opener) fun _ => h.pure _

theorem nameList (fuel : Nat) (names : List String) :
    G (nameList w fuel names) (Parser.nameList w' fuel names) := by
  induction fuel generalizing names with
  | zero => exact h.outOfFuel
  | succ fuel ih =>
    refine h.bind (h.expectName _) fun b => h.bind h.next fun l => ?_
    split
    · exact ih _
    · exact h.pure _
    · exact h.unexpected _ _

theorem attributeType (fuel : Nat) : G (attributeType w fuel) (Parser.attributeType w' fuel) := by
  refine h.bind h.next fun l => ?_
  split
  · exact h.bind (h.nameList fuel []) fun _ => h.pure _
  · refine h.bind (h.expect _ _) fun _ => ?_
    exact h.bind (h.nameList fuel []) fun _ => h.pure _
  · split
    · exact h.pure _
    · exact h.unexpected _ _
  · exact h.unexpected _ _

theorem defaultDecl : G (defaultDecl w) (Parser.defaultDecl w') := by
  refine h.bind h.next fun l => ?_
  split
  · exact h.pure _
  · exact h.pure _
  · exact h.pure _
  · exact h.bind (h.expectLiteral _) fun _ => h.pure _
  · exact h.unexpected _ _

theorem attributes (opener : Lexeme) (fuel : Nat) (defs : List (String × AttributeDef)) :
    G (attributes w opener fuel defs) (Parser.attributes w' opener fuel defs) := by
  induction fuel generalizing defs with
  | zero => exact h.outOfFuel
  | succ fuel ih =>
    refine h.bind h.peek fun t => ite ?_ ?_
    · exact h.bind (h.expectClose opener) fun _ => h.pure _
    · refine h.bind (h.expectName _) fun b => h.bind (h.attributeType fuel) fun type => ?_
      exact h.bind h.defaultDecl fun default => ih _

theorem attlist (fuel : Nat) (opener : Lexeme) :
    G (attlist w fuel opener) (Parser.attlist w' fuel opener) :=
  h.bind (h.expectName _) fun _ => h.bind (h.attributes opener fuel []) fun _ => h.pure _

theorem externalId (isPublic : Bool) :
    G (externalId w isPublic) (Parser.externalId w' isPublic) := by
  have hsystem (p : Option String) :
      G (do return ⟨p, ← Parser.expectLiteral w "a system identifier"⟩ : ParserM ExternalId)
        (do return ⟨p, ← Parser.expectLiteral w' "a system identifier"⟩) :=
    h.bind (h.expectLiteral _) fun _ => h.pure _
  refine ite (h.bind ?_ hsystem) (hsystem none)
  rw [← bind_pure_comp, ← bind_pure_comp]
  exact h.bind (h.expectLiteral _) fun _ => h.pure _

theorem definition (isParameter : Bool) :
    G (definition w isParameter) (Parser.definition w' isParameter) := by
  refine h.bind h.next fun l => ?_
  split
  · exact h.pure _
  · refine ite (h.bind (h.externalId _) fun id => h.bind h.peek fun t => ite ?_ (h.pure _)) ?_
    · exact h.bind h.next fun _ => h.bind (h.expectName _) fun _ => h.pure _
    · exact h.unexpected _ _
  · exact h.unexpected _ _

theorem entity (opener : Lexeme) : G (entity w opener) (Parser.entity w' opener) := by
  refine h.bind h.peek fun t => ?_
  have hrest : G (do
      let b ← Parser.expectName w "an entity name"
      let definition ← Parser.definition w (decide (t = .percent))
      Parser.expectClose w opener
      return if decide (t = .percent) then Item.parameter b.1 b.2 definition
        else .entity b.1 b.2 definition)
      (do
      let b ← Parser.expectName w' "an entity name"
      let definition ← Parser.definition w' (decide (t = .percent))
      Parser.expectClose w' opener
      return if decide (t = .percent) then Item.parameter b.1 b.2 definition
        else .entity b.1 b.2 definition) := by
    refine h.bind (h.expectName _) fun b => h.bind (h.definition _) fun definition => ?_
    exact h.bind (h.expectClose opener) fun _ => h.pure _
  exact ite (h.bind h.next fun _ => hrest) hrest

theorem notationIds : G (notationIds w) (Parser.notationIds w') := by
  refine h.bind h.next fun l => ?_
  split
  · exact h.bind (h.expectLiteral _) fun _ => h.pure _
  · refine h.bind (h.expectLiteral _) fun publicId => h.bind h.peek fun t => ?_
    split
    · exact h.bind (h.expectLiteral _) fun _ => h.pure _
    · exact h.pure _
  · exact h.unexpected _ _

theorem notationDecl (opener : Lexeme) :
    G (notationDecl w opener) (Parser.notationDecl w' opener) := by
  refine h.bind (h.expectName _) fun b => h.bind h.notationIds fun ids => ?_
  exact h.bind (h.expectClose opener) fun _ => h.pure _

theorem declaration (fuel : Nat) (keyword : Keyword) (opener : Lexeme) :
    G (declaration w fuel keyword opener) (Parser.declaration w' fuel keyword opener) := by
  cases keyword with
  | element => exact h.element fuel opener
  | attlist => exact h.attlist fuel opener
  | entity => exact h.entity opener
  | notation_ => exact h.notationDecl opener

theorem conditional (opener : Lexeme) : G (conditional w opener) (Parser.conditional w' opener) := by
  refine h.bind (h.expectName _) fun b => h.bind (h.expect _ _) fun bracket => ?_
  refine ite (h.unexpected _ _) (ite (h.pure _) (ite (h.pure _) ?_))
  exact h.grammar _ _ _

/-- It holds of reading the rest of an item. -/
theorem item (fuel : Nat) (l : Lexeme) : G (item w fuel l) (Parser.item w' fuel l) := by
  unfold Parser.item
  split
  · exact h.declaration fuel _ l
  · exact h.conditional l
  · exact h.pure _
  · exact h.pure _
  · exact h.pure _
  · exact h.unexpected _ _

/-- If it holds of the effects of items as well, it holds of reading all items. -/
theorem subset (happly : ∀ i : Item, G i.apply i.apply) (hfinish : ∀ l, G (finish l) (finish l))
    (fuel : Nat) : G (subset w fuel) (Parser.subset w' fuel) := by
  induction fuel with
  | zero => exact h.outOfFuel
  | succ fuel ih =>
    refine h.bind h.next fun l => ite (hfinish l) ?_
    exact h.bind (h.item fuel l) fun i => h.bind (happly i) fun _ => ih

end Congruence

end Doctype.Parser
