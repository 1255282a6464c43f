import Doctype.Proofs.Parser.ContentGrammar
import Doctype.Proofs.Print.Roundtrip
import Doctype.Proofs.Template.Filling
import Mathlib.Data.List.Chain

/-! The comments of a stylesheet. The rule of an element begins with a comment that holds its name and
its content as written. The parentheses, separators and indicators of a content part the names in it
from each other, so that two hyphens in a row, which no comment may hold, only come from a name. -/
namespace Doctype

/-- No two hyphens in a row. -/
def LoneHyphens (cs : List Char) : Prop :=
  ¬['-', '-'] <:+: cs

/-- What may stand between the marks of a comment. -/
structure IsCommentBody (s : String) : Prop where
  lone : LoneHyphens s.toList
  getLast_ne : s.toList.getLast? ≠ some '-'

section Hyphens

variable {c : Char} {cs ds : List Char}

theorem loneHyphens_iff_isChain : LoneHyphens cs ↔ cs.IsChain fun c d => ¬(c = '-' ∧ d = '-') := by
  unfold LoneHyphens
  induction cs with
  | nil => simp
  | cons c cs ih =>
    rw [List.infix_cons_iff, not_or, ih, List.isChain_cons]
    cases cs with
    | nil => simp
    | cons d ds => simp [List.cons_prefix_cons, eq_comm]

instance (cs : List Char) : Decidable (LoneHyphens cs) :=
  decidable_of_iff _ loneHyphens_iff_isChain.symm

theorem loneHyphens_append :
    LoneHyphens (cs ++ ds) ↔
      LoneHyphens cs ∧ LoneHyphens ds ∧ ¬('-' ∈ cs.getLast? ∧ '-' ∈ ds.head?) := by
  rw [loneHyphens_iff_isChain, loneHyphens_iff_isChain, loneHyphens_iff_isChain, List.isChain_append]
  have hseam : (∀ x ∈ cs.getLast?, ∀ y ∈ ds.head?, ¬(x = '-' ∧ y = '-')) ↔
      ¬('-' ∈ cs.getLast? ∧ '-' ∈ ds.head?) := by
    constructor
    · exact fun h hboth => h '-' hboth.1 '-' hboth.2 ⟨rfl, rfl⟩
    · rintro h _ hx _ hy ⟨rfl, rfl⟩
      exact h ⟨hx, hy⟩
  rw [hseam]

/-- Another character parts what stands before it from what stands behind it. -/
theorem loneHyphens_append_cons (hc : c ≠ '-') :
    LoneHyphens (cs ++ c :: ds) ↔ LoneHyphens cs ∧ LoneHyphens ds := by
  have hcons : LoneHyphens (c :: ds) ↔ LoneHyphens ds := by
    rw [loneHyphens_iff_isChain, loneHyphens_iff_isChain, List.isChain_cons]
    exact and_iff_right fun _ _ hboth => hc hboth.1
  have hseam : ¬('-' ∈ cs.getLast? ∧ '-' ∈ (c :: ds).head?) := fun hboth =>
    hc (Option.some.inj hboth.2)
  rw [loneHyphens_append, hcons, and_iff_left hseam]

theorem loneHyphens_cons (hc : c ≠ '-') : LoneHyphens (c :: ds) ↔ LoneHyphens ds := by
  have hnil : LoneHyphens [] := by decide
  rw [← List.nil_append (c :: ds), loneHyphens_append_cons hc, and_iff_right hnil]

theorem loneHyphens_append_flatMap {α : Type} {f : α → List Char} (hc : c ≠ '-') {items : List α} :
    LoneHyphens (cs ++ items.flatMap fun item => c :: f item) ↔
      LoneHyphens cs ∧ ∀ item ∈ items, LoneHyphens (f item) := by
  induction items generalizing cs with
  | nil => simp
  | cons item items ih =>
    rw [List.flatMap_cons, List.cons_append, loneHyphens_append_cons hc, ih, List.forall_mem_cons]

theorem loneHyphens_append_occurrence (o : Occurrence) :
    LoneHyphens (cs ++ o.text.toList) ↔ LoneHyphens cs := by
  have hnil : LoneHyphens [] := by decide
  cases o with
  | once => exact iff_of_eq (congrArg LoneHyphens (List.append_nil cs))
  | optional => exact (loneHyphens_append_cons (c := '?') (by decide)).trans (and_iff_left hnil)
  | zeroOrMore => exact (loneHyphens_append_cons (c := '*') (by decide)).trans (and_iff_left hnil)
  | oneOrMore => exact (loneHyphens_append_cons (c := '+') (by decide)).trans (and_iff_left hnil)

end Hyphens

namespace Particle

variable {c : Char}

/-- The parentheses and separators of a group hold no hyphen. -/
theorem loneHyphens_group {s : String} (hs : s.toList = [c]) (hc : c ≠ '-') (items : List Particle)
    (o : Occurrence) :
    LoneHyphens ("(" ++ s.intercalate (texts items) ++ ")" ++ o.text).toList ↔
      ∀ item ∈ items, LoneHyphens item.text.toList := by
  have hnil : LoneHyphens [] := by decide
  have hitems : LoneHyphens (s.intercalate (texts items)).toList ↔
      ∀ item ∈ items, LoneHyphens item.text.toList := by
    cases items with
    | nil => exact iff_of_true hnil nofun
    | cons item items =>
      rw [Parser.toList_intercalate s hs, List.forall_mem_cons]
      exact loneHyphens_append_flatMap hc
  have hgroup : ("(" ++ s.intercalate (texts items) ++ ")" ++ o.text).toList =
      '(' :: (s.intercalate (texts items)).toList ++ ')' :: [] ++ o.text.toList := by
    simp
  have hopen : '(' ≠ '-' := by decide
  have hclose : ')' ≠ '-' := by decide
  rw [hgroup, loneHyphens_append_occurrence, loneHyphens_append_cons hclose, loneHyphens_cons hopen,
    and_iff_left hnil, hitems]

-- the names are collected in the recursion in which a particle is written
mutual

/-- A particle as written has hyphens in a row exactly if one of its names has. -/
theorem loneHyphens_addNames (p : Particle) (names : List String) :
    (∀ n ∈ p.addNames names, LoneHyphens n.toList) ↔
      (∀ n ∈ names, LoneHyphens n.toList) ∧ LoneHyphens p.text.toList := by
  cases p with
  | element name occurs =>
    rw [addNames, forall_mem_addName, text, String.toList_append, loneHyphens_append_occurrence]
  | seq items occurs =>
    have hcomma : ",".toList = [','] := rfl
    have hitems := loneHyphens_addAllNames items names
    rw [addNames, text, hitems, loneHyphens_group hcomma (by decide)]
  | choice items occurs =>
    have hpipe : "|".toList = ['|'] := rfl
    have hitems := loneHyphens_addAllNames items names
    rw [addNames, text, hitems, loneHyphens_group hpipe (by decide)]

theorem loneHyphens_addAllNames (items : List Particle) (names : List String) :
    (∀ n ∈ addAllNames names items, LoneHyphens n.toList) ↔
      (∀ n ∈ names, LoneHyphens n.toList) ∧ ∀ item ∈ items, LoneHyphens item.text.toList := by
  cases items with
  | nil => simp [addAllNames]
  | cons item items =>
    have hitem := loneHyphens_addNames item names
    have hitems := loneHyphens_addAllNames items (addNames names item)
    rw [addAllNames, hitems, hitem, List.forall_mem_cons, and_assoc]

end

end Particle

/-- A content as written has hyphens in a row exactly if one of the names that it mentions has. -/
theorem ContentSpec.loneHyphens_text (content : ContentSpec) :
    LoneHyphens content.text.toList ↔ ∀ name ∈ content.childNames, LoneHyphens name.toList := by
  cases content with
  | empty => exact iff_of_true (by decide) nofun
  | any => exact iff_of_true (by decide) nofun
  | children particle =>
    rw [childNames, Particle.loneHyphens_addNames]
    exact (and_iff_right nofun).symm
  | mixed names =>
    have hmem (name : String) : name ∈ (mixed names).childNames ↔ name ∈ names := by
      rw [childNames, Particle.foldl_addName, List.mem_eraseDups]
    simp only [hmem]
    cases names with
    | nil => exact iff_of_true (by decide) nofun
    | cons first names =>
      have htext : (mixed (first :: names)).text.toList =
          "(#PCDATA".toList ++ ((first :: names).flatMap fun name => '|' :: name.toList) ++ ')' :: ['*'] := by
        simp [text, String.toList_join, List.flatMap_map]
      have hpipe : '|' ≠ '-' := by decide
      have hclose : ')' ≠ '-' := by decide
      have hfront : LoneHyphens "(#PCDATA".toList := by decide
      have hend : LoneHyphens ['*'] := by decide
      rw [htext, loneHyphens_append_cons hclose, loneHyphens_append_flatMap hpipe, and_iff_left hend,
        and_iff_right hfront]

namespace Stylesheet

/-- What stands in the comment in front of the rule of an element. -/
def comment (b : String × ContentSpec) : String :=
  " " ++ b.1 ++ ": " ++ b.2.text ++ " "

theorem isCommentBody_comment (b : String × ContentSpec) :
    IsCommentBody (comment b) ↔ ∀ name ∈ b.1 :: b.2.childNames, LoneHyphens name.toList := by
  have hcolon : ':' ≠ '-' := by decide
  have hspace : ' ' ≠ '-' := by decide
  have hnil : LoneHyphens [] := by decide
  have htext : (comment b).toList = ' ' :: b.1.toList ++ ':' :: ' ' :: b.2.text.toList ++ ' ' :: [] := by
    simp [comment]
  have hlast : (comment b).toList.getLast? ≠ some '-' := by
    rw [htext, List.getLast?_concat]
    exact fun h => hspace (Option.some.inj h)
  have hlone : LoneHyphens (comment b).toList ↔ LoneHyphens b.1.toList ∧ LoneHyphens b.2.text.toList := by
    rw [htext, loneHyphens_append_cons hspace, loneHyphens_append_cons hcolon, loneHyphens_cons hspace,
      loneHyphens_cons hspace, and_iff_left hnil]
  rw [List.forall_mem_cons, ← b.2.loneHyphens_text, ← hlone]
  exact ⟨fun h => h.lone, fun h => ⟨h, hlast⟩⟩

/-- The rule of an element begins with a comment, whatever the document type is. What stands in it is fit
for a comment exactly if neither the name of the element nor a name in its content has two hyphens in a
row. -/
theorem elementText_comment (d : DocumentType) (b : String × ContentSpec) :
    ∃ rest, elementText (Templates.builtin .xslt) d b = .ok ("\n  <!--" ++ comment b ++ "-->" ++ rest) ∧
      (IsCommentBody (comment b) ↔ ∀ name ∈ b.1 :: b.2.childNames, LoneHyphens name.toList) := by
  obtain ⟨rest, htext⟩ := elementText_builtin d b
  refine ⟨rest, ?_, isCommentBody_comment b⟩
  rw [htext, Except.ok.injEq, ← String.toList_inj]
  simp [comment]

end Stylesheet

/-- An element whose name has two hyphens in a row. -/
def DocumentType.dashed : DocumentType where
  elements := [("a--b", .empty)]

namespace Parser

theorem parses_dashed : Parses bare {} "a.dtd" "<!ELEMENT a--b EMPTY>\n" .dashed := by
  have hu : ({} : Options).Usable bare := nofun
  have hname : Nmtoken "a--b" := nmtoken_of_isName (by decide)
  have hm : DocumentType.dashed.Sound false := ⟨.singleton hname trivial, .empty, .empty, .empty, nofun⟩
  have hplain : DocumentType.dashed.Plain := ⟨nofun, nofun⟩
  have htext : DocumentType.dashed.text = "<!ELEMENT a--b EMPTY>\n" := by decide
  rw [← htext]
  exact parses_of_normalized EntityTable.sound_empty hm hplain hu rfl "a.dtd"

/-- The name of an element can break the comment in front of its rule. -/
theorem exists_element_not_isCommentBody :
    Parses bare {} "a.dtd" "<!ELEMENT a--b EMPTY>\n" .dashed ∧
      ∃ b ∈ DocumentType.dashed.elements, ∃ body rest,
        Stylesheet.elementText (Templates.builtin .xslt) .dashed b =
          .ok ("\n  <!--" ++ body ++ "-->" ++ rest) ∧
        body = " a--b: EMPTY " ∧ ¬IsCommentBody body := by
  obtain ⟨rest, htext⟩ := Stylesheet.elementText_builtin .dashed ("a--b", .empty)
  refine ⟨parses_dashed, _, List.mem_singleton.2 rfl, " a--b: EMPTY ", rest, ?_, rfl, ?_⟩
  · rw [htext]
    rfl
  · exact fun hbody => absurd hbody.lone (by decide)

end Parser

end Doctype
