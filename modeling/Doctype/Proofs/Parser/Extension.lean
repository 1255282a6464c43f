import Doctype.Proofs.Print.Roundtrip

/-! A longer DTD declares what a DTD at its beginning declares, and maybe more behind it. -/
namespace Doctype

/-- The specimen without its instruction. -/
def DocumentType.draft : DocumentType :=
  { specimen with instructions := [] }

namespace Parser

variable {w : World} {p q e : Parser} {options : Options} {name A B : String} {m m' : DocumentType}

theorem Advances.extends (h : Advances w p q) (hp : p.peeked = none) : p.model.Extends q.model := by
  obtain ⟨l, ls, i, k, -, ha⟩ := h.reads hp
  exact Item.extends_of_declares (effect_of_apply ha).declares

theorem Reaches.extends (h : Reaches w p q) (hp : p.peeked = none) : p.model.Extends q.model := by
  induction h with
  | refl => exact .refl _
  | tail hr hq ih => exact ih.trans (hq.extends (Reaches.peeked hr hp))

/-- On the way to its end a parse declares behind what it has declared. -/
theorem Completes.extends (h : Completes w p e) (hp : p.peeked = none) :
    p.model.Extends e.model ∧ p.entities.Kept e.entities := by
  obtain ⟨r, hr, he⟩ := h
  obtain ⟨hdeclared, -, -⟩ := he.declared (hr.peeked hp)
  injection hdeclared with hentities hmodel
  have hkept := hr.kept hp
  rw [hentities, hmodel]
  exact ⟨hr.extends hp, hkept.entities⟩

theorem parses_draft :
    Parses bare { keepInstructions := true } "a.dtd"
      "<!ENTITY % e \"<!ELEMENT b ANY>\n\">\n<!ELEMENT b ANY>\n" .draft := by
  have hu : ({ keepInstructions := true } : Options).Usable bare := nofun
  have ht : DocumentType.draft.parameters.Sound := EntityTable.sound_value (by decide)
  have hm : DocumentType.draft.Sound true :=
    { DocumentType.sound_specimen with instructions := nofun }
  have hplain : DocumentType.draft.Plain := { DocumentType.plain_specimen with }
  have htext : DocumentType.draft.text =
      "<!ENTITY % e \"<!ELEMENT b ANY>\n\">\n<!ELEMENT b ANY>\n" := by decide
  rw [← htext]
  exact parses_of_normalized ht hm hplain hu rfl "a.dtd"

/-- A DTD at the beginning of a longer one declares the beginning of what the longer one declares:
of each kind in the same order, the attributes of each element among them. Its parameter entities
stay as they are. -/
theorem parses_append_extends (hA : Parses w options name A m)
    (hAB : Parses w options name (A ++ B) m') : m.Extends m' ∧ m.parameters.Kept m'.parameters := by
  obtain ⟨-, eA, ⟨pA, hrA, heA⟩, rfl⟩ := parses_iff_completes.1 hA
  obtain ⟨-, eB, heB, rfl⟩ := parses_iff_completes.1 hAB
  obtain ⟨r, hmeets, hiff⟩ := start_append B hrA heA
  have hcompletes : Completes w r eB := (hiff eB).1 heB
  obtain ⟨hextends, hkept⟩ := hcompletes.extends hmeets.stands'.peeked
  have hdeclared : eA.declared = r.declared := hmeets.declared
  injection hdeclared with hentities hmodel
  rw [← hentities] at hkept
  rw [← hmodel] at hextends
  exact ⟨{ hextends with attributes := hextends.attributes }, hkept⟩

theorem parses_append_extends_specimen :
    Parses bare { keepInstructions := true } "a.dtd"
        "<!ENTITY % e \"<!ELEMENT b ANY>\n\">\n<!ELEMENT b ANY>\n" .draft ∧
      Parses bare { keepInstructions := true } "a.dtd"
        ("<!ENTITY % e \"<!ELEMENT b ANY>\n\">\n<!ELEMENT b ANY>\n" ++ "<?p x?>\n") .specimen ∧
      DocumentType.draft.Extends .specimen ∧
      DocumentType.draft.parameters.Kept DocumentType.specimen.parameters :=
  ⟨parses_draft, parses_specimen,
    parses_append_extends (B := "<?p x?>\n") parses_draft parses_specimen⟩

end Parser

end Doctype
