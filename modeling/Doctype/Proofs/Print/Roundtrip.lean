import Doctype.FileTree
import Doctype.Proofs.Print.Rebuilding
import Doctype.Proofs.Print.Regrouping

/-! The normalised DTD declares what it has been printed from. -/
namespace Doctype

/-- The values of the entities can be printed between quotes, and hold no references. -/
structure DocumentType.Plain (d : DocumentType) : Prop where
  parameters : ∀ b ∈ d.parameters.values, Quotable b.2 ∧ EntityTable.Inert b.2
  entities : ∀ b ∈ d.entities, ∀ value, b.2 = .internal value →
    Quotable value ∧ EntityTable.Inert value

/-- The declarations that are printed in front of the elements. -/
def DocumentType.generals (d : DocumentType) : DocumentType :=
  { entities := d.entities, notations := d.notations }

namespace Parser

variable {keep : Bool} {t : EntityTable} {d : DocumentType} (w : World) (source : Source)

theorem rebuilds_values (ht : t.Sound)
    (hplain : ∀ b ∈ t.values, Quotable b.2 ∧ EntityTable.Inert b.2) :
    Rebuilds w source keep ({}, {}) ((t.values.map DocumentType.valueText).flatMap String.toList)
      ({ t with uris := [] }, {}) := by
  apply Rebuilds.all DocumentType.valueText fun done => ({ values := done }, {})
  intro done x todo hvalues
  have hmem : x ∈ t.values := by
    rw [hvalues]
    exact List.mem_append_right _ List.mem_cons_self
  have hname : isName x.1 = true := by
    apply ht.names
    apply EntityTable.contains_iff.2
    exact .inl (Bindings.has_iff.2 (List.mem_map_of_mem hmem))
  have hsorted : Bindings.Sorted (done ++ x :: todo) := hvalues ▸ ht.values
  have hfree : ({ values := done } : EntityTable).contains x.1 = false := by
    apply EntityTable.contains_eq_false_iff.2
    exact ⟨Bindings.not_has_of_nodup hsorted.nodup, rfl⟩
  exact rebuilds_value hname (hplain x hmem) hfree (Bindings.lt_of_sorted hsorted)

theorem rebuilds_uris (ht : t.Sound) :
    Rebuilds w source keep ({ t with uris := [] }, {})
      ((t.uris.map DocumentType.uriText).flatMap String.toList) (t, {}) := by
  apply Rebuilds.all DocumentType.uriText fun done => ({ t with uris := done }, {})
  intro done x todo huris
  have hmem : x ∈ t.uris := by
    rw [huris]
    exact List.mem_append_right _ List.mem_cons_self
  have hhas : t.uris.has x.1 = true := Bindings.has_iff.2 (List.mem_map_of_mem hmem)
  have hname : isName x.1 = true := ht.names _ (EntityTable.contains_iff.2 (.inr hhas))
  have hsorted : Bindings.Sorted (done ++ x :: todo) := huris ▸ ht.uris
  have hvalues : t.values.has x.1 = false := by
    rw [← Bool.not_eq_true]
    intro hvalue
    rw [ht.disjoint _ hvalue] at hhas
    cases hhas
  have hfree : ({ t with uris := done } : EntityTable).contains x.1 = false := by
    apply EntityTable.contains_eq_false_iff.2
    exact ⟨hvalues, Bindings.not_has_of_nodup hsorted.nodup⟩
  exact rebuilds_uri hname (ht.quotable x hmem) hfree (Bindings.lt_of_sorted hsorted)

theorem rebuilds_notations (hd : d.Sound keep) :
    Rebuilds w source keep (t, {})
      ((d.notations.map DocumentType.notationText).flatMap String.toList)
      (t, { notations := d.notations }) := by
  apply Rebuilds.all DocumentType.notationText fun done => (t, { notations := done })
  intro done x todo hnotations
  have hmem : x ∈ d.notations := by
    rw [hnotations]
    exact List.mem_append_right _ List.mem_cons_self
  have hfree : Bindings.has done x.1 = false :=
    Bindings.not_has_of_nodup (hnotations ▸ hd.notations.nodup)
  exact rebuilds_notation (hd.notations.names x hmem) (hd.notations.values x hmem) hfree

theorem rebuilds_entities (hd : d.Sound keep) (hplain : d.Plain) :
    Rebuilds w source keep (t, { notations := d.notations })
      ((d.entities.map DocumentType.entityText).flatMap String.toList) (t, d.generals) := by
  apply Rebuilds.all DocumentType.entityText fun done => (t, { d.generals with entities := done })
  intro done x todo hentities
  have hmem : x ∈ d.entities := by
    rw [hentities]
    exact List.mem_append_right _ List.mem_cons_self
  have hfree : Bindings.has done x.1 = false :=
    Bindings.not_has_of_nodup (hentities ▸ hd.entities.nodup)
  exact rebuilds_entity (hd.entities.names x hmem) (hd.entities.values x hmem)
    (hplain.entities x hmem) hfree

theorem rebuilds_elements (hd : d.Sound keep) :
    Rebuilds w source keep (t, d.generals) ((d.elements.map d.elementText).flatMap String.toList)
      (t, { d.generals with elements := d.elements, attlists := d.listed d.elements }) := by
  apply Rebuilds.all d.elementText fun done =>
    (t, { d.generals with elements := done, attlists := d.listed done })
  intro done x todo helements
  have hmem : x ∈ d.elements := by
    rw [helements]
    exact List.mem_append_right _ List.mem_cons_self
  have hname := hd.elements.names x hmem
  have hfree : Bindings.has done x.1 = false :=
    Bindings.not_has_of_nodup (helements ▸ hd.elements.nodup)
  have helement : Rebuilds w source keep
      (t, { d.generals with elements := done, attlists := d.listed done })
      ("<!ELEMENT " ++ x.1 ++ " " ++ x.2.text ++ ">\n").toList
      (t, { d.generals with elements := done ++ [x], attlists := d.listed done }) :=
    rebuilds_element hname (hd.elements.values x hmem) hfree rfl
  unfold DocumentType.elementText
  rw [String.toList_append]
  apply helement.append
  rw [DocumentType.listed_append]
  -- an element without attributes is printed without a list of them
  cases hlist : d.attlists.get? x.1 with
  | none =>
    rw [Option.map_none, Option.toList_none, List.append_nil]
    exact .nil
  | some list =>
    have hproper : Bindings.Proper AttributeDef.Shaped (x.1, list).2 := hd.attlists.of_get? hlist
    have hnot : Bindings.has (d.listed done) x.1 = false := by
      rw [Bindings.has_eq_false_iff] at hfree ⊢
      exact fun hx => hfree ((DocumentType.names_listed_sublist d done).subset hx)
    exact rebuilds_attlist hname hproper hnot

theorem rebuilds_attlists (hd : d.Sound keep) :
    Rebuilds w source keep
      (t, { d.generals with elements := d.elements, attlists := d.listed d.elements })
      (((d.attlists.filter fun b => !d.elements.has b.1).map DocumentType.attlistText).flatMap
        String.toList)
      (t, { d.generals with elements := d.elements, attlists := d.regrouped }) := by
  have hstart : d.listed d.elements = d.listed d.elements ++ [] := (List.append_nil _).symm
  rw [hstart]
  apply Rebuilds.all DocumentType.attlistText fun done =>
    (t, { d.generals with elements := d.elements, attlists := d.listed d.elements ++ done })
  intro done x todo hothers
  have hmem : x ∈ d.attlists := by
    have hx : x ∈ d.attlists.filter fun b => !d.elements.has b.1 := by
      rw [hothers]
      exact List.mem_append_right _ List.mem_cons_self
    exact List.mem_of_mem_filter hx
  have hperm := DocumentType.regrouped_perm hd.elements.nodup hd.attlists.nodup
  have hnodup : d.regrouped.names.Nodup := (hperm.map Prod.fst).nodup_iff.2 hd.attlists.nodup
  have hfree : Bindings.has (d.listed d.elements ++ done) x.1 = false := by
    unfold DocumentType.regrouped at hnodup
    rw [hothers, ← List.append_assoc] at hnodup
    exact Bindings.not_has_of_nodup hnodup
  rw [← List.append_assoc]
  exact rebuilds_attlist (hd.attlists.names x hmem) (hd.attlists.values x hmem) hfree

theorem rebuilds_instructions {m : DocumentType} (hd : d.Sound keep) (hm : m.instructions = []) :
    Rebuilds w source keep (t, m)
      ((d.instructions.map DocumentType.instructionText).flatMap String.toList)
      (t, { m with instructions := d.instructions }) := by
  have hstart : m = { m with instructions := [] } := by rw [← hm]
  rw [hstart]
  apply Rebuilds.all DocumentType.instructionText fun done => (t, { m with instructions := done })
  intro done x todo hinstructions
  have hmem : x ∈ d.instructions := by
    rw [hinstructions]
    exact List.mem_append_right _ List.mem_cons_self
  obtain ⟨hkeep, htarget, hshaped⟩ := hd.instructions x hmem
  exact rebuilds_instruction hkeep htarget hshaped

/-- Whoever reads a normalised DTD declares everything that is in it. -/
theorem rebuilds_text (ht : d.parameters.Sound) (hd : d.Sound keep) (hplain : d.Plain) :
    Rebuilds w source keep ({}, {}) d.text.toList
      (d.parameters, { d.normalized with parameters := {} }) := by
  have htext : d.text.toList =
      (d.parameters.values.map DocumentType.valueText).flatMap String.toList ++
        (d.parameters.uris.map DocumentType.uriText).flatMap String.toList ++
        (d.notations.map DocumentType.notationText).flatMap String.toList ++
        (d.entities.map DocumentType.entityText).flatMap String.toList ++
        (d.elements.map d.elementText).flatMap String.toList ++
        ((d.attlists.filter fun b => !d.elements.has b.1).map DocumentType.attlistText).flatMap
          String.toList ++
        (d.instructions.map DocumentType.instructionText).flatMap String.toList := by
    unfold DocumentType.text
    rw [String.toList_join]
    simp only [List.flatMap_append]
  rw [htext]
  exact (rebuilds_values w source ht hplain.parameters)
    |>.append (rebuilds_uris w source ht)
    |>.append (rebuilds_notations w source hd)
    |>.append (rebuilds_entities w source hd hplain)
    |>.append (rebuilds_elements w source hd)
    |>.append (rebuilds_attlists w source hd)
    |>.append (rebuilds_instructions w source hd rfl)

variable {w : World} {options : Options} {name text : String} {m : DocumentType}

theorem sound_of_parses (h : Parses w options name text m) :
    m.parameters.Sound ∧ m.Sound options.keepInstructions := by
  obtain ⟨-, p, q, hr, he, rfl⟩ := parses_iff.1 h
  exact Completes.result_sound ⟨p, hr, he⟩ (sound_start options name text)

/-- The outcome of the parse of a normalised DTD. -/
theorem parseText_text (ht : m.parameters.Sound) (hm : m.Sound options.keepInstructions)
    (hplain : m.Plain) (hu : options.Usable w) (name : String) :
    ∃ fuel journal, parseText w fuel options name m.text = (.ok m.normalized, journal) ∧
      ∀ n, journal.count (.referenced n) = 0 := by
  have hrebuilds := rebuilds_text w (outermost options { name, unread := .done }) ht hm hplain
  exact hrebuilds.parseText hu

/-- A document type whose declarations are in the order in which they are printed is what its
normalised DTD parses to. -/
theorem parses_of_normalized (ht : m.parameters.Sound) (hm : m.Sound options.keepInstructions)
    (hplain : m.Plain) (hu : options.Usable w) (hnormalized : m.normalized = m) (name : String) :
    Parses w options name m.text m := by
  obtain ⟨fuel, journal, hparse, -⟩ := parseText_text ht hm hplain hu name
  use fuel
  rw [hparse, hnormalized]

/-- The normalised DTD parses to the same document type and is printed as it is. -/
theorem parses_text (h : Parses w options name text m) (hplain : m.Plain) (name' : String) :
    ∃ m', Parses w options name' m.text m' ∧ m'.sameAs m = true ∧ m'.text = m.text := by
  obtain ⟨ht, hm⟩ := sound_of_parses h
  obtain ⟨hu, -⟩ := parses_iff.1 h
  obtain ⟨fuel, journal, hparse, -⟩ := parseText_text ht hm hplain hu name'
  refine ⟨m.normalized, ⟨fuel, ?_⟩, ?_, ?_⟩
  · rw [hparse]
  · have hlists : ∀ b ∈ m.attlists, b.2.names.Nodup := fun b hb => (hm.attlists.values b hb).nodup
    exact DocumentType.sameAs_normalized hm.elements.nodup hm.attlists.nodup hlists
      hm.entities.nodup hm.notations.nodup
  · exact DocumentType.text_normalized hm.elements.nodup hm.attlists.nodup

end Parser

/-- An entity with the declaration of an element, the element, and an instruction. -/
def DocumentType.specimen : DocumentType where
  elements := [("b", .any)]
  instructions := [⟨"p", "x"⟩]
  parameters := { values := [("e", "<!ELEMENT b ANY>\n")] }

namespace DocumentType

theorem plain_specimen : specimen.Plain := by
  constructor
  · intro b hb
    rw [List.mem_singleton.1 hb]
    exact ⟨.inl (by decide), EntityTable.inert_of_not_mem (by decide)⟩
  · exact nofun

theorem proper_any : Bindings.Proper ContentSpec.Shaped [("b", .any)] := by
  have hname : Nmtoken "b" := Parser.nmtoken_of_isName (by decide)
  exact .singleton hname trivial

theorem sound_specimen : specimen.Sound true := by
  refine ⟨proper_any, .empty, .empty, .empty, fun i hi => ?_⟩
  rw [List.mem_singleton.1 hi]
  have hname : Nmtoken "p" := Parser.nmtoken_of_isName (by decide)
  exact ⟨rfl, by decide, hname, by decide, by decide⟩

end DocumentType

namespace Parser

/-- A world without files. -/
def bare : World :=
  ⟨(FileTree.empty "/").files, .unreachable⟩

theorem parses_specimen :
    Parses bare { keepInstructions := true } "a.dtd"
      "<!ENTITY % e \"<!ELEMENT b ANY>\n\">\n<!ELEMENT b ANY>\n<?p x?>\n" .specimen := by
  have hu : ({ keepInstructions := true } : Options).Usable bare := nofun
  have ht : DocumentType.specimen.parameters.Sound := EntityTable.sound_value (by decide)
  have htext : DocumentType.specimen.text =
      "<!ENTITY % e \"<!ELEMENT b ANY>\n\">\n<!ELEMENT b ANY>\n<?p x?>\n" := by decide
  rw [← htext]
  exact parses_of_normalized ht DocumentType.sound_specimen DocumentType.plain_specimen hu rfl "a.dtd"

theorem parses_text_specimen :
    ∃ m', Parses bare { keepInstructions := true } "b.dtd" DocumentType.specimen.text m' ∧
      m'.sameAs .specimen = true ∧ m'.text = DocumentType.specimen.text :=
  parses_text parses_specimen DocumentType.plain_specimen "b.dtd"

end Parser

end Doctype
