import Doctype.Proofs.Print.Roundtrip

/-! Reading a DTD twice: the second time everything is declared already. -/
namespace Doctype

/-- A document type with some processing instructions at its end. -/
def DocumentType.appendInstructions (d : DocumentType) (is : List Instruction) : DocumentType :=
  { d with instructions := d.instructions ++ is }

/-- While the first parse declares what is in a table and a document type in the end, the second
has declared all of it and collects the instructions once more. -/
def Repeats (t : EntityTable) (d : DocumentType) (a b : Declared) : Prop :=
  a.1.Kept t ∧ a.2.Kept d ∧ b = (t, d.appendInstructions a.2.instructions)

namespace DocumentType

variable {d e : DocumentType} {name : String}

/-- Definitions of attributes that are there change nothing. -/
theorem defined_of_has {list : AttributeList} {defs : List (String × AttributeDef)}
    (h : ∀ b ∈ defs, list.has b.1 = true) : defined list defs = list := by
  unfold defined
  induction defs generalizing list with
  | nil => rfl
  | cons b defs ih =>
    rw [List.foldl_cons, Bindings.add_of_has (h b List.mem_cons_self)]
    exact ih fun c hc => h c (List.mem_cons_of_mem _ hc)

theorem addAttributes_of_has {defs : List (String × AttributeDef)} (hnodup : d.attlists.names.Nodup)
    (hname : d.attlists.has name = true) (h : ∀ b ∈ defs, (d.attributes name).has b.1 = true) :
    d.addAttributes name defs = d := by
  have hdefined : defined (d.attributes name) defs = d.attributes name := defined_of_has h
  obtain ⟨list, hlist⟩ := Option.ne_none_iff_exists'.1 fun hnone =>
    absurd hname (by rw [Bindings.get?_eq_none_iff.1 hnone]; exact Bool.false_ne_true)
  have hattributes : d.attributes name = list := by
    unfold attributes
    rw [hlist]
    rfl
  have hset : d.attlists.set name (defined (d.attributes name) defs) = d.attlists := by
    rw [hdefined, hattributes]
    exact Bindings.set_of_get? hnodup hlist
  unfold addAttributes
  unfold defined at hset
  rw [hset]

theorem addElement_of_has {content : ContentSpec} (h : d.elements.has name = true) :
    d.addElement name content = d := by
  unfold addElement
  rw [Bindings.add_of_has h]

theorem addEntity_of_has {definition : EntityDef} (h : d.entities.has name = true) :
    d.addEntity name definition = d := by
  unfold addEntity
  rw [Bindings.add_of_has h]

theorem addNotation_of_has {ids : Notation} (h : d.notations.has name = true) :
    d.addNotation name ids = d := by
  unfold addNotation
  rw [Bindings.add_of_has h]

end DocumentType

namespace Item

variable {i : Item} {keep : Bool} {t u v : EntityTable} {d e f : DocumentType}

/-- Apart from instructions, what has been declared is not declared again. -/
theorem declares_again (h : i.declares keep t d = some (u, e)) (ht : t.Kept v) (hu : u.Kept v)
    (he : e.Kept f) (hf : f.attlists.names.Nodup) :
    i.declares keep v (f.appendInstructions d.instructions) =
      some (v, f.appendInstructions e.instructions) := by
  cases i with
  | element name content =>
    cases h
    have hhas := he.elements name (Bindings.has_add.2 (.inr rfl))
    exact congrArg (fun x => some (v, x)) (DocumentType.addElement_of_has hhas)
  | attlist name defs =>
    cases h
    have hhas := he.attlists name (Bindings.has_set.2 (.inr rfl))
    have hdefs : ∀ b ∈ defs, (f.attributes name).has b.1 = true := by
      intro b hb
      apply he.attributes name
      rw [DocumentType.attributes_addAttributes, if_pos rfl]
      exact DocumentType.has_defined.2 (.inr (List.mem_map_of_mem hb))
    exact congrArg (fun x => some (v, x)) (DocumentType.addAttributes_of_has hf hhas hdefs)
  | parameter name l definition =>
    obtain ⟨hdeclare, rfl⟩ := declares_parameter.1 h
    rw [declares_parameter]
    refine ⟨?_, rfl⟩
    obtain ⟨kind, content, hd⟩ := Definition.declare_kind hdeclare
    have hname := (EntityTable.declare_cases hd).1
    have hcontains := hu.contains (EntityTable.contains_declare hd)
    cases definition with
    | literal value =>
      change v.declare name .value value = .ok v
      exact EntityTable.declare_of_contains hname hcontains
    | external id n =>
      change v.declare name .uri id.systemId = .ok v
      exact EntityTable.declare_of_contains hname hcontains
  | entity name l definition =>
    obtain ⟨x, hx, rfl, rfl⟩ := declares_entity.1 h
    rw [declares_entity]
    have hhas := he.entities name (Bindings.has_add.2 (.inr rfl))
    have hadd : (f.appendInstructions d.instructions).addEntity name x =
        f.appendInstructions d.instructions := DocumentType.addEntity_of_has hhas
    exact ⟨x, Definition.resolve_kept hx ht, rfl, hadd.symm⟩
  | notation_ name ids =>
    cases h
    have hhas := he.notations name (Bindings.has_add.2 (.inr rfl))
    exact congrArg (fun x => some (v, x)) (DocumentType.addNotation_of_has hhas)
  | instruction target data =>
    cases h
    simp only [declares]
    split
    · simp only [DocumentType.appendInstructions, DocumentType.addInstruction, List.append_assoc]
    · rfl
  | included => cases h; rfl
  | ignored => cases h; rfl
  | sectionClose => cases h; rfl
  | comment => cases h; rfl

end Item

namespace Parser

variable {w : World} {keep : Bool} {t : EntityTable} {d : DocumentType}

/-- What the first parse opens and declares, the second opens in the same way and has declared. -/
theorem coupling_repeats (hd : d.attlists.names.Nodup) (k : Passage)
    (hk : ∀ a b, k.bases a b ↔ a = b) :
    k.Coupling w keep (fun a => a.1.Kept t ∧ a.2.Kept d) (Repeats t d) := by
  constructor
  · rintro a b ⟨ht, -, rfl⟩ name base base' text - hbase hopen
    rw [hk] at hbase
    subst hbase
    exact ⟨text, ht.openReference hopen, rfl, (hk _ _).2 rfl⟩
  · rintro a b e i ⟨ht, hda, rfl⟩ hi ⟨hu, he⟩
    exact ⟨_, Item.declares_again hi ht hu he hd, hu, he, rfl⟩

variable {options : Options} {name A : String} {m : DocumentType}

/-- A DTD that is read twice declares the same, and gives its instructions twice. -/
theorem parses_append_self (h : Parses w options name A m) :
    Parses w options name (A ++ A) { m with instructions := m.instructions ++ m.instructions } ∧
      (options.keepInstructions = false → m.instructions = []) := by
  rw [parses_iff] at h
  obtain ⟨hu, p, q, hr, he, rfl⟩ := h
  have hsound := hr.sound (sound_start options name A)
  obtain ⟨hdeclared, hkeeps, -⟩ := he.declared hsound.peeked
  injection hdeclared with hentities hmodel
  constructor
  swap
  · -- without the option no instruction is kept
    intro hkeep
    have hkeeps : p.keepInstructions = false := (hr.kept rfl).keep.trans hkeep
    change q.model.instructions = []
    rw [hmodel, List.eq_nil_iff_forall_not_mem]
    intro i hi
    have htrue := (hsound.model.instructions i hi).1
    rw [hkeeps] at htrue
    cases htrue
  · -- the first time
    obtain ⟨r, hmeets, hiff⟩ := start_append A hr he
    -- the second time
    have hstands : r.Stands (outermost options { name, unread := .done }) (A.toList ++ []) := by
      rw [List.append_nil]
      exact hmeets.stands'
    have hrepeats : Repeats q.entities q.model (start options name A).declared r.declared := by
      refine ⟨nofun, ⟨nofun, nofun, nofun, nofun, nofun⟩, ?_⟩
      rw [← hmeets.declared]
      simp only [declared, DocumentType.appendInstructions, start, List.append_nil]
    have hgood : ∀ u, Reaches w (start options name A) u → Reaches w u p →
        u.declared.1.Kept q.entities ∧ u.declared.2.Kept q.model := by
      intro u hu hu'
      have hkept := hu'.kept (hu.peeked rfl)
      rw [hentities, hmodel]
      exact ⟨hkept.entities, hkept.model⟩
    have hnodup : q.model.attlists.names.Nodup := by
      rw [hmodel]
      exact hsound.model.attlists.nodup
    have hrefs : ∀ n, (start options name A).stack.refs n ≤ r.stack.refs n + 0 := by
      intro n
      rw [refs_start]
      exact Nat.zero_le _
    obtain ⟨r', hmeets', hiff'⟩ := (stands_start options name A).passes
      (Repeats q.entities q.model) (fun _ => 0) hstands rfl hmeets.keeps' hrepeats hrefs
      (coupling_repeats hnodup) hr he hgood
    obtain ⟨e, hcompletes, hedeclared, -⟩ := hmeets'.stands'.completes (w := w)
    refine parses_iff_completes.2 ⟨hu, e, (hiff e).2 ((hiff' e).2 hcompletes), ?_⟩
    obtain ⟨-, -, hdeclared'⟩ := hmeets'.declared
    rw [hdeclared'] at hedeclared
    injection hedeclared with hentities' hmodel'
    unfold result
    rw [hentities', hmodel']
    rfl

theorem parses_append_specimen :
    Parses bare { keepInstructions := true } "a.dtd"
      ("<!ENTITY % e \"<!ELEMENT b ANY>\n\">\n<!ELEMENT b ANY>\n<?p x?>\n" ++
        "<!ENTITY % e \"<!ELEMENT b ANY>\n\">\n<!ELEMENT b ANY>\n<?p x?>\n")
      { DocumentType.specimen with instructions := [⟨"p", "x"⟩, ⟨"p", "x"⟩] } :=
  (parses_append_self parses_specimen).1

end Parser

end Doctype
