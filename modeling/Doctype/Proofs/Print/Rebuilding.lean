import Doctype.Proofs.Parser.Growth
import Doctype.Proofs.Print.Declarations

/-! Parses that declare what a printed text declares. -/
namespace Doctype

/-- An item that neither opens nor closes a section. -/
def Item.Stays (i : Item) : Prop :=
  ∀ s c s₁ c₁, i.Moves s c s₁ c₁ ↔ s.Noted s₁ ∧ c₁ = c

namespace Parser

variable {w : World} {source : Source} {p q : Parser} {cs ds rest : List Char} {keep : Bool}
  {d e f : Declared}

theorem Stands.of_blank {bs : List Char} (h : p.Stands source (bs ++ cs)) (hb : Blank bs) :
    p.Stands source cs := by
  obtain ⟨c, front, hsources, hfront, hshows⟩ := h.sources
  rw [← List.append_assoc] at hshows
  exact ⟨h.entity, ⟨c, front ++ bs, hsources, Passage.blank_append hfront hb, hshows⟩, h.fresh,
    h.peeked, h.sections⟩

/-- A parse takes an item off the text that it is in front of. -/
theorem Stands.advances {t : Token} {Q : Item → Prop} (h : p.Stands source cs)
    (hlex : lex cs = .token t ds) (ht : t ≠ .endOfInput)
    (hitem : ∃ n, ∀ fuel, n ≤ fuel → ∀ l : Lexeme, l.token = t → l.source = source.id →
      Takes source (item w fuel l) ds Q rest)
    (hQ : ∀ i, Q i → i.Stays ∧ i.declares p.keepInstructions p.entities p.model = some e) :
    ∃ q, Advances w p q ∧ q.Stands source rest ∧ q.keepInstructions = p.keepInstructions ∧
      q.declared = e ∧ q.stack.refs = p.stack.refs := by
  obtain ⟨fuel, hfuel⟩ := hitem
  obtain ⟨l, ls, i, k, hreads, -, hi, hstands, hrefs⟩ :=
    h.reads (Q := fun _ => Q) hlex ht fun l hl hsource => hfuel fuel (le_refl fuel) l hl hsource
  obtain ⟨hstays, hdeclares⟩ := hQ i hi
  have hdeclares' : i.declares p.keepInstructions p.entities p.model = some (e.1, e.2) := hdeclares
  obtain ⟨q, hq⟩ := apply_of_declares (p := { p with stack := k }) hdeclares'
    ((hstays k p.sections k p.sections).2 ⟨.refl k, rfl⟩)
  have hadvances : Advances w p q := hreads.advances_of_apply h.peeked hq
  have heffect := effect_of_apply hq
  obtain ⟨hnoted, hsections⟩ := (hstays _ _ _ _).1 heffect.moves
  obtain ⟨c, front, hsources, hfront, hshows⟩ := hstands.sources
  refine ⟨q, hadvances, ?_, heffect.keep, ?_, ?_⟩
  · refine ⟨h.entity, ⟨c, front, hnoted.sources.trans hsources, hfront, hshows⟩, ?_, ?_, ?_⟩
    · rw [hnoted.nextId]
      exact hstands.fresh
    · exact heffect.peeked.trans h.peeked
    · exact hsections.trans h.sections
  · exact Option.some.inj (heffect.declares.symm.trans hdeclares')
  · exact hnoted.refs.trans hrefs

/-- Whoever reads a text has declared this before, and that afterwards. -/
def Rebuilds (w : World) (source : Source) (keep : Bool) (d : Declared) (cs : List Char)
    (e : Declared) : Prop :=
  ∀ (p : Parser) (rest : List Char), p.Stands source (cs ++ rest) → p.keepInstructions = keep →
    p.declared = d →
      ∃ q, Reaches w p q ∧ q.Stands source rest ∧ q.keepInstructions = keep ∧ q.declared = e ∧
        q.stack.refs = p.stack.refs

theorem Rebuilds.nil : Rebuilds w source keep d [] d :=
  fun p _ hp hkeep hd => ⟨p, .refl, hp, hkeep, hd, rfl⟩

theorem Rebuilds.append (h : Rebuilds w source keep d cs e) (h' : Rebuilds w source keep e ds f) :
    Rebuilds w source keep d (cs ++ ds) f := by
  intro p rest hp hkeep hd
  rw [List.append_assoc] at hp
  obtain ⟨q, hq, hstands, hkeep', he, hrefs⟩ := h p (ds ++ rest) hp hkeep hd
  obtain ⟨r, hr, hstands', hkeep'', hf, hrefs'⟩ := h' q rest hstands hkeep' he
  exact ⟨r, hq.trans hr, hstands', hkeep'', hf, hrefs'.trans hrefs⟩

/-- A list of texts is read one after the other. -/
theorem Rebuilds.all {α : Type} {xs : List α} (text : α → String) (built : List α → Declared)
    (h : ∀ done x todo, xs = done ++ x :: todo →
      Rebuilds w source keep (built done) (text x).toList (built (done ++ [x]))) :
    Rebuilds w source keep (built []) ((xs.map text).flatMap String.toList) (built xs) := by
  have hfrom (done todo : List α) (hxs : xs = done ++ todo) :
      Rebuilds w source keep (built done) ((todo.map text).flatMap String.toList) (built xs) := by
    induction todo generalizing done with
    | nil =>
      rw [List.append_nil] at hxs
      rw [hxs]
      exact .nil
    | cons x todo ih =>
      rw [List.map_cons, List.flatMap_cons]
      have hrest := ih (done ++ [x]) (by rw [hxs]; simp)
      exact (h done x todo hxs).append hrest
  exact hfrom [] xs rfl

/-- The outcome of a parse of such a text. It opens nothing. -/
theorem Rebuilds.parseText {options : Options} {name text : String}
    (h : Rebuilds w (outermost options { name, unread := .done }) options.keepInstructions ({}, {})
      text.toList e) (hu : options.Usable w) :
    ∃ fuel journal,
      parseText w fuel options name text = (.ok { e.2 with parameters := e.1 }, journal) ∧
        ∀ n, journal.count (.referenced n) = 0 := by
  have hstart := stands_start options name text
  rw [← List.append_nil text.toList] at hstart
  obtain ⟨q, hq, hstands, -, he, hrefs⟩ := h _ [] hstart rfl rfl
  obtain ⟨r, hcompletes, hr, hrefs'⟩ := hstands.completes (w := w)
  obtain ⟨u, hu', hends⟩ := hcompletes
  obtain ⟨fuel, hparse⟩ := parseText_of_reaches hu (hq.trans hu') hends
  have hresult : r.result = { e.2 with parameters := e.1 } := by
    rw [← he, ← hr]
    rfl
  refine ⟨fuel, _, hresult ▸ hparse, fun n => ?_⟩
  rw [count_referenced, hrefs', hrefs, refs_start]

theorem blank_newline : Blank ['\n'] :=
  List.all_eq_true.1 (by decide)

/-- An item and the line feed behind it. -/
theorem rebuilds_item (token : Token) (ds : List Char) (Q : Item → Prop) {text : String}
    (htoken : token ≠ .endOfInput)
    (htext : ∀ rest, lex (text.toList ++ rest) = .token token (ds ++ '\n' :: rest))
    (hitem : ∃ n, ∀ fuel, n ≤ fuel → ∀ l : Lexeme, l.token = token → l.source = source.id → ∀ rest,
      Takes source (item w fuel l) (ds ++ rest) Q rest)
    (hQ : ∀ i, Q i → i.Stays ∧ i.declares keep d.1 d.2 = some e) :
    Rebuilds w source keep d text.toList e := by
  intro p rest hp hkeep hd
  have hread : ∃ n, ∀ fuel, n ≤ fuel → ∀ l : Lexeme, l.token = token → l.source = source.id →
      Takes source (item w fuel l) (ds ++ '\n' :: rest) Q ('\n' :: rest) := by
    obtain ⟨n, hn⟩ := hitem
    exact ⟨n, fun fuel hfuel l hl hsource => hn fuel hfuel l hl hsource ('\n' :: rest)⟩
  have hQ' : ∀ i, Q i → i.Stays ∧ i.declares p.keepInstructions p.entities p.model = some e := by
    intro i hi
    obtain ⟨hstays, hdeclares⟩ := hQ i hi
    rw [← hd, ← hkeep] at hdeclares
    exact ⟨hstays, hdeclares⟩
  obtain ⟨q, hq, hstands, hkeep', he, hrefs⟩ := hp.advances (htext rest) htoken hread hQ'
  exact ⟨q, .single hq, hstands.of_blank blank_newline, hkeep'.trans hkeep, he, hrefs⟩

/-- A markup declaration and the line feed behind it. -/
theorem rebuilds_declaration (keyword : Keyword) (ds : List Char) (Q : Item → Prop) {text : String}
    (htext : ∀ rest, lex (text.toList ++ rest) = .token (.decl keyword) (ds ++ '\n' :: rest))
    (hitem : ∃ n, ∀ fuel, n ≤ fuel → ∀ opener : Lexeme, opener.source = source.id → ∀ rest,
      Takes source (declaration w fuel keyword opener) (ds ++ rest) Q rest)
    (hQ : ∀ i, Q i → i.Stays ∧ i.declares keep d.1 d.2 = some e) :
    Rebuilds w source keep d text.toList e := by
  apply rebuilds_item (.decl keyword) ds Q nofun htext ?_ hQ
  obtain ⟨n, hn⟩ := hitem
  refine ⟨n, fun fuel hfuel l hl hsource rest => ?_⟩
  unfold item
  rw [hl]
  exact hn fuel hfuel l hsource rest

section Items

variable {t u : EntityTable} {m : DocumentType} {name : String} {definition : Definition}

/-- The declaration of a parameter entity. -/
theorem rebuilds_parameter {text : String} (hname : Nmtoken name) (h : definition.Shaped)
    (hdata : ∀ id n, definition ≠ .external id (some n))
    (hdeclare : definition.declare t name = .ok u)
    (htext : text.toList =
      "<!ENTITY % ".toList ++ (name.toList ++ ' ' :: (definitionText definition ++ ['>', '\n']))) :
    Rebuilds w source keep (t, m) text.toList (u, m) := by
  apply rebuilds_declaration .entity
    (' ' :: '%' :: ' ' :: (name.toList ++ ' ' :: (definitionText definition ++ ['>'])))
    fun i => ∃ l, i = .parameter name l definition
  · intro rest
    have hrest : text.toList ++ rest = '<' :: '!' :: 'E' :: 'N' :: 'T' :: 'I' :: 'T' :: 'Y' :: ' ' ::
        '%' :: ' ' :: (name.toList ++ ' ' :: (definitionText definition ++ ['>'])) ++ '\n' :: rest := by
      simp [htext]
    rw [hrest]
    rfl
  · refine ⟨0, fun fuel _ opener hopener rest => ?_⟩
    have htakes := takes_parameter w rest hopener hname h hdata
    simpa [declaration] using htakes
  · rintro i ⟨l, rfl⟩
    constructor
    · exact fun _ _ _ _ => Iff.rfl
    · exact Item.declares_parameter.2 ⟨hdeclare, rfl⟩

theorem rebuilds_value {b : String × String} (hname : isName b.1 = true)
    (hvalue : Quotable b.2 ∧ EntityTable.Inert b.2) (hfree : t.contains b.1 = false)
    (hlast : ∀ n ∈ t.values.names, n < b.1) :
    Rebuilds w source keep (t, m) (DocumentType.valueText b).toList
      ({ t with values := t.values ++ [b] }, m) := by
  have hdeclare : (Definition.literal b.2).declare t b.1 =
      .ok { t with values := t.values ++ [b] } := by
    show t.declare b.1 .value b.2 = _
    rw [EntityTable.declare_of_not_contains hname hfree, EntityTable.expand_of_inert hvalue.2,
      ← Bindings.insertSorted_of_forall_lt hlast]
    rfl
  have hshaped : (Definition.literal b.2).Shaped := hvalue.1
  have hdata : ∀ id n, Definition.literal b.2 ≠ .external id (some n) := nofun
  apply rebuilds_parameter (nmtoken_of_isName hname) hshaped hdata hdeclare
  simp [DocumentType.valueText, definitionText]

theorem rebuilds_uri {b : String × String} (hname : isName b.1 = true) (huri : Quotable b.2)
    (hfree : t.contains b.1 = false) (hlast : ∀ n ∈ t.uris.names, n < b.1) :
    Rebuilds w source keep (t, m) (DocumentType.uriText b).toList
      ({ t with uris := t.uris ++ [b] }, m) := by
  have hdeclare : (Definition.external ⟨none, b.2⟩ none).declare t b.1 =
      .ok { t with uris := t.uris ++ [b] } := by
    show t.declare b.1 .uri b.2 = _
    rw [EntityTable.declare_of_not_contains hname hfree,
      ← Bindings.insertSorted_of_forall_lt hlast]
  have hshaped : (Definition.external ⟨none, b.2⟩ none).Shaped := ⟨⟨nofun, huri⟩, nofun⟩
  have hdata : ∀ id n, Definition.external ⟨none, b.2⟩ none ≠ .external id (some n) := by simp
  apply rebuilds_parameter (nmtoken_of_isName hname) hshaped hdata hdeclare
  simp [DocumentType.uriText, definitionText, ExternalId.text]

theorem rebuilds_notation {b : String × Notation} (hname : Nmtoken b.1) (h : b.2.Shaped)
    (hfree : m.notations.has b.1 = false) :
    Rebuilds w source keep (t, m) (DocumentType.notationText b).toList
      (t, { m with notations := m.notations ++ [b] }) := by
  apply rebuilds_declaration .notation_ (' ' :: (b.1.toList ++ ' ' :: (b.2.text.toList ++ ['>'])))
    fun i => i = .notation_ b.1 b.2
  · intro rest
    have hrest : (DocumentType.notationText b).toList ++ rest =
        '<' :: '!' :: 'N' :: 'O' :: 'T' :: 'A' :: 'T' :: 'I' :: 'O' :: 'N' ::
          ' ' :: (b.1.toList ++ ' ' :: (b.2.text.toList ++ ['>'])) ++ '\n' :: rest := by
      simp [DocumentType.notationText]
    rw [hrest]
    rfl
  · refine ⟨0, fun fuel _ opener hopener rest => ?_⟩
    have htakes := takes_notationDecl w rest hopener hname h
    simpa [declaration] using htakes
  · rintro i rfl
    constructor
    · exact fun _ _ _ _ => Iff.rfl
    · have hadd : m.notations.add b.1 b.2 = m.notations ++ [b] := Bindings.add_of_not_has hfree
      simp only [Item.declares, DocumentType.addNotation, hadd]

/-- What an entity is declared by. -/
def definitionOf : EntityDef → Definition
  | .internal value => .literal value
  | .external id => .external id none
  | .unparsed id notationName => .external id (some notationName)

theorem text_eq_definitionText (e : EntityDef) : e.text.toList = definitionText (definitionOf e) := by
  cases e <;> simp [EntityDef.text, definitionText, definitionOf]

theorem resolve_definitionOf {e : EntityDef} (h : ∀ value, e = .internal value → EntityTable.Inert value) :
    (definitionOf e).resolve t = .ok e := by
  cases e with
  | internal value =>
    have hexpand : t.expand value = .ok value := EntityTable.expand_of_inert (h value rfl)
    show EntityDef.internal <$> t.expand value = _
    rw [hexpand]
    rfl
  | external id => rfl
  | unparsed id notationName => rfl

theorem shaped_definitionOf {e : EntityDef} (h : e.Shaped)
    (hvalue : ∀ value, e = .internal value → Quotable value) : (definitionOf e).Shaped := by
  cases e with
  | internal value => exact hvalue value rfl
  | external id => exact ⟨h, nofun⟩
  | unparsed id notationName =>
    refine ⟨h.1, fun n hn => ?_⟩
    cases hn
    exact h.2

theorem rebuilds_entity {b : String × EntityDef} (hname : Nmtoken b.1) (h : b.2.Shaped)
    (hvalue : ∀ value, b.2 = .internal value → Quotable value ∧ EntityTable.Inert value)
    (hfree : m.entities.has b.1 = false) :
    Rebuilds w source keep (t, m) (DocumentType.entityText b).toList
      (t, { m with entities := m.entities ++ [b] }) := by
  have hshaped := shaped_definitionOf h fun value hv => (hvalue value hv).1
  have hresolve : (definitionOf b.2).resolve t = .ok b.2 :=
    resolve_definitionOf fun value hv => (hvalue value hv).2
  apply rebuilds_declaration .entity
    (' ' :: (b.1.toList ++ ' ' :: (definitionText (definitionOf b.2) ++ ['>'])))
    fun i => ∃ l, i = .entity b.1 l (definitionOf b.2)
  · intro rest
    have hrest : (DocumentType.entityText b).toList ++ rest =
        '<' :: '!' :: 'E' :: 'N' :: 'T' :: 'I' :: 'T' :: 'Y' ::
          ' ' :: (b.1.toList ++ ' ' :: (definitionText (definitionOf b.2) ++ ['>'])) ++
            '\n' :: rest := by
      simp [DocumentType.entityText, text_eq_definitionText]
    rw [hrest]
    rfl
  · refine ⟨0, fun fuel _ opener hopener rest => ?_⟩
    have htakes := takes_entity w rest hopener hname hshaped
    simpa [declaration] using htakes
  · rintro i ⟨l, rfl⟩
    constructor
    · exact fun _ _ _ _ => Iff.rfl
    · have hadd : m.entities.add b.1 b.2 = m.entities ++ [b] := Bindings.add_of_not_has hfree
      refine Item.declares_entity.2 ⟨b.2, hresolve, rfl, ?_⟩
      simp only [DocumentType.addEntity, hadd]

theorem rebuilds_element {b : String × ContentSpec} {text : String} (hname : Nmtoken b.1)
    (h : b.2.Shaped) (hfree : m.elements.has b.1 = false)
    (htext : text = "<!ELEMENT " ++ b.1 ++ " " ++ b.2.text ++ ">\n") :
    Rebuilds w source keep (t, m) text.toList
      (t, { m with elements := m.elements ++ [b] }) := by
  apply rebuilds_declaration .element (' ' :: (b.1.toList ++ ' ' :: (b.2.text.toList ++ ['>'])))
    fun i => i = .element b.1 b.2
  · intro rest
    have hrest : text.toList ++ rest = '<' :: '!' :: 'E' :: 'L' :: 'E' :: 'M' :: 'E' :: 'N' :: 'T' ::
        ' ' :: (b.1.toList ++ ' ' :: (b.2.text.toList ++ ['>'])) ++ '\n' :: rest := by
      simp [htext]
    rw [hrest]
    rfl
  · obtain ⟨n, hn⟩ := takes_element w source hname h
    refine ⟨n, fun fuel hfuel opener hopener rest => ?_⟩
    have htakes := hn fuel hfuel opener hopener rest
    simpa [declaration] using htakes
  · rintro i rfl
    constructor
    · exact fun _ _ _ _ => Iff.rfl
    · have hadd : m.elements.add b.1 b.2 = m.elements ++ [b] := Bindings.add_of_not_has hfree
      simp only [Item.declares, DocumentType.addElement, hadd]

/-- Definitions of different attributes are all added. -/
theorem defined_of_nodup {list defs : AttributeList} (h : (list ++ defs).names.Nodup) :
    DocumentType.defined list defs = list ++ defs := by
  unfold DocumentType.defined
  induction defs generalizing list with
  | nil => rw [List.foldl_nil, List.append_nil]
  | cons b defs ih =>
    have hfree : list.has b.1 = false := Bindings.not_has_of_nodup h
    have hcons : list ++ b :: defs = (list ++ [b]) ++ defs := by simp
    rw [List.foldl_cons, Bindings.add_of_not_has hfree, hcons]
    apply ih
    rwa [← hcons]

theorem rebuilds_attlist {b : String × AttributeList} (hname : Nmtoken b.1)
    (h : b.2.Proper AttributeDef.Shaped) (hfree : m.attlists.has b.1 = false) :
    Rebuilds w source keep (t, m) (DocumentType.attlistText b).toList
      (t, { m with attlists := m.attlists ++ [b] }) := by
  have hshaped : AttributesShaped b.2 := fun c hc => ⟨h.names c hc, h.values c hc⟩
  apply rebuilds_declaration .attlist (' ' :: (b.1.toList ++ (linesText b.2 ++ ['>'])))
    fun i => i = .attlist b.1 b.2
  · intro rest
    have hlines : (String.join (b.2.map DocumentType.attributeText)).toList = linesText b.2 := by
      rw [String.toList_join, List.flatMap_map]
      rfl
    have hrest : (DocumentType.attlistText b).toList ++ rest =
        '<' :: '!' :: 'A' :: 'T' :: 'T' :: 'L' :: 'I' :: 'S' :: 'T' ::
          ' ' :: (b.1.toList ++ (linesText b.2 ++ ['>'])) ++ '\n' :: rest := by
      simp [DocumentType.attlistText, hlines]
    rw [hrest]
    rfl
  · obtain ⟨n, hn⟩ := takes_attlist w source hname hshaped
    refine ⟨n, fun fuel hfuel opener hopener rest => ?_⟩
    have htakes := hn fuel hfuel opener hopener rest
    simpa [declaration] using htakes
  · rintro i rfl
    constructor
    · exact fun _ _ _ _ => Iff.rfl
    · have hnone : m.attributes b.1 = [] := by
        unfold DocumentType.attributes
        rw [Bindings.get?_eq_none_iff.2 hfree]
        rfl
      have hdefined : DocumentType.defined [] b.2 = b.2 := defined_of_nodup h.nodup
      have hset : m.attlists.set b.1 b.2 = m.attlists ++ [b] := Bindings.set_of_not_has hfree
      unfold DocumentType.defined at hdefined
      simp only [Item.declares, DocumentType.addAttributes, hnone, hdefined, hset]

theorem rebuilds_instruction {i : Instruction} (hkeep : keep = true)
    (htarget : isTextDeclaration i.target = false)
    (h : (Item.instruction i.target i.data).Shaped) :
    Rebuilds w source keep (t, m) (DocumentType.instructionText i).toList
      (t, { m with instructions := m.instructions ++ [i] }) := by
  obtain ⟨hname, htrim, hdata⟩ := h
  apply rebuilds_item (.instruction i.target i.data) [] (fun j => j = .instruction i.target i.data)
    nofun
  · intro rest
    have hrest : (DocumentType.instructionText i).toList ++ rest =
        '<' :: '?' :: (i.target.toList ++ ' ' :: (i.data.toList ++ '?' :: '>' :: '\n' :: rest)) := by
      simp [DocumentType.instructionText]
    rw [hrest]
    exact lex_instruction hname htrim hdata
  · refine ⟨0, fun fuel _ l hl _ rest => ?_⟩
    unfold item
    rw [hl]
    exact takes_pure rfl
  · rintro j rfl
    constructor
    · exact fun _ _ _ _ => Iff.rfl
    · simp only [Item.declares, hkeep, htarget, Bool.not_false, Bool.and_self, if_true]
      rfl

end Items

end Parser

end Doctype
