import Doctype.Parser.Subset
import Doctype.Proofs.Print.Content

/-! Printed declarations are read as they are. -/
namespace Doctype.Parser

variable {w : World} {source : Source} {opener : Lexeme} {rest : List Char} {name : String}

theorem nmtoken_of_isName (h : isName name = true) : Nmtoken name := by
  unfold isName isNameOf at h
  split at h
  · cases h
  · rename_i c cs hcs
    rw [Bool.and_eq_true, List.all_eq_true] at h
    constructor
    · rw [hcs]
      exact List.cons_ne_nil c cs
    · intro d hd
      rw [hcs] at hd
      rcases List.mem_cons.1 hd with rfl | hd
      · simp [isNameChar, h.1]
      · exact h.2 d hd

section AttributeType

theorem takes_nameList {first : String} {names done : List String} {fuel : Nat}
    (hnames : ∀ name ∈ first :: names, Nmtoken name) (hfuel : names.length < fuel) :
    Takes source (nameList w fuel done) (first.toList ++ (pipedText names ++ ')' :: rest))
      (fun b => b = done ++ first :: names) rest := by
  induction names generalizing first done fuel with
  | nil =>
    obtain ⟨fuel, rfl⟩ : ∃ k, fuel = k + 1 := ⟨fuel - 1, by omega⟩
    refine (takes_expectName (hnames first List.mem_cons_self) apart_pipedText).bind_fst fun _ => ?_
    refine (takes_next (t := .parenClose) rfl).bind fun l hl => ?_
    rw [hl.1]
    exact takes_pure rfl
  | cons name names ih =>
    obtain ⟨fuel, rfl⟩ : ∃ k, fuel = k + 1 := ⟨fuel - 1, by omega⟩
    rw [List.length_cons] at hfuel
    refine (takes_expectName (hnames first List.mem_cons_self) apart_pipedText).bind_fst fun _ => ?_
    have htext : pipedText (name :: names) ++ ')' :: rest =
        '|' :: (name.toList ++ (pipedText names ++ ')' :: rest)) := by
      simp [pipedText]
    rw [htext]
    refine (takes_next (t := .pipe) rfl).bind fun l hl => ?_
    rw [hl.1]
    have hlt : names.length < fuel := by omega
    have hrest : Takes source (nameList w fuel (done ++ [first]))
        (name.toList ++ (pipedText names ++ ')' :: rest))
        (fun c => c = done ++ [first] ++ name :: names) rest :=
      ih (fun n hn => hnames n (List.mem_cons_of_mem _ hn)) hlt
    refine hrest.mono fun c hc => ?_
    rw [hc, List.append_assoc]
    rfl

/-- All the names of a list. -/
theorem takes_allNames {first : String} {names : List String} {fuel : Nat}
    (hnames : ∀ name ∈ first :: names, Nmtoken name) (hfuel : names.length < fuel) :
    Takes source (nameList w fuel []) (first.toList ++ (pipedText names ++ ')' :: rest))
      (fun b => b = first :: names) rest :=
  takes_nameList hnames hfuel

theorem toList_piped (first : String) (names : List String) :
    ("|".intercalate (first :: names)).toList = first.toList ++ pipedText names := by
  rw [String.toList_intercalate]
  induction names generalizing first with
  | nil => simp [pipedText]
  | cons next names ih =>
    have hnext := ih next
    simp only [List.map_cons, pipedText, List.flatMap_cons] at hnext ⊢
    rw [List.intercalate_cons_cons, hnext]
    simp

theorem takes_simpleType {keyword : String} {type : AttributeType} {fuel : Nat}
    (hword : Nmtoken keyword) (hne : keyword ≠ "NOTATION") (h : simpleType? keyword = some type) :
    Takes source (attributeType w fuel) (keyword.toList ++ ' ' :: rest) (fun b => b = type)
      (' ' :: rest) := by
  refine (takes_keyword hword).bind fun l hl => ?_
  rw [hl.1]
  split
  · rename_i he
    cases he
  · rename_i he
    cases he
    exact absurd rfl hne
  · rename_i he
    cases he
    rw [h]
    exact takes_pure rfl
  · rename_i _ hno
    exact absurd rfl (hno keyword)

theorem takes_attributeType (w : World) (source : Source) {type : AttributeType}
    (h : type.Shaped) :
    ∃ n, ∀ fuel, n ≤ fuel → ∀ rest, Takes source (attributeType w fuel)
      (type.text.toList ++ ' ' :: rest) (fun b => b = type) (' ' :: rest) := by
  have hsimple {type : AttributeType} (keyword : String) (hword : keyword.toList.all isNameChar)
      (hlen : keyword.toList ≠ []) (hne : keyword ≠ "NOTATION")
      (htype : simpleType? keyword = some type) :
      ∃ n, ∀ fuel, n ≤ fuel → ∀ rest, Takes source (attributeType w fuel)
        (keyword.toList ++ ' ' :: rest) (fun b => b = type) (' ' :: rest) :=
    ⟨0, fun _ _ _ => takes_simpleType (nmtoken_of_all hlen hword) hne htype⟩
  cases type with
  | cdata => exact hsimple "CDATA" (by decide) (by decide) (by decide) rfl
  | id => exact hsimple "ID" (by decide) (by decide) (by decide) rfl
  | idref => exact hsimple "IDREF" (by decide) (by decide) (by decide) rfl
  | idrefs => exact hsimple "IDREFS" (by decide) (by decide) (by decide) rfl
  | entity => exact hsimple "ENTITY" (by decide) (by decide) (by decide) rfl
  | entities => exact hsimple "ENTITIES" (by decide) (by decide) (by decide) rfl
  | nmtoken => exact hsimple "NMTOKEN" (by decide) (by decide) (by decide) rfl
  | nmtokens => exact hsimple "NMTOKENS" (by decide) (by decide) (by decide) rfl
  | notations names =>
    obtain ⟨hne, hnames⟩ := h
    obtain ⟨first, names, rfl⟩ := List.exists_cons_of_ne_nil hne
    refine ⟨names.length + 1, fun fuel hfuel rest => ?_⟩
    have htext : (AttributeType.notations (first :: names)).text.toList ++ ' ' :: rest =
        "NOTATION".toList ++
          ' ' :: '(' :: (first.toList ++ (pipedText names ++ ')' :: ' ' :: rest)) := by
      simp only [AttributeType.text, String.toList_append, toList_piped]
      simp
    have hword : Nmtoken "NOTATION" := nmtoken_of_all (by decide) (by decide)
    rw [htext]
    refine (takes_keyword hword).bind fun l hl => ?_
    rw [hl.1]
    refine Takes.space ((takes_expect (t := .parenOpen) rfl).bind fun _ _ => ?_)
    have hlt : names.length < fuel := by omega
    exact (takes_allNames hnames hlt).bind_eq (takes_pure rfl)
  | enumeration names =>
    obtain ⟨hne, hnames⟩ := h
    obtain ⟨first, names, rfl⟩ := List.exists_cons_of_ne_nil hne
    refine ⟨names.length + 1, fun fuel hfuel rest => ?_⟩
    have htext : (AttributeType.enumeration (first :: names)).text.toList ++ ' ' :: rest =
        '(' :: (first.toList ++ (pipedText names ++ ')' :: ' ' :: rest)) := by
      simp only [AttributeType.text, String.toList_append, toList_piped]
      simp
    rw [htext]
    refine (takes_next (t := .parenOpen) rfl).bind fun l hl => ?_
    rw [hl.1]
    have hlt : names.length < fuel := by omega
    exact (takes_allNames hnames hlt).bind_eq (takes_pure rfl)

end AttributeType

section Attributes

theorem takes_defaultDecl {default : DefaultDecl} (h : default.Shaped) (hrest : Apart rest) :
    Takes source (defaultDecl w) (default.text.toList ++ rest) (fun b => b = default) rest := by
  cases default with
  | required =>
    have hword : Nmtoken "REQUIRED" := nmtoken_of_all (by decide) (by decide)
    refine (takes_next (lex_hash hword hrest)).bind fun l hl => ?_
    rw [hl.1]
    exact takes_pure rfl
  | implied =>
    have hword : Nmtoken "IMPLIED" := nmtoken_of_all (by decide) (by decide)
    refine (takes_next (lex_hash hword hrest)).bind fun l hl => ?_
    rw [hl.1]
    exact takes_pure rfl
  | fixed value =>
    have hword : Nmtoken "FIXED" := nmtoken_of_all (by decide) (by decide)
    have htext : (DefaultDecl.fixed value).text.toList ++ rest =
        '#' :: ("FIXED".toList ++ ' ' :: ((quote value).toList ++ rest)) := by
      simp [DefaultDecl.text]
    rw [htext]
    refine (takes_next (lex_hash hword (apart_cons (by decide)))).bind fun l hl => ?_
    rw [hl.1]
    exact Takes.space ((takes_expectLiteral h).bind_eq (takes_pure rfl))
  | value value =>
    refine (takes_next (lex_quote h)).bind fun l hl => ?_
    rw [hl.1]
    exact takes_pure rfl

/-- The lines of an attribute list. -/
def linesText (list : AttributeList) : List Char :=
  list.flatMap fun b => (DocumentType.attributeText b).toList

theorem linesText_cons (b : String × AttributeDef) (list : AttributeList) :
    linesText (b :: list) ++ rest =
      ['\n', ' ', ' '] ++ (b.1.toList ++ ' ' :: (b.2.type.text.toList ++
        ' ' :: (b.2.default.text.toList ++ (linesText list ++ rest)))) := by
  simp [linesText, DocumentType.attributeText]

theorem apart_linesText (list : AttributeList) : Apart (linesText list ++ '>' :: rest) := by
  cases list with
  | nil => exact apart_cons (by decide)
  | cons b list =>
    rw [linesText_cons]
    exact apart_cons (c := '\n') (by decide)

theorem blank_indent : Blank ['\n', ' ', ' '] :=
  List.all_eq_true.1 (by decide)

theorem takes_attributes (w : World) (source : Source) {list : AttributeList}
    (hshaped : AttributesShaped list) :
    ∃ n, ∀ fuel, n ≤ fuel → ∀ opener : Lexeme, opener.source = source.id → ∀ done rest,
      Takes source (attributes w opener fuel done) (linesText list ++ '>' :: rest)
        (fun b => b = done ++ list) rest := by
  induction list with
  | nil =>
    refine ⟨1, fun fuel hfuel opener hopener done rest => ?_⟩
    obtain ⟨fuel, rfl⟩ : ∃ k, fuel = k + 1 := ⟨fuel - 1, by omega⟩
    refine (takes_peek (t := .close) rfl).bind fun t ht => ?_
    rw [if_pos ht, List.append_nil]
    exact (takes_expectClose hopener).bind fun _ _ => takes_pure rfl
  | cons b list ih =>
    obtain ⟨hname, htype, hdefault⟩ := hshaped b List.mem_cons_self
    obtain ⟨n, hn⟩ := takes_attributeType w source htype
    obtain ⟨n', hn'⟩ := ih fun c hc => hshaped c (List.mem_cons_of_mem _ hc)
    refine ⟨max n n' + 1, fun fuel hfuel opener hopener done rest => ?_⟩
    obtain ⟨fuel, rfl⟩ : ∃ k, fuel = k + 1 := ⟨fuel - 1, by omega⟩
    rw [linesText_cons]
    refine Takes.blank ?_ blank_indent
    refine (takes_peek (lex_word hname (apart_cons (by decide)))).bind fun t ht => ?_
    have hclose : t ≠ .close := by
      rw [ht]
      exact nofun
    rw [if_neg hclose]
    refine (takes_expectName hname (apart_cons (by decide))).bind_fst fun _ => ?_
    refine Takes.space ((hn fuel (by omega) _).bind_eq ?_)
    refine Takes.space ((takes_defaultDecl hdefault (apart_linesText list)).bind_eq ?_)
    refine (hn' fuel (by omega) opener hopener (done ++ [b]) rest).mono fun d hd => ?_
    rw [hd]
    simp

theorem takes_attlist (w : World) (source : Source) {list : AttributeList} (hname : Nmtoken name)
    (hshaped : AttributesShaped list) :
    ∃ n, ∀ fuel, n ≤ fuel → ∀ opener : Lexeme, opener.source = source.id → ∀ rest,
      Takes source (attlist w fuel opener) (' ' :: (name.toList ++ (linesText list ++ '>' :: rest)))
        (fun i => i = .attlist name list) rest := by
  obtain ⟨n, hn⟩ := takes_attributes w source hshaped
  refine ⟨n, fun fuel hfuel opener hopener rest => Takes.space ?_⟩
  refine (takes_expectName hname (apart_linesText list)).bind_fst fun _ => ?_
  exact (hn fuel hfuel opener hopener [] rest).bind_eq (takes_pure rfl)

end Attributes

theorem takes_element (w : World) (source : Source) {content : ContentSpec} (hname : Nmtoken name)
    (hcontent : content.Shaped) :
    ∃ n, ∀ fuel, n ≤ fuel → ∀ opener : Lexeme, opener.source = source.id → ∀ rest,
      Takes source (element w fuel opener)
        (' ' :: (name.toList ++ ' ' :: (content.text.toList ++ '>' :: rest)))
        (fun i => i = .element name content) rest := by
  obtain ⟨n, hn⟩ := takes_contentSpec w source hcontent
  refine ⟨n, fun fuel hfuel opener hopener rest => Takes.space ?_⟩
  refine (takes_expectName hname (apart_cons (by decide))).bind_fst fun _ => ?_
  refine Takes.space ((hn fuel hfuel rest).bind_eq ?_)
  exact (takes_expectClose hopener).bind fun _ _ => takes_pure rfl

section Entities

theorem toList_systemId {id : ExternalId} (h : id.publicId = none) :
    id.text.toList ++ rest = "SYSTEM".toList ++ ' ' :: ((quote id.systemId).toList ++ rest) := by
  unfold ExternalId.text
  rw [h]
  simp

theorem toList_publicId {id : ExternalId} {publicId : String} (h : id.publicId = some publicId) :
    id.text.toList ++ rest = "PUBLIC".toList ++ ' ' :: ((quote publicId).toList ++
      ' ' :: ((quote id.systemId).toList ++ rest)) := by
  unfold ExternalId.text
  rw [h]
  simp

/-- An external identifier begins with its keyword; its literals follow. -/
theorem takes_externalId (w : World) (source : Source) (rest : List Char) {id : ExternalId}
    (h : id.Shaped) :
    ∃ (keyword : String) (cs : List Char), Nmtoken keyword ∧
      (keyword = "SYSTEM" ∨ keyword = "PUBLIC") ∧
      id.text.toList ++ rest = keyword.toList ++ ' ' :: cs ∧
      Takes source (externalId w (decide (keyword = "PUBLIC"))) cs (fun b => b = id) rest := by
  obtain ⟨publicId, systemId⟩ := id
  obtain ⟨hpublic, hsystem⟩ := h
  cases publicId with
  | none =>
    refine ⟨"SYSTEM", _, nmtoken_of_all (by decide) (by decide), .inl rfl, toList_systemId rfl, ?_⟩
    exact (takes_expectLiteral hsystem).bind_eq (takes_pure rfl)
  | some publicId =>
    refine ⟨"PUBLIC", _, nmtoken_of_all (by decide) (by decide), .inr rfl, toList_publicId rfl, ?_⟩
    have hfirst : Takes source (some <$> expectLiteral w "a public identifier")
        ((quote publicId).toList ++ ' ' :: ((quote systemId).toList ++ rest))
        (fun b => b = some publicId) (' ' :: ((quote systemId).toList ++ rest)) := by
      rw [← bind_pure_comp]
      exact (takes_expectLiteral (hpublic publicId rfl)).bind_eq (takes_pure rfl)
    refine hfirst.bind_eq ?_
    exact Takes.space ((takes_expectLiteral hsystem).bind_eq (takes_pure rfl))

/-- What is printed behind the name of an entity. -/
def definitionText : Definition → List Char
  | .literal value => (quote value).toList
  | .external id none => id.text.toList
  | .external id (some notationName) => id.text.toList ++ (" NDATA " ++ notationName).toList

/-- What is read behind the external identifier of an entity comes behind the identifier. -/
theorem takes_external {id : ExternalId} {isParameter : Bool} {cs : List Char}
    {Q : Definition → Prop} (h : id.Shaped)
    (hdata : Takes source
      (do
        if (← peek w) = .name "NDATA" ∧ isParameter = false then
          let _ ← next w
          let (name, _) ← expectName w "a notation name"
          return .external id (some name)
        else return .external id none) cs Q rest) :
    Takes source (Parser.definition w isParameter) (id.text.toList ++ cs) Q rest := by
  obtain ⟨keyword, ds, hword, hkeyword, htext, hliterals⟩ := takes_externalId w source cs h
  rw [htext]
  refine (takes_keyword hword).bind fun l hl => ?_
  rw [hl.1]
  dsimp only
  rw [if_pos hkeyword]
  exact Takes.space (hliterals.bind_eq hdata)

theorem takes_definition {definition : Definition} {isParameter : Bool} (h : definition.Shaped)
    (hparameter : isParameter = true → ∀ id n, definition ≠ .external id (some n)) :
    Takes source (Parser.definition w isParameter) (definitionText definition ++ '>' :: rest)
      (fun b => b = definition) ('>' :: rest) := by
  cases definition with
  | literal value =>
    refine (takes_next (lex_quote h)).bind fun l hl => ?_
    rw [hl.1]
    exact takes_pure rfl
  | external id notationName =>
    obtain ⟨hid, hdata⟩ := h
    cases notationName with
    | none =>
      apply takes_external hid
      refine (takes_peek (t := .close) rfl).bind fun t ht => ?_
      have hclose : ¬(t = .name "NDATA" ∧ isParameter = false) := by
        rw [ht]
        exact nofun
      rw [if_neg hclose]
      exact takes_pure rfl
    | some notationName =>
      have hgeneral : isParameter = false := by
        cases isParameter with
        | false => rfl
        | true => exact absurd rfl (hparameter rfl id notationName)
      have hndata : Nmtoken "NDATA" := nmtoken_of_all (by decide) (by decide)
      have hdefinition : definitionText (.external id (some notationName)) ++ '>' :: rest =
          id.text.toList ++ ' ' :: ("NDATA".toList ++ ' ' :: (notationName.toList ++ '>' :: rest)) := by
        simp [definitionText]
      rw [hdefinition]
      apply takes_external hid
      refine Takes.space ((takes_peek (lex_word hndata (apart_cons (by decide)))).bind fun t ht => ?_)
      rw [if_pos ⟨ht, hgeneral⟩]
      refine (takes_keyword hndata).bind fun _ _ => ?_
      have hname : Nmtoken notationName := hdata notationName rfl
      exact Takes.space ((takes_expectName hname (apart_cons (by decide))).bind_fst fun _ =>
        takes_pure rfl)

/-- What is read behind the `%` of a parameter entity, or behind the opener of another one. -/
theorem takes_named {definition : Definition} (isParameter : Bool)
    (hopener : opener.source = source.id) (hname : Nmtoken name) (h : definition.Shaped)
    (hparameter : isParameter = true → ∀ id n, definition ≠ .external id (some n)) :
    Takes source
      (do
        let (name, location) ← expectName w "an entity name"
        let definition ← Parser.definition w isParameter
        expectClose w opener
        return if isParameter then Item.parameter name location definition
          else .entity name location definition)
      (name.toList ++ ' ' :: (definitionText definition ++ '>' :: rest))
      (fun i => ∃ l, i = if isParameter then .parameter name l definition
        else .entity name l definition) rest := by
  refine (takes_expectName hname (apart_cons (by decide))).bind_fst fun l => ?_
  refine Takes.space ((takes_definition h hparameter).bind_eq ?_)
  exact (takes_expectClose hopener).bind fun _ _ => takes_pure ⟨l, rfl⟩

theorem takes_parameter (w : World) (rest : List Char) {definition : Definition}
    (hopener : opener.source = source.id) (hname : Nmtoken name) (h : definition.Shaped)
    (hdata : ∀ id n, definition ≠ .external id (some n)) :
    Takes source (entity w opener)
      (' ' :: '%' :: ' ' :: (name.toList ++ ' ' :: (definitionText definition ++ '>' :: rest)))
      (fun i => ∃ l, i = .parameter name l definition) rest := by
  refine Takes.space ((takes_peek (t := .percent) rfl).bind_eq ?_)
  refine (takes_next (t := .percent) rfl).bind fun _ _ => ?_
  apply Takes.space
  exact takes_named true hopener hname h fun _ => hdata

theorem takes_entity (w : World) (rest : List Char) {definition : Definition}
    (hopener : opener.source = source.id) (hname : Nmtoken name) (h : definition.Shaped) :
    Takes source (entity w opener)
      (' ' :: (name.toList ++ ' ' :: (definitionText definition ++ '>' :: rest)))
      (fun i => ∃ l, i = .entity name l definition) rest := by
  refine Takes.space ((takes_peek (lex_word hname (apart_cons (by decide)))).bind_eq ?_)
  exact takes_named false hopener hname h nofun

end Entities

section Notations

theorem takes_notationIds {ids : Notation} (h : ids.Shaped) :
    Takes source (notationIds w) (ids.text.toList ++ '>' :: rest) (fun b => b = ids)
      ('>' :: rest) := by
  obtain ⟨publicId, systemId⟩ := ids
  obtain ⟨hsome, hpublic, hsystem⟩ := h
  have hsystemWord : Nmtoken "SYSTEM" := nmtoken_of_all (by decide) (by decide)
  have hpublicWord : Nmtoken "PUBLIC" := nmtoken_of_all (by decide) (by decide)
  cases publicId with
  | none =>
    cases systemId with
    | none => exact absurd hsome (by simp)
    | some systemId =>
      have htext : (Notation.mk none (some systemId)).text.toList ++ '>' :: rest =
          "SYSTEM".toList ++ ' ' :: ((quote systemId).toList ++ '>' :: rest) := by
        simp [Notation.text]
      rw [htext]
      refine (takes_keyword hsystemWord).bind fun l hl => ?_
      rw [hl.1]
      exact Takes.space ((takes_expectLiteral (hsystem _ rfl)).bind_eq (takes_pure rfl))
  | some publicId =>
    cases systemId with
    | none =>
      have htext : (Notation.mk (some publicId) none).text.toList ++ '>' :: rest =
          "PUBLIC".toList ++ ' ' :: ((quote publicId).toList ++ '>' :: rest) := by
        simp [Notation.text]
      rw [htext]
      refine (takes_keyword hpublicWord).bind fun l hl => ?_
      rw [hl.1]
      refine Takes.space ((takes_expectLiteral (hpublic _ rfl)).bind_eq ?_)
      exact (takes_peek (t := .close) rfl).bind_eq (takes_pure rfl)
    | some systemId =>
      have htext : (Notation.mk (some publicId) (some systemId)).text.toList ++ '>' :: rest =
          "PUBLIC".toList ++ ' ' :: ((quote publicId).toList ++
            ' ' :: ((quote systemId).toList ++ '>' :: rest)) := by
        simp [Notation.text]
      rw [htext]
      refine (takes_keyword hpublicWord).bind fun l hl => ?_
      rw [hl.1]
      refine Takes.space ((takes_expectLiteral (hpublic _ rfl)).bind_eq ?_)
      refine Takes.space ((takes_peek (lex_quote (hsystem _ rfl))).bind_eq ?_)
      exact (takes_expectLiteral (hsystem _ rfl)).bind_eq (takes_pure rfl)

theorem takes_notationDecl (w : World) (rest : List Char) {ids : Notation}
    (hopener : opener.source = source.id) (hname : Nmtoken name) (h : ids.Shaped) :
    Takes source (notationDecl w opener)
      (' ' :: (name.toList ++ ' ' :: (ids.text.toList ++ '>' :: rest)))
      (fun i => i = .notation_ name ids) rest := by
  refine Takes.space ((takes_expectName hname (apart_cons (by decide))).bind_fst fun _ => ?_)
  refine Takes.space ((takes_notationIds h).bind_eq ?_)
  exact (takes_expectClose hopener).bind fun _ _ => takes_pure rfl

end Notations

end Doctype.Parser
