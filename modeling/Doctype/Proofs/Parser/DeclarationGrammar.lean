import Doctype.Parser.Declaration
import Doctype.Proofs.Parser.ContentGrammar
import Doctype.Proofs.Parser.Effects

/-! Attribute lists, entities and notations are parsed by exactly their grammar, and declare what has
not been declared before. -/
namespace Doctype

namespace AttributeType

/-- The attribute types that are written as a keyword. -/
def keywords : List (String × AttributeType) :=
  [("CDATA", .cdata), ("ID", .id), ("IDREF", .idref), ("IDREFS", .idrefs), ("ENTITY", .entity),
    ("ENTITIES", .entities), ("NMTOKEN", .nmtoken), ("NMTOKENS", .nmtokens)]

/-- The tokens of names in parentheses, the first one apart. -/
def listed (name : String) (names : List String) : List Token :=
  .parenOpen :: .name name :: (ContentSpec.alternatives names ++ [.parenClose])

/-- The tokens that the type of an attribute can be derived from. -/
inductive Derives : List Token → AttributeType → Prop
  | keyword {b : String × AttributeType} : b ∈ keywords → Derives [.name b.1] b.2
  | enumeration (name : String) (names : List String) :
      Derives (listed name names) (.enumeration (name :: names))
  | notations (name : String) (names : List String) :
      Derives (.name "NOTATION" :: listed name names) (.notations (name :: names))

end AttributeType

/-- The tokens that the default of an attribute can be derived from. -/
inductive DefaultDecl.Derives : List Token → DefaultDecl → Prop
  | value (v : String) : Derives [.literal v] (.value v)
  | required : Derives [.hash "REQUIRED"] .required
  | implied : Derives [.hash "IMPLIED"] .implied
  | fixed (v : String) : Derives [.hash "FIXED", .literal v] (.fixed v)

/-- The tokens that the definitions of attributes can be derived from: a name, a type and a default for
each of them. -/
inductive AttributeDef.Derives : List Token → List (String × AttributeDef) → Prop
  | nil : Derives [] []
  | cons {name : String} {ts us vs : List Token} {d : AttributeDef}
      {defs : List (String × AttributeDef)} : d.type.Derives ts → d.default.Derives us →
      Derives vs defs → Derives (.name name :: (ts ++ (us ++ vs))) ((name, d) :: defs)

/-- The tokens that an external identifier can be derived from. -/
inductive ExternalId.Derives : List Token → ExternalId → Prop
  | system (s : String) : Derives [.name "SYSTEM", .literal s] ⟨none, s⟩
  | both (p s : String) : Derives [.name "PUBLIC", .literal p, .literal s] ⟨some p, s⟩

/-- The tokens that the definition of an entity can be derived from. A parameter entity is in no
notation. -/
inductive Definition.Derives (isParameter : Bool) : List Token → Definition → Prop
  | literal (value : String) : Derives isParameter [.literal value] (.literal value)
  | external {ts : List Token} {id : ExternalId} : id.Derives ts →
      Derives isParameter ts (.external id none)
  | unparsed {ts : List Token} {id : ExternalId} (name : String) : isParameter = false →
      id.Derives ts →
      Derives isParameter (ts ++ [.name "NDATA", .name name]) (.external id (some name))

/-- The tokens that the identifiers of a notation can be derived from. -/
inductive Notation.Derives : List Token → Notation → Prop
  | system (s : String) : Derives [.name "SYSTEM", .literal s] ⟨none, some s⟩
  | publicId (p : String) : Derives [.name "PUBLIC", .literal p] ⟨some p, none⟩
  | both (p s : String) : Derives [.name "PUBLIC", .literal p, .literal s] ⟨some p, some s⟩

namespace Item

/-- The lexemes between `<!` with a keyword and `>` that an item can be derived from: a name, behind a
`%` if it is the name of a parameter entity, and what is declared. -/
inductive Derives : Keyword → List Lexeme → Item → Prop
  | attlist {l : Lexeme} {name : String} {ls : List Lexeme} {defs : List (String × AttributeDef)} :
      l.token = .name name → AttributeDef.Derives (ls.map (·.token)) defs →
      Derives .attlist (l :: ls) (.attlist name defs)
  | parameter {o l : Lexeme} {name : String} {ls : List Lexeme} {definition : Definition} :
      o.token = .percent → l.token = .name name → definition.Derives true (ls.map (·.token)) →
      Derives .entity (o :: l :: ls) (.parameter name l.location definition)
  | entity {l : Lexeme} {name : String} {ls : List Lexeme} {definition : Definition} :
      l.token = .name name → definition.Derives false (ls.map (·.token)) →
      Derives .entity (l :: ls) (.entity name l.location definition)
  | notation_ {l : Lexeme} {name : String} {ls : List Lexeme} {ids : Notation} :
      l.token = .name name → ids.Derives (ls.map (·.token)) →
      Derives .notation_ (l :: ls) (.notation_ name ids)

/-- A table of entities raises no error for an item. -/
def Permitted (t : EntityTable) : Item → Prop
  | parameter name _ definition => ∃ u, definition.declare t name = .ok u
  | entity _ _ definition => ∃ e, definition.resolve t = .ok e
  | _ => True

/-- What the declaration of attributes, an entity or a notation changes in the entities and the document
type, and nothing else: attributes that the element does not have come behind those that it has, each
as it is defined first; all else is declared unless its name has been declared. -/
def Changes (t : EntityTable) (d : DocumentType) (t' : EntityTable) (d' : DocumentType) :
    Item → Prop
  | attlist owner defs => t' = t ∧ ∃ attlists, d' = { d with attlists := attlists } ∧
      attlists.names =
        (if d.attlists.has owner then d.attlists.names else d.attlists.names ++ [owner]) ∧
      ∀ name, attlists.get? name = if name = owner then
        some (d.attributes owner ++
          (Bindings.firsts defs).filter fun b => !(d.attributes owner).has b.1)
        else d.attlists.get? name
  | parameter name _ (.literal value) => d' = d ∧
      if t.contains name then t' = t
      else ∃ text, t.expand value = .ok text ∧
        t' = { t with values := t.values.insertSorted name text }
  | parameter name _ (.external id _) => d' = d ∧
      if t.contains name then t' = t
      else t' = { t with uris := t.uris.insertSorted name id.systemId }
  | entity name _ definition => t' = t ∧
      if d.entities.has name then d' = d
      else ∃ e, definition.resolve t = .ok e ∧ d' = { d with entities := d.entities ++ [(name, e)] }
  | notation_ name ids => t' = t ∧
      if d.notations.has name then d' = d
      else d' = { d with notations := d.notations ++ [(name, ids)] }
  | _ => False

end Item

namespace Parser

variable {w : World} {p : Parser} {o : Lexeme}

theorem simpleType_iff {keyword : String} {type : AttributeType} :
    simpleType? keyword = some type ↔ (keyword, type) ∈ AttributeType.keywords := by
  constructor
  · intro h
    unfold simpleType? at h
    split at h <;> cases h <;> decide
  · intro h
    simp only [AttributeType.keywords, List.mem_cons, List.not_mem_nil, or_false,
      Prod.mk.injEq] at h
    rcases h with ⟨rfl, rfl⟩ | ⟨rfl, rfl⟩ | ⟨rfl, rfl⟩ | ⟨rfl, rfl⟩ | ⟨rfl, rfl⟩ | ⟨rfl, rfl⟩ |
      ⟨rfl, rfl⟩ | ⟨rfl, rfl⟩ <;> rfl

theorem externalId_system (w : World) : externalId w false =
    expectLiteral w "a system identifier" >>= fun systemId => pure ⟨none, systemId⟩ := by
  simp only [externalId, Bool.false_eq_true, if_false, pure_bind]

theorem externalId_public (w : World) : externalId w true =
    expectLiteral w "a public identifier" >>= fun publicId =>
      expectLiteral w "a system identifier" >>= fun systemId => pure ⟨some publicId, systemId⟩ := by
  simp only [externalId, if_true, map_eq_pure_bind, bind_assoc, pure_bind]

/-! What is taken. -/

section Soundness

theorem accepts_nameList (fuel : Nat) (names : List String) :
    Accepts w (fun ts all => ∃ name added,
      ts = .name name :: (ContentSpec.alternatives added ++ [.parenClose]) ∧
        all = names ++ name :: added) (nameList w fuel names) p := by
  induction fuel generalizing names p with
  | zero => exact .throw _
  | succ fuel ih =>
    refine (Accepts.expectName _).bind fun ts b q hts => .next fun l r _ => ?_
    split
    · rename_i hpipe
      refine (ih (names ++ [b.1])).mono ?_
      rintro us all ⟨name, added, rfl, rfl⟩
      exact ⟨b.1, name :: added, by simp [ContentSpec.alternatives, hpipe, hts], by simp⟩
    · rename_i hclose
      exact .pure ⟨b.1, [], by simp [ContentSpec.alternatives, hclose, hts], by simp⟩
    · exact .unexpected _ _

theorem accepts_attributeType (fuel : Nat) :
    Accepts w AttributeType.Derives (attributeType w fuel) p := by
  refine .next fun l q _ => ?_
  split
  · rename_i hopen
    refine (accepts_nameList fuel []).bind fun ts names r hts => .pure ?_
    obtain ⟨name, added, rfl, rfl⟩ := hts
    rw [hopen, List.append_nil]
    exact .enumeration name added
  · rename_i hlisted
    refine (Accepts.expect .parenOpen _).bind fun us _ q' hus => ?_
    refine (accepts_nameList fuel []).bind fun ts names r hts => .pure ?_
    obtain ⟨name, added, rfl, rfl⟩ := hts
    rw [hlisted, hus, List.append_nil]
    exact .notations name added
  · rename_i keyword _ hname
    split
    · rename_i type htype
      rw [hname]
      exact .pure (.keyword (simpleType_iff.1 htype))
    · exact .unexpected _ _
  · exact .unexpected _ _

theorem accepts_defaultDecl : Accepts w DefaultDecl.Derives (defaultDecl w) p := by
  refine .next fun l q _ => ?_
  split
  · rename_i value hvalue
    rw [hvalue]
    exact .pure (.value value)
  · rename_i hrequired
    rw [hrequired]
    exact .pure .required
  · rename_i himplied
    rw [himplied]
    exact .pure .implied
  · rename_i hfixed
    refine (Accepts.expectLiteral _).bind fun ts value r hts => .pure ?_
    rw [hfixed, hts]
    exact .fixed value
  · exact .unexpected _ _

theorem accepts_externalId (isPublic : Bool) :
    Accepts w (fun ts id =>
      ExternalId.Derives (.name (if isPublic then "PUBLIC" else "SYSTEM") :: ts) id)
      (externalId w isPublic) p := by
  cases isPublic with
  | false =>
    rw [externalId_system]
    refine (Accepts.expectLiteral _).bind fun ts systemId q hts => .pure ?_
    rw [hts]
    exact .system systemId
  | true =>
    rw [externalId_public]
    refine (Accepts.expectLiteral _).bind fun ts publicId q hts => ?_
    refine (Accepts.expectLiteral _).bind fun us systemId r hus => .pure ?_
    rw [hts, hus]
    exact .both publicId systemId

theorem accepts_definition (isParameter : Bool) :
    Accepts w (Definition.Derives isParameter) (definition w isParameter) p := by
  refine .next fun l q _ => ?_
  split
  · rename_i value hvalue
    rw [hvalue]
    exact .pure (.literal value)
  · rename_i keyword hname
    rw [hname]
    split
    · rename_i hkeyword
      have hwritten : (if decide (keyword = "PUBLIC") then "PUBLIC" else "SYSTEM") = keyword := by
        rcases hkeyword with rfl | rfl <;> rfl
      refine (accepts_externalId _).bind fun ts id r hid => ?_
      rw [hwritten] at hid
      refine .peek fun m s u hm => ?_
      split
      · rename_i hndata
        obtain ⟨hndata, hparameter⟩ := hndata
        refine .next_eq hm ((Accepts.expectName _).bind fun us b v hus => .pure ?_)
        rw [hndata, hus]
        simpa using Definition.Derives.unparsed b.1 hparameter hid
      · refine .pure ?_
        rw [List.append_nil]
        exact .external hid
    · exact .unexpected _ _
  · exact .unexpected _ _

theorem accepts_notationIds : Accepts w Notation.Derives (notationIds w) p := by
  refine .next fun l q _ => ?_
  split
  · rename_i hsystem
    refine (Accepts.expectLiteral _).bind fun ts s r hts => .pure ?_
    rw [hsystem, hts]
    exact .system s
  · rename_i hpublic
    refine (Accepts.expectLiteral _).bind fun ts publicId r hts => .peek fun m s u hm => ?_
    rw [hpublic, hts]
    split
    · refine (Accepts.expectLiteral _).bind fun us systemId v hus => .pure ?_
      rw [hus]
      exact .both publicId systemId
    · exact .pure (.publicId publicId)
  · exact .unexpected _ _

theorem acceptsBody_attributes (fuel : Nat) (defs : List (String × AttributeDef)) :
    AcceptsBody w o (fun ls all => ∃ added, AttributeDef.Derives (ls.map (·.token)) added ∧
      all = defs ++ added) (attributes w o fuel defs) p := by
  induction fuel generalizing defs p with
  | zero => exact .throw _
  | succ fuel ih =>
    refine .peek fun l q r hl => ?_
    split
    · exact .expectClose ⟨[], .nil, (List.append_nil defs).symm⟩
    · refine .expectName fun l name q hname => ?_
      refine .bind (accepts_attributeType fuel) fun ls type r htype => ?_
      refine .bind accepts_defaultDecl fun ms default s hdefault => ?_
      refine (ih (defs ++ [(name, ⟨type, default⟩)])).mono ?_
      rintro ns all ⟨added, hadded, rfl⟩
      refine ⟨(name, ⟨type, default⟩) :: added, ?_, by rw [List.append_assoc]; rfl⟩
      rw [List.map_cons, List.map_append, List.map_append, hname]
      exact .cons htype hdefault hadded

theorem acceptsBody_attlist (fuel : Nat) :
    AcceptsBody w o (Item.Derives .attlist) (attlist w fuel o) p := by
  refine .expectName fun l name q hname => ?_
  refine (acceptsBody_attributes fuel []).map ?_
  rintro ls all ⟨added, hadded, rfl⟩
  exact .attlist hname hadded

theorem acceptsBody_entity : AcceptsBody w o (Item.Derives .entity) (entity w o) p := by
  refine .peek fun l q r hl => ?_
  by_cases hpercent : l.token = .percent
  · simp only [hpercent, decide_true, if_true]
    refine .next_eq hl (.expectName fun m name s hname => ?_)
    refine .bind (accepts_definition true) fun ls definition u hdefinition => .expectClose ?_
    rw [List.append_nil]
    exact .parameter hpercent hname hdefinition
  · simp only [hpercent, decide_false, Bool.false_eq_true, if_false]
    refine .expectName fun m name s hname => ?_
    refine .bind (accepts_definition false) fun ls definition u hdefinition => .expectClose ?_
    rw [List.append_nil]
    exact .entity hname hdefinition

theorem acceptsBody_notationDecl :
    AcceptsBody w o (Item.Derives .notation_) (notationDecl w o) p := by
  refine .expectName fun l name q hname => ?_
  refine .bind accepts_notationIds fun ls ids r hids => .expectClose ?_
  rw [List.append_nil]
  exact .notation_ hname hids

/-- A declaration is taken from lexemes that it can be derived from. -/
theorem acceptsBody_declaration (fuel : Nat) {keyword : Keyword} (h : keyword ≠ .element) :
    AcceptsBody w o (Item.Derives keyword) (declaration w fuel keyword o) p := by
  cases keyword with
  | element => exact absurd rfl h
  | attlist => exact acceptsBody_attlist fuel
  | entity => exact acceptsBody_entity
  | notation_ => exact acceptsBody_notationDecl

end Soundness

/-! What is read. -/

section Completeness

variable {stop : Token → Prop} {ts : List Token} {fuel : Nat} {ls : List Lexeme}

theorem yields_nameList (name : String) (added names : List String) (hfuel : added.length < fuel) :
    Yields w stop (nameList w fuel names)
      (.name name :: (ContentSpec.alternatives added ++ [.parenClose]))
      (names ++ name :: added) := by
  obtain ⟨fuel, rfl⟩ : ∃ n, fuel = n + 1 := ⟨fuel - 1, by omega⟩
  induction added generalizing fuel name names with
  | nil =>
    refine .expectName fun _ => .next fun l hl => ?_
    rw [hl]
    exact .pure
  | cons next added ih =>
    rw [List.length_cons] at hfuel
    obtain ⟨fuel, rfl⟩ : ∃ n, fuel = n + 1 := ⟨fuel - 1, by omega⟩
    have hrest := ih next (names ++ [name]) fuel (by omega)
    rw [List.append_assoc] at hrest
    refine .expectName fun _ => .next fun l hl => ?_
    rw [hl]
    exact hrest

theorem yields_attributeType {type : AttributeType} (h : type.Derives ts)
    (hfuel : ts.length ≤ fuel) : Yields w stop (attributeType w fuel) ts type := by
  cases h with
  | @keyword b hb =>
    have hne : b.1 ≠ "NOTATION" := by
      rintro hname
      rw [← simpleType_iff, hname] at hb
      cases hb
    refine .next fun l hl => ?_
    split
    · rename_i hopen
      cases hl.symm.trans hopen
    · rename_i hname
      exact absurd (Token.name.inj (hl.symm.trans hname)) hne
    · rename_i hname
      cases hl.symm.trans hname
      rw [simpleType_iff.2 hb]
      exact .pure
    · rename_i hother
      exact absurd hl (hother b.1)
  | enumeration name names =>
    have hlength := length_alternatives names
    simp only [AttributeType.listed, List.length_cons, List.length_append] at hfuel
    refine .next fun l hl => ?_
    rw [hl]
    exact (yields_nameList name names [] (by omega)).map
  | notations name names =>
    have hlength := length_alternatives names
    simp only [AttributeType.listed, List.length_cons, List.length_append] at hfuel
    refine .next fun l hl => ?_
    rw [hl]
    exact .expect fun _ _ => (yields_nameList name names [] (by omega)).map

theorem yields_defaultDecl {default : DefaultDecl} (h : default.Derives ts) :
    Yields w stop (defaultDecl w) ts default := by
  cases h with
  | value | required | implied =>
    refine .next fun l hl => ?_
    rw [hl]
    exact .pure
  | fixed =>
    refine .next fun l hl => ?_
    rw [hl]
    exact .expectLiteral .pure

theorem yields_externalId (w : World) {id : ExternalId} (h : id.Derives ts) :
    ∃ keyword us, ts = .name keyword :: us ∧ (keyword = "SYSTEM" ∨ keyword = "PUBLIC") ∧
      Yields w (fun _ => True) (externalId w (decide (keyword = "PUBLIC"))) us id := by
  cases h with
  | system systemId =>
    refine ⟨_, _, rfl, .inl rfl, ?_⟩
    change Yields w _ (externalId w false) _ _
    rw [externalId_system]
    exact .expectLiteral .pure
  | both publicId systemId =>
    refine ⟨_, _, rfl, .inr rfl, ?_⟩
    change Yields w _ (externalId w true) _ _
    rw [externalId_public]
    exact .expectLiteral (.expectLiteral .pure)

theorem yields_definition {isParameter : Bool} {d : Definition} (h : d.Derives isParameter ts) :
    Yields w (· = .close) (definition w isParameter) ts d := by
  cases h with
  | literal value =>
    refine .next fun l hl => ?_
    rw [hl]
    exact .pure
  | external hid =>
    obtain ⟨keyword, us, rfl, hkeyword, hyields⟩ := yields_externalId w hid
    rw [← List.append_nil us]
    refine .next fun l hl => ?_
    rw [hl]
    dsimp only
    rw [if_pos hkeyword]
    refine hyields.bind (.peek ?_) fun _ _ _ _ => trivial
    rintro _ rfl u ⟨⟩
    rw [if_neg (by nofun)]
    exact .pure
  | unparsed name hparameter hid =>
    obtain ⟨keyword, us, rfl, hkeyword, hyields⟩ := yields_externalId w hid
    refine .next fun l hl => ?_
    rw [hl]
    dsimp only
    rw [if_pos hkeyword]
    refine hyields.bind (.peek ?_) fun _ _ _ _ => trivial
    rintro _ rfl u ⟨⟩
    rw [if_pos ⟨rfl, hparameter⟩]
    exact .next fun _ _ => .expectName fun _ => .pure

theorem yields_notationIds {ids : Notation} (h : ids.Derives ts) :
    Yields w (· = .close) (notationIds w) ts ids := by
  cases h with
  | system systemId =>
    refine .next fun l hl => ?_
    rw [hl]
    exact .expectLiteral .pure
  | publicId publicId =>
    refine .next fun l hl => ?_
    rw [hl]
    refine .expectLiteral (.peek ?_)
    rintro _ rfl u ⟨⟩
    exact .pure
  | both publicId systemId =>
    refine .next fun l hl => ?_
    rw [hl]
    refine .expectLiteral (.peek ?_)
    rintro _ rfl u ⟨⟩
    exact .expectLiteral .pure

theorem yieldsBody_attributes {added : List (String × AttributeDef)}
    (h : AttributeDef.Derives (ls.map (·.token)) added) (defs : List (String × AttributeDef))
    (hfuel : ls.length < fuel) :
    YieldsBody w o (attributes w o fuel defs) ls (defs ++ added) := by
  obtain ⟨fuel, rfl⟩ : ∃ n, fuel = n + 1 := ⟨fuel - 1, by omega⟩
  generalize hts : ls.map (·.token) = ts at h
  induction h generalizing ls fuel defs with
  | nil =>
    obtain rfl := List.map_eq_nil_iff.1 hts
    rw [List.append_nil]
    refine .peek ?_
    rintro u ⟨⟩
    exact .expectClose
  | @cons name ts us vs d added htype hdefault _ ih =>
    obtain ⟨l, _, rfl, hname, hbehind₁⟩ := List.map_eq_cons_iff.1 hts
    obtain ⟨ls₁, _, rfl, rfl, hbehind₂⟩ := List.map_eq_append_iff.1 hbehind₁
    obtain ⟨ls₂, ls₃, rfl, rfl, rfl⟩ := List.map_eq_append_iff.1 hbehind₂
    simp only [List.length_cons, List.length_append] at hfuel
    obtain ⟨fuel, rfl⟩ : ∃ n, fuel = n + 1 := ⟨fuel - 1, by omega⟩
    have hrest := ih (defs ++ [(name, d)]) fuel (by omega) rfl
    rw [List.append_assoc] at hrest
    have htypes : Yields w (fun _ => True) (attributeType w (fuel + 1)) (ls₁.map (·.token)) d.type :=
      yields_attributeType htype (by rw [List.length_map]; omega)
    have hdefaults : Yields w (fun _ => True) (defaultDecl w) (ls₂.map (·.token)) d.default :=
      yields_defaultDecl hdefault
    refine .peek ?_
    rintro u ⟨⟩
    rw [hname, if_neg nofun]
    refine .expectName hname ?_
    refine .bind htypes ?_ fun _ _ => trivial
    exact .bind hdefaults hrest fun _ _ => trivial

/-- A declaration is read from lexemes that it can be derived from. -/
theorem yieldsBody_declaration {keyword : Keyword} {i : Item} (h : i.Derives keyword ls)
    (hfuel : ls.length ≤ fuel) : YieldsBody w o (declaration w fuel keyword o) ls i := by
  cases h with
  | attlist hname hdefs =>
    exact .expectName hname (yieldsBody_attributes hdefs [] hfuel).map
  | @parameter _ _ name ls definition hpercent hname hdefinition =>
    rw [← List.append_nil ls]
    refine .peek ?_
    rintro u ⟨⟩
    rw [hpercent]
    refine .next (.expectName hname ?_)
    exact .bind (yields_definition hdefinition) .expectClose (by rintro u ⟨⟩; rfl)
  | @entity _ name ls definition hname hdefinition =>
    rw [← List.append_nil ls]
    refine .peek ?_
    rintro u ⟨⟩
    rw [hname]
    refine .expectName hname ?_
    exact .bind (yields_definition hdefinition) .expectClose (by rintro u ⟨⟩; rfl)
  | @notation_ _ name ls ids hname hids =>
    rw [← List.append_nil ls]
    refine .expectName hname ?_
    exact .bind (yields_notationIds hids) .expectClose (by rintro u ⟨⟩; rfl)

end Completeness

/-! What is changed. -/

section Changes

variable {name : String}

theorem changes_attlist (name : String) (defs : List (String × AttributeDef)) (p : Parser) :
    ∃ s, Item.apply (.attlist name defs) p = .ok () s ∧
      Item.Changes p.entities p.model s.entities s.model (.attlist name defs) := by
  refine ⟨_, defineAttributes_eq name defs p, rfl, _, rfl, ?_, fun n => ?_⟩
  · cases h : p.model.attlists.has name with
    | true => exact Bindings.names_set_of_has h
    | false => exact Bindings.names_set_of_not_has h
  · rw [← Bindings.foldl_add]
    exact Bindings.get?_set

theorem changes_notation (name : String) (ids : Notation) (p : Parser) :
    ∃ s, Item.apply (.notation_ name ids) p = .ok () s ∧
      Item.Changes p.entities p.model s.entities s.model (.notation_ name ids) := by
  have happly := declareNotation_eq name ids p
  by_cases h : p.model.notations.has name
  · rw [if_pos h] at happly
    exact ⟨_, happly, rfl, by rw [if_pos h]⟩
  · have hadd : p.model.notations.add name ids = _ :=
      Bindings.add_of_not_has (Bool.not_eq_true _ ▸ h)
    rw [if_neg h, DocumentType.addNotation, hadd] at happly
    exact ⟨_, happly, rfl, by rw [if_neg h]⟩

theorem changes_entity {definition : Definition} (location : Location)
    (h : Item.Permitted p.entities (.entity name location definition)) :
    ∃ s, Item.apply (.entity name location definition) p = .ok () s ∧
      Item.Changes p.entities p.model s.entities s.model (.entity name location definition) := by
  obtain ⟨e, he⟩ := h
  have happly := declareEntity_eq name location definition p
  rw [he] at happly
  dsimp only at happly
  by_cases h : p.model.entities.has name
  · rw [if_pos h] at happly
    exact ⟨_, happly, rfl, by rw [if_pos h]⟩
  · have hadd : p.model.entities.add name e = _ :=
      Bindings.add_of_not_has (Bool.not_eq_true _ ▸ h)
    rw [if_neg h, DocumentType.addEntity, hadd] at happly
    exact ⟨_, happly, rfl, by rw [if_neg h]; exact ⟨e, he, rfl⟩⟩

/-- What the declaration of a parameter entity changes in the table. -/
theorem changes_declare {definition : Definition} {t u : EntityTable} {d : DocumentType}
    (location : Location) (h : definition.declare t name = .ok u) :
    Item.Changes t d u d (.parameter name location definition) := by
  cases definition with
  | literal value =>
    change t.declare name .value value = .ok u at h
    obtain ⟨-, ⟨hc, rfl⟩ | ⟨hc, ⟨-, text, htext, rfl⟩ | ⟨hkind, -⟩⟩⟩ :=
      EntityTable.declare_cases h
    · exact ⟨rfl, by rw [if_pos hc]⟩
    · rw [← Bool.not_eq_true] at hc
      exact ⟨rfl, by rw [if_neg hc]; exact ⟨text, htext, rfl⟩⟩
    · cases hkind
  | external id notationName =>
    change t.declare name .uri id.systemId = .ok u at h
    obtain ⟨-, ⟨hc, rfl⟩ | ⟨hc, ⟨hkind, -⟩ | ⟨-, rfl⟩⟩⟩ := EntityTable.declare_cases h
    · exact ⟨rfl, by rw [if_pos hc]⟩
    · cases hkind
    · rw [← Bool.not_eq_true] at hc
      exact ⟨rfl, by rw [if_neg hc]⟩

theorem changes_parameter {definition : Definition} (location : Location)
    (h : Item.Permitted p.entities (.parameter name location definition)) :
    ∃ s, Item.apply (.parameter name location definition) p = .ok () s ∧
      Item.Changes p.entities p.model s.entities s.model (.parameter name location definition) := by
  obtain ⟨u, hu⟩ := h
  have happly := declareParameter_eq name location definition p
  rw [hu] at happly
  refine ⟨_, happly, ?_⟩
  have hchanges : Item.Changes p.entities p.model u p.model _ := changes_declare location hu
  cases p.entities.contains name <;> exact hchanges

/-- Where the table of entities raises no error, a declaration takes effect. -/
theorem changes_of_derives {keyword : Keyword} {ls : List Lexeme} {i : Item}
    (h : i.Derives keyword ls) (hpermitted : i.Permitted p.entities) :
    ∃ s, i.apply p = .ok () s ∧ i.Changes p.entities p.model s.entities s.model := by
  cases h with
  | attlist => exact changes_attlist _ _ p
  | parameter => exact changes_parameter _ hpermitted
  | entity => exact changes_entity _ hpermitted
  | notation_ => exact changes_notation _ _ p

end Changes

variable {q r : Parser} {ls : List Lexeme} {c : Lexeme} {keyword : Keyword} {fuel : Nat}

/-- The lexemes between the opener and the `>` of an attribute list, an entity or a notation are read
as an item exactly if this can be derived from them and the `>` is from the source of the opener. Unless
the table of entities raises an error, the item takes effect then and changes what it declares. -/
theorem declaration_iff_derives (ho : o.token = .decl keyword) (hkeyword : keyword ≠ .element)
    (h : Delivers w p ls q) (hq : next w q = .ok c r) (hc : c.token = .close)
    (hfuel : ls.length ≤ fuel) (i : Item) :
    (item w fuel o p = .ok i r ↔ i.Derives keyword ls ∧ c.source = o.source) ∧
      (i.Derives keyword ls → i.Permitted p.entities → ∃ s, i.apply r = .ok () s ∧
        i.Changes p.entities p.model s.entities s.model) := by
  have hitem : item w fuel o = declaration w fuel keyword o := by
    unfold item
    rw [ho]
  rw [hitem]
  refine ⟨⟨fun hread => ?_, ?_⟩, fun hderives hpermitted => ?_⟩
  · obtain ⟨ms, q', c', hms, hq', hc', hsource, hderives⟩ :=
      acceptsBody_declaration fuel hkeyword i r hread
    obtain ⟨rfl, rfl⟩ := h.eq_of_next hms hq hq' (by rw [hc]; nofun) (by rw [hc']; nofun)
    exact ⟨hderives, hsource⟩
  · rintro ⟨hderives, hsource⟩
    exact yieldsBody_declaration hderives hfuel p q c r h hq hc hsource
  · have hframe := h.frame hq
    have hentities : r.entities = p.entities := by rw [hframe]
    have hmodel : r.model = p.model := by rw [hframe]
    rw [← hentities] at hpermitted ⊢
    rw [← hmodel]
    exact changes_of_derives hderives hpermitted

/-- An attribute that is defined twice. -/
def twiceDefined : List (String × AttributeDef) :=
  [("x", ⟨.cdata, .implied⟩), ("x", ⟨.id, .fixed "y"⟩)]

theorem declaration_iff_derives_attlist :
    ∃ o p ls q c r, o.token = .decl .attlist ∧ Delivers bare p ls q ∧ next bare q = .ok c r ∧
      c.token = .close ∧
      ls.map (·.token) = [.name "a", .name "x", .name "CDATA", .hash "IMPLIED", .name "x",
        .name "ID", .hash "FIXED", .literal "y"] ∧
      item bare 8 o p = .ok (.attlist "a" twiceDefined) r ∧
      ∃ s, Item.apply (.attlist "a" twiceDefined) r = .ok () s ∧
        s.model.attlists.get? "a" = some [("x", ⟨.cdata, .implied⟩)] := by
  have hstart := stands_start {} "a.dtd" "<!ATTLIST a x CDATA #IMPLIED x ID #FIXED 'y'>"
  have hopener : lex "<!ATTLIST a x CDATA #IMPLIED x ID #FIXED 'y'>".toList =
      .token (.decl .attlist) " a x CDATA #IMPLIED x ID #FIXED 'y'>".toList := rfl
  have hlexed : Lexed " a x CDATA #IMPLIED x ID #FIXED 'y'>".toList [.name "a", .name "x",
      .name "CDATA", .hash "IMPLIED", .name "x", .name "ID", .hash "FIXED", .literal "y"] ['>'] :=
    .cons rfl (.cons rfl (.cons rfl (.cons rfl (.cons rfl (.cons rfl (.cons rfl (.cons rfl
      (.nil _))))))))
  have hclose : lex ['>'] = .token .close [] := rfl
  obtain ⟨o, p, -, ⟨ho, hosource⟩, hp, hstill⟩ := takes_next (w := bare) hopener _ hstart.facing
  obtain ⟨ls, q, hls, hts, hfacing⟩ := hp.delivers hlexed (w := bare)
  obtain ⟨c, r, hq, ⟨hc, hcsource⟩, -⟩ := takes_next (w := bare) hclose q hfacing
  have hmodel : p.model = {} := by rw [hstill.frame]; rfl
  have hcdata : AttributeType.Derives [.name "CDATA"] .cdata :=
    .keyword (b := ("CDATA", .cdata)) (by decide)
  have hid : AttributeType.Derives [.name "ID"] .id := .keyword (b := ("ID", .id)) (by decide)
  have hdefs : AttributeDef.Derives _ twiceDefined :=
    .cons hcdata .implied (.cons hid (.fixed "y") .nil)
  have hderives : Item.Derives .attlist ls (.attlist "a" twiceDefined) := by
    obtain ⟨l, ms, rfl, hl, hms⟩ := List.map_eq_cons_iff.1 hts
    exact .attlist hl (hms ▸ hdefs)
  have hfuel : ls.length ≤ 8 := by
    rw [← List.length_map, hts]
    rfl
  obtain ⟨hread, heffect⟩ := declaration_iff_derives ho nofun hls hq hc hfuel
    (.attlist "a" twiceDefined)
  obtain ⟨s, hs, -, attlists, hattlists, -, hget⟩ := heffect hderives trivial
  refine ⟨o, p, ls, q, c, r, ho, hls, hq, hc, hts, ?_, s, hs, ?_⟩
  · exact hread.2 ⟨hderives, hcsource.trans hosource.symm⟩
  · rw [hattlists, hget, hmodel]
    rfl

end Parser

end Doctype
