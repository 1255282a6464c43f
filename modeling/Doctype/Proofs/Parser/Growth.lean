import Doctype.Proofs.Model.Table
import Doctype.Proofs.Parser.Beside

/-! What has been declared stays declared, and is well-formed. -/
namespace Doctype

/-- Everything that the first document type names, the second names as well. -/
structure DocumentType.Kept (d e : DocumentType) : Prop where
  elements : ∀ name, d.elements.has name = true → e.elements.has name = true
  attlists : ∀ name, d.attlists.has name = true → e.attlists.has name = true
  attributes : ∀ name a, (d.attributes name).has a = true → (e.attributes name).has a = true
  entities : ∀ name, d.entities.has name = true → e.entities.has name = true
  notations : ∀ name, d.notations.has name = true → e.notations.has name = true

/-- The second document type has all declarations of the first, in the same order, and maybe more
behind them. -/
structure DocumentType.Extends (d e : DocumentType) : Prop where
  elements : d.elements <+: e.elements
  owners : d.attlists.names <+: e.attlists.names
  attributes : ∀ owner, d.attributes owner <+: e.attributes owner
  entities : d.entities <+: e.entities
  notations : d.notations <+: e.notations
  instructions : d.instructions <+: e.instructions

def EntityDef.Shaped : EntityDef → Prop
  | internal _ => True
  | external id => id.Shaped
  | unparsed id notationName => id.Shaped ∧ Nmtoken notationName

/-- Bindings of different names, each to a value with a property. -/
structure Bindings.Proper {α : Type} (P : α → Prop) (bs : Bindings α) : Prop where
  nodup : bs.names.Nodup
  names : ∀ b ∈ bs, Nmtoken b.1
  values : ∀ b ∈ bs, P b.2

/-- A document type as declarations leave it. -/
structure DocumentType.Sound (keep : Bool) (d : DocumentType) : Prop where
  elements : d.elements.Proper ContentSpec.Shaped
  attlists : d.attlists.Proper (Bindings.Proper AttributeDef.Shaped)
  entities : d.entities.Proper EntityDef.Shaped
  notations : d.notations.Proper Notation.Shaped
  instructions : ∀ i ∈ d.instructions, keep = true ∧ Parser.isTextDeclaration i.target = false ∧
    (Item.instruction i.target i.data).Shaped

namespace Bindings.Proper

variable {α : Type} {P : α → Prop} {bs : Bindings α} {name : String} {value : α}

theorem empty : Proper P [] :=
  ⟨.nil, nofun, nofun⟩

theorem singleton (hname : Nmtoken name) (hvalue : P value) : Proper P [(name, value)] :=
  ⟨List.nodup_singleton name, fun _ hb => List.mem_singleton.1 hb ▸ hname,
    fun _ hb => List.mem_singleton.1 hb ▸ hvalue⟩

theorem add (h : bs.Proper P) (hname : Nmtoken name) (hvalue : P value) :
    (bs.add name value).Proper P := by
  refine ⟨nodup_add h.nodup, fun b hb => ?_, fun b hb => ?_⟩
  · rcases mem_add hb with hb | rfl
    · exact h.names b hb
    · exact hname
  · rcases mem_add hb with hb | rfl
    · exact h.values b hb
    · exact hvalue

theorem mem_set {b : String × α} (hb : b ∈ bs.set name value) : b ∈ bs ∨ b = (name, value) := by
  unfold set at hb
  split at hb
  · obtain ⟨c, hc, rfl⟩ := List.mem_map.1 hb
    split
    · exact .inr rfl
    · exact .inl hc
  · rw [List.mem_append, List.mem_singleton] at hb
    exact hb

theorem set (h : bs.Proper P) (hname : Nmtoken name) (hvalue : P value) :
    (bs.set name value).Proper P := by
  refine ⟨nodup_set h.nodup, fun b hb => ?_, fun b hb => ?_⟩
  · rcases mem_set hb with hb | rfl
    · exact h.names b hb
    · exact hname
  · rcases mem_set hb with hb | rfl
    · exact h.values b hb
    · exact hvalue

theorem of_get? (h : bs.Proper P) (hg : bs.get? name = some value) : P value :=
  h.values _ (mem_of_get? hg)

end Bindings.Proper

namespace DocumentType

variable {d e f : DocumentType} {name : String}

theorem Kept.refl (d : DocumentType) : d.Kept d :=
  ⟨fun _ => id, fun _ => id, fun _ _ => id, fun _ => id, fun _ => id⟩

theorem Kept.trans (h : d.Kept e) (h' : e.Kept f) : d.Kept f :=
  ⟨fun n hn => h'.elements n (h.elements n hn), fun n hn => h'.attlists n (h.attlists n hn),
    fun n a ha => h'.attributes n a (h.attributes n a ha),
    fun n hn => h'.entities n (h.entities n hn), fun n hn => h'.notations n (h.notations n hn)⟩

theorem Extends.refl (d : DocumentType) : d.Extends d :=
  ⟨List.prefix_rfl, List.prefix_rfl, fun _ => List.prefix_rfl, List.prefix_rfl, List.prefix_rfl,
    List.prefix_rfl⟩

theorem Extends.trans (h : d.Extends e) (h' : e.Extends f) : d.Extends f :=
  ⟨h.elements.trans h'.elements, h.owners.trans h'.owners,
    fun owner => (h.attributes owner).trans (h'.attributes owner), h.entities.trans h'.entities,
    h.notations.trans h'.notations, h.instructions.trans h'.instructions⟩

theorem has_of_prefix {α : Type} {bs cs : Bindings α} {name : String} (h : bs.names <+: cs.names)
    (hn : bs.has name = true) : cs.has name = true :=
  Bindings.has_iff.2 (h.subset (Bindings.has_iff.1 hn))

/-- What is extended is kept. -/
theorem Extends.kept (h : d.Extends e) : d.Kept e := by
  constructor
  · exact fun _ => has_of_prefix (h.elements.map Prod.fst)
  · exact fun _ => has_of_prefix h.owners
  · exact fun name _ => has_of_prefix ((h.attributes name).map Prod.fst)
  · exact fun _ => has_of_prefix (h.entities.map Prod.fst)
  · exact fun _ => has_of_prefix (h.notations.map Prod.fst)

/-- The attributes of a list with some definitions added. -/
def defined (list : AttributeList) (defs : List (String × AttributeDef)) : AttributeList :=
  defs.foldl (fun list b => list.add b.1 b.2) list

theorem has_defined {list : AttributeList} {defs : List (String × AttributeDef)} {a : String} :
    (defined list defs).has a = true ↔ list.has a = true ∨ a ∈ defs.map Prod.fst := by
  unfold defined
  induction defs generalizing list with
  | nil => simp
  | cons b defs ih =>
    rw [List.foldl_cons, ih, Bindings.has_add, List.map_cons, List.mem_cons, or_assoc]

theorem prefix_defined (list : AttributeList) (defs : List (String × AttributeDef)) :
    list <+: defined list defs := by
  unfold defined
  induction defs generalizing list with
  | nil => exact List.prefix_rfl
  | cons b defs ih => exact (Bindings.prefix_add list b.1 b.2).trans (ih (list.add b.1 b.2))

theorem proper_defined {list : AttributeList} {defs : List (String × AttributeDef)}
    (h : list.Proper AttributeDef.Shaped) (hdefs : AttributesShaped defs) :
    (defined list defs).Proper AttributeDef.Shaped := by
  unfold defined
  induction defs generalizing list with
  | nil => exact h
  | cons b defs ih =>
    obtain ⟨hname, hshaped⟩ := hdefs b List.mem_cons_self
    exact ih (h.add hname hshaped) fun c hc => hdefs c (List.mem_cons_of_mem _ hc)

theorem attributes_addAttributes {defs : List (String × AttributeDef)} (n : String) :
    (d.addAttributes name defs).attributes n =
      if n = name then defined (d.attributes name) defs else d.attributes n := by
  unfold addAttributes attributes
  simp only [Bindings.get?_set]
  split <;> rfl

theorem Sound.attributes {keep : Bool} (h : d.Sound keep) (name : String) :
    (d.attributes name).Proper AttributeDef.Shaped := by
  unfold DocumentType.attributes
  cases hg : d.attlists.get? name with
  | none => exact .empty
  | some list => exact h.attlists.of_get? hg

theorem sound_empty (keep : Bool) : ({} : DocumentType).Sound keep :=
  ⟨.empty, .empty, .empty, .empty, nofun⟩

end DocumentType

namespace Definition

variable {definition : Definition} {t u : EntityTable} {name : String}

theorem declare_kind (h : definition.declare t name = .ok u) :
    ∃ kind content, t.declare name kind content = .ok u := by
  cases definition with
  | literal value => exact ⟨.value, value, h⟩
  | external id n => exact ⟨.uri, id.systemId, h⟩

theorem sound_declare (h : definition.declare t name = .ok u) (hshaped : definition.Shaped)
    (ht : t.Sound) : u.Sound := by
  cases definition with
  | literal value =>
    have hvalue : t.declare name .value value = .ok u := h
    have hkind : EntityKind.value = .uri → Quotable value := nofun
    exact ht.declare hkind hvalue
  | external id n =>
    have huri : t.declare name .uri id.systemId = .ok u := h
    exact ht.declare (fun _ => hshaped.1.2) huri

theorem shaped_resolve {e : EntityDef} (h : definition.resolve t = .ok e)
    (hshaped : definition.Shaped) : e.Shaped := by
  cases definition with
  | literal value =>
    change EntityDef.internal <$> t.expand value = _ at h
    cases hx : t.expand value with
    | error x =>
      rw [hx] at h
      cases h
    | ok text =>
      rw [hx] at h
      cases h
      trivial
  | external id n =>
    cases n with
    | none =>
      cases h
      exact hshaped.1
    | some notationName =>
      cases h
      exact ⟨hshaped.1, hshaped.2 _ rfl⟩

theorem resolve_kept {e : EntityDef} (h : definition.resolve t = .ok e) (ht : t.Kept u) :
    definition.resolve u = .ok e := by
  cases definition with
  | literal value =>
    change EntityDef.internal <$> t.expand value = _ at h
    change EntityDef.internal <$> u.expand value = _
    cases hx : t.expand value with
    | error x =>
      rw [hx] at h
      cases h
    | ok text =>
      rw [hx] at h
      rw [ht.expand hx]
      exact h
  | external id n =>
    cases n with
    | none => exact h
    | some notationName => exact h

end Definition

namespace Item

variable {i : Item} {keep : Bool} {t u : EntityTable} {d e : DocumentType}

theorem declares_parameter {name : String} {l : Location} {definition : Definition} :
    (parameter name l definition).declares keep t d = some (u, e) ↔
      definition.declare t name = .ok u ∧ e = d := by
  simp only [declares]
  cases definition.declare t name with
  | error x => simp [Except.toOption]
  | ok v =>
    simp only [Except.toOption, Option.map_some, Option.some.injEq, Prod.mk.injEq, Except.ok.injEq]
    exact and_congr_right fun _ => eq_comm

theorem declares_entity {name : String} {l : Location} {definition : Definition} :
    (entity name l definition).declares keep t d = some (u, e) ↔
      ∃ x, definition.resolve t = .ok x ∧ u = t ∧ e = d.addEntity name x := by
  simp only [declares]
  cases definition.resolve t with
  | error x => simp [Except.toOption]
  | ok x =>
    simp only [Except.toOption, Option.map_some, Option.some.injEq, Prod.mk.injEq, Except.ok.injEq,
      exists_eq_left']
    constructor
    · rintro ⟨rfl, rfl⟩
      exact ⟨rfl, rfl⟩
    · rintro ⟨rfl, rfl⟩
      exact ⟨rfl, rfl⟩

/-- An item declares behind what has been declared. -/
theorem extends_of_declares (h : i.declares keep t d = some (u, e)) : d.Extends e := by
  cases i with
  | element name content =>
    cases h
    exact { DocumentType.Extends.refl d with elements := Bindings.prefix_add _ name content }
  | attlist name defs =>
    cases h
    refine { DocumentType.Extends.refl d with
      owners := Bindings.names_prefix_set _ _ _, attributes := fun owner => ?_ }
    rw [DocumentType.attributes_addAttributes]
    split
    · rename_i hn
      rw [hn]
      exact DocumentType.prefix_defined _ _
    · exact List.prefix_rfl
  | parameter name l definition =>
    obtain ⟨-, rfl⟩ := declares_parameter.1 h
    exact .refl _
  | entity name l definition =>
    obtain ⟨x, -, rfl, rfl⟩ := declares_entity.1 h
    exact { DocumentType.Extends.refl d with entities := Bindings.prefix_add _ name x }
  | notation_ name ids =>
    cases h
    exact { DocumentType.Extends.refl d with notations := Bindings.prefix_add _ name ids }
  | instruction target data =>
    cases h
    split
    · exact { DocumentType.Extends.refl d with instructions := List.prefix_append _ _ }
    · exact .refl _
  | included => cases h; exact .refl _
  | ignored => cases h; exact .refl _
  | sectionClose => cases h; exact .refl _
  | comment => cases h; exact .refl _

/-- An item takes back no declaration of a parameter entity. -/
theorem entities_kept_of_declares (h : i.declares keep t d = some (u, e)) : t.Kept u := by
  cases i with
  | parameter name l definition =>
    obtain ⟨hu, -⟩ := declares_parameter.1 h
    obtain ⟨kind, content, hu⟩ := Definition.declare_kind hu
    exact EntityTable.kept_declare hu
  | entity name l definition =>
    obtain ⟨x, -, rfl, -⟩ := declares_entity.1 h
    exact .refl _
  | _ => cases h; exact .refl _

/-- An item takes back no declaration. -/
theorem kept_of_declares (h : i.declares keep t d = some (u, e)) : t.Kept u ∧ d.Kept e :=
  ⟨entities_kept_of_declares h, (extends_of_declares h).kept⟩

/-- An item keeps everything well-formed. -/
theorem sound_of_declares (h : i.declares keep t d = some (u, e)) (hi : i.Shaped) (ht : t.Sound)
    (hd : d.Sound keep) : u.Sound ∧ e.Sound keep := by
  cases i with
  | element name content =>
    cases h
    exact ⟨ht, { hd with elements := hd.elements.add hi.1 hi.2 }⟩
  | attlist name defs =>
    cases h
    refine ⟨ht, { hd with attlists := hd.attlists.set hi.1 ?_ }⟩
    exact DocumentType.proper_defined (hd.attributes name) hi.2
  | parameter name l definition =>
    obtain ⟨hu, rfl⟩ := declares_parameter.1 h
    exact ⟨Definition.sound_declare hu hi.2 ht, hd⟩
  | entity name l definition =>
    obtain ⟨x, hx, rfl, rfl⟩ := declares_entity.1 h
    exact ⟨ht, { hd with entities := hd.entities.add hi.1 (Definition.shaped_resolve hx hi.2) }⟩
  | notation_ name ids =>
    cases h
    exact ⟨ht, { hd with notations := hd.notations.add hi.1 hi.2 }⟩
  | instruction target data =>
    cases h
    refine ⟨ht, ?_⟩
    split
    · rename_i hkeep
      rw [Bool.and_eq_true, Bool.not_eq_true'] at hkeep
      refine { hd with instructions := fun j hj => ?_ }
      rcases List.mem_append.1 hj with hj | hj
      · exact hd.instructions j hj
      · obtain rfl := List.mem_singleton.1 hj
        exact ⟨hkeep.1, hkeep.2, hi⟩
    · exact hd
  | included => cases h; exact ⟨ht, hd⟩
  | ignored => cases h; exact ⟨ht, hd⟩
  | sectionClose => cases h; exact ⟨ht, hd⟩
  | comment => cases h; exact ⟨ht, hd⟩

end Item

namespace Parser

variable {w : World} {p q : Parser}

/-- A parse that has kept everything well-formed so far. -/
structure Sound (p : Parser) : Prop where
  peeked : p.peeked = none
  entities : p.entities.Sound
  model : p.model.Sound p.keepInstructions

/-- Nothing that has been declared is taken back. -/
structure Kept (p q : Parser) : Prop where
  entities : p.entities.Kept q.entities
  model : p.model.Kept q.model
  keep : q.keepInstructions = p.keepInstructions

theorem Kept.trans {r : Parser} (h : p.Kept q) (h' : q.Kept r) : p.Kept r :=
  ⟨h.entities.trans h'.entities, h.model.trans h'.model, h'.keep.trans h.keep⟩

theorem Advances.kept (h : Advances w p q) (hp : p.peeked = none) : p.Kept q := by
  obtain ⟨l, ls, i, k, -, ha⟩ := h.reads hp
  have heffect := effect_of_apply ha
  obtain ⟨ht, hd⟩ := Item.kept_of_declares heffect.declares
  exact ⟨ht, hd, heffect.keep⟩

theorem Advances.sound (h : Advances w p q) (hp : p.Sound) : q.Sound := by
  obtain ⟨l, ls, i, k, hreads, ha⟩ := h.reads hp.peeked
  have heffect := effect_of_apply ha
  obtain ⟨ht, hd⟩ := Item.sound_of_declares heffect.declares hreads.shaped hp.entities hp.model
  exact ⟨h.peeked hp.peeked, ht, heffect.keep ▸ hd⟩

theorem Reaches.kept (h : Reaches w p q) (hp : p.peeked = none) : p.Kept q := by
  induction h with
  | refl => exact ⟨.refl _, .refl _, rfl⟩
  | tail hr hq ih => exact ih.trans (hq.kept (Reaches.peeked hr hp))

theorem Reaches.sound (h : Reaches w p q) (hp : p.Sound) : q.Sound := by
  induction h with
  | refl => exact hp
  | tail _ hq ih => exact hq.sound ih

theorem Completes.sound (h : Completes w p q) (hp : p.Sound) : q.Sound := by
  obtain ⟨r, hr, he⟩ := h
  have hsound := hr.sound hp
  obtain ⟨hdeclared, hkeep, hpeek⟩ := he.declared hsound.peeked
  injection hdeclared with hentities hmodel
  constructor
  · exact hpeek
  · rw [hentities]
    exact hsound.entities
  · rw [hmodel, hkeep]
    exact hsound.model

/-- The document type at the end of a parse is well-formed. -/
theorem Completes.result_sound (h : Completes w p q) (hp : p.Sound) :
    q.result.parameters.Sound ∧ q.result.Sound p.keepInstructions := by
  have hsound := h.sound hp
  obtain ⟨r, hr, he⟩ := h
  have hkeep : q.keepInstructions = p.keepInstructions := by
    obtain ⟨-, hkeeps, -⟩ := he.declared (hr.peeked hp.peeked)
    exact hkeeps.trans (hr.kept hp.peeked).keep
  constructor
  · exact hsound.entities
  · rw [← hkeep]
    exact { hsound.model with }

theorem sound_start (options : Options) (name text : String) : (start options name text).Sound :=
  ⟨rfl, EntityTable.sound_empty, DocumentType.sound_empty _⟩

end Parser

end Doctype
