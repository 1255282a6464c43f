import Doctype.Proofs.Parser.Reading
import Mathlib.Data.List.Nodup

/-! The functions that read declarations depend on lexemes only, and give well-shaped items. -/
namespace Doctype

/-- The same value, with a property. -/
def Same {α : Type} (P : α → Prop) (a b : α) : Prop :=
  a = b ∧ P a

/-- The tokens that open an item of several tokens. -/
def Token.opens : Token → Bool
  | decl _ | sectionOpen => true
  | _ => false

/-- Items that differ in their locations and openers at most. -/
inductive Item.Alike (o o' : Lexeme) : Item → Item → Prop
  | element {name content} : Alike o o' (.element name content) (.element name content)
  | attlist {name defs} : Alike o o' (.attlist name defs) (.attlist name defs)
  | parameter {name l l' definition} :
      Alike o o' (.parameter name l definition) (.parameter name l' definition)
  | entity {name l l' definition} :
      Alike o o' (.entity name l definition) (.entity name l' definition)
  | notation_ {name ids} : Alike o o' (.notation_ name ids) (.notation_ name ids)
  | included : Alike o o' (.included o) (.included o')
  | ignored : Alike o o' (.ignored o) (.ignored o')
  | sectionClose : Alike o o' (.sectionClose o) (.sectionClose o')
  | comment : Alike o o' .comment .comment
  | instruction {target data} : Alike o o' (.instruction target data) (.instruction target data)

namespace Particle

variable {names : List String} {name : String}

theorem forall_mem_addName {P : String → Prop} :
    (∀ n ∈ addName names name, P n) ↔ (∀ n ∈ names, P n) ∧ P name := by
  unfold addName
  split
  · rename_i hmem
    exact (and_iff_left_of_imp fun h => h name (by simpa using hmem)).symm
  · rw [List.forall_mem_append, List.forall_mem_singleton]

theorem nodup_addName (h : names.Nodup) : (addName names name).Nodup := by
  unfold addName
  split
  · exact h
  · rename_i hnot
    rw [← List.concat_eq_append]
    exact h.concat (mt List.contains_iff_mem.2 hnot)

end Particle

namespace Parser

variable {w : World} {o o' : Lexeme} {C : Prop} {α β : Type} {Q : α → β → Prop}

theorem Depends.ite {c : Prop} [Decidable c] {m n : ParserM α} {m' n' : ParserM β}
    (hm : c → Depends w o o' C Q m m') (hn : ¬c → Depends w o o' C Q n n') :
    Depends w o o' C Q (if c then m else n) (if c then m' else n') := by
  split
  · exact hm ‹c›
  · exact hn ‹¬c›

theorem depends_expectName {expected : String} :
    Depends w o o' False (fun a b => a.1 = b.1 ∧ Nmtoken a.1) (expectName w expected)
      (expectName w expected) := by
  refine depends_next.bind fun l l' hl => ?_
  obtain ⟨htoken, -, hlex⟩ := hl
  rw [← htoken]
  generalize l.token = t at hlex
  split
  · exact depends_pure ⟨rfl, hlex.elim id nofun⟩
  · exact depends_unexpected

/-- Behind a name its location does not matter for the lexemes that are taken. -/
theorem depends_bindName {expected : String} {f : String × Location → ParserM α}
    {f' : String × Location → ParserM β}
    (hf : ∀ name l l', Nmtoken name → Depends w o o' C Q (f (name, l)) (f' (name, l'))) :
    Depends w o o' C Q (expectName w expected >>= f) (expectName w expected >>= f') := by
  refine depends_expectName.bind ?_
  rintro ⟨name, l⟩ ⟨name', l'⟩ ⟨hname, htoken⟩
  obtain rfl : name = name' := hname
  exact hf name l l' htoken

theorem depends_expectLiteral {expected : String} :
    Depends w o o' False (Same Quotable) (expectLiteral w expected)
      (expectLiteral w expected) := by
  refine depends_next.bind fun l l' hl => ?_
  obtain ⟨htoken, -, hlex⟩ := hl
  rw [← htoken]
  generalize l.token = t at hlex
  split
  · exact depends_pure ⟨rfl, hlex.elim id nofun⟩
  · exact depends_unexpected

theorem depends_expectClose : Depends w o o' C (fun _ _ => True) (expectClose w o)
    (expectClose w o') := by
  refine (depends_expect fun _ => rfl).check fun l p c s hs => ?_
  split at hs
  · rename_i hsource
    cases hs
    refine ⟨rfl, fun l' hl => ⟨(), trivial, fun p' => ?_⟩⟩
    rw [if_pos (hl.1.source.1 hsource)]
    rfl
  · cases hs

theorem depends_occurrence : Depends w o o' False (fun a b => a = b) (occurrence w) (occurrence w) := by
  have htake (i : Occurrence) :
      Depends w o o' False (fun a b => a = b) (occurrence.take w i) (occurrence.take w i) :=
    depends_next.bind fun _ _ _ => depends_pure rfl
  refine depends_peek.bind fun t t' ht => ?_
  subst ht
  split
  · exact htake _
  · exact htake _
  · exact htake _
  · exact depends_pure rfl

/-- Names of elements, none of them twice. -/
def Names (names : List String) : Prop :=
  names.Nodup ∧ ∀ name ∈ names, Nmtoken name

theorem names_addName {names : List String} {name : String} (h : Names names)
    (hname : Nmtoken name) : Names (Particle.addName names name) :=
  ⟨Particle.nodup_addName h.1, Particle.forall_mem_addName.2 ⟨h.2, hname⟩⟩

theorem depends_mixedNames {fuel fuel' : Nat} {names : List String} (hfuel : fuel ≤ fuel')
    (hnames : Names names) :
    Depends w o o' False (Same Names) (mixedNames w fuel names) (mixedNames w fuel' names) := by
  induction fuel generalizing fuel' names with
  | zero => exact depends_throw
  | succ fuel ih =>
    obtain ⟨fuel', rfl⟩ : ∃ n, fuel' = n + 1 := ⟨fuel' - 1, by omega⟩
    refine depends_next.bind fun l l' hl => ?_
    rw [← hl.token]
    generalize l.token = t
    split
    · exact depends_bindName fun name _ _ hname => ih (by omega) (names_addName hnames hname)
    · exact depends_pure ⟨rfl, hnames⟩
    · exact depends_unexpected

theorem depends_mixed {fuel fuel' : Nat} (hfuel : fuel ≤ fuel') :
    Depends w o o' False (Same ContentSpec.Shaped) (mixed w fuel) (mixed w fuel') := by
  refine (depends_mixedNames hfuel ⟨List.nodup_nil, nofun⟩).bind fun names _ hnames => ?_
  obtain ⟨rfl, hnames⟩ := hnames
  refine Depends.ite (fun _ => ?_) fun _ => ?_
  · refine depends_peek.bind fun t _ ht => ?_
    subst ht
    refine Depends.ite (fun _ => ?_) fun _ => ?_
    · exact depends_next.bind fun _ _ _ => depends_pure ⟨rfl, hnames⟩
    · exact depends_pure ⟨rfl, hnames⟩
  · exact (depends_expect (C := False) False.elim).bind fun _ _ _ => depends_pure ⟨rfl, hnames⟩

/-- The items of a group and its separator: there is a separator from the second item on. -/
structure Items (g : Option Token × List Particle) : Prop where
  ne_nil : g.2 ≠ []
  shaped : ∀ item ∈ g.2, item.Shaped
  separated : g.1 ≠ none → 2 ≤ g.2.length

theorem Items.groupOf {separator : Option Token} {items : List Particle} {occurs : Occurrence}
    (h : Items (separator, items)) :
    (groupOf separator items occurs).IsGroup ∧ (groupOf separator items occurs).Shaped := by
  unfold Parser.groupOf
  split
  · rename_i hsep
    refine ⟨trivial, .choice (h.separated ?_) h.shaped⟩
    rw [hsep]
    exact nofun
  · exact ⟨trivial, .seq h.ne_nil h.shaped⟩

theorem Items.snoc {separator : Option Token} {items : List Particle} {first : Token}
    {item : Particle} (h : Items (separator, items)) (hitem : item.Shaped) :
    Items (some first, items ++ [item]) := by
  refine ⟨by simp, fun i hi => ?_, fun _ => ?_⟩
  · rcases List.mem_append.1 hi with hi | hi
    · exact h.shaped i hi
    · rw [List.mem_singleton.1 hi]
      exact hitem
  · have hpos := List.length_pos_of_ne_nil h.ne_nil
    simp only [List.length_append, List.length_singleton]
    simp only at hpos
    omega

/-- Groups are read alike with more fuel. -/
theorem depends_group {fuel fuel' : Nat} (hfuel : fuel ≤ fuel') :
    Depends w o o' False (Same Particle.Shaped) (particle w fuel) (particle w fuel') ∧
      Depends w o o' False (Same fun p => p.IsGroup ∧ p.Shaped) (group w fuel) (group w fuel') ∧
        ∀ separator items, Items (separator, items) →
          Depends w o o' False (Same Items) (groupItems w fuel separator items)
            (groupItems w fuel' separator items) := by
  induction fuel generalizing fuel' with
  | zero => exact ⟨depends_throw, depends_throw, fun _ _ _ => depends_throw⟩
  | succ fuel ih =>
    obtain ⟨fuel', rfl⟩ : ∃ n, fuel' = n + 1 := ⟨fuel' - 1, by omega⟩
    obtain ⟨hparticle, hgroup, hitems⟩ := @ih fuel' (by omega)
    refine ⟨?_, ?_, fun separator items h => ?_⟩
    · refine depends_next.bind fun l l' hl => ?_
      obtain ⟨htoken, -, hlex⟩ := hl
      simp only [← htoken]
      generalize l.token = t at hlex
      split
      · refine depends_occurrence.bind fun i _ hi => ?_
        subst hi
        exact depends_pure ⟨rfl, .element (hlex.elim id nofun)⟩
      · exact hgroup.mono fun _ _ h => ⟨h.1, h.2.2⟩
      · exact depends_unexpected
    · refine hparticle.bind fun first _ hfirst => ?_
      obtain ⟨rfl, hfirst⟩ := hfirst
      have hone : Items (none, [first]) :=
        ⟨by simp, fun i hi => by rwa [List.mem_singleton.1 hi], fun hno => absurd rfl hno⟩
      refine (hitems _ _ hone).bind ?_
      rintro ⟨separator, items⟩ _ ⟨rfl, h⟩
      refine depends_occurrence.bind fun i _ hi => ?_
      subst hi
      exact depends_pure ⟨rfl, h.groupOf⟩
    · refine depends_next.bind fun l l' hl => ?_
      have htoken := hl.token
      simp only [← htoken]
      refine Depends.ite (fun _ => depends_pure ⟨rfl, h⟩) fun _ => ?_
      refine Depends.ite (fun _ => ?_) fun _ => depends_unexpected
      refine Depends.ite (fun _ => ?_) fun _ => depends_unexpected
      refine hparticle.bind fun item _ hitem => ?_
      obtain ⟨rfl, hitem⟩ := hitem
      exact hitems _ _ (h.snoc hitem)

theorem depends_contentSpec {fuel fuel' : Nat} (hfuel : fuel ≤ fuel') :
    Depends w o o' False (Same ContentSpec.Shaped) (contentSpec w fuel) (contentSpec w fuel') := by
  refine depends_next.bind fun l l' hl => ?_
  rw [← hl.token]
  generalize l.token = t
  split
  · exact depends_pure ⟨rfl, trivial⟩
  · exact depends_pure ⟨rfl, trivial⟩
  · refine depends_peek.bind fun t _ ht => ?_
    subst ht
    refine Depends.ite (fun _ => ?_) fun _ => ?_
    · exact depends_next.bind fun _ _ _ => depends_mixed hfuel
    · refine (depends_group hfuel).2.1.bind fun p _ hp => ?_
      obtain ⟨rfl, hp⟩ := hp
      exact depends_pure ⟨rfl, hp⟩
  · exact depends_unexpected

theorem depends_element {fuel fuel' : Nat} (hfuel : fuel ≤ fuel') :
    Depends w o o' C (fun i i' => Item.Alike o o' i i' ∧ i.Shaped) (element w fuel o)
      (element w fuel' o') := by
  refine depends_bindName fun name _ _ hname => ?_
  refine (depends_contentSpec hfuel).bind fun content _ hcontent => ?_
  obtain ⟨rfl, hcontent⟩ := hcontent
  exact depends_expectClose.map fun _ _ _ => ⟨.element, hname, hcontent⟩

theorem depends_nameList {fuel fuel' : Nat} {names : List String} (hfuel : fuel ≤ fuel')
    (hnames : ∀ name ∈ names, Nmtoken name) :
    Depends w o o' False (Same fun names => names ≠ [] ∧ ∀ name ∈ names, Nmtoken name)
      (nameList w fuel names) (nameList w fuel' names) := by
  induction fuel generalizing fuel' names with
  | zero => exact depends_throw
  | succ fuel ih =>
    obtain ⟨fuel', rfl⟩ : ∃ n, fuel' = n + 1 := ⟨fuel' - 1, by omega⟩
    refine depends_bindName fun name _ _ hname => depends_next.bind fun l l' hl => ?_
    have hall : ∀ n ∈ names ++ [name], Nmtoken n := by
      intro n hn
      rcases List.mem_append.1 hn with hn | hn
      · exact hnames n hn
      · rw [List.mem_singleton.1 hn]
        exact hname
    rw [← hl.token]
    generalize l.token = t
    split
    · exact ih (by omega) hall
    · exact depends_pure ⟨rfl, by simp, hall⟩
    · exact depends_unexpected

theorem shaped_simpleType {keyword : String} {type : AttributeType}
    (h : simpleType? keyword = some type) : type.Shaped := by
  unfold simpleType? at h
  split at h <;> cases h <;> trivial

theorem depends_attributeType {fuel fuel' : Nat} (hfuel : fuel ≤ fuel') :
    Depends w o o' False (Same AttributeType.Shaped) (attributeType w fuel)
      (attributeType w fuel') := by
  refine depends_next.bind fun l l' hl => ?_
  rw [← hl.token]
  generalize l.token = t
  split
  · refine (depends_nameList hfuel (by simp)).bind fun names _ hnames => ?_
    obtain ⟨rfl, hnames⟩ := hnames
    exact depends_pure ⟨rfl, hnames⟩
  · refine (depends_expect (C := False) False.elim).bind fun _ _ _ => ?_
    refine (depends_nameList hfuel (by simp)).bind fun names _ hnames => ?_
    obtain ⟨rfl, hnames⟩ := hnames
    exact depends_pure ⟨rfl, hnames⟩
  · rename_i keyword _
    cases htype : simpleType? keyword with
    | some type => exact depends_pure ⟨rfl, shaped_simpleType htype⟩
    | none => exact depends_unexpected
  · exact depends_unexpected

theorem depends_defaultDecl :
    Depends w o o' False (Same DefaultDecl.Shaped) (defaultDecl w) (defaultDecl w) := by
  refine depends_next.bind fun l l' hl => ?_
  obtain ⟨htoken, -, hlex⟩ := hl
  rw [← htoken]
  generalize l.token = t at hlex
  split
  · exact depends_pure ⟨rfl, hlex.elim id nofun⟩
  · exact depends_pure ⟨rfl, trivial⟩
  · exact depends_pure ⟨rfl, trivial⟩
  · refine depends_expectLiteral.bind fun value _ hvalue => ?_
    obtain ⟨rfl, hvalue⟩ := hvalue
    exact depends_pure ⟨rfl, hvalue⟩
  · exact depends_unexpected

theorem depends_attributes {fuel fuel' : Nat} {defs : List (String × AttributeDef)}
    (hfuel : fuel ≤ fuel') (hdefs : AttributesShaped defs) :
    Depends w o o' C (Same AttributesShaped) (attributes w o fuel defs)
      (attributes w o' fuel' defs) := by
  induction fuel generalizing fuel' defs with
  | zero => exact depends_throw
  | succ fuel ih =>
    obtain ⟨fuel', rfl⟩ : ∃ n, fuel' = n + 1 := ⟨fuel' - 1, by omega⟩
    refine depends_peek.bind fun t _ ht => ?_
    subst ht
    refine Depends.ite (fun _ => ?_) fun _ => ?_
    · exact depends_expectClose.map fun _ _ _ => ⟨rfl, hdefs⟩
    · refine depends_bindName fun name _ _ hname => ?_
      refine (depends_attributeType (by omega)).bind fun type _ htype => ?_
      obtain ⟨rfl, htype⟩ := htype
      refine depends_defaultDecl.bind fun default _ hdefault => ?_
      obtain ⟨rfl, hdefault⟩ := hdefault
      refine ih (by omega) fun d hd => ?_
      rcases List.mem_append.1 hd with hd | hd
      · exact hdefs d hd
      · rw [List.mem_singleton.1 hd]
        exact ⟨hname, htype, hdefault⟩

theorem depends_attlist {fuel fuel' : Nat} (hfuel : fuel ≤ fuel') :
    Depends w o o' C (fun i i' => Item.Alike o o' i i' ∧ i.Shaped) (attlist w fuel o)
      (attlist w fuel' o') := by
  refine depends_bindName fun name _ _ hname => ?_
  refine (depends_attributes hfuel (by simp [AttributesShaped])).map fun defs _ hdefs => ?_
  obtain ⟨rfl, hdefs⟩ := hdefs
  exact ⟨.attlist, hname, hdefs⟩

theorem depends_externalId {isPublic : Bool} :
    Depends w o o' False (Same ExternalId.Shaped) (externalId w isPublic)
      (externalId w isPublic) := by
  have hsystem (p : Option String) (hp : ∀ v ∈ p, Quotable v) :
      Depends w o o' False (Same ExternalId.Shaped)
        (do return ⟨p, ← expectLiteral w "a system identifier"⟩)
        (do return ⟨p, ← expectLiteral w "a system identifier"⟩) := by
    refine depends_expectLiteral.map fun systemId _ h => ?_
    obtain ⟨rfl, h⟩ := h
    exact ⟨rfl, hp, h⟩
  refine Depends.ite (fun _ => ?_) fun _ => hsystem none nofun
  have hpublic : Depends w o o' False (Same fun p : Option String => ∀ v ∈ p, Quotable v)
      (some <$> expectLiteral w "a public identifier")
      (some <$> expectLiteral w "a public identifier") := by
    rw [← bind_pure_comp]
    refine depends_expectLiteral.map fun value _ hvalue => ?_
    obtain ⟨rfl, hvalue⟩ := hvalue
    exact ⟨rfl, fun v hv => by cases hv; exact hvalue⟩
  refine hpublic.bind fun p _ hp => ?_
  obtain ⟨rfl, hp⟩ := hp
  exact hsystem p hp

theorem depends_definition {isParameter : Bool} :
    Depends w o o' False (Same Definition.Shaped) (definition w isParameter)
      (definition w isParameter) := by
  refine depends_next.bind fun l l' hl => ?_
  obtain ⟨htoken, -, hlex⟩ := hl
  rw [← htoken]
  generalize l.token = t at hlex
  split
  · exact depends_pure ⟨rfl, hlex.elim id nofun⟩
  · refine Depends.ite (fun _ => ?_) fun _ => depends_unexpected
    refine depends_externalId.bind fun id _ hid => ?_
    obtain ⟨rfl, hid⟩ := hid
    refine depends_peek.bind fun t _ ht => ?_
    subst ht
    refine Depends.ite (fun _ => ?_) fun _ => ?_
    · refine depends_next.bind fun _ _ _ => depends_bindName fun name _ _ hname => ?_
      exact depends_pure ⟨rfl, hid, fun n hn => by cases hn; exact hname⟩
    · exact depends_pure ⟨rfl, hid, nofun⟩
  · exact depends_unexpected

theorem depends_entity :
    Depends w o o' C (fun i i' => Item.Alike o o' i i' ∧ i.Shaped) (entity w o)
      (entity w o') := by
  refine depends_peek.bind fun t _ ht => ?_
  subst ht
  have hrest : Depends w o o' C (fun i i' => Item.Alike o o' i i' ∧ i.Shaped)
      (do
        let b ← expectName w "an entity name"
        let definition ← definition w (decide (t = .percent))
        expectClose w o
        return if decide (t = .percent) then Item.parameter b.1 b.2 definition
          else .entity b.1 b.2 definition)
      (do
        let b ← expectName w "an entity name"
        let definition ← definition w (decide (t = .percent))
        expectClose w o'
        return if decide (t = .percent) then Item.parameter b.1 b.2 definition
          else .entity b.1 b.2 definition) := by
    refine depends_bindName fun name _ _ hname => ?_
    refine depends_definition.bind fun definition _ hdefinition => ?_
    obtain ⟨rfl, hdefinition⟩ := hdefinition
    refine depends_expectClose.map fun _ _ _ => ?_
    by_cases ht : t = .percent
    · simp only [ht, decide_true, if_true]
      exact ⟨.parameter, hname, hdefinition⟩
    · simp only [ht, decide_false, Bool.false_eq_true, if_false]
      exact ⟨.entity, hname, hdefinition⟩
  refine Depends.ite (fun _ => ?_) fun _ => hrest
  exact depends_next.bind fun _ _ _ => hrest

theorem depends_notationIds :
    Depends w o o' False (Same Notation.Shaped) (notationIds w) (notationIds w) := by
  refine depends_next.bind fun l l' hl => ?_
  rw [← hl.token]
  generalize l.token = t
  split
  · refine depends_expectLiteral.bind fun systemId _ hsystem => ?_
    obtain ⟨rfl, hsystem⟩ := hsystem
    exact depends_pure ⟨rfl, .inr nofun, nofun, fun s hs => by cases hs; exact hsystem⟩
  · refine depends_expectLiteral.bind fun publicId _ hpublic => ?_
    obtain ⟨rfl, hpublic⟩ := hpublic
    refine depends_peek.bind fun t _ ht => ?_
    subst ht
    split
    · refine depends_expectLiteral.bind fun systemId _ hsystem => ?_
      obtain ⟨rfl, hsystem⟩ := hsystem
      exact depends_pure ⟨rfl, .inl nofun, fun s hs => by cases hs; exact hpublic,
        fun s hs => by cases hs; exact hsystem⟩
    · exact depends_pure ⟨rfl, .inl nofun, fun s hs => by cases hs; exact hpublic, nofun⟩
  · exact depends_unexpected

theorem depends_notationDecl :
    Depends w o o' C (fun i i' => Item.Alike o o' i i' ∧ i.Shaped) (notationDecl w o)
      (notationDecl w o') := by
  refine depends_bindName fun name _ _ hname => ?_
  refine depends_notationIds.bind fun ids _ hids => ?_
  obtain ⟨rfl, hids⟩ := hids
  exact depends_expectClose.map fun _ _ _ => ⟨.notation_, hname, hids⟩

theorem depends_declaration {fuel fuel' : Nat} (hfuel : fuel ≤ fuel') (keyword : Keyword) :
    Depends w o o' C (fun i i' => Item.Alike o o' i i' ∧ i.Shaped)
      (declaration w fuel keyword o) (declaration w fuel' keyword o') := by
  cases keyword with
  | element => exact depends_element hfuel
  | attlist => exact depends_attlist hfuel
  | entity => exact depends_entity
  | notation_ => exact depends_notationDecl

theorem depends_conditional :
    Depends w o o' C (fun i i' => Item.Alike o o' i i' ∧ i.Shaped) (conditional w o)
      (conditional w o') := by
  refine depends_bindName fun keyword l₁ l₁' _ => (depends_expect fun _ => rfl).check ?_
  intro bracket p c s hs
  split at hs
  · cases hs
  · rename_i hsource
    have hsame (b' : Lexeme) (hb : Match o o' bracket b') : ¬b'.source ≠ o'.source :=
      not_not.2 (hb.source.1 (not_not.1 hsource))
    split at hs
    · rename_i hinclude
      cases hs
      refine ⟨rfl, fun b' hb => ⟨_, ⟨.included, trivial⟩, fun p' => ?_⟩⟩
      rw [if_neg (hsame b' hb.1), if_pos hinclude]
      rfl
    · rename_i hinclude
      split at hs
      · rename_i hignore
        cases hs
        refine ⟨rfl, fun b' hb => ⟨_, ⟨.ignored, trivial⟩, fun p' => ?_⟩⟩
        rw [if_neg (hsame b' hb.1), if_neg hinclude, if_pos hignore]
        rfl
      · cases hs

theorem Depends.of_not {m : ParserM α} {m' : ParserM β} (h : Depends w o o' False Q m m')
    (hC : ¬C) : Depends w o o' C Q m m' := by
  intro p a s hp hs
  obtain ⟨hsane, hb, ls, htrace, -, hanswers⟩ := h hp hs
  exact ⟨hsane, hb, ls, htrace, fun hc => absurd hc hC, hanswers⟩

/-- Reading an item depends on its lexemes. What has been opened ends with a token that cannot go
on. -/
theorem depends_item {fuel fuel' : Nat} (hfuel : fuel ≤ fuel') (htoken : o.token = o'.token)
    (hlex : o.token.Lexical) :
    Depends w o o' (o.token.opens = true) (fun i i' => Item.Alike o o' i i' ∧ i.Shaped)
      (item w fuel o) (item w fuel' o') := by
  unfold item
  rw [← htoken]
  generalize o.token = t at hlex
  split
  · exact depends_declaration hfuel _
  · exact depends_conditional
  · exact (depends_pure ⟨.sectionClose, trivial⟩).of_not nofun
  · exact (depends_pure ⟨.comment, trivial⟩).of_not nofun
  · exact (depends_pure ⟨.instruction, hlex⟩).of_not nofun
  · exact depends_unexpected

end Parser

end Doctype
