import Doctype.Proofs.Parser.ContentGrammar

/-! The children of an element: the names that its content mentions, each at its first place. -/
namespace Doctype

/-- The name that a token is. -/
def Token.name? : Token → Option String
  | name s => some s
  | _ => none

namespace Particle

mutual

/-- The names in a particle at all depths, from left to right, as often as they stand there. -/
def mentions : Particle → List String
  | element name _ => [name]
  | seq items _ => mentionsAll items
  | choice items _ => mentionsAll items

/-- The names in several particles. -/
def mentionsAll : List Particle → List String
  | [] => []
  | item :: items => item.mentions ++ mentionsAll items

end

-- the names that have been met before are the accumulator of the recursion
mutual

/-- The names in a particle are added one by one. -/
theorem addNames_eq_foldl (names : List String) (p : Particle) :
    p.addNames names = p.mentions.foldl addName names := by
  cases p with
  | element name occurs => rfl
  | seq items occurs => exact addAllNames_eq_foldl names items
  | choice items occurs => exact addAllNames_eq_foldl names items

theorem addAllNames_eq_foldl (names : List String) (items : List Particle) :
    addAllNames names items = (mentionsAll items).foldl addName names := by
  cases items with
  | nil => rfl
  | cons item items =>
    rw [addAllNames, mentionsAll, List.foldl_append, ← addNames_eq_foldl names item]
    exact addAllNames_eq_foldl (item.addNames names) items

end

theorem mentionsAll_eq_flatMap (items : List Particle) :
    mentionsAll items = items.flatMap mentions := by
  induction items with
  | nil => rfl
  | cons item items ih => rw [mentionsAll, ih, List.flatMap_cons]

theorem nodup_foldl_addName (mentioned : List String) {names : List String} (h : names.Nodup) :
    (mentioned.foldl addName names).Nodup := by
  induction mentioned generalizing names with
  | nil => exact h
  | cons name mentioned ih => exact ih (nodup_addName h)

/-- The indicator of an occurrence holds no name. -/
theorem filterMap_occurrence (occurs : Occurrence) : occurs.tokens.filterMap Token.name? = [] := by
  cases occurs <;> rfl

/-- Parentheses, separators and indicators are no names. -/
theorem filterMap_group {separator : Token} (hs : separator.name? = none)
    {first : List Token × Particle} {rest : List (List Token × Particle)} (occurs : Occurrence)
    (h : ∀ item ∈ first :: rest, item.1.filterMap Token.name? = item.2.mentions) :
    (Token.parenOpen :: (first.1 ++ (behind separator rest ++ .parenClose :: occurs.tokens))).filterMap
        Token.name? = mentionsAll ((first :: rest).map (·.2)) := by
  obtain ⟨hfirst, hrest⟩ := List.forall_mem_cons.1 h
  have hbehind : (behind separator rest).filterMap Token.name? = mentionsAll (rest.map (·.2)) := by
    rw [mentionsAll_eq_flatMap, List.flatMap_map, behind, List.filterMap_flatMap]
    refine List.flatMap_congr fun item hitem => ?_
    rw [List.filterMap_cons_none hs, hrest item hitem]
  have hopen : Token.parenOpen.name? = none := rfl
  have hclose : Token.parenClose.name? = none := rfl
  rw [List.filterMap_cons_none hopen, List.filterMap_append, List.filterMap_append,
    List.filterMap_cons_none hclose, filterMap_occurrence, List.append_nil, hfirst, hbehind,
    List.map_cons, mentionsAll]

/-- The names among the tokens of a particle are the names in it, in the same order. -/
theorem Derives.filterMap_name {ts : List Token} {p : Particle} (h : p.Derives ts) :
    ts.filterMap Token.name? = p.mentions := by
  induction h with
  | element name occurs => exact congrArg (name :: ·) (filterMap_occurrence occurs)
  | @single ts item occurs _ ih =>
    have hone : ∀ i ∈ [(ts, item)], i.1.filterMap Token.name? = i.2.mentions :=
      List.forall_mem_singleton.2 ih
    exact @filterMap_group .comma rfl (ts, item) [] occurs hone
  | seq occurs _ _ ih => exact filterMap_group rfl occurs ih
  | choice occurs _ _ ih => exact filterMap_group rfl occurs ih

end Particle

namespace ContentSpec

/-- The names in a content, from left to right, as often as they stand there. -/
def mentions : ContentSpec → List String
  | empty => []
  | any => []
  | mixed names => names
  | children particle => particle.mentions

theorem childNames_eq_foldl (content : ContentSpec) :
    content.childNames = content.mentions.foldl Particle.addName [] := by
  cases content with
  | empty => rfl
  | any => rfl
  | mixed names => rfl
  | children particle => exact Particle.addNames_eq_foldl [] particle

/-- The children of an element are the names that its content mentions, in the order in which they
come up first: each name is listed, and none twice. The names that a particle mentions are those among
the tokens that it is written with. -/
theorem childNames_firsts (content : ContentSpec) :
    content.childNames = content.mentions.eraseDups ∧ content.childNames.Nodup ∧
      (∀ name, name ∈ content.childNames ↔ name ∈ content.mentions) ∧
      ∀ particle ts, content = .children particle → particle.Derives ts →
        content.mentions = ts.filterMap Token.name? := by
  have hfirsts : content.childNames = content.mentions.eraseDups := by
    rw [childNames_eq_foldl, Particle.foldl_addName]
  refine ⟨hfirsts, ?_, fun name => ?_, ?_⟩
  · rw [childNames_eq_foldl]
    exact Particle.nodup_foldl_addName content.mentions List.nodup_nil
  · rw [hfirsts, List.mem_eraseDups]
  · rintro particle ts rfl hts
    exact hts.filterMap_name.symm

/-- A sequence in a choice that names `a` once more. -/
theorem childNames_firsts_nested :
    let inner : Particle := .seq [.element "b" .once, .element "a" .optional] .once
    let particle : Particle := .choice [.element "a" .once, inner] .oneOrMore
    let ts : List Token := [.parenOpen, .name "a", .pipe, .parenOpen, .name "b", .comma, .name "a",
      .question, .parenClose, .parenClose, .plus]
    (children particle).childNames = ["a", "b"] ∧ particle.Derives ts ∧
      (children particle).mentions = ts.filterMap Token.name? := by
  intro inner particle ts
  let us : List Token := [.parenOpen, .name "b", .comma, .name "a", .question, .parenClose]
  have hinner : inner.Derives us := by
    refine @Particle.Derives.seq ([.name "b"], _) [([.name "a", .question], _)] .once nofun ?_
    exact List.forall_mem_cons.2
      ⟨.element "b" .once, List.forall_mem_singleton.2 (.element "a" .optional)⟩
  have hparticle : particle.Derives ts := by
    refine @Particle.Derives.choice ([.name "a"], _) [(us, inner)] .oneOrMore nofun ?_
    exact List.forall_mem_cons.2 ⟨.element "a" .once, List.forall_mem_singleton.2 hinner⟩
  obtain ⟨-, -, -, hmentions⟩ := childNames_firsts (children particle)
  exact ⟨by decide, hparticle, hmentions particle ts rfl hparticle⟩

end ContentSpec

end Doctype
