/-! What an element may contain. -/
namespace Doctype

/-- How often a particle may occur. -/
inductive Occurrence
  | once
  | optional
  | zeroOrMore
  | oneOrMore
deriving DecidableEq, Repr

/-- The indicator of an occurrence. -/
def Occurrence.text : Occurrence → String
  | once => ""
  | optional => "?"
  | zeroOrMore => "*"
  | oneOrMore => "+"

/-- A part of a content model. -/
inductive Particle
  /-- A child element. -/
  | element (name : String) (occurs : Occurrence)
  /-- Parts in order. -/
  | seq (items : List Particle) (occurs : Occurrence)
  /-- One of several parts. -/
  | choice (items : List Particle) (occurs : Occurrence)
deriving Repr

namespace Particle

mutual

/-- Equality of particles can be decided. -/
def decEq : (p q : Particle) → Decidable (p = q)
  | element n o, element n' o' =>
    if h : n = n' ∧ o = o' then .isTrue (by rw [h.1, h.2])
    else .isFalse fun he => h (by cases he; exact ⟨rfl, rfl⟩)
  | seq ps o, seq qs o' =>
    match decEqAll ps qs with
    | .isTrue hp =>
      if h : o = o' then .isTrue (by rw [hp, h]) else .isFalse fun he => h (by cases he; rfl)
    | .isFalse hp => .isFalse fun he => hp (by cases he; rfl)
  | choice ps o, choice qs o' =>
    match decEqAll ps qs with
    | .isTrue hp =>
      if h : o = o' then .isTrue (by rw [hp, h]) else .isFalse fun he => h (by cases he; rfl)
    | .isFalse hp => .isFalse fun he => hp (by cases he; rfl)
  | element .., seq .. => .isFalse nofun
  | element .., choice .. => .isFalse nofun
  | seq .., element .. => .isFalse nofun
  | seq .., choice .. => .isFalse nofun
  | choice .., element .. => .isFalse nofun
  | choice .., seq .. => .isFalse nofun

/-- Equality of lists of particles can be decided. -/
def decEqAll : (ps qs : List Particle) → Decidable (ps = qs)
  | [], [] => .isTrue rfl
  | [], _ :: _ => .isFalse nofun
  | _ :: _, [] => .isFalse nofun
  | p :: ps, q :: qs =>
    match decEq p q, decEqAll ps qs with
    | .isTrue hp, .isTrue hs => .isTrue (by rw [hp, hs])
    | .isFalse hp, _ => .isFalse fun he => hp (by cases he; rfl)
    | _, .isFalse hs => .isFalse fun he => hs (by cases he; rfl)

end

instance : DecidableEq Particle := decEq

mutual

/-- A particle as written. -/
def text : Particle → String
  | element name occurs => name ++ occurs.text
  | seq items occurs => "(" ++ ",".intercalate (texts items) ++ ")" ++ occurs.text
  | choice items occurs => "(" ++ "|".intercalate (texts items) ++ ")" ++ occurs.text

/-- Particles as written. -/
def texts : List Particle → List String
  | [] => []
  | item :: items => item.text :: texts items

end

/-- Adds a name at the end unless it is there. -/
def addName (names : List String) (name : String) : List String :=
  if names.contains name then names else names ++ [name]

mutual

/-- Adds the names in a particle, from left to right, to names met before. -/
def addNames (names : List String) : Particle → List String
  | element name _ => addName names name
  | seq items _ => addAllNames names items
  | choice items _ => addAllNames names items

/-- Adds the names in several particles to names met before. -/
def addAllNames (names : List String) : List Particle → List String
  | [] => names
  | item :: items => addAllNames (addNames names item) items

end

end Particle

/-- The content that an element declaration allows. -/
inductive ContentSpec
  | empty
  | any
  /-- Character data, with the listed elements in between. -/
  | mixed (names : List String)
  /-- Elements only. -/
  | children (particle : Particle)
deriving Repr, DecidableEq

namespace ContentSpec

/-- A content as written. -/
def text : ContentSpec → String
  | empty => "EMPTY"
  | any => "ANY"
  | mixed [] => "(#PCDATA)"
  | mixed names => "(#PCDATA" ++ String.join (names.map ("|" ++ ·)) ++ ")*"
  | children particle => particle.text

/-- The names of the elements that a content mentions, each at its first place. -/
def childNames : ContentSpec → List String
  | empty => []
  | any => []
  | mixed names => names.foldl Particle.addName []
  | children particle => particle.addNames []

end ContentSpec

end Doctype
