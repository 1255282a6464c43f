import Doctype.Parser.Item
import Doctype.Proofs.Cursor.Tokens

/-! What the declarations of a DTD look like when they have been read. -/
namespace Doctype

/-- Groups are not empty, and a choice has at least two parts. -/
inductive Particle.Shaped : Particle → Prop
  | element {name occurs} : Nmtoken name → Shaped (.element name occurs)
  | seq {items occurs} : items ≠ [] → (∀ item ∈ items, Shaped item) → Shaped (.seq items occurs)
  | choice {items occurs} : 2 ≤ items.length → (∀ item ∈ items, Shaped item) →
      Shaped (.choice items occurs)

/-- A particle in parentheses. -/
def Particle.IsGroup : Particle → Prop
  | element .. => False
  | _ => True

/-- A content model is a group; a mixed content names no element twice. -/
def ContentSpec.Shaped : ContentSpec → Prop
  | mixed names => names.Nodup ∧ ∀ name ∈ names, Nmtoken name
  | children particle => particle.IsGroup ∧ particle.Shaped
  | _ => True

def AttributeType.Shaped : AttributeType → Prop
  | notations names | enumeration names => names ≠ [] ∧ ∀ name ∈ names, Nmtoken name
  | _ => True

def DefaultDecl.Shaped : DefaultDecl → Prop
  | fixed v | value v => Quotable v
  | _ => True

def AttributeDef.Shaped (d : AttributeDef) : Prop :=
  d.type.Shaped ∧ d.default.Shaped

def ExternalId.Shaped (id : ExternalId) : Prop :=
  (∀ p ∈ id.publicId, Quotable p) ∧ Quotable id.systemId

def Definition.Shaped : Definition → Prop
  | literal value => Quotable value
  | external id notationName => id.Shaped ∧ ∀ name ∈ notationName, Nmtoken name

/-- A notation has an identifier. -/
def Notation.Shaped (n : Notation) : Prop :=
  (n.publicId ≠ none ∨ n.systemId ≠ none) ∧ (∀ p ∈ n.publicId, Quotable p) ∧
    ∀ s ∈ n.systemId, Quotable s

/-- Attribute definitions have names. -/
def AttributesShaped (defs : List (String × AttributeDef)) : Prop :=
  ∀ d ∈ defs, Nmtoken d.1 ∧ d.2.Shaped

def Item.Shaped : Item → Prop
  | element name content => Nmtoken name ∧ content.Shaped
  | attlist name defs => Nmtoken name ∧ AttributesShaped defs
  | parameter name _ definition | entity name _ definition => Nmtoken name ∧ definition.Shaped
  | notation_ name ids => Nmtoken name ∧ ids.Shaped
  | instruction target data =>
    Nmtoken target ∧ Text.trim data = data ∧ ¬['?', '>'] <:+: data.toList
  | _ => True

end Doctype
