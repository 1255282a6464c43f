import Doctype.Content
import Doctype.Declaration
import Doctype.Entity.Table

/-! The declarations of a DTD, and the normalised DTD that declares the same. -/
namespace Doctype

/-- The attributes of an element in the order of their definition. -/
abbrev AttributeList := Bindings AttributeDef

/-- The declarations of a DTD in the order in which their names came up. -/
structure DocumentType where
  elements : Bindings ContentSpec := []
  attlists : Bindings AttributeList := []
  entities : Bindings EntityDef := []
  notations : Bindings Notation := []
  instructions : List Instruction := []
  parameters : EntityTable := {}
deriving Repr, DecidableEq

namespace DocumentType

/-- The attributes of an element; none without an attribute list. -/
def attributes (d : DocumentType) (element : String) : AttributeList :=
  (d.attlists.get? element).getD []

/-- Declares an element unless it is declared. -/
def addElement (d : DocumentType) (name : String) (content : ContentSpec) : DocumentType :=
  { d with elements := d.elements.add name content }

/-- Defines attributes of an element, each unless it is defined. -/
def addAttributes (d : DocumentType) (element : String) (defs : List (String × AttributeDef)) :
    DocumentType :=
  { d with
    attlists := d.attlists.set element
      (defs.foldl (fun list b => list.add b.1 b.2) (d.attributes element)) }

/-- Declares a general entity unless it is declared. -/
def addEntity (d : DocumentType) (name : String) (definition : EntityDef) : DocumentType :=
  { d with entities := d.entities.add name definition }

/-- Declares a notation unless it is declared. -/
def addNotation (d : DocumentType) (name : String) (n : Notation) : DocumentType :=
  { d with notations := d.notations.add name n }

/-- Keeps a processing instruction. -/
def addInstruction (d : DocumentType) (i : Instruction) : DocumentType :=
  { d with instructions := d.instructions ++ [i] }

/-- The declaration of a parameter entity by its value. -/
def valueText (b : String × String) : String :=
  "<!ENTITY % " ++ b.1 ++ " " ++ quote b.2 ++ ">\n"

/-- The declaration of an external parameter entity. -/
def uriText (b : String × String) : String :=
  "<!ENTITY % " ++ b.1 ++ " SYSTEM " ++ quote b.2 ++ ">\n"

/-- The declaration of a notation. -/
def notationText (b : String × Notation) : String :=
  "<!NOTATION " ++ b.1 ++ " " ++ b.2.text ++ ">\n"

/-- The declaration of a general entity. -/
def entityText (b : String × EntityDef) : String :=
  "<!ENTITY " ++ b.1 ++ " " ++ b.2.text ++ ">\n"

/-- The line of an attribute in an attribute list. -/
def attributeText (b : String × AttributeDef) : String :=
  "\n  " ++ b.1 ++ " " ++ b.2.type.text ++ " " ++ b.2.default.text

/-- An attribute list. -/
def attlistText (b : String × AttributeList) : String :=
  "<!ATTLIST " ++ b.1 ++ String.join (b.2.map attributeText) ++ ">\n"

/-- The declaration of an element, and its attribute list if it has one. -/
def elementText (d : DocumentType) (b : String × ContentSpec) : String :=
  "<!ELEMENT " ++ b.1 ++ " " ++ b.2.text ++ ">\n" ++
    (d.attlists.get? b.1).elim "" fun list => attlistText (b.1, list)

/-- A processing instruction. -/
def instructionText (i : Instruction) : String :=
  "<?" ++ i.target ++ " " ++ i.data ++ "?>\n"

/-- The normalised DTD: parameter entities, notations, entities, elements with their attribute
lists, the other attribute lists, processing instructions. -/
def text (d : DocumentType) : String :=
  String.join <|
    d.parameters.values.map valueText ++ d.parameters.uris.map uriText ++
      d.notations.map notationText ++ d.entities.map entityText ++
      d.elements.map d.elementText ++
      (d.attlists.filter fun b => !d.elements.has b.1).map attlistText ++
      d.instructions.map instructionText

/-- Whether attribute lists agree, whatever their order. -/
def sameAttlists (as bs : Bindings AttributeList) : Bool :=
  as.length == bs.length && as.all fun a => (bs.get? a.1).any fun list => a.2.sameAs list

/-- Whether two document types declare the same, whatever the order of the declarations. The
order of processing instructions counts. -/
def sameAs (d e : DocumentType) : Bool :=
  d.elements.sameAs e.elements && sameAttlists d.attlists e.attlists &&
    d.entities.sameAs e.entities && d.notations.sameAs e.notations &&
    d.instructions == e.instructions && d.parameters == e.parameters

end DocumentType

end Doctype
