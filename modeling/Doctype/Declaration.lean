import Doctype.Literal

/-! Attribute, entity and notation declarations. -/
namespace Doctype

/-- The declared type of an attribute. -/
inductive AttributeType
  | cdata
  | id
  | idref
  | idrefs
  | entity
  | entities
  | nmtoken
  | nmtokens
  /-- One of the listed notations. -/
  | notations (names : List String)
  /-- One of the listed name tokens. -/
  | enumeration (names : List String)
deriving Repr, DecidableEq

/-- An attribute type as written. -/
def AttributeType.text : AttributeType → String
  | cdata => "CDATA"
  | id => "ID"
  | idref => "IDREF"
  | idrefs => "IDREFS"
  | entity => "ENTITY"
  | entities => "ENTITIES"
  | nmtoken => "NMTOKEN"
  | nmtokens => "NMTOKENS"
  | notations names => "NOTATION (" ++ "|".intercalate names ++ ")"
  | enumeration names => "(" ++ "|".intercalate names ++ ")"

/-- What an attribute is when it is not given. -/
inductive DefaultDecl
  | required
  | implied
  | fixed (value : String)
  | value (value : String)
deriving Repr, DecidableEq

/-- A default as written. -/
def DefaultDecl.text : DefaultDecl → String
  | required => "#REQUIRED"
  | implied => "#IMPLIED"
  | fixed v => "#FIXED " ++ quote v
  | value v => quote v

/-- The definition of an attribute. -/
structure AttributeDef where
  type : AttributeType
  default : DefaultDecl
deriving Repr, DecidableEq

/-- The identifiers of an external resource. -/
structure ExternalId where
  publicId : Option String
  systemId : String
deriving Repr, DecidableEq

/-- Identifiers as written. -/
def ExternalId.text (id : ExternalId) : String :=
  match id.publicId with
  | some publicId => "PUBLIC " ++ quote publicId ++ " " ++ quote id.systemId
  | none => "SYSTEM " ++ quote id.systemId

/-- The definition of a general entity. -/
inductive EntityDef
  /-- By its replacement text. -/
  | internal (value : String)
  /-- By the place of its replacement text. -/
  | external (id : ExternalId)
  /-- By the place of data in a notation. -/
  | unparsed (id : ExternalId) (notationName : String)
deriving Repr, DecidableEq

/-- An entity definition as written. -/
def EntityDef.text : EntityDef → String
  | internal value => quote value
  | external id => id.text
  | unparsed id notationName => id.text ++ " NDATA " ++ notationName

/-- The identifiers of a notation, of which a declaration gives at least one. -/
structure Notation where
  publicId : Option String
  systemId : Option String
deriving Repr, DecidableEq

/-- A notation as written. -/
def Notation.text (n : Notation) : String :=
  match n.publicId, n.systemId with
  | some publicId, some systemId => "PUBLIC " ++ quote publicId ++ " " ++ quote systemId
  | some publicId, none => "PUBLIC " ++ quote publicId
  | none, some systemId => "SYSTEM " ++ quote systemId
  | none, none => ""

/-- A processing instruction. -/
structure Instruction where
  target : String
  data : String
deriving Repr, DecidableEq

end Doctype
