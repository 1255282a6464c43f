import Doctype.Parser.Content
import Doctype.Parser.Item

/-! Reading markup declarations. -/
namespace Doctype.Parser

/-- Reads an element declaration. -/
def element (w : World) (fuel : Nat) (opener : Lexeme) : ParserM Item := do
  let (name, _) ← expectName w "an element name"
  let content ← contentSpec w fuel
  expectClose w opener
  return .element name content

/-- Parses the rest of a list of names behind its `(`. -/
def nameList (w : World) : Nat → List String → ParserM (List String)
  | 0, _ => throw .outOfFuel
  | fuel + 1, names => do
    let (name, _) ← expectName w "a name token"
    let names := names ++ [name]
    let lexeme ← next w
    match lexeme.token with
    | .pipe => nameList w fuel names
    | .parenClose => return names
    | _ => unexpected lexeme "`|` or `)`"

/-- The attribute types that a keyword stands for. -/
def simpleType? : String → Option AttributeType
  | "CDATA" => some .cdata
  | "ID" => some .id
  | "IDREF" => some .idref
  | "IDREFS" => some .idrefs
  | "ENTITY" => some .entity
  | "ENTITIES" => some .entities
  | "NMTOKEN" => some .nmtoken
  | "NMTOKENS" => some .nmtokens
  | _ => none

/-- Parses the type of an attribute. -/
def attributeType (w : World) (fuel : Nat) : ParserM AttributeType := do
  let lexeme ← next w
  match lexeme.token with
  | .parenOpen => return .enumeration (← nameList w fuel [])
  | .name "NOTATION" =>
    let _ ← expect w .parenOpen "`(`"
    return .notations (← nameList w fuel [])
  | .name keyword =>
    match simpleType? keyword with
    | some type => return type
    | none => unexpected lexeme "an attribute type"
  | _ => unexpected lexeme "an attribute type"

/-- Parses the default of an attribute. -/
def defaultDecl (w : World) : ParserM DefaultDecl := do
  let lexeme ← next w
  match lexeme.token with
  | .literal value => return .value value
  | .hash "REQUIRED" => return .required
  | .hash "IMPLIED" => return .implied
  | .hash "FIXED" => return .fixed (← expectLiteral w "a default value")
  | _ => unexpected lexeme "`#REQUIRED`, `#IMPLIED`, `#FIXED` or a default value"

/-- Parses attribute definitions up to the `>` of their declaration. -/
def attributes (w : World) (opener : Lexeme) :
    Nat → List (String × AttributeDef) → ParserM (List (String × AttributeDef))
  | 0, _ => throw .outOfFuel
  | fuel + 1, defs => do
    if (← peek w) = .close then
      expectClose w opener
      return defs
    else
      let (name, _) ← expectName w "an attribute name or `>`"
      let type ← attributeType w fuel
      let default ← defaultDecl w
      attributes w opener fuel (defs ++ [(name, ⟨type, default⟩)])

/-- Reads an attribute list declaration. -/
def attlist (w : World) (fuel : Nat) (opener : Lexeme) : ParserM Item := do
  let (name, _) ← expectName w "an element name"
  let defs ← attributes w opener fuel []
  return .attlist name defs

/-- Parses the literals of an external identifier behind its keyword. -/
def externalId (w : World) (isPublic : Bool) : ParserM ExternalId := do
  let publicId ← if isPublic then some <$> expectLiteral w "a public identifier" else pure none
  let systemId ← expectLiteral w "a system identifier"
  return ⟨publicId, systemId⟩

/-- Parses what an entity declaration gives behind the name. Parameter entities are never in a
notation. -/
def definition (w : World) (isParameter : Bool) : ParserM Definition := do
  let lexeme ← next w
  match lexeme.token with
  | .literal value => return .literal value
  | .name keyword =>
    if keyword = "SYSTEM" ∨ keyword = "PUBLIC" then
      let id ← externalId w (keyword = "PUBLIC")
      if (← peek w) = .name "NDATA" ∧ isParameter = false then
        let _ ← next w
        let (name, _) ← expectName w "a notation name"
        return .external id (some name)
      else return .external id none
    else unexpected lexeme "a literal, `SYSTEM` or `PUBLIC`"
  | _ => unexpected lexeme "a literal, `SYSTEM` or `PUBLIC`"

/-- Reads an entity declaration. -/
def entity (w : World) (opener : Lexeme) : ParserM Item := do
  let isParameter := decide ((← peek w) = .percent)
  if isParameter then
    let _ ← next w
  let (name, location) ← expectName w "an entity name"
  let definition ← definition w isParameter
  expectClose w opener
  return if isParameter then .parameter name location definition
    else .entity name location definition

/-- Parses the identifiers of a notation. -/
def notationIds (w : World) : ParserM Notation := do
  let lexeme ← next w
  match lexeme.token with
  | .name "SYSTEM" => return ⟨none, some (← expectLiteral w "a system identifier")⟩
  | .name "PUBLIC" =>
    let publicId ← expectLiteral w "a public identifier"
    match ← peek w with
    | .literal _ => return ⟨some publicId, some (← expectLiteral w "a system identifier")⟩
    | _ => return ⟨some publicId, none⟩
  | _ => unexpected lexeme "`SYSTEM` or `PUBLIC`"

/-- Reads a notation declaration. -/
def notationDecl (w : World) (opener : Lexeme) : ParserM Item := do
  let (name, _) ← expectName w "a notation name"
  let ids ← notationIds w
  expectClose w opener
  return .notation_ name ids

/-- Reads the rest of a markup declaration behind its opener. -/
def declaration (w : World) (fuel : Nat) (keyword : Keyword) (opener : Lexeme) : ParserM Item :=
  match keyword with
  | .element => element w fuel opener
  | .attlist => attlist w fuel opener
  | .entity => entity w opener
  | .notation_ => notationDecl w opener

end Doctype.Parser
