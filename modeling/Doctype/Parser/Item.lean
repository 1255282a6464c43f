import Doctype.Parser.Basic

/-! What a DTD consists of, and the effect that each part has on a parse. -/
namespace Doctype

/-- What an entity declaration gives behind the name. -/
inductive Definition
  | literal (value : String)
  | external (id : ExternalId) (notationName : Option String)
deriving DecidableEq, Repr

namespace Definition

/-- Declares a parameter entity that is defined this way. -/
def declare (t : EntityTable) (name : String) : Definition → Except Error EntityTable
  | literal value => t.declare name .value value
  | external id _ => t.declare name .uri id.systemId

/-- The definition of a general entity. References in its value are expanded here. -/
def resolve (t : EntityTable) : Definition → Except Error EntityDef
  | literal value => EntityDef.internal <$> t.expand value
  | external id none => .ok (.external id)
  | external id (some notationName) => .ok (.unparsed id notationName)

end Definition

/-- A part of a DTD as it has been read. -/
inductive Item
  | element (name : String) (content : ContentSpec)
  | attlist (element : String) (defs : List (String × AttributeDef))
  /-- The declaration of a parameter entity, whose name stands at a location. -/
  | parameter (name : String) (location : Location) (definition : Definition)
  | entity (name : String) (location : Location) (definition : Definition)
  | notation_ (name : String) (ids : Notation)
  /-- The head of an `INCLUDE` section, which begins with a `<![`. -/
  | included (opener : Lexeme)
  /-- The head of an `IGNORE` section. -/
  | ignored (opener : Lexeme)
  /-- The `]]>` of an `INCLUDE` section. -/
  | sectionClose (closer : Lexeme)
  | comment
  | instruction (target data : String)
deriving DecidableEq, Repr

namespace Parser

/-- Changes the document type. -/
def update (f : DocumentType → DocumentType) : ParserM Unit :=
  modify fun p => { p with model := f p.model }

/-- Takes the value of a computation that may fail at a location. -/
def orFailAt {α : Type} (location : Location) : Except Error α → ParserM α
  | .ok a => pure a
  | .error e => fail (e.locate location)

/-- Declares an element. -/
def declareElement (name : String) (content : ContentSpec) : ParserM Unit := do
  if (← get).model.elements.has name then note (.keptElement name)
  else update (·.addElement name content)

/-- The names that are defined once more. -/
def redefined (list : AttributeList) : List (String × AttributeDef) → List String
  | [] => []
  | (name, definition) :: defs =>
    if list.has name then name :: redefined list defs
    else redefined (list.add name definition) defs

/-- Defines attributes of an element. -/
def defineAttributes (name : String) (defs : List (String × AttributeDef)) : ParserM Unit := do
  let again := redefined ((← get).model.attributes name) defs
  noteAll (again.map (Event.keptAttribute · name))
  update (·.addAttributes name defs)

/-- Declares a parameter entity, which holds from here on. -/
def declareParameter (name : String) (location : Location) (definition : Definition) :
    ParserM Unit := do
  let table := (← get).entities
  if table.contains name then note (.keptParameter name)
  let table ← orFailAt location (definition.declare table name)
  modify fun p => { p with entities := table }

/-- Declares a general entity. -/
def declareEntity (name : String) (location : Location) (definition : Definition) :
    ParserM Unit := do
  let definition ← orFailAt location (definition.resolve (← get).entities)
  if (← get).model.entities.has name then note (.keptEntity name)
  else update (·.addEntity name definition)

/-- Declares a notation. -/
def declareNotation (name : String) (ids : Notation) : ParserM Unit := do
  if (← get).model.notations.has name then note (.keptNotation name)
  else update (·.addNotation name ids)

/-- Leaves the rest of an ignored section. -/
def skipIgnored : ParserM Unit := fun p =>
  match p.stack.skipIgnored with
  | .ok _ stack => .ok () { p with stack }
  | .error e stack => .error (.error e) { p with stack }

/-- Closes the innermost section, which has to end in the source that it began in. -/
def closeSection (lexeme : Lexeme) : ParserM Unit := do
  match (← get).sections with
  | [] => unexpected lexeme "a markup declaration"
  | (source, location) :: outer =>
    if source = lexeme.source then modify fun p => { p with sections := outer }
    else
      unexpected lexeme ("the section opened at " ++ location.text ++ " to end in the same entity")

/-- The target of a text declaration, which is no instruction. -/
def isTextDeclaration (target : String) : Bool :=
  target.toList.map Char.toLower == ['x', 'm', 'l']

/-- Keeps a processing instruction, if instructions are kept. -/
def keepInstruction (target data : String) : ParserM Unit := do
  if (← get).keepInstructions && !isTextDeclaration target then
    update (·.addInstruction ⟨target, data⟩)
  else note (.discarding target)

end Parser

/-- Lets an item take effect. The contents of an `INCLUDE` section are parsed as if they stood
outside, those of an `IGNORE` section are skipped. -/
def Item.apply : Item → ParserM Unit
  | element name content => Parser.declareElement name content
  | attlist name defs => Parser.defineAttributes name defs
  | parameter name location definition => Parser.declareParameter name location definition
  | entity name location definition => Parser.declareEntity name location definition
  | notation_ name ids => Parser.declareNotation name ids
  | included opener =>
    modify fun p => { p with sections := (opener.source, opener.location) :: p.sections }
  | ignored opener => do
    Parser.note (.skipping opener.location)
    Parser.skipIgnored
  | sectionClose closer => Parser.closeSection closer
  | comment => pure ()
  | instruction target data => Parser.keepInstruction target data

end Doctype
