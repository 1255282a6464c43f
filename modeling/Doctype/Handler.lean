import Doctype.DocumentType
import Doctype.Identifier
import Doctype.Template.Collection

/-! The handler class of a document type: what it names things, and its source text. -/
namespace Doctype

/-- An attribute that a handler reads. -/
structure HandlerAttribute where
  name : String
  /-- The local variable that holds its value. -/
  ident : String
  definition : AttributeDef

/-- An element that a handler handles. -/
structure HandlerElement where
  name : String
  constant : String
  /-- What the names of its two methods end in. -/
  method : String
  content : ContentSpec
  attributes : List HandlerAttribute

/-- How a handler class is named. -/
structure ClassName where
  name : String := "DocumentHandler"
  package : Option String := none

namespace HandlerAttribute

/-- The attributes of an element. No variable gets the name of the parameter of its method. -/
def ofList (list : AttributeList) : List HandlerAttribute :=
  let idents := Identifier.allocate ["atts"] (list.names.map Identifier.lowerCamelCase)
  List.zipWith (fun b ident => ⟨b.1, ident, b.2⟩) list idents

/-- A default in words. -/
def defaultSummary : DefaultDecl → String
  | .required => "required"
  | .implied => "optional"
  | .fixed value => "fixed \"" ++ value ++ "\""
  | .value value => "default \"" ++ value ++ "\""

/-- What the template of an attribute can use. -/
def vars (a : HandlerAttribute) : Bindings String := [
  ("name", a.name), ("variable", a.ident), ("type", a.definition.type.text),
  ("default", defaultSummary a.definition.default)]

/-- The text that reads an attribute. -/
def text (ts : Templates) (a : HandlerAttribute) : Except Error String :=
  ts.render "sax.attribute" a.vars

end HandlerAttribute

/-- The parts that an element adds to the source of its handler. -/
structure HandlerParts where
  constant : String
  startCase : String
  endCase : String
  methods : String

namespace HandlerElement

/-- The elements of a document type. No method gets the name of a method that every handler
has. -/
def ofDocumentType (d : DocumentType) : List HandlerElement :=
  let constants := Identifier.allocate [] (d.elements.names.map Identifier.constantCase)
  let methods := Identifier.allocate ["Document"] (d.elements.names.map Identifier.camelCase)
  List.zipWith
    (fun b idents => ⟨b.1, idents.1, idents.2, b.2, HandlerAttribute.ofList (d.attributes b.1)⟩)
    d.elements (constants.zip methods)

/-- What the templates of an element can use. -/
def vars (e : HandlerElement) (reads : String) : Bindings String := [
  ("name", e.name), ("constant", e.constant), ("method", e.method), ("content", e.content.text),
  ("args", if e.attributes.isEmpty then "" else "atts"),
  ("params", if e.attributes.isEmpty then "" else "Attributes atts"), ("attributes", reads)]

/-- The parts of an element. -/
def parts (ts : Templates) (e : HandlerElement) : Except Error HandlerParts := do
  let vars := e.vars (String.join (← e.attributes.mapM (·.text ts)))
  let constant ← ts.render "sax.constant" vars
  let startCase ← ts.render "sax.start_case" vars
  let endCase ← ts.render "sax.end_case" vars
  let methods ← ts.render "sax.handler" vars
  return ⟨constant, startCase, endCase, methods⟩

end HandlerElement

/-- The source text of a handler class. -/
def handlerText (ts : Templates) (cls : ClassName) (source : String) (d : DocumentType) :
    Except Error String := do
  let parts ← (HandlerElement.ofDocumentType d).mapM (·.parts ts)
  let package ← match cls.package with
    | none => pure ""
    | some package => ts.render "sax.package" [("package", package)]
  ts.render "sax.file" [
    ("package", package), ("source", source), ("class", cls.name),
    ("constants", String.join (parts.map (·.constant))),
    ("start_cases", String.join (parts.map (·.startCase))),
    ("end_cases", String.join (parts.map (·.endCase))),
    ("handlers", String.join (parts.map (·.methods)))]

end Doctype
