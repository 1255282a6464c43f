import Doctype.DocumentType
import Doctype.Template.Collection

/-! The stylesheet of a document type, with a rule for each element. -/
namespace Doctype.Stylesheet

/-- The text that copies an attribute. -/
def attributeText (ts : Templates) (b : String × AttributeDef) : Except Error String :=
  let template := match b.2.default with
    | .implied => "xslt.optional_attribute"
    | _ => "xslt.attribute"
  ts.render template [("name", b.1)]

/-- The rule of an element. -/
def elementText (ts : Templates) (d : DocumentType) (b : String × ContentSpec) :
    Except Error String := do
  let attributes ← (d.attributes b.1).mapM (attributeText ts)
  ts.render "xslt.element"
    [("name", b.1), ("content", b.2.text), ("attributes", String.join attributes)]

/-- The stylesheet of a document type. -/
def text (ts : Templates) (source : String) (d : DocumentType) : Except Error String := do
  let elements ← d.elements.mapM (elementText ts d)
  ts.render "xslt.file" [("source", source), ("templates", String.join elements)]

end Doctype.Stylesheet
