import Doctype.Handler
import Doctype.Stylesheet
import Doctype.Template.Builtin

/-! Turning a document type into the output of a target. -/
namespace Doctype

/-- The output of a target. `source` is what the output calls the DTD it was made from. -/
def generate (target : Target) (ts : Templates) (cls : ClassName) (source : String)
    (d : DocumentType) : Except Error String :=
  match target with
  | .sax => handlerText ts cls source d
  | .xslt => Stylesheet.text ts source d
  | .dtd => .ok d.text

end Doctype
