import Doctype.Error

/-! The kinds of output that a document type can be turned into. -/
namespace Doctype

/-- A kind of output. -/
inductive Target
  /-- A class that handles the events of a SAX parser. -/
  | sax
  /-- A stylesheet that copies every element. -/
  | xslt
  /-- The normalised DTD. -/
  | dtd
deriving DecidableEq, Repr

namespace Target

/-- Targets are named in lower case. -/
def text : Target → String
  | sax => "sax"
  | xslt => "xslt"
  | dtd => "dtd"

/-- Reads the name of a target, of which some have two. -/
def ofText : String → Except Error Target
  | "sax" | "java" => .ok sax
  | "xslt" | "xsl" => .ok xslt
  | "dtd" => .ok dtd
  | s => .error (.configuration ("unknown target `" ++ s ++ "`"))

end Target

end Doctype
