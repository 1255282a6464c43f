import Doctype.Target
import Doctype.Template.Collection

/-! The templates that each target brings along. -/
namespace Doctype.Templates

open Piece (ofText ofVariable)

/-- A line of text. -/
def line (s : String) : List Piece :=
  ofText s ++ ofText "\n"

/-- Lines of text. -/
def lines (texts : List String) : List Piece :=
  texts.flatMap line

/-- The source of a handler class. -/
def handlerFile : List Piece :=
  ofVariable "package" ++
  ofText "// Generated by dtdgen from " ++ ofVariable "source" ++ line ". Do not edit." ++
  lines [
    "",
    "import org.xml.sax.Attributes;",
    "import org.xml.sax.SAXException;",
    "import org.xml.sax.helpers.DefaultHandler;",
    ""] ++
  ofText "public class " ++ ofVariable "class" ++ line " extends DefaultHandler \x7b" ++
  ofVariable "constants" ++
  lines [
    "",
    "    @Override",
    "    public void startElement(String uri, String localName, String qName, Attributes atts)",
    "            throws SAXException \x7b",
    "        switch (qName) \x7b"] ++
  ofVariable "start_cases" ++
  lines [
    "        default:",
    "            unknownElement(qName);",
    "        \x7d",
    "    \x7d",
    "",
    "    @Override"] ++
  ofText "    public void endElement(String uri, String localName, String qName) " ++
  lines [
    "throws SAXException \x7b",
    "        switch (qName) \x7b"] ++
  ofVariable "end_cases" ++
  lines [
    "        default:",
    "            break;",
    "        \x7d",
    "    \x7d",
    "",
    "    protected void unknownElement(String name) throws SAXException \x7b",
    "        throw new SAXException(\"undeclared element: \" + name);",
    "    \x7d"] ++
  ofVariable "handlers" ++
  line "\x7d"

/-- The package clause of a handler class. -/
def handlerPackage : List Piece :=
  ofText "package " ++ ofVariable "package" ++ lines [";", ""]

/-- The constant that holds the name of an element. -/
def handlerConstant : List Piece :=
  ofText "    public static final String " ++ ofVariable "constant" ++
  ofText " = \"" ++ ofVariable "name" ++ line "\";"

/-- The case of an element among the starts. -/
def handlerStartCase : List Piece :=
  ofText "        case " ++ ofVariable "constant" ++ line ":" ++
  ofText "            start" ++ ofVariable "method" ++ ofText "(" ++ ofVariable "args" ++
  line ");" ++
  line "            break;"

/-- The case of an element among the ends. -/
def handlerEndCase : List Piece :=
  ofText "        case " ++ ofVariable "constant" ++ line ":" ++
  ofText "            end" ++ ofVariable "method" ++ line "();" ++
  line "            break;"

/-- The methods of an element. -/
def handlerMethods : List Piece :=
  line "" ++
  ofText "    /** " ++ ofVariable "name" ++ ofText ": " ++ ofVariable "content" ++ line " */" ++
  ofText "    protected void start" ++ ofVariable "method" ++ ofText "(" ++ ofVariable "params" ++
  line ") throws SAXException \x7b" ++
  ofVariable "attributes" ++
  line "    \x7d" ++
  line "" ++
  ofText "    protected void end" ++ ofVariable "method" ++ line "() throws SAXException \x7b" ++
  line "    \x7d"

/-- Reading an attribute. -/
def handlerAttribute : List Piece :=
  ofText "        String " ++ ofVariable "variable" ++ ofText " = atts.getValue(\"" ++
  ofVariable "name" ++ ofText "\"); // " ++ ofVariable "type" ++ ofText " " ++
  ofVariable "default" ++ line ""

/-- A stylesheet. -/
def stylesheetFile : List Piece :=
  line "<?xml version=\"1.0\" encoding=\"UTF-8\"?>" ++
  ofText "<!-- Generated by dtdgen from " ++ ofVariable "source" ++ line ". -->" ++
  lines [
    "<xsl:stylesheet version=\"1.0\" xmlns:xsl=\"http://www.w3.org/1999/XSL/Transform\">",
    "  <xsl:output method=\"xml\" indent=\"yes\"/>"] ++
  ofVariable "templates" ++
  line "</xsl:stylesheet>"

/-- The rule for an element. -/
def stylesheetElement : List Piece :=
  line "" ++
  ofText "  <!-- " ++ ofVariable "name" ++ ofText ": " ++ ofVariable "content" ++ line " -->" ++
  ofText "  <xsl:template match=\"" ++ ofVariable "name" ++ line "\">" ++
  line "    <xsl:copy>" ++
  ofVariable "attributes" ++
  lines [
    "      <xsl:apply-templates/>",
    "    </xsl:copy>",
    "  </xsl:template>"]

/-- Writing an attribute. -/
def attributeCopy : List Piece :=
  ofText "<xsl:attribute name=\"" ++ ofVariable "name" ++
  ofText "\"><xsl:value-of select=\"@" ++ ofVariable "name" ++ line "\"/></xsl:attribute>"

/-- Copying an attribute that is always there. -/
def stylesheetAttribute : List Piece :=
  ofText "      " ++ attributeCopy

/-- Copying an attribute that may be missing. -/
def stylesheetOptionalAttribute : List Piece :=
  ofText "      <xsl:if test=\"@" ++ ofVariable "name" ++ line "\">" ++
  ofText "        " ++ attributeCopy ++
  line "      </xsl:if>"

/-- The pieces of the templates of a target. -/
def builtinPieces : Target → Bindings (List Piece)
  | .sax => [
    ("sax.file", handlerFile), ("sax.package", handlerPackage), ("sax.constant", handlerConstant),
    ("sax.start_case", handlerStartCase), ("sax.end_case", handlerEndCase),
    ("sax.handler", handlerMethods), ("sax.attribute", handlerAttribute)]
  | .xslt => [
    ("xslt.file", stylesheetFile), ("xslt.element", stylesheetElement),
    ("xslt.attribute", stylesheetAttribute),
    ("xslt.optional_attribute", stylesheetOptionalAttribute)]
  | .dtd => []

/-- The templates of a target. -/
def builtin (target : Target) : Templates :=
  ofList ((builtinPieces target).map fun b => .ofPieces b.1 b.2)

end Doctype.Templates
