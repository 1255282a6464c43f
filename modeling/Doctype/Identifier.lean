import Doctype.Text.Alphabetic
import Doctype.Text.CaseMap
import Doctype.Text.Fields
import Doctype.Text.Numeric

/-! Java identifiers made from names: words and their case, and identifiers that all differ. -/
namespace Doctype.Identifier

/-- Letters and numbers make up words; any other character parts them. -/
def isWordChar (c : Char) : Bool :=
  Text.isAlphabetic c || Text.isNumeric c

/-- The words of a name. A name without a word gets one. -/
def words (name : String) : List (List Char) :=
  match (Text.fields (!isWordChar ·) name.toList).filter (!·.isEmpty) with
  | [] => [['u', 'n', 'n', 'a', 'm', 'e', 'd']]
  | words => words

/-- Changes the case of the first character. -/
def mapFirst (f : Char → List Char) : List Char → List Char
  | [] => []
  | c :: cs => f c ++ cs

/-- Each word begins in upper case, as in `ChapterTitle`. -/
def camelCase (name : String) : List Char :=
  (words name).flatMap (mapFirst Text.upper)

/-- Each word but the first begins in upper case, as in `chapterTitle`. -/
def lowerCamelCase (name : String) : List Char :=
  mapFirst Text.lower (camelCase name)

/-- All in upper case with `_` between the words, as in `CHAPTER_TITLE`. -/
def constantCase (name : String) : List Char :=
  Text.joinFields '_' ((words name).map (·.flatMap Text.upper))

/-- Words that cannot be identifiers. -/
def keywords : List String := [
  "abstract", "assert", "boolean", "break", "byte", "case", "catch", "char", "class", "const",
  "continue", "default", "do", "double", "else", "enum", "extends", "false", "final", "finally",
  "float", "for", "goto", "if", "implements", "import", "instanceof", "int", "interface", "long",
  "native", "new", "null", "package", "private", "protected", "public", "return", "short",
  "static", "strictfp", "super", "switch", "synchronized", "this", "throw", "throws", "transient",
  "true", "try", "void", "volatile", "while", "var", "yield", "record"]

/-- A leading number gets a `_` in front, and a keyword gets one behind. -/
def legal (cs : List Char) : String :=
  let s : String := .ofList (if cs.head?.any Text.isNumeric then '_' :: cs else cs)
  if keywords.contains s then s ++ "_" else s

/-- The identifier itself, then the identifier with 2, 3, … behind it. -/
def candidate (ident : String) : Nat → String
  | 0 => ident
  | n + 1 => ident ++ toString (n + 2)

/-- The first candidate that is not used. One more candidate than there are used identifiers is
enough. -/
def fresh (used : List String) (ident : String) : String :=
  (((List.range (used.length + 1)).map (candidate ident)).find? (!used.contains ·)).getD ident

/-- Identifiers for some words, different from each other and from those that are used. -/
def allocate (used : List String) : List (List Char) → List String
  | [] => []
  | cs :: rest =>
    let ident := fresh used (legal cs)
    ident :: allocate (ident :: used) rest

end Doctype.Identifier
