import Doctype.Location
import Doctype.Text.Quoted

/-! The tokens of a DTD. -/
namespace Doctype

/-- What a markup declaration declares. -/
inductive Keyword
  | element
  | attlist
  | entity
  | notation_
deriving DecidableEq, Repr

/-- The keyword as it stands behind `<!`. -/
def Keyword.text : Keyword → String
  | element => "ELEMENT"
  | attlist => "ATTLIST"
  | entity => "ENTITY"
  | notation_ => "NOTATION"

/-- Keywords are read in upper case only. -/
def Keyword.ofText? : String → Option Keyword
  | "ELEMENT" => some element
  | "ATTLIST" => some attlist
  | "ENTITY" => some entity
  | "NOTATION" => some notation_
  | _ => none

/-- The tokens that may stand in a DTD. -/
inductive Token
  /-- The opener of a declaration, such as `<!ELEMENT`. -/
  | decl (keyword : Keyword)
  /-- `<![` -/
  | sectionOpen
  /-- `]]>` -/
  | sectionClose
  /-- `[` -/
  | bracket
  /-- `>` -/
  | close
  /-- `(` -/
  | parenOpen
  /-- `)` -/
  | parenClose
  /-- `|` -/
  | pipe
  /-- `,` -/
  | comma
  /-- `?` -/
  | question
  /-- `*` -/
  | star
  /-- `+` -/
  | plus
  /-- A `%` that begins no reference. -/
  | percent
  /-- A keyword such as `#PCDATA`, without its `#`. -/
  | hash (keyword : String)
  /-- A name, or name characters that begin no name. -/
  | name (text : String)
  /-- The text between two quotes. -/
  | literal (text : String)
  /-- A general entity reference, which is not expanded. -/
  | generalRef (name : String)
  /-- The text of a comment. -/
  | comment (text : String)
  /-- A processing instruction. -/
  | instruction (target data : String)
  /-- The end of the outermost source. -/
  | endOfInput
deriving DecidableEq, Repr

/-- A token as error messages name it. -/
def Token.text : Token → String
  | decl keyword => "`<!" ++ keyword.text ++ "`"
  | sectionOpen => "`<![`"
  | sectionClose => "`]]>`"
  | bracket => "`[`"
  | close => "`>`"
  | parenOpen => "`(`"
  | parenClose => "`)`"
  | pipe => "`|`"
  | comma => "`,`"
  | question => "`?`"
  | star => "`*`"
  | plus => "`+`"
  | percent => "`%`"
  | hash keyword => "`#" ++ keyword ++ "`"
  | name text => "name `" ++ text ++ "`"
  | literal text => "literal " ++ Text.quoted text
  | generalRef entity => "entity reference `&" ++ entity ++ ";`"
  | comment _ => "comment"
  | instruction target _ => "processing instruction `<?" ++ target ++ "`"
  | endOfInput => "end of input"

/-- A token with the place it was read at. -/
structure Lexeme where
  token : Token
  /-- Where the token begins. -/
  location : Location
  /-- How many sources were open: one for the outermost, none at the end of input. -/
  depth : Nat
  /-- The number of the source it was read from, which is zero at the end of input. -/
  source : Nat
deriving DecidableEq, Repr

end Doctype
