import Doctype.Path
import Doctype.Url.Parser

/-! Where texts come from, and what relative identifiers in them refer to. -/
namespace Doctype

/-- What relative system identifiers are resolved against. -/
inductive Base
  /-- A directory. -/
  | dir (path : Path)
  /-- The URL of the text that holds them. -/
  | url (url : Url)
deriving DecidableEq, Repr

/-- A base as written. -/
def Base.text : Base → String
  | dir path => path.text
  | url u => u.text

/-- Where a text comes from. -/
inductive Origin
  /-- The value of an entity. -/
  | literal (name : String)
  | file (path : Path)
  | url (url : Url)
deriving DecidableEq, Repr

namespace Origin

/-- The name that locations in the text carry. -/
def text : Origin → String
  | literal name => "%" ++ name ++ ";"
  | file path => path.text
  | url u => u.text

/-- The base that a text brings along: a file its directory, a page its URL, a value none. -/
def base? : Origin → Option Base
  | literal _ => none
  | file path => path.parent?.map Base.dir
  | url u => some (.url u)

end Origin

end Doctype
