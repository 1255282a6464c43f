import Doctype.Location

/-! What can go wrong, where it went wrong, and how it is worded. -/
namespace Doctype

/-- Why opening, reading or writing a file fails. -/
inductive IoError
  | notFound
  | notDirectory
  | isDirectory
  | nameTooLong
  | nulInName
  | invalidText
  | other (text : String)
deriving DecidableEq, Repr

/-- The operating system's wording, with its error number where it has one. -/
def IoError.message : IoError → String
  | notFound => "No such file or directory (os error 2)"
  | notDirectory => "Not a directory (os error 20)"
  | isDirectory => "Is a directory (os error 21)"
  | nameTooLong => "File name too long (os error 36)"
  | nulInName => "file name contained an unexpected NUL byte"
  | invalidText => "stream did not contain valid UTF-8"
  | other text => text

/-- The errors that end a parse or a generator run. -/
inductive Error
  /-- A parameter entity is declared or referenced under something that is no name. -/
  | invalidEntity (detail : String)
  /-- A well-formed reference to an entity that is not declared. -/
  | undeclaredEntity (name : String)
  /-- The content of an external entity cannot be opened. -/
  | unresolvedReference (name target reason : String)
  /-- An entity is expanded within its own replacement text. -/
  | cyclicEntity (name : String)
  /-- Characters that form no token. -/
  | lexical (location : Location) (detail : String)
  /-- A token that the grammar does not allow where it stands. -/
  | grammar (location : Location) (found expected : String)
  /-- The settings of a run are unusable. -/
  | configuration (detail : String)
  /-- A template is malformed, is missing, or has a slot without a value. -/
  | template (detail : String)
  /-- An error together with the location it was raised at. -/
  | located (location : Location) (source : Error)
  /-- A file cannot be opened, read or written. -/
  | io (source : IoError)
deriving DecidableEq, Repr

namespace Error

/-- The wording of an error. -/
def message : Error → String
  | invalidEntity detail => "invalid entity declaration: " ++ detail
  | undeclaredEntity name => "undeclared parameter entity `%" ++ name ++ ";`"
  | unresolvedReference name target reason =>
    "cannot resolve parameter entity `%" ++ name ++ ";` (" ++ target ++ "): " ++ reason
  | cyclicEntity name => "parameter entity `%" ++ name ++ ";` references itself"
  | lexical location detail => location.text ++ ": " ++ detail
  | grammar location found expected =>
    location.text ++ ": found " ++ found ++ ", expected " ++ expected
  | configuration detail => "configuration error: " ++ detail
  | template detail => "template error: " ++ detail
  | located location source => location.text ++ ": " ++ source.message
  | io source => "I/O error: " ++ source.message

/-- The innermost error, seen through its locations. -/
def root : Error → Error
  | located _ source => source.root
  | e => e

/-- The location an error carries itself. -/
def location? : Error → Option Location
  | lexical location _ => some location
  | grammar location _ _ => some location
  | located location _ => some location
  | _ => none

/-- Adds a location to an error that has none. -/
def locate (l : Location) (e : Error) : Error :=
  match e.location? with
  | some _ => e
  | none => located l e

/-- The wording of each error below this one, outermost first. -/
def causes : Error → List String
  | located _ source => source.message :: source.causes
  | io source => [source.message]
  | _ => []

end Error

end Doctype
