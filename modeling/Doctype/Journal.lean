import Doctype.Path
import Doctype.Token

/-! The journal of a run: what happened, how much it matters, and how it is worded. -/
namespace Doctype

/-- How much an event matters, most important first. -/
inductive Level
  | error
  | warn
  | info
  | debug
  | trace
deriving DecidableEq, Repr

namespace Level

/-- The name of a level in a journal line. -/
def text : Level → String
  | error => "ERROR"
  | warn => "WARN"
  | info => "INFO"
  | debug => "DEBUG"
  | trace => "TRACE"

/-- Levels in order of importance. -/
def rank : Level → Nat
  | error => 0
  | warn => 1
  | info => 2
  | debug => 3
  | trace => 4

end Level

/-- What can happen in a run. -/
inductive Event
  | parsing (path : Path)
  | sought (path : Path)
  | referenced (entity : String)
  | resolved (entity : String) (path : Path)
  | fetching (entity url : String)
  | entering (source : String) (depth : Nat)
  | leaving (source : String) (depth : Nat)
  | scanned (location : Location) (token : Token)
  | skipping (location : Location)
  | discarding (target : String)
  | keptElement (name : String)
  | keptAttribute (name element : String)
  | keptEntity (name : String)
  | keptParameter (name : String)
  | keptNotation (name : String)
  | parsed (elements attlists entities parameters : Nat)
  | collected (path : Path) (elements attlists entities : Nat)
  | loading (template : String) (path : Path)
  | generating (target : String) (elements : Nat)
  | writing (path : Path)
  | failed (message : String)
  | cause (message : String)
deriving DecidableEq, Repr

namespace Event

/-- The level an event is reported at; looking for a path and meeting a reference are never
reported. -/
def level? : Event → Option Level
  | sought _ | referenced _ => none
  | failed _ | cause _ => some .error
  | collected .. => some .info
  | scanned .. | discarding _ => some .trace
  | _ => some .debug

/-- The wording of an event. -/
def message : Event → String
  | parsing path => "parsing " ++ path.text
  | sought path => "looking for " ++ path.text
  | referenced entity => "meeting `%" ++ entity ++ ";`"
  | resolved entity path => "resolved `%" ++ entity ++ ";` to file " ++ path.text
  | fetching entity url => "fetching `%" ++ entity ++ ";` from " ++ url
  | entering source depth => "entering " ++ source ++ " (depth " ++ toString depth ++ ")"
  | leaving source depth => "leaving " ++ source ++ " (depth " ++ toString depth ++ ")"
  | scanned location token => location.text ++ ": " ++ token.text
  | skipping location => "skipping ignored section at " ++ location.text
  | discarding target => "discarding processing instruction `" ++ target ++ "`"
  | keptElement name => "ignoring redeclaration of element `" ++ name ++ "`"
  | keptAttribute name element =>
    "ignoring redefinition of attribute `" ++ name ++ "` on `" ++ element ++ "`"
  | keptEntity name => "ignoring redeclaration of entity `" ++ name ++ "`"
  | keptParameter name => "ignoring redeclaration of parameter entity `%" ++ name ++ ";`"
  | keptNotation name => "ignoring redeclaration of notation `" ++ name ++ "`"
  | parsed elements attlists entities parameters =>
    "parsed " ++ toString elements ++ " elements, " ++ toString attlists ++ " attribute lists, " ++
      toString entities ++ " entities, " ++ toString parameters ++ " parameter entities"
  | collected path elements attlists entities =>
    path.text ++ ": " ++ toString elements ++ " elements, " ++ toString attlists ++
      " attribute lists, " ++ toString entities ++ " entities"
  | loading template path => "loading template `" ++ template ++ "` from " ++ path.text
  | generating target elements =>
    "generating " ++ target ++ " output for " ++ toString elements ++ " elements"
  | writing path => "writing " ++ path.text
  | failed message => message
  | cause message => "caused by: " ++ message

/-- The journal line of an event, if it matters enough. -/
def line? (limit : Level) (event : Event) : Option String :=
  match event.level? with
  | some level =>
    if level.rank ≤ limit.rank then some (level.text ++ " - " ++ event.message ++ "\n") else none
  | none => none

end Event

/-- The events of a run, latest first. -/
abbrev Journal := List Event

/-- The lines of a journal in the order of the events. -/
def Journal.text (limit : Level) (journal : Journal) : String :=
  String.join (journal.reverse.filterMap (Event.line? limit))

end Doctype
