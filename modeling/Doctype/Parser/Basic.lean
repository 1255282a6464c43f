import Doctype.DocumentType
import Doctype.Source.Tokens

/-! The state of a parse, and reading lexemes with one lexeme of lookahead. -/
namespace Doctype

/-- Settings of a parse. -/
structure Options where
  /-- Relative identifiers in the outermost source refer to this directory. -/
  base : Option Path := none
  /-- Whether processing instructions are kept. -/
  keepInstructions : Bool := false

/-- A parse on its way. -/
structure Parser where
  stack : SourceStack
  entities : EntityTable := {}
  model : DocumentType := {}
  keepInstructions : Bool := false
  /-- A lexeme that has been looked at and not yet taken. -/
  peeked : Option Lexeme := none
  /-- The source and place of each open `INCLUDE` section, innermost first. -/
  sections : List (Nat × Location) := []

/-- Why a parse stops. A DTD can declare new entities from entities for ever, so that no bound on
the length of a parse can be read off its text: the bound is given from outside. -/
inductive Halt
  | error (e : Error)
  | outOfFuel
deriving DecidableEq, Repr

/-- An action of a parse. -/
abbrev ParserM := EStateM Halt Parser

namespace Parser

/-- Stops with an error. -/
def fail {α : Type} (e : Error) : ParserM α :=
  throw (.error e)

/-- Stops at a lexeme that the grammar does not allow. -/
def unexpected {α : Type} (lexeme : Lexeme) (expected : String) : ParserM α :=
  fail (.grammar lexeme.location lexeme.token.text expected)

/-- Records an event. -/
def note (event : Event) : ParserM Unit :=
  modify fun p => { p with stack := p.stack.note event }

/-- Records events. -/
def noteAll (events : List Event) : ParserM Unit :=
  modify fun p => { p with stack := events.foldl SourceStack.note p.stack }

/-- Scans a lexeme from the sources. -/
def scan (w : World) : ParserM Lexeme := fun p =>
  match p.stack.next w p.entities with
  | .ok lexeme stack => .ok lexeme { p with stack }
  | .error e stack => .error (.error e) { p with stack }

/-- Takes the next lexeme. -/
def next (w : World) : ParserM Lexeme := do
  match (← get).peeked with
  | some lexeme =>
    modify fun p => { p with peeked := none }
    return lexeme
  | none => scan w

/-- Looks at the next token. -/
def peek (w : World) : ParserM Token := do
  match (← get).peeked with
  | some lexeme => return lexeme.token
  | none =>
    let lexeme ← scan w
    modify fun p => { p with peeked := some lexeme }
    return lexeme.token

/-- Takes a name. -/
def expectName (w : World) (expected : String) : ParserM (String × Location) := do
  let lexeme ← next w
  match lexeme.token with
  | .name name => return (name, lexeme.location)
  | _ => unexpected lexeme expected

/-- Takes a literal. -/
def expectLiteral (w : World) (expected : String) : ParserM String := do
  let lexeme ← next w
  match lexeme.token with
  | .literal text => return text
  | _ => unexpected lexeme expected

/-- Takes a certain token. -/
def expect (w : World) (token : Token) (expected : String) : ParserM Lexeme := do
  let lexeme ← next w
  if lexeme.token = token then return lexeme else unexpected lexeme expected

/-- Takes the `>` of a declaration, which stands in the source that the declaration began in. -/
def expectClose (w : World) (opener : Lexeme) : ParserM Unit := do
  let lexeme ← expect w .close "`>`"
  if lexeme.source = opener.source then return ()
  else
    unexpected lexeme
      ("the declaration opened at " ++ opener.location.text ++ " to end in the same entity")

end Parser

end Doctype
