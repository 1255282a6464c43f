import Doctype.Parser.Basic

/-! Parsing content models. -/
namespace Doctype.Parser

/-- Parses an occurrence indicator, if there is one. -/
def occurrence (w : World) : ParserM Occurrence := do
  match ← peek w with
  | .question => take .optional
  | .star => take .zeroOrMore
  | .plus => take .oneOrMore
  | _ => return .once
where
  take (o : Occurrence) : ParserM Occurrence := do
    let _ ← next w
    return o

/-- Parses the rest of a mixed content model behind `(#PCDATA`, up to its `)`. -/
def mixedNames (w : World) : Nat → List String → ParserM (List String)
  | 0, _ => throw .outOfFuel
  | fuel + 1, names => do
    let lexeme ← next w
    match lexeme.token with
    | .pipe =>
      let (name, _) ← expectName w "an element name"
      mixedNames w fuel (Particle.addName names name)
    | .parenClose => return names
    | _ => unexpected lexeme "`|` or `)`"

/-- Parses the rest of a mixed content model behind `(#PCDATA`. The `*` behind it is required as
soon as it names an element. -/
def mixed (w : World) (fuel : Nat) : ParserM ContentSpec := do
  let names ← mixedNames w fuel []
  if names.isEmpty then
    if (← peek w) = .star then
      let _ ← next w
  else
    let _ ← expect w .star "`*` after a mixed content model"
  return .mixed names

/-- The particle that a group of items with a separator makes. -/
def groupOf (separator : Option Token) (items : List Particle) (occurs : Occurrence) : Particle :=
  if separator = some .pipe then .choice items occurs else .seq items occurs

mutual

/-- Parses a particle. -/
def particle (w : World) : Nat → ParserM Particle
  | 0 => throw .outOfFuel
  | fuel + 1 => do
    let lexeme ← next w
    match lexeme.token with
    | .name name => return .element name (← occurrence w)
    | .parenOpen => group w fuel
    | _ => unexpected lexeme "an element name or `(`"

/-- Parses the rest of a group behind its `(`. -/
def group (w : World) : Nat → ParserM Particle
  | 0 => throw .outOfFuel
  | fuel + 1 => do
    let first ← particle w fuel
    let (separator, items) ← groupItems w fuel none [first]
    return groupOf separator items (← occurrence w)

/-- Parses the rest of a group behind some of its items, up to its `)`. All separators of a group
are the same. -/
def groupItems (w : World) : Nat → Option Token → List Particle →
    ParserM (Option Token × List Particle)
  | 0, _, _ => throw .outOfFuel
  | fuel + 1, separator, items => do
    let lexeme ← next w
    if lexeme.token = .parenClose then return (separator, items)
    else if lexeme.token = .pipe ∨ lexeme.token = .comma then
      let first := separator.getD lexeme.token
      if first = lexeme.token then
        let item ← particle w fuel
        groupItems w fuel (some first) (items ++ [item])
      else unexpected lexeme (first.text ++ " or `)`")
    else unexpected lexeme "`,`, `|` or `)`"

end

/-- Parses the content of an element declaration. -/
def contentSpec (w : World) (fuel : Nat) : ParserM ContentSpec := do
  let lexeme ← next w
  match lexeme.token with
  | .name "EMPTY" => return .empty
  | .name "ANY" => return .any
  | .parenOpen =>
    if (← peek w) = .hash "PCDATA" then
      let _ ← next w
      mixed w fuel
    else return .children (← group w fuel)
  | _ => unexpected lexeme "`EMPTY`, `ANY` or `(`"

end Doctype.Parser
