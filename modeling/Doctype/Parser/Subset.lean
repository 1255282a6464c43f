import Doctype.Parser.Declaration

/-! Parsing a whole DTD: declarations, conditional sections and processing instructions. -/
namespace Doctype.Parser

/-- Reads the keyword and the `[` of a conditional section behind its `<![`. -/
def conditional (w : World) (opener : Lexeme) : ParserM Item := do
  let (keyword, location) ← expectName w "`INCLUDE` or `IGNORE`"
  let bracket ← expect w .bracket "`[`"
  if bracket.source ≠ opener.source then
    unexpected bracket ("`[` in the same entity as the `<![` at " ++ opener.location.text)
  else if keyword = "INCLUDE" then return .included opener
  else if keyword = "IGNORE" then return .ignored opener
  else fail (.grammar location ("name `" ++ keyword ++ "`") "`INCLUDE` or `IGNORE`")

/-- Reads the rest of the item that a lexeme begins. -/
def item (w : World) (fuel : Nat) (lexeme : Lexeme) : ParserM Item :=
  match lexeme.token with
  | .decl keyword => declaration w fuel keyword lexeme
  | .sectionOpen => conditional w lexeme
  | .sectionClose => return .sectionClose lexeme
  | .comment _ => return .comment
  | .instruction target data => return .instruction target data
  | _ => unexpected lexeme "a markup declaration"

/-- At the end of input no section may be open. -/
def finish (lexeme : Lexeme) : ParserM Unit := do
  match (← get).sections with
  | [] => return ()
  | (_, location) :: _ =>
    unexpected lexeme ("`]]>` closing the section opened at " ++ location.text)

/-- Reads items up to the end of input; each takes effect before the next is read. -/
def subset (w : World) : Nat → ParserM Unit
  | 0 => throw .outOfFuel
  | fuel + 1 => do
    let lexeme ← next w
    if lexeme.token = .endOfInput then finish lexeme
    else
      let read ← item w fuel lexeme
      read.apply
      subset w fuel

/-- Parses everything that the open sources hold. -/
def parse (w : World) (fuel : Nat) : ParserM DocumentType := do
  subset w fuel
  let p ← get
  note (.parsed p.model.elements.length p.model.attlists.length p.model.entities.length
    p.entities.size)
  return { p.model with parameters := p.entities }

end Doctype.Parser
