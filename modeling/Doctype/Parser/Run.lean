import Doctype.Parser.Subset

/-! Parsing texts, files and open sources. -/
namespace Doctype

/-- The result of a parse and the journal of what happened on the way. -/
abbrev Parsed := Except Halt DocumentType × Journal

/-- Parses the sources of a stack. -/
def parseSources (w : World) (fuel : Nat) (options : Options) (stack : SourceStack) : Parsed :=
  let based : EStateM.Result Error SourceStack Unit := match options.base with
    | none => .ok () stack
    | some path => (stack.note (.sought path)).setBase w.files path
  match based with
  | .error e stack => (.error (.error e), stack.journal)
  | .ok _ stack =>
    match Parser.parse w fuel { stack, keepInstructions := options.keepInstructions } with
    | .ok model p => (.ok model, p.stack.journal)
    | .error halt p => (.error halt, p.stack.journal)

/-- Parses a text, whose name stands in locations. Relative identifiers in it refer to the current
directory. -/
def parseText (w : World) (fuel : Nat) (options : Options) (name text : String) : Parsed :=
  parseSources w fuel options (.ofText name text ".")

/-- Parses a file. Relative identifiers in it refer to its directory. -/
def parseFile (w : World) (fuel : Nat) (options : Options) (path : Path) : Parsed :=
  let before : Journal := [.sought path, .parsing path]
  match SourceStack.openFile w.files path with
  | .error e => (.error (.error e), before)
  | .ok stack => parseSources w fuel options { stack with journal := stack.journal ++ before }

end Doctype
