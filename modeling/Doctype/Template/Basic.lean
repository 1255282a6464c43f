import Doctype.Bindings
import Doctype.Error
import Doctype.Text.Blank

/-! Text templates. A slot such as `{name}` stands for the value of a variable, and a brace that is
meant literally is doubled. -/
namespace Doctype

/-- A piece of a template. -/
inductive Piece
  /-- A character that stands for itself. -/
  | char (c : Char)
  /-- A slot with what stands between its braces. -/
  | slot (label : List Char)
deriving DecidableEq, Repr

/-- How the reading of a template stops short. -/
inductive TemplateFault
  /-- A slot has no closing brace. -/
  | openSlot
  /-- A closing brace closes nothing. -/
  | strayBrace
deriving DecidableEq, Repr

namespace Piece

/-- A piece as it is written in a template. -/
def encode : Piece → List Char
  | char c => if c = '\x7b' ∨ c = '\x7d' then [c, c] else [c]
  | slot label => '\x7b' :: label ++ ['\x7d']

/-- A label closes with its slot, and it does not turn the opening brace into a doubled one. -/
def Writable : Piece → Prop
  | char _ => True
  | slot label => '\x7d' ∉ label ∧ label.head? ≠ some '\x7b'

/-- Reads the pieces of a template up to its end or to the first fault. -/
def read : List Char → List Piece × Option TemplateFault
  | [] => ([], none)
  | c :: rest =>
    if c = '\x7b' ∨ c = '\x7d' then
      match rest with
      | [] => ([], some (if c = '\x7b' then .openSlot else .strayBrace))
      | d :: after =>
        if d = c then
          let (pieces, fault) := read after
          (char c :: pieces, fault)
        else if c = '\x7d' then ([], some .strayBrace)
        else
          match _h : (d :: after).dropWhile (· != '\x7d') with
          | [] => ([], some .openSlot)
          | _ :: after' =>
            let (pieces, fault) := read after'
            (slot ((d :: after).takeWhile (· != '\x7d')) :: pieces, fault)
    else
      let (pieces, fault) := read rest
      (char c :: pieces, fault)
termination_by cs => cs.length
decreasing_by
  · simp only [List.length_cons]; omega
  · have := (List.dropWhile_sublist (fun x : Char => x != '\x7d') (l := d :: after)).length_le
    simp only [_h, List.length_cons] at this ⊢
    omega
  · simp

/-- The variable that a label names. -/
def variableOf (label : List Char) : String :=
  Text.trim (.ofList label)

/-- Puts values into the slots. Fails with the first variable that has none. -/
def substitute (vars : Bindings String) : List Piece → Except String (List Char)
  | [] => .ok []
  | char c :: pieces => (c :: ·) <$> substitute vars pieces
  | slot label :: pieces =>
    match vars.get? (variableOf label) with
    | none => .error (variableOf label)
    | some value => (value.toList ++ ·) <$> substitute vars pieces

/-- A text as pieces. -/
def ofText (s : String) : List Piece :=
  s.toList.map char

/-- A slot for a variable. -/
def ofVariable (name : String) : List Piece :=
  [slot name.toList]

end Piece

/-- A named template. -/
structure Template where
  name : String
  text : String
deriving DecidableEq, Repr

namespace Template

/-- The template that consists of certain pieces. -/
def ofPieces (name : String) (pieces : List Piece) : Template :=
  ⟨name, .ofList (pieces.flatMap Piece.encode)⟩

/-- An error in a template. -/
def fail {α : Type} (t : Template) (what : String) : Except Error α :=
  .error (.template (what ++ " in template `" ++ t.name ++ "`"))

/-- Fills the slots of a template. Its first defect from the left is the error. -/
def render (t : Template) (vars : Bindings String) : Except Error String :=
  let (pieces, fault) := Piece.read t.text.toList
  match Piece.substitute vars pieces, fault with
  | .error name, _ => t.fail ("unknown variable `" ++ name ++ "`")
  | .ok _, some .openSlot => t.fail "unterminated placeholder"
  | .ok _, some .strayBrace => t.fail "unmatched `\x7d`"
  | .ok text, none => .ok (.ofList text)

end Template

end Doctype
