import Doctype.Text.Combining
import Doctype.Text.Composite

/-! The composed normal form: marks in the order of their classes, and characters joined wherever
one character stands for two. -/
namespace Doctype.Text

/-- No character comes apart more often than this. -/
def nestingLimit : Nat := 4

/-- Takes a character apart up to `depth` times. -/
def takeApart : Nat → Char → List Char
  | 0, c => [c]
  | depth + 1, c =>
    match parts? c with
    | some (first, second) => takeApart depth first ++ [second]
    | none => [c]

/-- Puts a mark before ordered marks, behind those of lower classes. -/
def placeMark (c : Char) : List Char → List Char
  | [] => [c]
  | d :: rest =>
    if 0 < combiningClass d && combiningClass d < combiningClass c then d :: placeMark c rest
    else c :: d :: rest

theorem placeMark_perm (c : Char) (cs : List Char) : (placeMark c cs).Perm (c :: cs) := by
  induction cs with
  | nil => rfl
  | cons d rest ih =>
    unfold placeMark
    split
    · exact (ih.cons d).trans (.swap c d rest)
    · rfl

/-- Orders each run of marks by class; marks of one class keep their order. -/
def orderMarks (cs : List Char) : List Char :=
  cs.foldr placeMark []

theorem orderMarks_perm (cs : List Char) : (orderMarks cs).Perm cs := by
  induction cs with
  | nil => rfl
  | cons c rest ih => exact (placeMark_perm c _).trans (ih.cons c)

/-- Joins what follows a character with it, where no mark of the same or a higher class stands
between. `marks` are the marks that did not join. -/
def joinFrom (start : Char) (marks : List Char) : List Char → List Char
  | [] => start :: marks
  | c :: rest =>
    let rank := combiningClass c
    let free := marks.getLast?.all (combiningClass · < rank)
    match if free then combine? start c else none with
    | some whole => joinFrom whole marks rest
    | none =>
      if rank == 0 then start :: marks ++ joinFrom c [] rest
      else joinFrom start (marks ++ [c]) rest

/-- Joins characters from the left. -/
def joinAll : List Char → List Char
  | [] => []
  | c :: rest => joinFrom c [] rest

/-- The composed normal form of a text. -/
def normalize (cs : List Char) : List Char :=
  joinAll (orderMarks (cs.flatMap (takeApart nestingLimit)))

end Doctype.Text
