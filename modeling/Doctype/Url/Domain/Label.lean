import Doctype.Text.Combining
import Doctype.Text.Direction
import Doctype.Text.Joining
import Doctype.Text.Normal
import Doctype.Url.Domain.Mapping
import Doctype.Url.Punycode

/-! The labels between the dots of a domain, as they are read. -/
namespace Doctype.Url.Domain

/-- What a label in Punycode begins with. -/
def marker : List Char := "xn--".toList

/-- Longer Punycode forms are not read. -/
def encodedLimit : Nat := 2000

/-- Longer labels beyond ASCII are not written. -/
def labelLimit : Nat := 1000

/-- Whether all characters are ASCII. -/
def isAscii (label : List Char) : Bool :=
  label.all (·.toNat < 0x80)

/-- What follows the marker of a label in Punycode. -/
def encoded? (label : List Char) : Option (List Char) :=
  if marker.isPrefixOf label then some (label.drop marker.length) else none

/-- A label as it is read. One in Punycode has to stand for a label that has no other form. -/
def readable? (label : List Char) : Option (List Char) :=
  match encoded? label with
  | none => some label
  | some tail =>
    if encodedLimit < tail.length || !isAscii tail then none
    else (Punycode.decode? tail).filter fun text =>
      !isAscii text && text.all isPlain && Text.normalize text == text && (encoded? text).isNone

/-- A label as it is written: in Punycode where it goes beyond ASCII. -/
def written? (label : List Char) : Option (List Char) :=
  if isAscii label then some label
  else if labelLimit < label.length then none
  else some (marker ++ Punycode.encode label)

/-- A mark that takes the vowel from a consonant and lets it join the next one. -/
def isVirama (c : Char) : Bool :=
  Text.combiningClass c == 9

/-- Whether the next letter, across marks, joins as asked. -/
def meets (joins : Text.Joining → Bool) (cs : List Char) : Bool :=
  ((cs.map Text.joining).dropWhile (· == .through)).head?.any joins

/-- Whether each joiner stands where it changes how letters are drawn: behind a virama, or, if it
keeps letters apart, between two that would join. `before` is the text before, backwards. -/
def joinersFit (before : List Char) : List Char → Bool
  | [] => true
  | c :: rest =>
    let parts := meets Text.Joining.joinsBehind before && meets Text.Joining.joinsBefore rest
    let fits := !isJoiner c || before.head?.any isVirama || (c == '\u200c' && parts)
    fits && joinersFit (c :: before) rest

/-- Whether a label can be told apart from its neighbours in a line with text that runs from right
to left: it begins with a letter, keeps to one direction, and ends in a letter or a number. -/
def directionsFit (label : List Char) : Bool :=
  let all := label.map Text.direction
  let last := (all.reverse.dropWhile (· == .mark)).head?
  match all with
  | [] => true
  | .leftToRight :: _ =>
    all.all (fun d => d != .rightToLeft && d != .arabicNumber) &&
      last.any fun d => d == .leftToRight || d == .number
  | .rightToLeft :: _ =>
    all.all (· != .leftToRight) && !(all.contains .number && all.contains .arabicNumber) &&
      last.any fun d => d == .rightToLeft || d == .number || d == .arabicNumber
  | _ => false

/-- Whether a label holds text that runs from right to left. -/
def turnsLine (label : List Char) : Bool :=
  label.any fun c =>
    let d := Text.direction c
    d == .rightToLeft || d == .arabicNumber

/-- Whether labels can stand together in a domain. -/
def labelsFit (labels : List (List Char)) : Bool :=
  labels.all (fun label => !label.head?.any Text.isMark && joinersFit [] label) &&
    (!labels.any turnsLine || labels.all directionsFit)

end Doctype.Url.Domain
