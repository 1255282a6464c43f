import Doctype.Error
import Doctype.Text.Utf8

/-! Content that is read line by line, and reads that fail. -/
namespace Doctype

/-- What successive reads of a line give. -/
inductive Reader
  /-- Nothing is left. -/
  | done
  /-- The next line, with its line feed if it has one. -/
  | line (text : List Char) (rest : Reader)
  /-- The next line cannot be read and is lost. -/
  | lost (cause : IoError) (rest : Reader)
  /-- No read ever succeeds. -/
  | stuck (cause : IoError)
deriving DecidableEq, Repr

namespace Reader

/-- Cuts behind each line feed. -/
def lines {α : Type} (isFeed : α → Bool) : List α → List (List α)
  | [] => []
  | a :: rest =>
    if isFeed a then [a] :: lines isFeed rest
    else
      match lines isFeed rest with
      | [] => [[a]]
      | first :: others => (a :: first) :: others

/-- A reader over lines of which some cannot be read. -/
def ofLines : List (Except IoError (List Char)) → Reader
  | [] => done
  | .ok text :: rest => line text (ofLines rest)
  | .error e :: rest => lost e (ofLines rest)

/-- A reader over a text. -/
def ofText (s : String) : Reader :=
  ofLines ((lines (· == '\n') s.toList).map .ok)

/-- A reader over bytes; each line has to be valid UTF-8 for itself. -/
def ofBytes (bytes : List UInt8) : Reader :=
  ofLines <| (lines (· == 0x0A) bytes).map fun bytes =>
    (Text.utf8Chars? bytes).elim (.error .invalidText) .ok

/-- The number of characters in the lines that can be read. -/
def size : Reader → Nat
  | done => 0
  | line text rest => text.length + rest.size
  | lost _ rest => rest.size
  | stuck _ => 0

/-- Reads everything that is left. -/
def readAll : Reader → Except IoError (List Char)
  | done => .ok []
  | line text rest => (text ++ ·) <$> rest.readAll
  | lost e _ => .error e
  | stuck e => .error e

/-- Reads lines behind the pending characters until `n` characters are pending or nothing is
left. Gives the outcome, the pending characters and the rest. -/
def fill (n : Nat) (pending : List Char) : Reader → Except IoError Unit × List Char × Reader
  | done => (.ok (), pending, done)
  | line text rest =>
    if n ≤ (pending.take n).length then (.ok (), pending, line text rest)
    else rest.fill n (pending ++ text)
  | lost e rest =>
    if n ≤ (pending.take n).length then (.ok (), pending, lost e rest)
    else (.error e, pending, rest)
  | stuck e =>
    if n ≤ (pending.take n).length then (.ok (), pending, stuck e)
    else (.error e, pending, stuck e)

/-- Filling keeps the pending characters in front and loses no readable character. -/
theorem fill_keeps (n : Nat) (pending : List Char) (r : Reader) :
    pending <+: (r.fill n pending).2.1 ∧
      (r.fill n pending).2.1.length + (r.fill n pending).2.2.size = pending.length + r.size := by
  induction r generalizing pending with
  | done => simp [fill]
  | line text rest ih =>
    simp only [fill]
    split
    · simp
    · obtain ⟨h, hs⟩ := ih (pending ++ text)
      refine ⟨(List.prefix_append _ _).trans h, ?_⟩
      simp only [size, List.length_append] at *
      omega
  | lost e rest _ =>
    simp only [fill]
    split <;> simp [size]
  | stuck e =>
    simp only [fill]
    split <;> simp

end Reader

end Doctype
