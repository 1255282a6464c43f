/-! The Punycode form of labels with characters beyond ASCII. -/
namespace Doctype.Url.Punycode

/-- Digits are `a` to `z` and then `0` to `9`. -/
def digit (d : Nat) : Char :=
  .ofNat (if d < 26 then 0x61 + d else 0x16 + d)

/-- Where the digits of a number stop, by position and bias. -/
def threshold (k bias : Nat) : Nat :=
  if k ≤ bias then 1 else min 26 (k - bias)

theorem threshold_pos (k bias : Nat) : 1 ≤ threshold k bias := by
  unfold threshold
  split <;> omega

/-- A number as digits of variable base. -/
def digits (bias k q : Nat) : List Char :=
  let t := threshold k bias
  if q < t then [digit q]
  else digit (t + (q - t) % (36 - t)) :: digits bias (k + 36) ((q - t) / (36 - t))
termination_by q
decreasing_by
  have := threshold_pos k bias
  have := Nat.div_le_self (q - threshold k bias) (36 - threshold k bias)
  omega

/-- Shrinks a delta into the range in which the bias is read off. -/
def settle (delta k : Nat) : Nat × Nat :=
  if 455 < delta then settle (delta / 35) (k + 36) else (delta, k)
termination_by delta

/-- The bias after a delta has been written as the `count`-th character. -/
def adapt (delta count : Nat) (first : Bool) : Nat :=
  let delta := if first then delta / 700 else delta / 2
  let (delta, k) := settle (delta + delta / count) 0
  k + 36 * delta / (delta + 38)

/-- The progress of an encoding: how many characters are written, the pending delta, the bias. -/
structure Progress where
  out : List Char
  done : Nat
  delta : Nat
  bias : Nat

/-- Visits a character of the label on the way to code point `n`. -/
def Progress.visit (basic n : Nat) (p : Progress) (c : Char) : Progress :=
  if c.toNat < n then { p with delta := p.delta + 1 }
  else if c.toNat = n then
    { out := p.out ++ digits p.bias 36 p.delta, done := p.done + 1, delta := 0,
      bias := adapt p.delta (p.done + 1) (p.done == basic) }
  else p

/-- Writes the characters beyond ASCII, lowest code point first. -/
def extend (label : List Char) (basic : Nat) : List Nat → Nat → Progress → Progress
  | [], _, p => p
  | n :: rest, last, p =>
    let p := label.foldl (Progress.visit basic n)
      { p with delta := p.delta + (n - last) * (p.done + 1) }
    extend label basic rest (n + 1) { p with delta := p.delta + 1 }

/-- The Punycode form of a label, without its marker. -/
def encode (label : List Char) : List Char :=
  let basic := label.filter (·.toNat < 0x80)
  let others := ((label.filter (0x80 ≤ ·.toNat)).map Char.toNat).eraseDups.mergeSort
  let start := if basic.isEmpty then [] else basic ++ ['-']
  start ++ (extend label basic.length others 0x80 ⟨[], basic.length, 0, 72⟩).out

/-- The value of a digit in either case. -/
def digitValue? (c : Char) : Option Nat :=
  if c.isDigit then some (c.toNat - 0x16)
  else if c.isAlpha then some (c.toLower.toNat - 0x61)
  else none

/-- Reads digits of variable base up to the end of their number. -/
def readDigits? (bias k weight : Nat) : List Char → Option (Nat × List Char)
  | [] => none
  | c :: rest =>
    match digitValue? c with
    | none => none
    | some d =>
      let t := threshold k bias
      if d < t then some (d * weight, rest)
      else (readDigits? bias (k + 36) (weight * (36 - t)) rest).map fun r => (d * weight + r.1, r.2)

theorem length_of_readDigits? {bias k weight n : Nat} {cs rest : List Char}
    (h : readDigits? bias k weight cs = some (n, rest)) : rest.length < cs.length := by
  induction cs generalizing k weight n with
  | nil => simp [readDigits?] at h
  | cons c cs ih =>
    unfold readDigits? at h
    split at h
    · simp at h
    · dsimp only at h
      split at h
      · simp only [Option.some.injEq, Prod.mk.injEq] at h
        simp [← h.2]
      · obtain ⟨⟨m, after⟩, hr, he⟩ := Option.map_eq_some_iff.1 h
        simp only [Prod.mk.injEq] at he
        obtain ⟨_, rfl⟩ := he
        exact Nat.lt_succ_of_lt (ih hr)

/-- Puts the characters that digits describe into a text. Each has a code point no lower than the
one before it, and goes behind that one where the code points are equal. -/
def insertAll? (out : List Char) (code place bias : Nat) (cs : List Char) : Option (List Char) :=
  if cs.isEmpty then some out
  else
    match _h : readDigits? bias 36 1 cs with
    | none => none
    | some (delta, rest) =>
      let count := out.length + 1
      let next := code + (place + delta) / count
      let spot := (place + delta) % count
      if next.isValidChar then
        insertAll? (out.insertIdx spot (.ofNat next)) next (spot + 1)
          (adapt delta count (place == 0)) rest
      else none
termination_by cs.length
decreasing_by exact length_of_readDigits? _h

/-- The label of a Punycode form without its marker. -/
def decode? (cs : List Char) : Option (List Char) :=
  let tail := (cs.reverse.takeWhile (· != '-')).reverse
  let basic := cs.take (cs.length - tail.length - 1)
  insertAll? basic 0x80 0 72 (if basic.isEmpty then cs else tail)

end Doctype.Url.Punycode
