/-! Reading a URL as it is typed: tabs and line breaks may stand anywhere and count for nothing. -/
namespace Doctype.Url

/-- Tabs and line breaks. -/
def isBreak (c : Char) : Bool :=
  c == '\t' || c == '\n' || c == '\r'

/-- The characters that count. -/
def unbroken (cs : List Char) : List Char :=
  cs.filter (!isBreak ·)

/-- The first character that counts, and what follows it. -/
def next? : List Char → Option (Char × List Char)
  | [] => none
  | c :: rest => if isBreak c then next? rest else some (c, rest)

theorem unbroken_of_next? {cs rest : List Char} {c : Char} (h : next? cs = some (c, rest)) :
    unbroken cs = c :: unbroken rest := by
  induction cs with
  | nil => simp [next?] at h
  | cons d cs ih =>
    by_cases hd : isBreak d
    · simp only [next?, hd, if_true] at h
      simp [unbroken, hd] at ih ⊢
      exact ih h
    · simp only [next?, hd, Bool.false_eq_true, if_false, Option.some.injEq, Prod.mk.injEq] at h
      simp [unbroken, h.1 ▸ hd, h.1, h.2]

/-- Drops controls and spaces at both ends. -/
def trimmed (cs : List Char) : List Char :=
  let outer (c : Char) : Bool := c.toNat ≤ 0x20
  ((cs.dropWhile outer).reverse.dropWhile outer).reverse

end Doctype.Url
