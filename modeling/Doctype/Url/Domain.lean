import Doctype.Url.Domain.Label

/-! Domain names in ASCII. -/
namespace Doctype.Url.Domain

/-- ASCII characters that no domain holds. -/
def isForbidden (c : Char) : Bool :=
  c.toNat ≤ 0x20 || c.toNat == 0x7F ||
    ['#', '%', '/', ':', '<', '>', '?', '@', '[', '\\', ']', '^', '|'].contains c

/-- The ASCII form of a domain: plain characters, and Punycode in labels that go beyond ASCII. -/
def ascii? (cs : List Char) : Option (List Char) := do
  let plain := Text.normalize (← cs.mapM image?).flatten
  let labels := Text.fields (· == '.') plain
  if plain.any isForbidden || !labelsFit (← labels.mapM readable?) then none
  else return Text.joinFields '.' (← labels.mapM written?)

end Doctype.Url.Domain
