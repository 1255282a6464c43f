import Doctype.Cursor.Basic
import Doctype.Token

/-! Scanning one token or reference from a text. -/
namespace Doctype

/-- What stands next in a text. -/
inductive Scanned
  | token (token : Token) (location : Location)
  /-- A reference to a parameter entity. -/
  | reference (name : String) (location : Location)
  | exhausted
deriving DecidableEq, Repr

namespace Cursor

/-- Fails with characters that form no token. -/
def malformed {α : Type} (location : Location) (detail : String) : CursorM α :=
  throw (.lexical location detail)

/-- Scans what follows a `%`: a name makes it a reference, anything else leaves it alone. -/
def scanPercent (location : Location) : CursorM Scanned := do
  if (← peek).any isNameStart then
    let name ← takeName
    if (← peek) = some ';' then
      let _ ← bump
      return .reference name location
    else
      malformed location ("expected `;` after parameter entity reference `%" ++ name ++ "`")
  else return .token .percent location

/-- Scans what follows a `&`. -/
def scanGeneralRef (location : Location) : CursorM Token := do
  let name ← takeName
  if name.isEmpty then malformed location "malformed entity reference"
  else if (← peek) = some ';' then
    let _ ← bump
    return .generalRef name
  else malformed location "malformed entity reference"

/-- Scans what follows a `#`. -/
def scanHash (location : Location) : CursorM Token := do
  let keyword ← takeName
  if keyword.isEmpty then malformed location "expected a keyword after `#`"
  else return .hash keyword

/-- Scans what follows an opening quote. -/
def scanLiteral (location : Location) (quote : Char) : CursorM Token := do
  match ← takeUntil [quote] with
  | some text => return .literal (.ofList text)
  | none => malformed location "unterminated literal"

/-- Scans what follows a `]`. -/
def scanSectionClose (location : Location) : CursorM Token := do
  if ← accept [']', '>'] then return .sectionClose else malformed location "unexpected `]`"

/-- Scans what follows a `<!--`. -/
def scanComment (location : Location) : CursorM Token := do
  match ← takeUntil ['-', '-', '>'] with
  | some text => return .comment (.ofList text)
  | none => malformed location "unterminated comment"

/-- Scans what follows a `<!` that opens a declaration. -/
def scanDeclaration (location : Location) : CursorM Token := do
  let keyword ← takeName
  match Keyword.ofText? keyword with
  | some keyword => return .decl keyword
  | none => malformed location ("unknown markup declaration `<!" ++ keyword ++ "`")

/-- Scans what follows a `<?`. -/
def scanInstruction (location : Location) : CursorM Token := do
  let target ← takeName
  if target.isEmpty then malformed location "expected a target after `<?`"
  else
    match ← takeUntil ['?', '>'] with
    | some data => return .instruction target (Text.trim (.ofList data))
    | none => malformed location "unterminated processing instruction"

/-- Scans what follows a `<`. -/
def scanMarkup (location : Location) : CursorM Token := do
  if ← accept ['!', '-', '-'] then scanComment location
  else if ← accept ['!', '['] then return .sectionOpen
  else
    match ← bump with
    | some '!' => scanDeclaration location
    | some '?' => scanInstruction location
    | _ => malformed location "unexpected `<`"

/-- Scans the token that a character begins. -/
def scanToken (location : Location) (c : Char) : CursorM Token :=
  match c with
  | '[' => pure .bracket
  | '>' => pure .close
  | '(' => pure .parenOpen
  | ')' => pure .parenClose
  | '|' => pure .pipe
  | ',' => pure .comma
  | '?' => pure .question
  | '*' => pure .star
  | '+' => pure .plus
  | '&' => scanGeneralRef location
  | '#' => scanHash location
  | '"' => scanLiteral location '"'
  | '\'' => scanLiteral location '\''
  | ']' => scanSectionClose location
  | '<' => scanMarkup location
  | c =>
    if isNameChar c then do
      let rest ← takeWhile isNameChar
      return .name (.ofList (c :: rest))
    else malformed location ("unexpected character `" ++ c.toString ++ "`")

/-- Scans the next token or reference behind blanks. -/
def scan : CursorM Scanned := do
  skipBlank
  let location := (← get).location
  match ← bump with
  | none => return .exhausted
  | some '%' => scanPercent location
  | some c => return .token (← scanToken location c) location

/-- An action that only ever takes characters. -/
def Shrinks {α : Type} (m : CursorM α) : Prop :=
  ∀ s a s', m s = .ok a s' → s'.remaining ≤ s.remaining

section

variable {α β : Type}

theorem shrinks_pure (a : α) : Shrinks (pure a) := by
  intro s a s' h
  cases h
  exact Nat.le_refl _

theorem shrinks_malformed (location : Location) (detail : String) :
    Shrinks (malformed (α := α) location detail) := by
  intro s a s' h
  cases h

theorem Shrinks.bind {m : CursorM α} {f : α → CursorM β} (hm : Shrinks m)
    (hf : ∀ a, Shrinks (f a)) : Shrinks (m >>= f) := by
  intro s b s' h
  simp only [Bind.bind, EStateM.bind] at h
  split at h
  · rename_i a t ht
    exact Nat.le_trans (hf a t b s' h) (hm s a t ht)
  · cases h

theorem Shrinks.ite {p : Prop} [Decidable p] {m n : CursorM α} (hm : Shrinks m) (hn : Shrinks n) :
    Shrinks (if p then m else n) := by
  split <;> assumption

end

theorem shrinks_peek : Shrinks peek := fun _ _ _ h =>
  Nat.le_of_eq (remaining_peekAt h).1

theorem shrinks_takeIf (p : Char → Bool) : Shrinks (takeIf p) := by
  intro s o s' h
  have := remaining_takeIf h
  omega

theorem shrinks_accept (cs : List Char) : Shrinks (accept cs) := fun _ _ _ h =>
  (remaining_accept h).1

theorem shrinks_takeWhile (p : Char → Bool) : Shrinks (takeWhile p) := by
  intro s
  fun_induction takeWhile p s with
  | case1 => intro _ _ h; cases h
  | case2 s t ht => intro a s' h; cases h; exact shrinks_takeIf p _ _ _ ht
  | case3 s c t ht e u hu ih => intro _ _ h; cases h
  | case4 s c t ht cs u hu ih =>
    intro a s' h
    cases h
    exact Nat.le_trans (ih _ _ hu) (shrinks_takeIf p _ _ _ ht)

theorem shrinks_takeUntil (terminator : List Char) : Shrinks (takeUntil terminator) := by
  intro s
  fun_induction takeUntil terminator s with
  | case1 => intro _ _ h; cases h
  | case2 s t ht => intro a s' h; cases h; exact shrinks_accept _ _ _ _ ht
  | case3 => intro _ _ h; cases h
  | case4 s t ht u hu =>
    intro a s' h
    cases h
    exact Nat.le_trans (shrinks_takeIf _ _ _ _ hu) (shrinks_accept _ _ _ _ ht)
  | case5 => intro _ _ h; cases h
  | case6 s t ht c u hu v hv ih =>
    intro a s' h
    cases h
    exact Nat.le_trans (ih _ _ hv)
      (Nat.le_trans (shrinks_takeIf _ _ _ _ hu) (shrinks_accept _ _ _ _ ht))
  | case7 s t ht c u hu cs v hv ih =>
    intro a s' h
    cases h
    exact Nat.le_trans (ih _ _ hv)
      (Nat.le_trans (shrinks_takeIf _ _ _ _ hu) (shrinks_accept _ _ _ _ ht))

theorem shrinks_takeName : Shrinks takeName :=
  (shrinks_takeWhile _).bind fun _ => shrinks_pure _

theorem shrinks_scanPercent (location : Location) : Shrinks (scanPercent location) :=
  shrinks_peek.bind fun _ => .ite
    (shrinks_takeName.bind fun _ => shrinks_peek.bind fun _ =>
      .ite ((shrinks_takeIf _).bind fun _ => shrinks_pure _) (shrinks_malformed _ _))
    (shrinks_pure _)

theorem shrinks_scanGeneralRef (location : Location) : Shrinks (scanGeneralRef location) :=
  shrinks_takeName.bind fun _ => .ite (shrinks_malformed _ _) <| shrinks_peek.bind fun _ =>
    .ite ((shrinks_takeIf _).bind fun _ => shrinks_pure _) (shrinks_malformed _ _)

theorem shrinks_scanHash (location : Location) : Shrinks (scanHash location) :=
  shrinks_takeName.bind fun _ => .ite (shrinks_malformed _ _) (shrinks_pure _)

theorem shrinks_scanLiteral (location : Location) (quote : Char) :
    Shrinks (scanLiteral location quote) :=
  (shrinks_takeUntil _).bind fun
    | some _ => shrinks_pure _
    | none => shrinks_malformed _ _

theorem shrinks_scanSectionClose (location : Location) : Shrinks (scanSectionClose location) :=
  (shrinks_accept _).bind fun _ => .ite (shrinks_pure _) (shrinks_malformed _ _)

theorem shrinks_scanComment (location : Location) : Shrinks (scanComment location) :=
  (shrinks_takeUntil _).bind fun
    | some _ => shrinks_pure _
    | none => shrinks_malformed _ _

theorem shrinks_scanDeclaration (location : Location) : Shrinks (scanDeclaration location) :=
  shrinks_takeName.bind fun keyword => by
    split
    · exact shrinks_pure _
    · exact shrinks_malformed _ _

theorem shrinks_scanInstruction (location : Location) : Shrinks (scanInstruction location) :=
  shrinks_takeName.bind fun _ => .ite (shrinks_malformed _ _) <| (shrinks_takeUntil _).bind fun
    | some _ => shrinks_pure _
    | none => shrinks_malformed _ _

theorem shrinks_scanMarkup (location : Location) : Shrinks (scanMarkup location) :=
  (shrinks_accept _).bind fun _ => .ite (shrinks_scanComment _) <|
    (shrinks_accept _).bind fun _ => .ite (shrinks_pure _) <| (shrinks_takeIf _).bind fun o => by
      split
      · exact shrinks_scanDeclaration _
      · exact shrinks_scanInstruction _
      · exact shrinks_malformed _ _

theorem shrinks_scanToken (location : Location) (c : Char) : Shrinks (scanToken location c) := by
  unfold scanToken
  split
  case h_10 => exact shrinks_scanGeneralRef _
  case h_11 => exact shrinks_scanHash _
  case h_12 => exact shrinks_scanLiteral _ _
  case h_13 => exact shrinks_scanLiteral _ _
  case h_14 => exact shrinks_scanSectionClose _
  case h_15 => exact shrinks_scanMarkup _
  case h_16 =>
    exact .ite ((shrinks_takeWhile _).bind fun _ => shrinks_pure _) (shrinks_malformed _ _)
  all_goals exact shrinks_pure _

/-- Scanning takes characters, and at least one unless the text is exhausted. -/
theorem remaining_scan {s s' : Cursor} {r : Scanned} (h : scan s = .ok r s') :
    s'.remaining ≤ s.remaining ∧ (r ≠ .exhausted → s'.remaining < s.remaining) := by
  simp only [scan, bind, EStateM.bind] at h
  split at h
  · rename_i t ht
    have hskip : Shrinks skipBlank := (shrinks_takeWhile _).bind fun _ => shrinks_pure _
    have hs := hskip _ _ _ ht
    simp only [get_eq_ok] at h
    split at h
    · rename_i o u hu
      have hb := remaining_takeIf hu
      split at h
      · cases h
        refine ⟨by omega, fun hr => absurd rfl hr⟩
      · have := shrinks_scanPercent _ _ _ _ h
        simp only [Option.toList_some, List.length_singleton] at hb
        exact ⟨by omega, fun _ => by omega⟩
      · rename_i c _
        have := ((shrinks_scanToken _ c).bind fun _ => shrinks_pure _) _ _ _ h
        simp only [Option.toList_some, List.length_singleton] at hb
        exact ⟨by omega, fun _ => by omega⟩
    · cases h
  · cases h

end Cursor

end Doctype
