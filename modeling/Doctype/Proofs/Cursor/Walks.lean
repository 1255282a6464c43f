import Doctype.Proofs.Cursor.Lexing

/-! Whatever is done to a cursor, lines are read and characters are taken one by one, until the end
or an error. -/
namespace Doctype.Cursor

open EStateM (Result)

/-- Lines that are read and characters that are taken on the way from a cursor to another one, with
the error that ends the way, if there is one. -/
inductive Walk : Cursor → Option Error → Cursor → Prop
  | done (s : Cursor) : Walk s none s
  | filled {n : Nat} {s t u : Cursor} {o : Option Error} :
      s.fill n = .ok () t → Walk t o u → Walk s o u
  | unread {n : Nat} {e : Error} {s t : Cursor} : s.fill n = .error e t → Walk s (some e) t
  | taken {c : Char} {rest : List Char} {s u : Cursor} {o : Option Error} : s.pending = c :: rest →
      Walk { s with pending := rest, position := s.position.step c } o u → Walk s o u
  | malformed (l : Location) (detail : String) (s : Cursor) : Walk s (some (.lexical l detail)) s

/-- The error of a result, and the cursor that is left. -/
def outcome {α : Type} : Result Error Cursor α → Option Error × Cursor
  | .ok _ s => (none, s)
  | .error e s => (some e, s)

/-- An action that reads lines and takes characters. -/
def Walks {α : Type} (m : CursorM α) : Prop :=
  ∀ s, Walk s (outcome (m s)).1 (outcome (m s)).2

variable {α β : Type} {s t u : Cursor} {o : Option Error}

theorem Walk.trans (h : Walk s none t) (h' : Walk t o u) : Walk s o u := by
  generalize ho : none = o' at h
  induction h with
  | done => exact h'
  | filled hf _ ih => exact .filled hf (ih h' ho)
  | unread => cases ho
  | taken hp _ ih => exact .taken hp (ih h' ho)
  | malformed => cases ho

theorem Walks.ok {m : CursorM α} {a : α} (h : Walks m) (hm : m s = .ok a t) : Walk s none t := by
  have hw := h s
  rw [hm] at hw
  exact hw

theorem Walks.error {m : CursorM α} {e : Error} (h : Walks m) (hm : m s = .error e t) :
    Walk s (some e) t := by
  have hw := h s
  rw [hm] at hw
  exact hw

theorem walks_pure (a : α) : Walks (pure a) :=
  fun s => .done s

theorem walks_malformed (l : Location) (detail : String) : Walks (malformed (α := α) l detail) :=
  fun s => .malformed l detail s

theorem Walks.bind {m : CursorM α} {f : α → CursorM β} (hm : Walks m) (hf : ∀ a, Walks (f a)) :
    Walks (m >>= f) := by
  intro s
  have hw := hm s
  simp only [Bind.bind, EStateM.bind]
  generalize m s = r at hw
  cases r with
  | ok a t => exact Walk.trans hw (hf a t)
  | error e t => exact hw

theorem Walks.ite {c : Prop} [Decidable c] {m n : CursorM α} (hm : Walks m) (hn : Walks n) :
    Walks (if c then m else n) := by
  split
  · exact hm
  · exact hn

theorem walks_fill (n : Nat) : Walks (fill n) := by
  intro s
  cases hf : s.fill n with
  | ok _ t => exact .filled hf (.done t)
  | error e t => exact .unread hf

theorem walks_peekAt (i : Nat) : Walks (peekAt i) := by
  refine (walks_fill _).bind fun _ => ?_
  exact fun s => .done s

theorem walks_peek : Walks peek :=
  walks_peekAt 0

theorem walks_takeIf (p : Char → Bool) : Walks (takeIf p) := by
  intro s
  unfold takeIf
  cases hf : s.fill 1 with
  | error e t => exact .unread hf
  | ok _ t =>
    refine .filled hf ?_
    cases hp : t.pending with
    | nil =>
      simp only [hp]
      exact .done t
    | cons c rest =>
      cases hc : p c
      · simp only [hp, hc]
        exact .done t
      · simp only [hp, hc, if_true]
        exact .taken hp (.done _)

theorem walks_bump : Walks bump :=
  walks_takeIf _

theorem walks_advance (n : Nat) : Walks (advance n) := by
  induction n with
  | zero => exact walks_pure ()
  | succ n ih => exact walks_bump.bind fun _ => ih

theorem walks_matchesAt (cs : List Char) (i : Nat) : Walks (matchesAt i cs) := by
  induction cs generalizing i with
  | nil => exact walks_pure true
  | cons c cs ih => exact (walks_peekAt i).bind fun _ => .ite (ih _) (walks_pure false)

theorem walks_accept (cs : List Char) : Walks (accept cs) := by
  refine (walks_matchesAt cs 0).bind fun _ => .ite ?_ (walks_pure false)
  exact (walks_advance _).bind fun _ => walks_pure true

theorem walks_takeWhile (p : Char → Bool) : Walks (takeWhile p) := by
  intro s
  fun_induction takeWhile p s with
  | case1 s e t ht => exact (walks_takeIf p).error ht
  | case2 s t ht => exact (walks_takeIf p).ok ht
  | case3 s c t ht e u hu ih =>
    rw [hu] at ih
    exact ((walks_takeIf p).ok ht).trans ih
  | case4 s c t ht cs u hu ih =>
    rw [hu] at ih
    exact ((walks_takeIf p).ok ht).trans ih

theorem walks_skipBlank : Walks skipBlank :=
  (walks_takeWhile _).bind fun _ => walks_pure ()

theorem walks_takeName : Walks takeName :=
  (walks_takeWhile _).bind fun _ => walks_pure _

theorem walks_takeUntil (terminator : List Char) : Walks (takeUntil terminator) := by
  intro s
  fun_induction takeUntil terminator s with
  | case1 s e t ht => exact (walks_accept _).error ht
  | case2 s t ht => exact (walks_accept _).ok ht
  | case3 s t ht e u hu => exact ((walks_accept _).ok ht).trans ((walks_takeIf _).error hu)
  | case4 s t ht u hu => exact ((walks_accept _).ok ht).trans ((walks_takeIf _).ok hu)
  | case5 s t ht c u hu e v hv ih =>
    rw [hv] at ih
    exact ((walks_accept _).ok ht).trans (((walks_takeIf _).ok hu).trans ih)
  | case6 s t ht c u hu v hv ih =>
    rw [hv] at ih
    exact ((walks_accept _).ok ht).trans (((walks_takeIf _).ok hu).trans ih)
  | case7 s t ht c u hu cs v hv ih =>
    rw [hv] at ih
    exact ((walks_accept _).ok ht).trans (((walks_takeIf _).ok hu).trans ih)

theorem walks_skipSections (nesting : Nat) : Walks (skipSections nesting) := by
  intro s
  fun_induction skipSections nesting s with
  | case1 nesting s e t ht => exact (walks_accept _).error ht
  | case2 nesting s t ht ih => exact ((walks_accept _).ok ht).trans ih
  | case3 nesting s t ht e u hu => exact ((walks_accept _).ok ht).trans ((walks_accept _).error hu)
  | case4 s t ht u hu => exact ((walks_accept _).ok ht).trans ((walks_accept _).ok hu)
  | case5 nesting s t ht u hu _ ih =>
    exact ((walks_accept _).ok ht).trans (((walks_accept _).ok hu).trans ih)
  | case6 nesting s t ht u hu e v hv =>
    exact ((walks_accept _).ok ht).trans (((walks_accept _).ok hu).trans ((walks_takeIf _).error hv))
  | case7 nesting s t ht u hu v hv =>
    exact ((walks_accept _).ok ht).trans (((walks_accept _).ok hu).trans ((walks_takeIf _).ok hv))
  | case8 nesting s t ht u hu c v hv ih =>
    exact ((walks_accept _).ok ht).trans
      (((walks_accept _).ok hu).trans (((walks_takeIf _).ok hv).trans ih))

section Scanning

variable (l : Location)

theorem walks_scanPercent : Walks (scanPercent l) := by
  refine walks_peek.bind fun _ => .ite ?_ (walks_pure _)
  refine walks_takeName.bind fun _ => walks_peek.bind fun _ => .ite ?_ (walks_malformed _ _)
  exact walks_bump.bind fun _ => walks_pure _

theorem walks_scanGeneralRef : Walks (scanGeneralRef l) := by
  refine walks_takeName.bind fun _ => .ite (walks_malformed _ _) ?_
  refine walks_peek.bind fun _ => .ite ?_ (walks_malformed _ _)
  exact walks_bump.bind fun _ => walks_pure _

theorem walks_scanHash : Walks (scanHash l) :=
  walks_takeName.bind fun _ => .ite (walks_malformed _ _) (walks_pure _)

theorem walks_scanLiteral (quote : Char) : Walks (scanLiteral l quote) := by
  refine (walks_takeUntil _).bind fun o => ?_
  cases o with
  | some text => exact walks_pure _
  | none => exact walks_malformed _ _

theorem walks_scanSectionClose : Walks (scanSectionClose l) :=
  (walks_accept _).bind fun _ => .ite (walks_pure _) (walks_malformed _ _)

theorem walks_scanComment : Walks (scanComment l) := by
  refine (walks_takeUntil _).bind fun o => ?_
  cases o with
  | some text => exact walks_pure _
  | none => exact walks_malformed _ _

theorem walks_scanDeclaration : Walks (scanDeclaration l) := by
  refine walks_takeName.bind fun name => ?_
  cases Keyword.ofText? name with
  | some keyword => exact walks_pure _
  | none => exact walks_malformed _ _

theorem walks_scanInstruction : Walks (scanInstruction l) := by
  refine walks_takeName.bind fun _ => .ite (walks_malformed _ _) ?_
  refine (walks_takeUntil _).bind fun o => ?_
  cases o with
  | some data => exact walks_pure _
  | none => exact walks_malformed _ _

theorem walks_scanMarkup : Walks (scanMarkup l) := by
  refine (walks_accept _).bind fun _ => .ite (walks_scanComment l) ?_
  refine (walks_accept _).bind fun _ => .ite (walks_pure _) (walks_bump.bind fun o => ?_)
  split
  · exact walks_scanDeclaration l
  · exact walks_scanInstruction l
  · exact walks_malformed _ _

theorem walks_scanToken (c : Char) : Walks (scanToken l c) := by
  unfold scanToken
  split
  case h_10 => exact walks_scanGeneralRef l
  case h_11 => exact walks_scanHash l
  case h_12 => exact walks_scanLiteral l _
  case h_13 => exact walks_scanLiteral l _
  case h_14 => exact walks_scanSectionClose l
  case h_15 => exact walks_scanMarkup l
  case h_16 => exact .ite ((walks_takeWhile _).bind fun _ => walks_pure _) (walks_malformed _ _)
  all_goals exact walks_pure _

end Scanning

theorem walks_scanFront (l : Location) : Walks (scanFront l) := by
  refine walks_bump.bind fun o => ?_
  split
  · exact walks_pure _
  · exact walks_scanPercent l
  · exact (walks_scanToken l _).bind fun _ => walks_pure _

/-- Scanning reads lines and takes characters. -/
theorem walks_scan : Walks scan :=
  walks_skipBlank.bind fun _ s => walks_scanFront s.location s

end Doctype.Cursor

namespace Doctype

/-- The errors of a text: characters that form no token, and lines that cannot be read. -/
inductive Error.Textual : Error → Prop
  | lexical (l : Location) (detail : String) : Textual (.lexical l detail)
  | io (l : Location) (cause : IoError) : Textual (.located l (.io cause))

namespace Cursor

theorem textual_of_fill {n : Nat} {s t : Cursor} {e : Error} (h : s.fill n = .error e t) :
    e.Textual := by
  unfold fill at h
  generalize s.unread.fill n s.pending = r at h
  obtain ⟨outcome, pending, unread⟩ := r
  cases outcome with
  | ok => cases h
  | error cause =>
    cases h
    exact .io _ cause

/-- A walk ends in no other error than one of its text. -/
theorem Walk.textual {s t : Cursor} {e : Error} (h : Walk s (some e) t) : e.Textual := by
  generalize ho : some e = o at h
  induction h with
  | done => cases ho
  | filled _ _ ih => exact ih ho
  | unread hf =>
    cases ho
    exact textual_of_fill hf
  | taken _ _ ih => exact ih ho
  | malformed l detail =>
    cases ho
    exact .lexical l detail

end Cursor

end Doctype
