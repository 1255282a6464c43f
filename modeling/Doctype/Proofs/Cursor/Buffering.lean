import Doctype.Cursor.Scan

/-! Line buffering is invisible: what an action on a cursor does depends on the characters to come,
not on how many of them have been read already. -/
namespace Doctype

namespace Reader

/-- The characters before the first line that cannot be read. -/
def ahead : Reader → List Char
  | line text rest => text ++ rest.ahead
  | _ => []

/-- What is left behind those characters. -/
def behind : Reader → Reader
  | line _ rest => rest.behind
  | r => r

theorem fill_ok {n : Nat} {pending pending' : List Char} {r r' : Reader}
    (h : r.fill n pending = (.ok (), pending', r')) :
    pending' ++ r'.ahead = pending ++ r.ahead ∧ r'.behind = r.behind ∧
      (n ≤ pending'.length ∨ r' = done) := by
  induction r generalizing pending with
  | done =>
    simp only [fill, Prod.mk.injEq] at h
    obtain ⟨-, rfl, rfl⟩ := h
    simp
  | line text rest ih =>
    simp only [fill] at h
    split at h
    · rename_i hn
      simp only [Prod.mk.injEq] at h
      obtain ⟨-, rfl, rfl⟩ := h
      simp only [List.length_take] at hn
      exact ⟨rfl, rfl, .inl (by omega)⟩
    · obtain ⟨ha, hb, hn⟩ := ih h
      exact ⟨by simp [ha, ahead], hb, hn⟩
  | lost e rest | stuck e =>
    simp only [fill] at h
    split at h
    · rename_i hn
      simp only [Prod.mk.injEq] at h
      obtain ⟨-, rfl, rfl⟩ := h
      simp only [List.length_take] at hn
      exact ⟨rfl, rfl, .inl (by omega)⟩
    · simp at h

theorem fill_of_le {n : Nat} {pending : List Char} (r : Reader) (h : n ≤ pending.length) :
    (r.fill n pending).1 = .ok () := by
  have hn : n ≤ (pending.take n).length := by simp [h]
  cases r <;> simp only [fill, hn, if_true]

/-- Whether there is an error depends on the characters to come and what is behind them. -/
theorem fill_outcome (n : Nat) (pending : List Char) (r : Reader) :
    (r.fill n pending).1 = (r.behind.fill n (pending ++ r.ahead)).1 := by
  induction r generalizing pending with
  | line text rest ih =>
    simp only [fill, behind, ahead]
    split
    · rename_i hn
      rw [List.length_take] at hn
      rw [fill_of_le _ (by simp only [List.length_append]; omega)]
    · rw [ih, List.append_assoc]
  | done | lost | stuck => simp [ahead, behind]

/-- Everything can be read exactly if no line before the end is lost. -/
theorem readAll_eq_ok {r : Reader} {cs : List Char} :
    r.readAll = .ok cs ↔ r.ahead = cs ∧ r.behind = done := by
  induction r generalizing cs with
  | done => simp [readAll, ahead, behind]
  | line text rest ih =>
    simp only [readAll, ahead, behind]
    cases h : rest.readAll with
    | error e =>
      have hn : ¬(rest.ahead = rest.ahead ∧ rest.behind = done) := mt ih.2 (by simp [h])
      simp only [true_and] at hn
      simp [Functor.map, Except.map, hn]
    | ok ds =>
      obtain ⟨rfl, hb⟩ := ih.1 h
      simp [Functor.map, Except.map, hb]
  | lost e rest => simp [readAll, behind]
  | stuck e => simp [readAll, behind]

theorem lines_flatten {α : Type} (isFeed : α → Bool) (as : List α) :
    (lines isFeed as).flatten = as := by
  induction as with
  | nil => rfl
  | cons a as ih =>
    simp only [lines]
    split
    · simp [ih]
    · split
      · rename_i h
        rw [h] at ih
        simpa using ih
      · rename_i first others h
        rw [h] at ih
        simpa using ih

theorem readAll_ofLines (ls : List (List Char)) :
    (ofLines (ls.map .ok)).readAll = .ok ls.flatten := by
  induction ls with
  | nil => rfl
  | cons l ls ih => simp [ofLines, readAll, ih, Functor.map, Except.map]

/-- A text can be read back. -/
theorem readAll_ofText (s : String) : (ofText s).readAll = .ok s.toList := by
  rw [ofText, readAll_ofLines, lines_flatten]

end Reader

/-- Locations that differ at most in the names of their sources. -/
structure Location.Alike (N : String → String → Prop) (l l' : Location) : Prop where
  source : N l.source l'.source
  line : l.line = l'.line
  column : l.column = l'.column

theorem Location.Alike.eq {N : String → String → Prop} {l l' : Location} (h : l.Alike N l')
    (hN : ∀ a b, N a b → a = b) : l = l' := by
  obtain ⟨source, line, column⟩ := l
  obtain ⟨source', line', column'⟩ := l'
  obtain ⟨hs, hl, hc⟩ := h
  obtain rfl : source = source' := hN _ _ hs
  obtain rfl : line = line' := hl
  obtain rfl : column = column' := hc
  rfl

/-- Scanned items that differ at most in the names of the sources. -/
inductive Scanned.Alike (N : String → String → Prop) : Scanned → Scanned → Prop
  | token {t l l'} : l.Alike N l' → Scanned.Alike N (.token t l) (.token t l')
  | reference {n l l'} : l.Alike N l' → Scanned.Alike N (.reference n l) (.reference n l')
  | exhausted : Scanned.Alike N .exhausted .exhausted

theorem Scanned.Alike.eq {N : String → String → Prop} {r r' : Scanned} (h : r.Alike N r')
    (hN : ∀ a b, N a b → a = b) : r = r' := by
  cases h with
  | token hl => rw [hl.eq hN]
  | reference hl => rw [hl.eq hN]
  | exhausted => rfl

/-- How alike two cursors are. -/
structure Likeness where
  /-- How their names are related. -/
  names : String → String → Prop
  /-- How the lines that cannot be read, and what is behind them, are related. -/
  ends : Reader → Reader → Prop
  ends_eq {r r' : Reader} : ends r r' → r = r' ∨ r' = .done

namespace Likeness

/-- The same name and the same lines that cannot be read. -/
def same : Likeness :=
  ⟨Eq, Eq, .inl⟩

/-- Any names. -/
def renamed : Likeness :=
  ⟨fun _ _ => True, Eq, .inl⟩

/-- The second cursor is like the first up to a line that cannot be read, and ends there. -/
def readable : Likeness :=
  ⟨Eq, fun _ r' => r' = .done, .inr⟩

/-- Nothing differs that an error could tell. -/
def Exact (N : Likeness) : Prop :=
  (∀ a b, N.names a b → a = b) ∧ ∀ r r', N.ends r r' → r = r'

theorem exact_same : same.Exact :=
  ⟨fun _ _ => id, fun _ _ => id⟩

end Likeness

namespace Cursor

open EStateM (Result)

/-- The characters to come before the first line that cannot be read. -/
def rest (s : Cursor) : List Char :=
  s.pending ++ s.unread.ahead

/-- Cursors at the same position that have the same characters to come, however many of them have
been read already. -/
structure Alike (N : Likeness) (s s' : Cursor) : Prop where
  name : N.names s.name s'.name
  position : s.position = s'.position
  rest : s.rest = s'.rest
  ends : N.ends s.unread.behind s'.unread.behind

/-- Results on alike cursors. Errors agree if nothing differs that they could tell. -/
inductive AlikeResult {α β : Type} (N : Likeness) (Q : α → β → Prop) :
    Result Error Cursor α → Result Error Cursor β → Prop
  | ok {a b t t'} : Q a b → Alike N t t' → AlikeResult N Q (.ok a t) (.ok b t')
  | error {e t r} : (N.Exact → ∃ t', r = .error e t') → AlikeResult N Q (.error e t) r

/-- Actions that do the same on alike cursors. -/
def Agree {α β : Type} (N : Likeness) (Q : α → β → Prop) (m : CursorM α) (m' : CursorM β) : Prop :=
  ∀ ⦃s s'⦄, Alike N s s' → AlikeResult N Q (m s) (m' s')

variable {N : Likeness} {α β γ δ : Type}

theorem AlikeResult.of_ok {Q : α → β → Prop} {a : α} {t : Cursor} {r : Result Error Cursor β}
    (h : AlikeResult N Q (.ok a t) r) : ∃ b t', r = .ok b t' ∧ Q a b ∧ Alike N t t' := by
  cases h with
  | ok hq ht => exact ⟨_, _, rfl, hq, ht⟩

theorem AlikeResult.of_error {Q : α → β → Prop} {e : Error} {t : Cursor}
    {r : Result Error Cursor β} (h : AlikeResult N Q (.error e t) r) (hN : N.Exact) :
    ∃ t', r = .error e t' := by
  cases h with
  | error he => exact he hN

theorem Alike.location {s s' : Cursor} (h : Alike N s s') :
    s.location.Alike N.names s'.location :=
  ⟨h.name, by simp [Cursor.location, h.position], by simp [Cursor.location, h.position]⟩

/-- A cursor with more lines read. -/
structure Ahead (s t : Cursor) : Prop where
  name : s.name = t.name
  position : s.position = t.position
  rest : s.rest = t.rest
  behind : s.unread.behind = t.unread.behind

theorem Alike.congr {s s' t t' : Cursor} (h : Alike N s s') (ht : Ahead s t) (ht' : Ahead s' t') :
    Alike N t t' :=
  ⟨ht.name ▸ ht'.name ▸ h.name, ht.position ▸ ht'.position ▸ h.position,
    ht.rest ▸ ht'.rest ▸ h.rest, ht.behind ▸ ht'.behind ▸ h.ends⟩

theorem fill_eq_ok {n : Nat} {s t : Cursor} (h : s.fill n = .ok () t) :
    Ahead s t ∧ ∀ i < n, t.pending[i]? = s.rest[i]? := by
  unfold fill at h
  generalize hr : s.unread.fill n s.pending = r at h
  obtain ⟨outcome, pending, unread⟩ := r
  cases outcome with
  | error e => simp at h
  | ok u =>
    cases h
    obtain ⟨ha, hb, hn⟩ := Reader.fill_ok hr
    refine ⟨⟨rfl, rfl, ha.symm, hb.symm⟩, fun i hi => ?_⟩
    simp only [rest, ← ha]
    rcases hn with hn | rfl
    · rw [List.getElem?_append_left (by omega)]
    · simp [Reader.ahead]

/-- If enough lines can be read for one cursor, they can for one that is alike. -/
theorem Alike.fill_outcome {s s' : Cursor} (h : Alike N s s') (n : Nat) :
    (s'.unread.fill n s'.pending).1 = (s.unread.fill n s.pending).1 ∨
      ¬N.Exact ∧ (s'.unread.fill n s'.pending).1 = .ok () := by
  rw [Reader.fill_outcome, Reader.fill_outcome n s.pending]
  have hrest : s.pending ++ s.unread.ahead = s'.pending ++ s'.unread.ahead := h.rest
  rw [hrest]
  by_cases hN : N.Exact
  · left
    rw [hN.2 _ _ h.ends]
  · rcases N.ends_eq h.ends with he | he
    · left
      rw [he]
    · right
      rw [he]
      exact ⟨hN, rfl⟩

theorem agree_fill (n : Nat) : Agree N (fun _ _ => True) (fill n) (fill n) := by
  intro s s' h
  have hok (t t' : Cursor) (ht : s.fill n = .ok () t) (ht' : s'.fill n = .ok () t') :
      Alike N t t' := h.congr (fill_eq_ok ht).1 (fill_eq_ok ht').1
  have ho := h.fill_outcome n
  unfold fill at hok ⊢
  generalize s.unread.fill n s.pending = r at hok ho ⊢
  generalize s'.unread.fill n s'.pending = r' at hok ho ⊢
  obtain ⟨o, pending, unread⟩ := r
  obtain ⟨o', pending', unread'⟩ := r'
  simp only at ho
  cases o with
  | ok u =>
    have ho' : o' = .ok () := by
      rcases ho with ho | ⟨-, ho⟩ <;> exact ho
    subst ho'
    exact .ok trivial (hok _ _ rfl rfl)
  | error e =>
    refine .error fun hN => ?_
    rcases ho with rfl | ⟨hno, -⟩
    · refine ⟨{ s' with pending := pending', unread := unread' }, ?_⟩
      simp only [Cursor.location, h.position, hN.1 _ _ h.name]
    · exact absurd hN hno

section Combinators

variable {Q : α → β → Prop} {R : γ → δ → Prop}

theorem Agree.bind {m : CursorM α} {m' : CursorM β} {f : α → CursorM γ} {f' : β → CursorM δ}
    (hm : Agree N Q m m') (hf : ∀ a b, Q a b → Agree N R (f a) (f' b)) :
    Agree N R (m >>= f) (m' >>= f') := by
  intro s s' h
  have hr := hm h
  simp only [Bind.bind, EStateM.bind]
  generalize m s = r at hr ⊢
  generalize m' s' = r' at hr ⊢
  cases hr with
  | ok hq ht => exact hf _ _ hq ht
  | error he =>
    refine .error fun hN => ?_
    obtain ⟨t', rfl⟩ := he hN
    exact ⟨t', rfl⟩

theorem agree_pure {a : α} {b : β} (h : Q a b) : Agree N Q (pure a) (pure b) :=
  fun _ _ hs => .ok h hs

theorem Agree.ite {p : Prop} [Decidable p] {m n : CursorM α} {m' n' : CursorM β}
    (hm : Agree N Q m m') (hn : Agree N Q n n') :
    Agree N Q (if p then m else n) (if p then m' else n') := by
  split <;> assumption

theorem agree_malformed {l l' : Location} (h : l.Alike N.names l') (detail : String) :
    Agree N Q (malformed l detail) (malformed l' detail) := by
  intro s s' _
  exact .error fun hN => ⟨s', by rw [h.eq hN.1]; rfl⟩

end Combinators

theorem agree_peekAt (i : Nat) : Agree N Eq (peekAt i) (peekAt i) := by
  intro s s' h
  have hf := agree_fill (N := N) (i + 1) h
  simp only [peekAt, bind, EStateM.bind, get_eq_ok, pure,
    EStateM.pure]
  generalize ht : s.fill (i + 1) = r at hf
  generalize ht' : s'.fill (i + 1) = r' at hf
  cases hf with
  | error he =>
    refine .error fun hN => ?_
    obtain ⟨t', rfl⟩ := he hN
    exact ⟨t', rfl⟩
  | ok _ hts =>
    refine .ok ?_ hts
    rw [(fill_eq_ok ht).2 i (by omega), (fill_eq_ok ht').2 i (by omega), h.rest]

theorem agree_takeIf (p : Char → Bool) : Agree N Eq (takeIf p) (takeIf p) := by
  intro s s' h
  have hf := agree_fill (N := N) 1 h
  unfold takeIf
  generalize ht : s.fill 1 = r at hf
  generalize ht' : s'.fill 1 = r' at hf
  cases hf with
  | error he =>
    refine .error fun hN => ?_
    obtain ⟨t', rfl⟩ := he hN
    exact ⟨t', rfl⟩
  | @ok _ _ t t' _ hts =>
    have h0 : t.pending[0]? = t'.pending[0]? := by
      rw [(fill_eq_ok ht).2 0 (by omega), (fill_eq_ok ht').2 0 (by omega), h.rest]
    obtain ⟨hname, hpos, hrest, hends⟩ := hts
    obtain ⟨n, ps, u, q⟩ := t
    obtain ⟨n', ps', u', q'⟩ := t'
    cases ps with
    | nil =>
      obtain rfl : ps' = [] := by simpa using h0.symm
      exact .ok rfl ⟨hname, hpos, hrest, hends⟩
    | cons c cs =>
      obtain ⟨cs', rfl⟩ : ∃ cs', ps' = c :: cs' := by
        cases ps' with
        | nil => simp at h0
        | cons c' cs' => exact ⟨cs', by simpa [eq_comm] using h0⟩
      simp only at hpos
      by_cases hc : p c
      · simp only [hc, if_true]
        refine .ok rfl ⟨hname, by simp only [hpos], ?_, hends⟩
        simpa [rest] using hrest
      · simp only [hc, Bool.false_eq_true, if_false]
        exact .ok rfl ⟨hname, hpos, hrest, hends⟩

theorem agree_advance (n : Nat) : Agree N Eq (advance n) (advance n) := by
  induction n with
  | zero => exact agree_pure rfl
  | succ n ih => exact (agree_takeIf _).bind fun _ _ _ => ih

theorem agree_matchesAt (cs : List Char) (i : Nat) : Agree N Eq (matchesAt i cs) (matchesAt i cs) := by
  induction cs generalizing i with
  | nil => exact agree_pure rfl
  | cons c cs ih =>
    refine (agree_peekAt i).bind fun o o' ho => ?_
    rw [ho]
    exact .ite (ih _) (agree_pure rfl)

theorem agree_accept (cs : List Char) : Agree N Eq (accept cs) (accept cs) := by
  refine (agree_matchesAt cs 0).bind fun b b' hb => ?_
  rw [hb]
  exact .ite ((agree_advance _).bind fun _ _ _ => agree_pure rfl) (agree_pure rfl)

theorem takeWhile_eq (p : Char → Bool) (s : Cursor) :
    takeWhile p s =
      match s.takeIf p with
      | .error e t => .error e t
      | .ok none t => .ok [] t
      | .ok (some c) t =>
        match takeWhile p t with
        | .error e u => .error e u
        | .ok cs u => .ok (c :: cs) u := by
  rw [takeWhile]
  split <;> simp_all <;> rfl

theorem takeUntil_eq (terminator : List Char) (s : Cursor) :
    takeUntil terminator s =
      match accept terminator s with
      | .error e t => .error e t
      | .ok true t => .ok (some []) t
      | .ok false t =>
        match t.takeIf fun _ => true with
        | .error e u => .error e u
        | .ok none u => .ok none u
        | .ok (some c) u =>
          match takeUntil terminator u with
          | .error e v => .error e v
          | .ok none v => .ok none v
          | .ok (some cs) v => .ok (some (c :: cs)) v := by
  rw [takeUntil]
  split <;> simp_all
  split <;> simp_all <;> rfl

theorem skipSections_eq (nesting : Nat) (s : Cursor) :
    skipSections nesting s =
      match accept ['<', '!', '['] s with
      | .error e t => .error e t
      | .ok true t => skipSections (nesting + 1) t
      | .ok false t =>
        match accept [']', ']', '>'] t with
        | .error e u => .error e u
        | .ok true u => if nesting = 0 then .ok true u else skipSections (nesting - 1) u
        | .ok false u =>
          match u.takeIf fun _ => true with
          | .error e v => .error e v
          | .ok none v => .ok false v
          | .ok (some _) v => skipSections nesting v := by
  rw [skipSections]
  split <;> simp_all
  split <;> simp_all
  split <;> simp_all

theorem agree_takeWhile (p : Char → Bool) : Agree N Eq (takeWhile p) (takeWhile p) := by
  intro s
  fun_induction takeWhile p s with
  | case1 s e t ht =>
    intro s' h
    refine .error fun hN => ?_
    obtain ⟨t', ht'⟩ := AlikeResult.of_error (ht ▸ agree_takeIf p h) hN
    refine ⟨t', ?_⟩
    rw [takeWhile_eq, ht']
  | case2 s t ht =>
    intro s' h
    obtain ⟨_, t', ht', rfl, hts⟩ := AlikeResult.of_ok (ht ▸ agree_takeIf p h)
    rw [takeWhile_eq, ht']
    exact .ok rfl hts
  | case3 s c t ht e u hu ih =>
    intro s' h
    obtain ⟨_, t', ht', rfl, hts⟩ := AlikeResult.of_ok (ht ▸ agree_takeIf p h)
    refine .error fun hN => ?_
    obtain ⟨u', hu'⟩ := AlikeResult.of_error (hu ▸ ih hts) hN
    refine ⟨u', ?_⟩
    rw [takeWhile_eq, ht']
    simp only [hu']
  | case4 s c t ht cs u hu ih =>
    intro s' h
    obtain ⟨_, t', ht', rfl, hts⟩ := AlikeResult.of_ok (ht ▸ agree_takeIf p h)
    obtain ⟨_, u', hu', rfl, hus⟩ := AlikeResult.of_ok (hu ▸ ih hts)
    rw [takeWhile_eq, ht']
    simp only [hu']
    exact .ok rfl hus

theorem agree_takeUntil (terminator : List Char) :
    Agree N Eq (takeUntil terminator) (takeUntil terminator) := by
  intro s
  fun_induction takeUntil terminator s with
  | case1 s e t ht =>
    intro s' h
    refine .error fun hN => ?_
    obtain ⟨t', ht'⟩ := AlikeResult.of_error (ht ▸ agree_accept terminator h) hN
    refine ⟨t', ?_⟩
    rw [takeUntil_eq, ht']
  | case2 s t ht =>
    intro s' h
    obtain ⟨_, t', ht', rfl, hts⟩ := AlikeResult.of_ok (ht ▸ agree_accept terminator h)
    rw [takeUntil_eq, ht']
    exact .ok rfl hts
  | case3 s t ht e u hu =>
    intro s' h
    obtain ⟨_, t', ht', rfl, hts⟩ := AlikeResult.of_ok (ht ▸ agree_accept terminator h)
    refine .error fun hN => ?_
    obtain ⟨u', hu'⟩ := AlikeResult.of_error (hu ▸ agree_takeIf _ hts) hN
    refine ⟨u', ?_⟩
    rw [takeUntil_eq, ht']
    simp only [hu']
  | case4 s t ht u hu =>
    intro s' h
    obtain ⟨_, t', ht', rfl, hts⟩ := AlikeResult.of_ok (ht ▸ agree_accept terminator h)
    obtain ⟨_, u', hu', rfl, hus⟩ := AlikeResult.of_ok (hu ▸ agree_takeIf _ hts)
    rw [takeUntil_eq, ht']
    simp only [hu']
    exact .ok rfl hus
  | case5 s t ht c u hu e v hv ih =>
    intro s' h
    obtain ⟨_, t', ht', rfl, hts⟩ := AlikeResult.of_ok (ht ▸ agree_accept terminator h)
    obtain ⟨_, u', hu', rfl, hus⟩ := AlikeResult.of_ok (hu ▸ agree_takeIf _ hts)
    refine .error fun hN => ?_
    obtain ⟨v', hv'⟩ := AlikeResult.of_error (hv ▸ ih hus) hN
    refine ⟨v', ?_⟩
    rw [takeUntil_eq, ht']
    simp only [hu', hv']
  | case6 s t ht c u hu v hv ih | case7 s t ht c u hu cs v hv ih =>
    intro s' h
    obtain ⟨_, t', ht', rfl, hts⟩ := AlikeResult.of_ok (ht ▸ agree_accept terminator h)
    obtain ⟨_, u', hu', rfl, hus⟩ := AlikeResult.of_ok (hu ▸ agree_takeIf _ hts)
    obtain ⟨_, v', hv', rfl, hvs⟩ := AlikeResult.of_ok (hv ▸ ih hus)
    rw [takeUntil_eq, ht']
    simp only [hu', hv']
    exact .ok rfl hvs

theorem agree_skipSections (nesting : Nat) :
    Agree N Eq (skipSections nesting) (skipSections nesting) := by
  intro s
  fun_induction skipSections nesting s with
  | case1 nesting s e t ht =>
    intro s' h
    refine .error fun hN => ?_
    obtain ⟨t', ht'⟩ := AlikeResult.of_error (ht ▸ agree_accept _ h) hN
    refine ⟨t', ?_⟩
    rw [skipSections_eq nesting s', ht']
  | case2 nesting s t ht ih =>
    intro s' h
    obtain ⟨_, t', ht', rfl, hts⟩ := AlikeResult.of_ok (ht ▸ agree_accept _ h)
    rw [skipSections_eq nesting s', ht']
    exact ih hts
  | case3 nesting s t ht e u hu =>
    intro s' h
    obtain ⟨_, t', ht', rfl, hts⟩ := AlikeResult.of_ok (ht ▸ agree_accept _ h)
    refine .error fun hN => ?_
    obtain ⟨u', hu'⟩ := AlikeResult.of_error (hu ▸ agree_accept _ hts) hN
    refine ⟨u', ?_⟩
    rw [skipSections_eq nesting s', ht']
    simp only [hu']
  | case4 s t ht u hu =>
    intro s' h
    obtain ⟨_, t', ht', rfl, hts⟩ := AlikeResult.of_ok (ht ▸ agree_accept _ h)
    obtain ⟨_, u', hu', rfl, hus⟩ := AlikeResult.of_ok (hu ▸ agree_accept _ hts)
    rw [skipSections_eq 0 s', ht']
    simp only [hu', if_true]
    exact .ok rfl hus
  | case5 nesting s t ht u hu hn ih =>
    intro s' h
    obtain ⟨_, t', ht', rfl, hts⟩ := AlikeResult.of_ok (ht ▸ agree_accept _ h)
    obtain ⟨_, u', hu', rfl, hus⟩ := AlikeResult.of_ok (hu ▸ agree_accept _ hts)
    rw [skipSections_eq nesting s', ht']
    simp only [hu', hn, if_false]
    exact ih hus
  | case6 nesting s t ht u hu e v hv =>
    intro s' h
    obtain ⟨_, t', ht', rfl, hts⟩ := AlikeResult.of_ok (ht ▸ agree_accept _ h)
    obtain ⟨_, u', hu', rfl, hus⟩ := AlikeResult.of_ok (hu ▸ agree_accept _ hts)
    refine .error fun hN => ?_
    obtain ⟨v', hv'⟩ := AlikeResult.of_error (hv ▸ agree_takeIf _ hus) hN
    refine ⟨v', ?_⟩
    rw [skipSections_eq nesting s', ht']
    simp only [hu', hv']
  | case7 nesting s t ht u hu v hv =>
    intro s' h
    obtain ⟨_, t', ht', rfl, hts⟩ := AlikeResult.of_ok (ht ▸ agree_accept _ h)
    obtain ⟨_, u', hu', rfl, hus⟩ := AlikeResult.of_ok (hu ▸ agree_accept _ hts)
    obtain ⟨_, v', hv', rfl, hvs⟩ := AlikeResult.of_ok (hv ▸ agree_takeIf _ hus)
    rw [skipSections_eq nesting s', ht']
    simp only [hu', hv']
    exact .ok rfl hvs
  | case8 nesting s t ht u hu c v hv ih =>
    intro s' h
    obtain ⟨_, t', ht', rfl, hts⟩ := AlikeResult.of_ok (ht ▸ agree_accept _ h)
    obtain ⟨_, u', hu', rfl, hus⟩ := AlikeResult.of_ok (hu ▸ agree_accept _ hts)
    obtain ⟨_, v', hv', rfl, hvs⟩ := AlikeResult.of_ok (hv ▸ agree_takeIf _ hus)
    rw [skipSections_eq nesting s', ht']
    simp only [hu', hv']
    exact ih hvs

theorem agree_takeName : Agree N Eq takeName takeName :=
  (agree_takeWhile _).bind fun _ _ h => agree_pure (h ▸ rfl)

section Scanning

variable {l l' : Location} (h : l.Alike N.names l')

include h

theorem agree_scanPercent : Agree N (Scanned.Alike N.names) (scanPercent l) (scanPercent l') := by
  refine (agree_peekAt 0).bind fun o _ ho => ?_
  subst ho
  refine .ite (agree_takeName.bind fun name _ hn => ?_) (agree_pure (.token h))
  subst hn
  refine (agree_peekAt 0).bind fun o _ ho => ?_
  subst ho
  exact .ite ((agree_takeIf _).bind fun _ _ _ => agree_pure (.reference h)) (agree_malformed h _)

theorem agree_scanGeneralRef : Agree N Eq (scanGeneralRef l) (scanGeneralRef l') := by
  refine agree_takeName.bind fun name _ hn => ?_
  subst hn
  refine .ite (agree_malformed h _) ((agree_peekAt 0).bind fun o _ ho => ?_)
  subst ho
  exact .ite ((agree_takeIf _).bind fun _ _ _ => agree_pure rfl) (agree_malformed h _)

theorem agree_scanHash : Agree N Eq (scanHash l) (scanHash l') := by
  refine agree_takeName.bind fun name _ hn => ?_
  subst hn
  exact .ite (agree_malformed h _) (agree_pure rfl)

theorem agree_scanLiteral (quote : Char) : Agree N Eq (scanLiteral l quote) (scanLiteral l' quote) := by
  refine (agree_takeUntil _).bind fun o _ ho => ?_
  subst ho
  cases o with
  | none => exact agree_malformed h _
  | some text => exact agree_pure rfl

theorem agree_scanSectionClose : Agree N Eq (scanSectionClose l) (scanSectionClose l') := by
  refine (agree_accept _).bind fun b _ hb => ?_
  subst hb
  exact .ite (agree_pure rfl) (agree_malformed h _)

theorem agree_scanComment : Agree N Eq (scanComment l) (scanComment l') := by
  refine (agree_takeUntil _).bind fun o _ ho => ?_
  subst ho
  cases o with
  | none => exact agree_malformed h _
  | some text => exact agree_pure rfl

theorem agree_scanDeclaration : Agree N Eq (scanDeclaration l) (scanDeclaration l') := by
  refine agree_takeName.bind fun name _ hn => ?_
  subst hn
  cases Keyword.ofText? name with
  | none => exact agree_malformed h _
  | some keyword => exact agree_pure rfl

theorem agree_scanInstruction : Agree N Eq (scanInstruction l) (scanInstruction l') := by
  refine agree_takeName.bind fun name _ hn => ?_
  subst hn
  refine .ite (agree_malformed h _) ((agree_takeUntil _).bind fun o _ ho => ?_)
  subst ho
  cases o with
  | none => exact agree_malformed h _
  | some text => exact agree_pure rfl

theorem agree_scanMarkup : Agree N Eq (scanMarkup l) (scanMarkup l') := by
  refine (agree_accept _).bind fun b _ hb => ?_
  subst hb
  refine .ite (agree_scanComment h) ((agree_accept _).bind fun b _ hb => ?_)
  subst hb
  refine .ite (agree_pure rfl) ((agree_takeIf _).bind fun o _ ho => ?_)
  subst ho
  split
  · exact agree_scanDeclaration h
  · exact agree_scanInstruction h
  · exact agree_malformed h _

theorem agree_scanToken (c : Char) : Agree N Eq (scanToken l c) (scanToken l' c) := by
  unfold scanToken
  split
  case h_10 => exact agree_scanGeneralRef h
  case h_11 => exact agree_scanHash h
  case h_12 => exact agree_scanLiteral h _
  case h_13 => exact agree_scanLiteral h _
  case h_14 => exact agree_scanSectionClose h
  case h_15 => exact agree_scanMarkup h
  case h_16 =>
    exact .ite ((agree_takeWhile _).bind fun _ _ hc => agree_pure (hc ▸ rfl)) (agree_malformed h _)
  all_goals exact agree_pure rfl

end Scanning

/-- Scanning does not see the buffer. -/
theorem agree_scan : Agree N (Scanned.Alike N.names) scan scan := by
  refine ((agree_takeWhile _).bind fun _ _ _ => agree_pure (Q := fun _ _ => True) trivial).bind
    fun _ _ _ => ?_
  intro s s' hs
  have hl := hs.location
  refine ((agree_takeIf fun _ => true).bind fun o _ ho => ?_) hs
  subst ho
  split
  · exact agree_pure .exhausted
  · exact agree_scanPercent hl
  · exact (agree_scanToken hl _).bind fun _ _ ht => ht ▸ agree_pure (.token hl)

end Cursor

end Doctype
