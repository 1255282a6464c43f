import Doctype.Proofs.Cursor.Tokens
import Doctype.Proofs.Source.Steps

/-! Scanning a stack of sources gives what recursive macro expansion gives. -/
namespace Doctype

/-- What the expansion of a text gives: tokens with their locations and depths, and where the text
ends or why the expansion fails. -/
structure Expansion where
  lexemes : List (Token × Location × Nat)
  outcome : Except Error Location

namespace Expansion

/-- An expansion that ends before its first token. -/
def stop (outcome : Except Error Location) : Expansion :=
  ⟨[], outcome⟩

/-- Puts a token in front. -/
def emit (token : Token) (location : Location) (depth : Nat) (e : Expansion) : Expansion :=
  ⟨(token, location, depth) :: e.lexemes, e.outcome⟩

/-- Goes on with another expansion unless this one fails. -/
def followedBy (e rest : Expansion) : Expansion :=
  match e.outcome with
  | .error _ => e
  | .ok _ => ⟨e.lexemes ++ rest.lexemes, rest.outcome⟩

/-- The tokens up to the end of input or the error. -/
def items (e : Expansion) : List (Except Error (Token × Location × Nat)) :=
  e.lexemes.map .ok ++ [e.outcome.map fun location => (.endOfInput, location, 0)]

end Expansion

/-- Expands a text recursively. A reference is replaced by the expansion of its replacement text,
in which its name must not be met again. -/
def expansion (w : World) (t : EntityTable) (opened : List String) (base : Base)
    (cursor : Cursor) : Expansion :=
  match _hscan : cursor.scan with
  | .error e _ => .stop (.error e)
  | .ok .exhausted cursor => .stop (.ok cursor.location)
  | .ok (.token token location) cursor =>
    (expansion w t opened base cursor).emit token location (opened.length + 1)
  | .ok (.reference name location) cursor =>
    match _hopen : t.openReference w name base with
    | .error e => .stop (.error (e.locate location))
    | .ok text =>
      if _hcycle : name ∈ opened then .stop (.error ((Error.cyclicEntity name).locate location))
      else
        match text.content.readAll with
        | .error e => .stop (.error (.io e))
        | .ok content =>
          (expansion w t (name :: opened) (text.origin.base?.getD base)
            { name := text.origin.text, pending := content, unread := .done }).followedBy
          (expansion w t opened base cursor)
termination_by (unopened opened.contains t.names, cursor.remaining)
decreasing_by
  · exact .right _ ((Cursor.remaining_scan _hscan).2 (by simp))
  · refine .left _ _ (unopened_lt (e := name) (fun n hn => ?_) ?_ ?_ ?_)
    · simp [hn]
    · exact EntityTable.mem_names_of_openReference _hopen
    · simp
    · simpa using _hcycle
  · exact .right _ ((Cursor.remaining_scan _hscan).2 (by simp))

/-- The part of a lexeme that does not depend on how sources are numbered. -/
def Lexeme.seen (lexeme : Lexeme) : Token × Location × Nat :=
  (lexeme.token, lexeme.location, lexeme.depth)

namespace Cursor

theorem Alike.symm {s s' : Cursor} (h : s.Alike .same s') : s'.Alike .same s :=
  ⟨h.name.symm, h.position.symm, h.rest.symm, h.ends.symm⟩

variable {s s' t : Cursor}

theorem scan_of_alike {r : Scanned} (h : s.Alike .same s') (hr : scan s' = .ok r t) :
    ∃ u, scan s = .ok r u ∧ u.Alike .same t := by
  obtain ⟨r', u, hu, hrr, ht⟩ := AlikeResult.of_ok (hr ▸ agree_scan h.symm)
  rw [← hrr.eq fun _ _ => id] at hu
  exact ⟨u, hu, ht.symm⟩

theorem scan_error_of_alike {e : Error} (h : s.Alike .same s') (he : scan s' = .error e t) :
    ∃ u, scan s = .error e u :=
  AlikeResult.of_error (he ▸ agree_scan h.symm) Likeness.exact_same

end Cursor

namespace SourceStack

open EStateM (Result)

/-- The tokens up to the end of input or the first error, without the numbers of their sources. -/
def seen (w : World) (t : EntityTable) (s : SourceStack) :
    List (Except Error (Token × Location × Nat)) :=
  (s.tokens w t).1.map (Except.map Lexeme.seen)

variable {w : World} {t : EntityTable} {s s' : SourceStack}

theorem tokens_eq (w : World) (t : EntityTable) (s : SourceStack) :
    s.tokens w t =
      match s.step w t with
      | .error e s' => ([.error e], s')
      | .ok none s' => s'.tokens w t
      | .ok (some lexeme) s' =>
        if lexeme.token = .endOfInput then ([.ok lexeme], s')
        else (.ok lexeme :: (s'.tokens w t).1, (s'.tokens w t).2) := by
  rw [tokens.eq_def]
  split <;> simp_all

theorem seen_error {e : Error} (h : s.step w t = .error e s') : s.seen w t = [.error e] := by
  rw [seen, tokens_eq, h]
  rfl

theorem seen_silent (h : s.step w t = .ok none s') : s.seen w t = s'.seen w t := by
  rw [seen, tokens_eq, h]
  rfl

theorem seen_token {lexeme : Lexeme} (h : s.step w t = .ok (some lexeme) s')
    (hne : lexeme.token ≠ .endOfInput) : s.seen w t = .ok lexeme.seen :: s'.seen w t := by
  rw [seen, tokens_eq, h]
  simp only [hne, if_false]
  rfl

theorem seen_nil (h : s.sources = []) : s.seen w t = [.ok (.endOfInput, s.ending, 0)] := by
  rw [seen, tokens_eq, step_nil h]
  rfl

/-- A stack gives out an expansion and then what the sources below give. -/
def Emits (w : World) (t : EntityTable) (s : SourceStack) (e : Expansion) (below : List Source) :
    Prop :=
  match e.outcome with
  | .error error => s.seen w t = e.lexemes.map .ok ++ [.error error]
  | .ok ending =>
    ∃ s' : SourceStack, s'.sources = below ∧ s'.ending = ending ∧
      s.seen w t = e.lexemes.map .ok ++ s'.seen w t

section Emits

variable {e rest : Expansion} {below : List Source}

theorem emits_error {error : Error} (h : s.step w t = .error error s') :
    s.Emits w t (.stop (.error error)) below :=
  seen_error h

theorem emits_ok (h : s.step w t = .ok none s') :
    s.Emits w t (.stop (.ok s'.ending)) s'.sources :=
  ⟨s', rfl, rfl, seen_silent h⟩

theorem Emits.silent (h : s.step w t = .ok none s') (hs : s'.Emits w t e below) :
    s.Emits w t e below := by
  unfold Emits
  rw [seen_silent h]
  exact hs

theorem Emits.token {lexeme : Lexeme} (h : s.step w t = .ok (some lexeme) s')
    (hne : lexeme.token ≠ .endOfInput) (hs : s'.Emits w t e below) :
    s.Emits w t (e.emit lexeme.token lexeme.location lexeme.depth) below := by
  unfold Emits at hs ⊢
  rw [seen_token h hne]
  obtain ⟨lexemes, outcome⟩ := e
  cases outcome with
  | error error =>
    have hs : s'.seen w t = lexemes.map .ok ++ [.error error] := hs
    rw [hs]
    rfl
  | ok ending =>
    obtain ⟨s'', hsources, hending, hseen⟩ := hs
    have hseen : s'.seen w t = lexemes.map .ok ++ s''.seen w t := hseen
    refine ⟨s'', hsources, hending, ?_⟩
    rw [hseen]
    rfl

theorem Emits.followedBy {middle : List Source} (h : s.Emits w t e middle)
    (hrest : ∀ s' : SourceStack, s'.sources = middle → s'.Emits w t rest below) :
    s.Emits w t (e.followedBy rest) below := by
  obtain ⟨lexemes, outcome⟩ := e
  cases outcome with
  | error error => exact h
  | ok ending =>
    obtain ⟨s', hsources, -, hseen⟩ := h
    have hs' := hrest s' hsources
    unfold Emits at hs' ⊢
    simp only [Expansion.followedBy, List.map_append] at hseen ⊢
    rw [hseen]
    cases ho : rest.outcome with
    | error error =>
      rw [ho] at hs'
      have hs' : s'.seen w t = rest.lexemes.map .ok ++ [.error error] := hs'
      simp only [hs', List.append_assoc]
    | ok ending =>
      rw [ho] at hs'
      obtain ⟨s'', hsources', hending', hseen'⟩ := hs'
      exact ⟨s'', hsources', hending', by rw [hseen', List.append_assoc]⟩

end Emits

/-- Every text that can be opened can be read to its end. -/
def Readable (w : World) (t : EntityTable) : Prop :=
  ∀ name base text, t.openReference w name base = .ok text → ∃ cs, text.content.readAll = .ok cs

/-- A stack gives out the expansion of its innermost source before it comes to the sources below. -/
theorem emits_expansion (hread : Readable w t) (opened : List String) (base : Base)
    (cursor : Cursor) {source : Source} {below : List Source}
    (hs : s.sources = source :: below) (hbase : source.base = base)
    (hcursor : source.cursor.Alike .same cursor)
    (hopened : s.sources.filterMap (·.entity) = opened) (hdepth : s.depth = opened.length + 1) :
    s.Emits w t (expansion w t opened base cursor) below := by
  fun_induction expansion w t opened base cursor generalizing s source below with
  | case1 opened base cursor e c hscan =>
    obtain ⟨u, hu⟩ := Cursor.scan_error_of_alike hcursor hscan
    exact emits_error (step_error hs hu)
  | case2 opened base cursor c hscan =>
    obtain ⟨u, hu, huc⟩ := Cursor.scan_of_alike hcursor hscan
    have := emits_ok (step_exhausted (w := w) (t := t) hs hu)
    rwa [← huc.location.eq fun _ _ => id]
  | case3 opened base cursor token location c hscan ih =>
    obtain ⟨u, hu, huc⟩ := Cursor.scan_of_alike hcursor hscan
    have hne : token ≠ .endOfInput := by
      rintro rfl
      exact Cursor.lexical_of_scan hscan
    rw [hs] at hopened
    rw [depth, hs] at hdepth
    have := (ih (s := (s.readTo source below u).note (.scanned location token))
      rfl hbase huc hopened hdepth).token (step_token hs hu) hne
    simp only [depth, hs, hdepth] at this
    exact this
  | case4 opened base cursor name location c hscan e hopen =>
    subst hbase
    obtain ⟨u, hu, -⟩ := Cursor.scan_of_alike hcursor hscan
    obtain ⟨s', hs'⟩ := enter_error (s := s.readTo source below u) hopen
    have hstep := step_reference (w := w) (t := t) hs hu
    rw [hs'] at hstep
    exact emits_error hstep
  | case5 opened base cursor name location c hscan text hopen hcycle =>
    subst hbase
    obtain ⟨u, hu, -⟩ := Cursor.scan_of_alike hcursor hscan
    rw [hs] at hopened
    obtain ⟨s', hs'⟩ := enter_cycle (s := s.readTo source below u) hopen
      (isOpen_iff.2 (hopened ▸ hcycle))
    have hstep := step_reference (w := w) (t := t) hs hu
    rw [hs'] at hstep
    exact emits_error hstep
  | case6 opened base cursor name location c hscan text hopen hcycle e hcontent =>
    obtain ⟨cs, hcs⟩ := hread _ _ _ hopen
    rw [hcs] at hcontent
    cases hcontent
  | case7 opened base cursor name location c hscan text hopen hcycle content hcontent ihe ihrest =>
    subst hbase
    obtain ⟨u, hu, huc⟩ := Cursor.scan_of_alike hcursor hscan
    rw [hs] at hopened
    rw [depth, hs] at hdepth
    have hnot : ¬(s.readTo source below u).isOpen name :=
      fun h => hcycle (hopened ▸ isOpen_iff.1 h)
    have hstep := step_reference (w := w) (t := t) hs hu
    rw [enter_ok (s := s.readTo source below u) hopen hnot] at hstep
    have hflat : Cursor.Alike .same { name := text.origin.text, unread := text.content }
        { name := text.origin.text, pending := content, unread := .done } := by
      obtain ⟨hahead, hbehind⟩ := Reader.readAll_eq_ok.1 hcontent
      exact ⟨rfl, rfl, by simp [Cursor.rest, Reader.ahead, hahead], hbehind⟩
    refine .silent hstep (.followedBy (ihe rfl rfl hflat ?_ ?_) fun s' hs' => ?_)
    · rw [← hopened]
      rfl
    · rw [List.length_cons, ← hdepth]
      rfl
    · refine ihrest hs' rfl huc ?_ ?_
      · rw [hs', ← hopened]
        rfl
      · rw [depth, hs', ← hdepth]
        rfl

/-- Scanning a text gives its recursive expansion: the same tokens at the same locations and
depths up to the end or the first error, and the same error. -/
theorem seen_ofText (w : World) (t : EntityTable) (name text : String) (dir : Path)
    (hread : Readable w t) :
    (ofText name text dir).seen w t =
      (expansion w t [] (.dir dir) { name, pending := text.toList, unread := .done }).items := by
  have hflat : Cursor.Alike .same { name, unread := .ofText text }
      { name, pending := text.toList, unread := .done } := by
    obtain ⟨hahead, hbehind⟩ := Reader.readAll_eq_ok.1 (Reader.readAll_ofText text)
    exact ⟨rfl, rfl, by simp [Cursor.rest, Reader.ahead, hahead], hbehind⟩
  have h := emits_expansion (s := ofText name text dir) hread [] (.dir dir) _ rfl rfl hflat rfl rfl
  generalize expansion w t [] (.dir dir) { name, pending := text.toList, unread := .done } = e at h
  obtain ⟨lexemes, outcome⟩ := e
  cases outcome with
  | error error => exact h
  | ok ending =>
    obtain ⟨s', hsources, hending, hseen⟩ := h
    rw [hseen, seen_nil hsources, hending]
    rfl

/-- The values of entities can be read; only files and pages may have unreadable lines. -/
theorem readable_of_values (h : t.uris = []) : Readable w t := by
  intro name base text ht
  unfold EntityTable.openReference at ht
  rw [h] at ht
  simp only [Bindings.get?, List.lookup_nil] at ht
  split at ht
  · rename_i value _
    cases ht
    refine ⟨(Text.trim value).toList, ?_⟩
    simp only [Reader.readAll_ofText]
  · cases ht

/-- Nested references in values, with a cycle behind them. -/
theorem seen_ofText_cycle :
    let w : World := ⟨⟨fun _ => .error .notFound, fun _ => .error .notFound⟩, .unreachable⟩
    let t : EntityTable := { values := [("a", "x %b;"), ("b", "y"), ("c", "z %c;")] }
    let text := "%a; %b; %c;"
    Readable w t ∧
      (ofText "cycle.dtd" text ".").seen w t =
        (expansion w t [] (.dir ".")
          { name := "cycle.dtd", pending := text.toList, unread := .done }).items := by
  intro w t text
  have hread : Readable w t := readable_of_values rfl
  exact ⟨hread, seen_ofText w t "cycle.dtd" text "." hread⟩

end SourceStack

end Doctype
