import Doctype.Proofs.Cursor.Tokens
import Doctype.Proofs.Cursor.Walks
import Doctype.Proofs.Model.Table
import Doctype.Proofs.Source.Directory
import Doctype.Proofs.Source.Steps

/-! What goes wrong in open sources: a text is malformed or cannot be read, or a reference in it
cannot be entered. -/
namespace Doctype

/-- The errors of a well-formed reference. -/
inductive Error.Referential : Error → Prop
  | undeclared (name : String) : Referential (.undeclaredEntity name)
  | unresolved (name target reason : String) : Referential (.unresolvedReference name target reason)
  | cyclic (name : String) : Referential (.cyclicEntity name)

/-- The errors of open sources: those of their texts, and those of a reference at its location. -/
inductive Error.Sourced : Error → Prop
  | text {e : Error} : e.Textual → Sourced e
  | reference {e : Error} (l : Location) : e.Referential → Sourced (.located l e)

theorem Error.Referential.locate {e : Error} (h : e.Referential) (l : Location) :
    e.locate l = .located l e := by
  cases h <;> rfl

namespace Lexed

theorem isNameOf_takeWhile {cs : List Char} (h : cs.head?.any isNameStart) :
    isNameOf (cs.takeWhile isNameChar) := by
  cases cs with
  | nil => cases h
  | cons c cs =>
    have hc : isNameStart c := h
    have hchar : isNameChar c := by simp only [isNameChar, hc, Bool.true_or]
    rw [List.takeWhile_cons_of_pos hchar, isNameOf, hc, Bool.true_and, List.all_eq_true]
    exact fun d hd => List.mem_takeWhile_imp hd

theorem isName_of_percent {cs rest : List Char} {name : String}
    (h : percent cs = .reference name rest) : isName name := by
  unfold percent at h
  split at h
  · rename_i hhead
    split at h
    · cases h
      rw [isName, String.toList_ofList]
      exact isNameOf_takeWhile hhead
    · cases h
  · cases h

end Lexed

theorem isName_of_lex {cs rest : List Char} {name : String} (h : lex cs = .reference name rest) :
    isName name := by
  unfold lex at h
  split at h
  · cases h
  · exact Lexed.isName_of_percent h
  · split at h <;> cases h

/-- What is scanned as a reference has a name. -/
theorem Cursor.isName_of_scan {s s' : Cursor} {name : String} {l : Location}
    (h : scan s = .ok (.reference name l) s') : isName name := by
  obtain ⟨l', hl⟩ := lex_of_scan h
  cases hx : lex s.rest with
  | reference name' rest =>
    rw [hx] at hl
    cases hl
    exact isName_of_lex hx
  | token | exhausted | malformed =>
    rw [hx] at hl
    cases hl

namespace EntityTable

variable {t : EntityTable} {files : FileSystem} {web : Web} {w : World} {name target : String}
  {base : Base} {e : Error}

theorem unresolved_of_locateUrl {url : Url} (h : locateUrl files name target url = .error e) :
    ∃ reason, e = .unresolvedReference name target reason := by
  unfold locateUrl at h
  split at h
  · split at h
    · cases h
      exact ⟨_, rfl⟩
    · split at h <;> cases h
      exact ⟨_, rfl⟩
  · split at h <;> cases h
    exact ⟨_, rfl⟩

theorem unresolved_of_locate (h : locate files name target base = .error e) :
    ∃ reason, e = .unresolvedReference name target reason := by
  unfold locate at h
  dsimp only at h
  split at h
  · split at h
    · exact unresolved_of_locateUrl h
    · cases h
      exact ⟨_, rfl⟩
    · cases h
      exact ⟨_, rfl⟩
  · split at h
    · cases h
    · split at h
      · exact unresolved_of_locateUrl h
      · cases h
        exact ⟨_, rfl⟩
      · cases h
        exact ⟨_, rfl⟩

theorem unresolved_of_fetch {place : Located} (h : fetch web name target place = .error e) :
    ∃ reason, e = .unresolvedReference name target reason := by
  cases place with
  | byPath | byUri => cases h
  | remote url =>
    unfold fetch at h
    dsimp only at h
    split at h <;> cases h
    exact ⟨_, rfl⟩

theorem referential_of_openReference (hname : isName name)
    (h : t.openReference w name base = .error e) : e.Referential := by
  cases huri : t.uris.get? name with
  | none =>
    unfold openReference at h
    rw [huri] at h
    dsimp only at h
    split at h
    · cases h
    · rw [if_pos hname] at h
      cases h
      exact .undeclared name
  | some target =>
    rw [openReference_of_uri huri] at h
    cases hplace : locate w.files name target base with
    | error e' =>
      rw [hplace] at h
      cases h
      obtain ⟨reason, rfl⟩ := unresolved_of_locate hplace
      exact .unresolved name target reason
    | ok place =>
      rw [hplace] at h
      obtain ⟨reason, rfl⟩ := unresolved_of_fetch h
      exact .unresolved name target reason

end EntityTable

namespace SourceStack

variable {w : World} {t : EntityTable} {s s' : SourceStack} {name : String} {e : Error}

theorem referential_of_enter (hname : isName name) (h : s.enter w t name = .error e s') :
    e.Referential := by
  cases hopen : t.openReference w name s.base with
  | error e' =>
    unfold enter at h
    rw [hopen] at h
    cases h
    exact EntityTable.referential_of_openReference hname hopen
  | ok text =>
    by_cases ho : s.isOpen name
    · obtain ⟨u, hu⟩ := enter_cycle hopen ho
      rw [hu] at h
      cases h
      exact .cyclic name
    · rw [enter_ok hopen ho] at h
      cases h

theorem sourced_of_step (h : s.step w t = .error e s') : e.Sourced := by
  cases hs : s.sources with
  | nil =>
    rw [step_nil hs] at h
    cases h
  | cons source below =>
    cases hscan : source.cursor.scan with
    | error e' cursor =>
      rw [step_error hs hscan] at h
      cases h
      exact .text (Cursor.walks_scan.error hscan).textual
    | ok scanned cursor =>
      cases scanned with
      | exhausted =>
        rw [step_exhausted hs hscan] at h
        cases h
      | token token location =>
        rw [step_token hs hscan] at h
        cases h
      | reference name location =>
        rw [step_reference hs hscan] at h
        split at h
        · rename_i e' u henter
          cases h
          have he := referential_of_enter (Cursor.isName_of_scan hscan) henter
          rw [he.locate]
          exact .reference location he
        · cases h

/-- No other error ends scanning. -/
theorem sourced_of_next (h : s.next w t = .error e s') : e.Sourced := by
  fun_induction SourceStack.next w t s with
  | case1 s e' u hstep =>
    cases h
    exact sourced_of_step hstep
  | case2 => cases h
  | case3 s u hstep ih => exact ih h

theorem textual_of_skipIgnored (h : s.skipIgnored = .error e s') : e.Textual := by
  unfold skipIgnored at h
  split at h
  · cases h
    exact .lexical _ _
  · split at h
    · rename_i hskip
      cases h
      exact ((Cursor.walks_skipSections 0).error hskip).textual
    · dsimp only at h
      split at h <;> cases h
      exact .lexical _ _

end SourceStack

end Doctype
