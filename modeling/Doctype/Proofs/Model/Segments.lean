import Doctype.Proofs.Cursor.Seam
import Doctype.Proofs.Source.Faults

/-! A text as a row of characters and references. Its expansion puts the values of the entities in the
place of the references, once and from left to right, and what counts as a reference in it is what a
scan takes for one. -/
namespace Doctype

/-- A part of a text that is expanded as a whole. -/
inductive Segment
  | char (c : Char)
  | reference (name : String)

namespace Segment

/-- A segment as it stands in a text. A reference is a name between `%` and `;`. -/
def written : Segment → List Char
  | char c => [c]
  | reference name => '%' :: (name.toList ++ [';'])

/-- A character stands for itself, a reference for the value of its entity. -/
def filled (t : EntityTable) : Segment → List Char
  | char c => [c]
  | reference name => ((t.values.get? name).getD "").toList

/-- The segments of a text: references wherever one begins, single characters elsewhere. -/
inductive Splits : List Char → List Segment → Prop
  | nil : Splits [] []
  | reference {name : String} {cs : List Char} {segments : List Segment} : isName name = true →
      Splits cs segments →
      Splits ((Segment.reference name).written ++ cs) (.reference name :: segments)
  | char {c : Char} {cs : List Char} {segments : List Segment} :
      (∀ name, isName name = true → ¬(Segment.reference name).written <+: c :: cs) →
      Splits cs segments → Splits (c :: cs) (.char c :: segments)

end Segment

/-- A text refers to an entity. -/
def Refers (text name : String) : Prop :=
  ∃ segments, Segment.Splits text.toList segments ∧ Segment.reference name ∈ segments

section Names

variable {cs ref rest : List Char} {c : Char} {name : String}

theorem isNameChar_of_isNameOf (h : isNameOf cs = true) : ∀ c ∈ cs, isNameChar c = true := by
  cases cs with
  | nil => cases h
  | cons c cs =>
    obtain ⟨hc, hcs⟩ := Bool.and_eq_true_iff.1 h
    rw [List.all_eq_true] at hcs
    intro d hd
    rcases List.mem_cons.1 hd with rfl | hd
    · simp only [isNameChar, hc, Bool.true_or]
    · exact hcs d hd

theorem isName_ofList : isName (.ofList cs) = isNameOf cs := by
  rw [isName, String.toList_ofList]

namespace EntityTable

/-- A reference goes up to its `;`, and there is a name in between. -/
theorem reference?_eq_some_iff :
    reference? cs = some (ref, rest) ↔ isNameOf ref = true ∧ cs = ref ++ ';' :: rest := by
  constructor
  · exact reference?_eq_some
  · rintro ⟨href, rfl⟩
    have hend : ∀ d ∈ (';' :: rest).head?, isNameChar d = false := by
      rintro d ⟨⟩
      decide
    obtain ⟨htake, hdrop⟩ := span_word (isNameChar_of_isNameOf href) hend
    unfold reference?
    rw [htake, hdrop]
    exact if_pos href

theorem reference?_toList (rest : List Char) (h : isName name = true) :
    reference? (name.toList ++ ';' :: rest) = some (name.toList, rest) :=
  reference?_eq_some_iff.2 ⟨h, rfl⟩

/-- No reference begins at a character that is no `%`, or at a `%` without a name and a `;`. -/
theorem plain_iff :
    (∀ name, isName name = true → ¬(Segment.reference name).written <+: c :: cs) ↔
      (c = '%' → reference? cs = none) := by
  constructor
  · rintro h rfl
    by_contra hsome
    obtain ⟨⟨ref, rest⟩, href⟩ := Option.ne_none_iff_exists'.1 hsome
    obtain ⟨hname, rfl⟩ := reference?_eq_some_iff.1 href
    refine h (.ofList ref) (isName_ofList.trans hname) ⟨rest, ?_⟩
    simp [Segment.written]
  · rintro h name hname ⟨rest, hrest⟩
    simp only [Segment.written, List.cons_append, List.append_assoc, List.nil_append,
      List.cons.injEq] at hrest
    obtain ⟨rfl, rfl⟩ := hrest
    rw [reference?_toList _ hname] at h
    exact absurd (h rfl) (by simp)

end EntityTable

end Names

namespace Lexed

variable {cs rest : List Char} {name : String}

/-- Behind a `%`, the scan and the expansion of a text agree on what a reference is. -/
theorem percent_eq_reference_iff :
    percent cs = .reference name rest ↔ isName name = true ∧ cs = name.toList ++ ';' :: rest := by
  constructor
  · intro h
    refine ⟨isName_of_percent h, ?_⟩
    have hspan : cs.takeWhile isNameChar ++ cs.dropWhile isNameChar = cs :=
      List.takeWhile_append_dropWhile
    unfold percent at h
    split at h
    · split at h
      · rename_i hdrop
        cases h
        rw [String.toList_ofList, ← hdrop, hspan]
      · cases h
    · cases h
  · rintro ⟨hname, rfl⟩
    have hlex := lex_reference rest hname
    rwa [lex_of_percent (List.dropWhile_cons_of_neg (by decide)), String.ofList_toList] at hlex

end Lexed

namespace Segment

variable {cs : List Char} {segments segments' : List Segment}

/-- Every text has segments. -/
theorem exists_splits (cs : List Char) : ∃ segments, Splits cs segments := by
  induction hn : cs.length using Nat.strong_induction_on generalizing cs with
  | _ n ih =>
    subst hn
    cases cs with
    | nil => exact ⟨[], .nil⟩
    | cons c cs =>
      by_cases hplain : c = '%' → EntityTable.reference? cs = none
      · obtain ⟨segments, hsegments⟩ := ih _ (Nat.lt_succ_self _) cs rfl
        exact ⟨_, .char (EntityTable.plain_iff.2 hplain) hsegments⟩
      · obtain ⟨rfl, hsome⟩ := Classical.not_imp.1 hplain
        obtain ⟨⟨ref, rest⟩, href⟩ := Option.ne_none_iff_exists'.1 hsome
        obtain ⟨hname, rfl⟩ := EntityTable.reference?_eq_some_iff.1 href
        obtain ⟨segments, hsegments⟩ := ih rest.length (by simp; omega) rest rfl
        have hsplits := Splits.reference (isName_ofList.trans hname) hsegments
        simp only [written, String.toList_ofList, List.cons_append, List.append_assoc,
          List.nil_append] at hsplits
        exact ⟨_, hsplits⟩

/-- A text has its segments in one way only. -/
theorem Splits.unique (h : Splits cs segments) (h' : Splits cs segments') :
    segments = segments' := by
  induction h generalizing segments' with
  | nil => cases h'; rfl
  | @reference name cs segments hname _ ih =>
    generalize hcs : (Segment.reference name).written ++ cs = ds at h'
    cases h' with
    | nil => simp [written] at hcs
    | @reference name' _ _ hname' hrest =>
      have href := EntityTable.reference?_toList cs hname
      simp only [written, List.cons_append, List.append_assoc, List.nil_append,
        List.cons.injEq, true_and] at hcs
      rw [hcs, EntityTable.reference?_toList _ hname'] at href
      simp only [Option.some.injEq, Prod.mk.injEq, String.toList_inj] at href
      obtain ⟨rfl, rfl⟩ := href
      rw [ih hrest]
    | char hplain => exact absurd ⟨cs, hcs⟩ (hplain name hname)
  | @char c cs segments hplain _ ih =>
    generalize hcs : c :: cs = ds at h'
    cases h' with
    | nil => cases hcs
    | @reference name' _ _ hname' _ => exact absurd ⟨_, hcs.symm⟩ (hplain name' hname')
    | char _ hrest =>
      cases hcs
      rw [ih hrest]

end Segment

namespace EntityTable

variable {t : EntityTable} {cs ds : List Char} {segments : List Segment} {text value name : String}
  {e : Error}

/-- The error of a reference to an entity without a value. -/
def missing (t : EntityTable) (name : String) : Error :=
  match t.uris.get? name with
  | some target =>
    .unresolvedReference name target "external entities cannot be expanded inside a literal"
  | none => .undeclaredEntity name

theorem replacement_of_get? (h : t.values.get? name = some value) :
    t.replacement name = .ok value := by
  unfold replacement
  rw [h]

theorem replacement_of_none (h : t.values.get? name = none) :
    t.replacement name = .error (t.missing name) := by
  unfold replacement missing
  rw [h]
  cases t.uris.get? name <;> rfl

/-- What some segments are expanded to one after the other. -/
def substitute (t : EntityTable) : List Segment → Except Error (List Char)
  | [] => .ok []
  | .char c :: segments => return c :: (← substitute t segments)
  | .reference name :: segments => do
    let text ← t.replacement name
    return text.toList ++ (← substitute t segments)

/-- A text is expanded segment by segment. -/
theorem expandChars_eq_substitute (h : Segment.Splits cs segments) :
    t.expandChars cs = t.substitute segments := by
  induction h with
  | nil => rw [expandChars, substitute]
  | @reference name cs segments hname _ ih =>
    have href := reference?_toList cs hname
    simp only [Segment.written, List.cons_append, List.append_assoc, List.nil_append]
    rw [expandChars, if_pos rfl, substitute]
    split
    · rename_i href'
      rw [href] at href'
      cases href'
      rw [String.ofList_toList, ih]
    · rename_i href'
      rw [href] at href'
      cases href'
  | @char c cs segments hplain _ ih =>
    rw [plain_iff] at hplain
    rw [expandChars, substitute, ih]
    split
    · rename_i hc
      split
      · rename_i href
        rw [hplain hc] at href
        cases href
      · rfl
    · rfl

/-- References to values are replaced, whatever comes behind them. -/
theorem substitute_append {front : List Segment} (back : List Segment)
    (h : ∀ name, Segment.reference name ∈ front → t.values.has name = true) :
    t.substitute (front ++ back) = (front.flatMap (·.filled t) ++ ·) <$> t.substitute back := by
  induction front with
  | nil =>
    rw [List.nil_append, List.flatMap_nil]
    cases t.substitute back <;> rfl
  | cons segment front ih =>
    have hfront := ih fun n hn => h n (List.mem_cons_of_mem _ hn)
    rw [List.cons_append]
    cases segment with
    | char c =>
      rw [substitute, hfront]
      cases t.substitute back <;> rfl
    | reference name =>
      obtain ⟨value, hvalue⟩ := Bindings.exists_get?_of_has (h name List.mem_cons_self)
      have hfilled : (Segment.reference name).filled t = value.toList := by
        rw [Segment.filled, hvalue, Option.getD_some]
      rw [substitute, hfront, replacement_of_get? hvalue, List.flatMap_cons, hfilled]
      cases t.substitute back with
      | error e => rfl
      | ok ds => exact congrArg Except.ok (List.append_assoc _ _ _).symm

/-- Either all references are to values, or one is the leftmost that is not. -/
theorem values_or_missing (t : EntityTable) (segments : List Segment) :
    (∀ name, Segment.reference name ∈ segments → t.values.has name = true) ∨
      ∃ front name back, segments = front ++ .reference name :: back ∧
        (∀ n, Segment.reference n ∈ front → t.values.has n = true) ∧
        t.values.has name = false := by
  induction segments with
  | nil => exact .inl nofun
  | cons segment segments ih =>
    by_cases hsegment : ∀ name, segment = .reference name → t.values.has name = true
    · rcases ih with hall | ⟨front, name, back, rfl, hfront, hname⟩
      · refine .inl fun name hmem => ?_
        rcases List.mem_cons.1 hmem with h | hmem
        · exact hsegment name h.symm
        · exact hall name hmem
      · refine .inr ⟨segment :: front, name, back, rfl, fun n hmem => ?_, hname⟩
        rcases List.mem_cons.1 hmem with h | hmem
        · exact hsegment n h.symm
        · exact hfront n hmem
    · obtain ⟨name, hname⟩ := Classical.not_forall.1 hsegment
      obtain ⟨rfl, hmissing⟩ := Classical.not_imp.1 hname
      exact .inr ⟨[], name, segments, rfl, nofun, Bool.not_eq_true _ ▸ hmissing⟩

theorem substitute_of_values
    (h : ∀ name, Segment.reference name ∈ segments → t.values.has name = true) :
    t.substitute segments = .ok (segments.flatMap (·.filled t)) := by
  have happend := substitute_append [] h
  rw [List.append_nil] at happend
  rw [happend, substitute]
  exact congrArg Except.ok (List.append_nil _)

theorem substitute_of_missing {front : List Segment} (back : List Segment)
    (h : ∀ n, Segment.reference n ∈ front → t.values.has n = true)
    (hname : t.values.has name = false) :
    t.substitute (front ++ .reference name :: back) = .error (t.missing name) := by
  rw [substitute_append _ h, substitute, replacement_of_none (Bindings.get?_eq_none_iff.2 hname)]
  rfl

theorem substitute_eq_ok_iff : t.substitute segments = .ok ds ↔
    (∀ name, Segment.reference name ∈ segments → t.values.has name = true) ∧
      ds = segments.flatMap (·.filled t) := by
  constructor
  · intro h
    rcases values_or_missing t segments with hall | ⟨front, name, back, rfl, hfront, hname⟩
    · rw [substitute_of_values hall] at h
      cases h
      exact ⟨hall, rfl⟩
    · rw [substitute_of_missing back hfront hname] at h
      cases h
  · rintro ⟨hall, rfl⟩
    exact substitute_of_values hall

theorem substitute_eq_error_iff : t.substitute segments = .error e ↔
    ∃ front name back, segments = front ++ .reference name :: back ∧
      (∀ n, Segment.reference n ∈ front → t.values.has n = true) ∧
      t.values.has name = false ∧ e = t.missing name := by
  constructor
  · intro h
    rcases values_or_missing t segments with hall | ⟨front, name, back, rfl, hfront, hname⟩
    · rw [substitute_of_values hall] at h
      cases h
    · rw [substitute_of_missing back hfront hname] at h
      cases h
      exact ⟨front, name, back, rfl, hfront, hname, rfl⟩
  · rintro ⟨front, name, back, rfl, hfront, hname, rfl⟩
    exact substitute_of_missing back hfront hname

theorem expand_eq_substitute (h : Segment.Splits text.toList segments) :
    t.expand text = String.ofList <$> t.substitute segments := by
  rw [expand, expandChars_eq_substitute h]

theorem expand_eq_ok_iff (h : Segment.Splits text.toList segments) : t.expand text = .ok value ↔
    (∀ name, Segment.reference name ∈ segments → t.values.has name = true) ∧
      value.toList = segments.flatMap (·.filled t) := by
  rw [expand_eq_substitute h, ← substitute_eq_ok_iff]
  cases t.substitute segments with
  | error e => exact iff_of_false nofun nofun
  | ok ds =>
    rw [Except.map_ok, Except.ok.injEq, Except.ok.injEq]
    constructor
    · rintro rfl
      exact String.toList_ofList.symm
    · rintro rfl
      exact String.ofList_toList

theorem expand_eq_error_iff (h : Segment.Splits text.toList segments) :
    t.expand text = .error e ↔
      ∃ front name back, segments = front ++ .reference name :: back ∧
        (∀ n, Segment.reference n ∈ front → t.values.has n = true) ∧
        t.values.has name = false ∧ e = t.missing name := by
  rw [expand_eq_substitute h, ← substitute_eq_error_iff]
  cases t.substitute segments with
  | error e' => rw [Except.map_error, Except.error.injEq, Except.error.injEq]
  | ok ds => exact iff_of_false nofun nofun

end EntityTable

/-- A scan meets a reference where the characters begin with one. -/
theorem Cursor.scan_reference_iff {cursor : Cursor} {cs rest : List Char} {name : String}
    (h : cursor.Shows cs) :
    (∃ location next, scan cursor = .ok (.reference name location) next ∧ next.Shows rest) ↔
      lex cs = .reference name rest := by
  constructor
  · rintro ⟨location, next, hscan, hrest⟩
    obtain ⟨l, rest', hlex, hrest'⟩ := h.lex_eq hscan
    obtain rfl : rest' = rest := hrest'.1.symm.trans hrest.1
    cases hcs : lex cs with
    | reference name' ds =>
      rw [hcs] at hlex
      cases hlex
      rfl
    | token | exhausted | malformed =>
      rw [hcs] at hlex
      cases hlex
  · intro hcs
    obtain ⟨location, hlexes⟩ := scan_lex h
    rw [hcs] at hlexes
    obtain ⟨next, hscan, hrest⟩ := hlexes
    exact ⟨location, next, hscan, hrest⟩

/-- A text is expanded in a single pass: each reference is replaced by a value that is not looked at
again, or the leftmost one without a value is the error. And a text that begins with a `%` begins with
a reference for a scan if it begins with one here. -/
theorem EntityTable.expand_single_pass (t : EntityTable) (text : String) :
    ∃ segments, (∀ other, Segment.Splits text.toList other ↔ other = segments) ∧
      (∀ value, t.expand text = .ok value ↔
        (∀ name, Segment.reference name ∈ segments → t.values.has name = true) ∧
          value.toList = segments.flatMap (·.filled t)) ∧
      (∀ e, t.expand text = .error e ↔
        ∃ front name back, segments = front ++ .reference name :: back ∧
          (∀ n, Segment.reference n ∈ front → t.values.has n = true) ∧
          t.values.has name = false ∧ e = t.missing name) ∧
      ∀ cursor name rest, cursor.Shows text.toList → text.toList.head? = some '%' →
        ((∃ location next, Cursor.scan cursor = .ok (.reference name location) next ∧
            next.Shows rest) ↔
          isName name = true ∧ text.toList = (Segment.reference name).written ++ rest) := by
  obtain ⟨segments, hsegments⟩ := Segment.exists_splits text.toList
  refine ⟨segments, fun other => ?_, fun value => expand_eq_ok_iff hsegments,
    fun e => expand_eq_error_iff hsegments, fun cursor name rest hshows hhead => ?_⟩
  · constructor
    · exact fun hother => hother.unique hsegments
    · rintro rfl
      exact hsegments
  · obtain ⟨cs, hcs⟩ := List.head?_eq_some_iff.1 hhead
    have hdrop : text.toList.dropWhile Text.isBlank = '%' :: cs := by
      rw [hcs]
      exact List.dropWhile_cons_of_neg (by decide)
    rw [Cursor.scan_reference_iff hshows, lex_of_percent hdrop, Lexed.percent_eq_reference_iff, hcs]
    simp [Segment.written]

/-- The first `%` is a character, and the one in the value of `x` is not looked at again. -/
example : ({ values := [("x", "%y;")] } : EntityTable).expand "5%%x;" = .ok "5%%y;" := by
  cbv

end Doctype
