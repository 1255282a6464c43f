import Doctype.Proofs.Model.Precedence
import Doctype.Proofs.Model.Segments

/-! Texts that are expanded twice. The values that take the place of references can make up new ones
with what stands around them, so a second expansion need not give the same text. -/
namespace Doctype

/-- The beginning of a name, which can still be empty. -/
def Fragment (cs : List Char) : Prop :=
  cs = [] ∨ isNameOf cs = true

/-- Characters without references. -/
def Free (cs : List Char) : Prop :=
  ∀ name, isName name = true → ¬(Segment.reference name).written <:+: cs

/-- Characters whose end can be the beginning of a reference. -/
def Dangling (cs : List Char) : Prop :=
  ∃ fragment, Fragment fragment ∧ '%' :: fragment <:+ cs

/-- Characters where no reference stands behind what can be the beginning of another one. -/
def Sealed (cs : List Char) : Prop :=
  ∀ fragment name, Fragment fragment → isName name = true →
    ¬ '%' :: (fragment ++ (Segment.reference name).written) <:+: cs

section Characters

variable {cs ds front back fragment : List Char} {c : Char} {name : String}
  {segments : List Segment}

theorem isNameOf_cons_append :
    isNameOf (c :: cs ++ ds) = (isNameOf (c :: cs) && ds.all isNameChar) := by
  simp only [List.cons_append, isNameOf, List.all_append, Bool.and_assoc]

theorem Fragment.shorten (h : Fragment ds) (hcs : cs <+: ds) : Fragment cs := by
  cases cs with
  | nil => exact .inl rfl
  | cons c cs =>
    obtain ⟨rest, rfl⟩ := hcs
    have hname := h.resolve_left (List.cons_ne_nil _ _)
    rw [isNameOf_cons_append, Bool.and_eq_true_iff] at hname
    exact .inr hname.1

theorem Fragment.isNameChar (h : Fragment cs) : ∀ c ∈ cs, isNameChar c = true := by
  rcases h with rfl | h
  · exact nofun
  · exact isNameChar_of_isNameOf h

/-- A name can go on with a letter. -/
theorem Fragment.isNameOf_append (h : Fragment cs) : isNameOf (cs ++ ['x']) = true := by
  cases cs with
  | nil => decide
  | cons c cs =>
    rw [isNameOf_cons_append, h.resolve_left (List.cons_ne_nil _ _)]
    decide

theorem fragment_of_isName (h : isName name = true) : Fragment name.toList :=
  .inr h

theorem Free.of_infix (h : Free cs) (hds : ds <:+: cs) : Free ds :=
  fun name hname hin => h name hname (hin.trans hds)

theorem Dangling.of_suffix (h : Dangling ds) (hds : ds <:+ cs) : Dangling cs := by
  obtain ⟨fragment, hfragment, hsuffix⟩ := h
  exact ⟨fragment, hfragment, hsuffix.trans hds⟩

theorem Sealed.of_infix (h : Sealed cs) (hds : ds <:+: cs) : Sealed ds :=
  fun fragment name hfragment hname hin => h fragment name hfragment hname (hin.trans hds)

theorem free_cons (h : c = '%' → ∀ name, isName name = true → ¬name.toList ++ [';'] <+: cs)
    (hcs : Free cs) : Free (c :: cs) := by
  intro name hname hin
  rcases List.infix_cons_iff.1 hin with hstart | hin
  · obtain ⟨hc, hstart⟩ := List.cons_prefix_cons.1 hstart
    exact h hc.symm name hname hstart
  · exact hcs name hname hin

theorem Dangling.cons_cases (h : Dangling (c :: cs)) : c = '%' ∧ Fragment cs ∨ Dangling cs := by
  obtain ⟨fragment, hfragment, hsuffix⟩ := h
  rcases List.suffix_cons_iff.1 hsuffix with heq | hsuffix
  · obtain ⟨rfl, rfl⟩ := List.cons.inj heq
    exact .inl ⟨rfl, hfragment⟩
  · exact .inr ⟨fragment, hfragment, hsuffix⟩

/-- No reference comes about where characters that cannot be the beginning of one are in front. -/
theorem Free.append (hcs : Free cs) (hdangling : ¬Dangling cs) (hds : Free ds) :
    Free (cs ++ ds) := by
  induction cs with
  | nil => exact hds
  | cons c cs ih =>
    have hsuffix : cs <:+ c :: cs := List.suffix_cons c cs
    refine free_cons ?_ (ih (hcs.of_infix hsuffix.isInfix) fun h => hdangling (h.of_suffix hsuffix))
    rintro rfl name hname hstart
    have hnot : ¬name.toList ++ [';'] <+: cs := fun h =>
      hcs name hname (List.cons_prefix_cons.2 ⟨rfl, h⟩).isInfix
    rcases List.prefix_or_prefix_of_prefix hstart (List.prefix_append cs ds) with h | h
    · exact hnot h
    · rcases List.prefix_concat_iff.1 h with h | h
      · exact hnot (h ▸ List.prefix_rfl)
      · exact hdangling ⟨cs, (fragment_of_isName hname).shorten h, List.suffix_rfl⟩

theorem Dangling.of_append (h : Dangling (cs ++ ds)) : Dangling cs ∨ Dangling ds := by
  induction cs with
  | nil => exact .inr h
  | cons c cs ih =>
    rcases h.cons_cases with ⟨rfl, hfragment⟩ | h
    · exact .inl ⟨cs, hfragment.shorten (List.prefix_append _ _), List.suffix_rfl⟩
    · exact (ih h).imp_left (·.of_suffix (List.suffix_cons c cs))

theorem free_of_not_mem (h : ';' ∉ cs) : Free cs :=
  fun _ _ hin => h (hin.subset (by simp [Segment.written]))

theorem not_dangling_of_not_mem (h : '%' ∉ cs) : ¬Dangling cs := by
  rintro ⟨fragment, -, hsuffix⟩
  exact h (hsuffix.subset List.mem_cons_self)

theorem percent_not_mem (h : isName name = true) : '%' ∉ name.toList ++ [';'] := by
  intro hmem
  rcases List.mem_append.1 hmem with hmem | hmem
  · exact absurd (isNameChar_of_isNameOf h '%' hmem) (by decide)
  · exact absurd hmem (by decide)

theorem prefix_of_not_mem (hc : c ∉ cs) (h : cs ++ ds = front ++ c :: back) : cs <+: front := by
  rcases List.append_eq_append_iff.1 h with ⟨more, rfl, -⟩ | ⟨more, rfl, hmore⟩
  · exact List.prefix_append _ _
  · cases more with
    | nil => exact ⟨[], by simp⟩
    | cons d more =>
      obtain ⟨rfl, -⟩ := List.cons.inj hmore
      exact absurd (List.mem_append_right _ List.mem_cons_self) hc

namespace Segment

/-- A `%` stands at the beginning of a reference or outside of all references, so that a text falls
into the segments in front of the `%` and those from there on. -/
theorem Splits.append_percent (h : Splits (front ++ '%' :: cs) segments) :
    ∃ before behind, segments = before ++ behind ∧ Splits front before ∧
      Splits ('%' :: cs) behind := by
  generalize hall : front ++ '%' :: cs = all at h
  induction h generalizing front with
  | nil => simp at hall
  | @reference name rest segments hname hrest ih =>
    cases front with
    | nil =>
      rw [List.nil_append] at hall
      exact ⟨[], _, rfl, .nil, hall ▸ .reference hname hrest⟩
    | cons d front =>
      obtain ⟨rfl, hspan⟩ := List.cons.inj hall
      obtain ⟨front, rfl⟩ := prefix_of_not_mem (percent_not_mem hname) hspan.symm
      have hrest : front ++ '%' :: cs = rest :=
        List.append_cancel_left ((List.append_assoc _ _ _).symm.trans hspan)
      obtain ⟨before, behind, rfl, hbefore, hbehind⟩ := ih hrest
      exact ⟨_, behind, rfl, .reference hname hbefore, hbehind⟩
  | @char c rest segments hplain hrest ih =>
    cases front with
    | nil =>
      rw [List.nil_append] at hall
      exact ⟨[], _, rfl, .nil, hall ▸ .char hplain hrest⟩
    | cons d front =>
      obtain ⟨rfl, rfl⟩ := List.cons.inj hall
      obtain ⟨before, behind, rfl, hbefore, hbehind⟩ := ih rfl
      refine ⟨_, behind, rfl, .char (fun name hname hstart => ?_) hbefore, hbehind⟩
      exact hplain name hname (hstart.trans (List.prefix_append (_ :: front) _))

/-- The segments of a text from a reference on. -/
theorem Splits.append_reference (hname : isName name = true)
    (h : Splits (front ++ ((Segment.reference name).written ++ back)) segments) :
    ∃ before behind, segments = before ++ Segment.reference name :: behind ∧ Splits front before ∧
      Splits back behind := by
  obtain ⟨before, behind, rfl, hbefore, hbehind⟩ := append_percent h
  obtain ⟨rest, hrest⟩ := exists_splits back
  exact ⟨before, rest, by rw [hbehind.unique (.reference hname hrest)], hbefore, hrest⟩

theorem Splits.mem_of_infix (h : Splits cs segments) (hname : isName name = true)
    (hin : (Segment.reference name).written <:+: cs) : Segment.reference name ∈ segments := by
  obtain ⟨front, back, rfl⟩ := hin
  rw [List.append_assoc] at h
  obtain ⟨before, behind, rfl, -, -⟩ := h.append_reference hname
  exact List.mem_append_right _ List.mem_cons_self

/-- A text is filled as it is up to its first reference. -/
theorem Splits.filled_cases (t : EntityTable) (h : Splits cs segments) :
    segments.flatMap (·.filled t) = cs ∨
      ∃ front back name rest, isName name = true ∧
        cs = front ++ ((Segment.reference name).written ++ rest) ∧
        segments.flatMap (·.filled t) = front ++ back := by
  induction h with
  | nil => exact .inl rfl
  | @reference name cs segments hname _ ih => exact .inr ⟨[], _, name, cs, hname, rfl, rfl⟩
  | @char c cs segments _ _ ih =>
    rw [List.flatMap_cons]
    rcases ih with ih | ⟨front, back, name, rest, hname, rfl, ih⟩
    · exact .inl (congrArg (c :: ·) ih)
    · exact .inr ⟨c :: front, back, name, rest, hname, rfl, congrArg (c :: ·) ih⟩

theorem Splits.filled_of_free (t : EntityTable) (h : Splits cs segments) (hfree : Free cs) :
    segments.flatMap (·.filled t) = cs := by
  refine (h.filled_cases t).resolve_right ?_
  rintro ⟨front, back, name, rest, hname, rfl, -⟩
  exact hfree name hname ⟨front, rest, List.append_assoc _ _ _⟩

end Segment

end Characters

namespace EntityTable

variable {t u : EntityTable} {cs front fragment : List Char} {segments : List Segment}
  {history : List Attempt} {text value name : String}

/-- No value of a table has a reference in it or can be the beginning of one. -/
def Tight (t : EntityTable) : Prop :=
  ∀ name value, t.values.get? name = some value → Free value.toList ∧ ¬Dangling value.toList

theorem Tight.filled (h : t.Tight) (name : String) :
    Free ((Segment.reference name).filled t) ∧ ¬Dangling ((Segment.reference name).filled t) := by
  cases hget : t.values.get? name with
  | none =>
    rw [Segment.filled, hget]
    exact ⟨free_of_not_mem (by simp), not_dangling_of_not_mem (by simp)⟩
  | some value =>
    rw [Segment.filled, hget]
    exact h name value hget

/-- Values without references cannot move the text behind a reference to the right. -/
theorem references_of_filled_eq (ht : t.Tight) (h : Segment.Splits cs segments)
    (hfilled : segments.flatMap (·.filled t) = front ++ cs) :
    front = [] ∧ ∀ name, Segment.reference name ∉ segments := by
  induction h generalizing front with
  | nil => exact ⟨(List.append_eq_nil_iff.1 hfilled.symm).1, fun _ => List.not_mem_nil⟩
  | @reference name cs segments hname _ ih =>
    exfalso
    rw [List.flatMap_cons, ← List.append_assoc] at hfilled
    rcases List.append_eq_append_iff.1 hfilled with ⟨more, hmore, hrest⟩ | ⟨more, hmore, -⟩
    · obtain ⟨rfl, -⟩ := ih hrest
      rw [List.append_nil] at hmore
      exact (ht.filled name).1 name hname ⟨front, [], by rw [← hmore, List.append_nil]⟩
    · exact (ht.filled name).1 name hname ⟨front, more, hmore.symm⟩
  | @char c cs segments _ _ ih =>
    rw [List.flatMap_cons] at hfilled
    cases front with
    | nil =>
      obtain ⟨-, hnone⟩ := @ih [] (List.cons.inj hfilled).2
      exact ⟨rfl, fun name hmem => (List.mem_cons.1 hmem).elim nofun (hnone name)⟩
    | cons d front =>
      have hrest : segments.flatMap (·.filled t) = (front ++ [c]) ++ cs := by
        rw [List.append_assoc]
        exact (List.cons.inj hfilled).2
      exact absurd (ih hrest).1 (by simp)

theorem inert_iff_free : Inert text ↔ Free text.toList :=
  Iff.rfl

/-- A text stands for itself if and only if it has no references. -/
theorem expand_eq_self_iff (ht : t.Tight) : t.expand text = .ok text ↔ Inert text := by
  constructor
  · intro h name hname hin
    obtain ⟨segments, hsegments⟩ := Segment.exists_splits text.toList
    obtain ⟨-, hfilled⟩ := (expand_eq_ok_iff hsegments).1 h
    have hshift : segments.flatMap (·.filled t) = [] ++ text.toList := hfilled.symm
    have hnone := (references_of_filled_eq ht hsegments hshift).2
    exact hnone name (hsegments.mem_of_infix hname hin)
  · exact expand_of_inert

/-- Behind a `%`, a text is filled as it is as long as it can still be a name. -/
theorem filled_eq_or_not_fragment (h : Segment.Splits cs segments) (hsealed : Sealed ('%' :: cs)) :
    segments.flatMap (·.filled t) = cs ∨
      ∃ front, ¬Fragment front ∧ front <+: cs ∧ front <+: segments.flatMap (·.filled t) := by
  rcases h.filled_cases t with hfilled | ⟨front, back, name, rest, hname, rfl, hfilled⟩
  · exact .inl hfilled
  · refine .inr ⟨front, fun hfragment => ?_, List.prefix_append _ _, ⟨back, hfilled.symm⟩⟩
    exact hsealed front name hfragment hname ⟨[], rest, by simp⟩

/-- References come about neither in the values of a sealed text nor between them. -/
theorem free_filled (ht : t.Tight) (h : Segment.Splits cs segments) (hsealed : Sealed cs) :
    Free (segments.flatMap (·.filled t)) := by
  induction h with
  | nil => exact free_of_not_mem List.not_mem_nil
  | @reference name cs segments _ _ ih =>
    have hrest := ih (hsealed.of_infix (List.suffix_append _ _).isInfix)
    exact (ht.filled name).1.append (ht.filled name).2 hrest
  | @char c cs segments hplain hsegments ih =>
    refine free_cons ?_ (ih (hsealed.of_infix (List.suffix_cons c cs).isInfix))
    rintro rfl name hname hstart
    have hnot : ¬name.toList ++ [';'] <+: cs := fun h =>
      hplain name hname (List.cons_prefix_cons.2 ⟨rfl, h⟩)
    rcases filled_eq_or_not_fragment hsegments hsealed with hfilled | ⟨front, hfront, hcs, hfilled⟩
    · exact hnot (hfilled ▸ hstart)
    · rcases List.prefix_or_prefix_of_prefix hstart hfilled with h | h
      · exact hnot (h.trans hcs)
      · rcases List.prefix_concat_iff.1 h with rfl | h
        · exact hnot hcs
        · exact hfront ((fragment_of_isName hname).shorten h)

theorem dangling_of_filled (ht : t.Tight) (h : Segment.Splits cs segments) (hsealed : Sealed cs)
    (hdangling : Dangling (segments.flatMap (·.filled t))) : Dangling cs := by
  induction h with
  | nil => exact hdangling
  | @reference name cs segments _ _ ih =>
    have hsuffix : cs <:+ (Segment.reference name).written ++ cs := List.suffix_append _ _
    rcases hdangling.of_append with h | h
    · exact absurd h (ht.filled name).2
    · exact (ih (hsealed.of_infix hsuffix.isInfix) h).of_suffix hsuffix
  | @char c cs segments _ hsegments ih =>
    have hsuffix : cs <:+ c :: cs := List.suffix_cons c cs
    rcases hdangling.cons_cases with ⟨rfl, hfragment⟩ | h
    · rcases filled_eq_or_not_fragment hsegments hsealed with hfilled | ⟨front, hfront, -, hfilled⟩
      · exact ⟨cs, hfilled ▸ hfragment, List.suffix_rfl⟩
      · exact absurd (hfragment.shorten hfilled) hfront
    · exact (ih (hsealed.of_infix hsuffix.isInfix) h).of_suffix hsuffix

theorem tight_declare {kind : EntityKind} {content : String} (ht : t.Tight)
    (hcontent : kind = .value → Sealed content.toList ∧ ¬Dangling content.toList)
    (h : t.declare name kind content = .ok u) : u.Tight := by
  obtain ⟨-, ⟨-, rfl⟩ | ⟨hc, ⟨hkind, value, hvalue, rfl⟩ | ⟨-, rfl⟩⟩⟩ := declare_cases h
  · exact ht
  · obtain ⟨hsealed, hdangling⟩ := hcontent hkind
    obtain ⟨segments, hsegments⟩ := Segment.exists_splits content.toList
    obtain ⟨-, hfilled⟩ := (expand_eq_ok_iff hsegments).1 hvalue
    intro n text hget
    rw [Bindings.get?_insertSorted (contains_eq_false_iff.1 hc).1] at hget
    split at hget
    · cases hget
      rw [hfilled]
      exact ⟨free_filled ht hsegments hsealed,
        fun hd => hdangling (dangling_of_filled ht hsegments hsealed hd)⟩
    · exact ht n text hget
  · exact ht

/-- Tables stay tight while all values are sealed and not the beginning of a reference. -/
theorem tight_after (h : ∀ a ∈ history, a.kind = .value →
    Sealed a.content.toList ∧ ¬Dangling a.content.toList) : (after history).Tight := by
  induction history using List.reverseRecOn with
  | nil => exact nofun
  | append_singleton history a ih =>
    have htight := ih fun b hb => h b (List.mem_append_left _ hb)
    cases ha : a.on (after history) with
    | error e =>
      rw [after_of_error ha]
      exact htight
    | ok u =>
      rw [after_of_ok ha]
      exact tight_declare htight (h a (List.mem_append_right _ List.mem_cons_self)) ha

section Unsealed

/-- Calls that give all names the same value. -/
def uniform (names : List String) (value : String) : List Attempt :=
  names.map (⟨·, .value, value⟩)

theorem mem_uniform {names : List String} {a : Attempt} (h : a ∈ uniform names value) :
    a.kind = .value ∧ a.content = value := by
  obtain ⟨n, -, rfl⟩ := List.mem_map.1 h
  exact ⟨rfl, rfl⟩

theorem succeeds_of_free {before : List Attempt} (hname : isName name = true)
    (hvalue : Free value.toList) : Succeeds before ⟨name, .value, value⟩ := by
  unfold Succeeds Attempt.on
  cases hc : (after before).contains name with
  | true => exact ⟨_, declare_of_contains hname hc⟩
  | false =>
    rw [declare_of_not_contains hname hc, expand_of_inert (inert_iff_free.2 hvalue)]
    exact ⟨_, rfl⟩

theorem get?_after_uniform {names : List String} (hmem : name ∈ names) (hname : isName name = true)
    (hvalue : Free value.toList) :
    (after (uniform names value)).values.get? name = some value := by
  have hcall : ⟨name, .value, value⟩ ∈ uniform names value := List.mem_map.2 ⟨name, hmem, rfl⟩
  obtain ⟨front, back, hsplit⟩ := List.append_of_mem hcall
  have hfront : front ++ [⟨name, .value, value⟩] <+: uniform names value :=
    ⟨back, by rw [List.append_assoc]; exact hsplit.symm⟩
  have hcontains := contains_of_succeeds hfront (succeeds_of_free hname hvalue)
  obtain ⟨before, a, ha, rfl, hfirst⟩ := exists_first hcontains
  obtain ⟨hkind, rfl⟩ := mem_uniform (ha.subset (List.mem_append_right _ List.mem_cons_self))
  have hstored := storedIn_of_first ha hfirst
  rw [Attempt.StoredIn, hkind] at hstored
  obtain ⟨-, -, text, htext, hget⟩ := hstored
  rw [expand_of_inert (inert_iff_free.2 hvalue)] at htext
  cases htext
  exact hget

/-- The name that a segment refers to. -/
def referred : Segment → Option String
  | .char _ => none
  | .reference name => some name

theorem isName_of_mem (h : Segment.Splits cs segments) (hmem : .reference name ∈ segments) :
    isName name = true := by
  induction h with
  | nil => cases hmem
  | reference hname _ ih =>
    rcases List.mem_cons.1 hmem with h | hmem
    · cases h
      exact hname
    · exact ih hmem
  | char _ _ ih => exact ih ((List.mem_cons.1 hmem).resolve_left nofun)

/-- A reference behind the beginning of another one completes it where its value ends in `;`. -/
theorem not_free_filled (h : Segment.Splits (front ++ '%' :: (fragment ++
      ((Segment.reference name).written ++ cs))) segments) (hfragment : Fragment fragment)
    (hname : isName name = true) (hget : t.values.get? name = some "x;") :
    ¬Free (segments.flatMap (·.filled t)) := by
  obtain ⟨before, behind, rfl, -, hbehind⟩ := h.append_percent
  rw [← List.cons_append] at hbehind
  obtain ⟨middle, rest, rfl, hmiddle, -⟩ := hbehind.append_reference hname
  have hsemicolon : ';' ∉ '%' :: fragment := by
    intro hmem
    rcases List.mem_cons.1 hmem with h | hmem
    · cases h
    · exact absurd (hfragment.isNameChar _ hmem) (by decide)
  have hfilled := hmiddle.filled_of_free t (free_of_not_mem hsemicolon)
  have hvalue : (Segment.reference name).filled t = ['x', ';'] := by
    rw [Segment.filled, hget]
    rfl
  intro hfree
  refine hfree (.ofList (fragment ++ ['x'])) (isName_ofList.trans hfragment.isNameOf_append)
    ⟨before.flatMap (·.filled t), rest.flatMap (·.filled t), ?_⟩
  rw [List.flatMap_append, List.flatMap_append, List.flatMap_cons, hfilled, hvalue]
  simp [Segment.written]

/-- What completes a reference has none in it and is not the beginning of one. -/
theorem tight_content : Free "x;".toList ∧ Sealed "x;".toList ∧ ¬Dangling "x;".toList := by
  have hpercent : '%' ∉ "x;".toList := by decide
  exact ⟨fun _ _ hin => hpercent (hin.subset List.mem_cons_self),
    fun _ _ _ _ hin => hpercent (hin.subset List.mem_cons_self), not_dangling_of_not_mem hpercent⟩

theorem exists_reexpanded (h : ¬Sealed text.toList) :
    ∃ names value, (after (uniform names "x;")).expand text = .ok value ∧
      (after (uniform names "x;")).expand value ≠ .ok value := by
  unfold Sealed at h
  push Not at h
  obtain ⟨fragment, name, hfragment, hname, front, back, hspan⟩ := h
  obtain ⟨segments, hsegments⟩ := Segment.exists_splits text.toList
  set t := after (uniform (segments.filterMap referred) "x;")
  have hget (n : String) (hn : .reference n ∈ segments) : t.values.get? n = some "x;" :=
    get?_after_uniform (List.mem_filterMap.2 ⟨_, hn, rfl⟩) (isName_of_mem hsegments hn)
      tight_content.1
  have htight : t.Tight := by
    refine tight_after fun a ha _ => ?_
    rw [(mem_uniform ha).2]
    exact tight_content.2
  refine ⟨segments.filterMap referred, .ofList (segments.flatMap (·.filled t)), ?_, fun hself => ?_⟩
  · exact (expand_eq_ok_iff hsegments).2
      ⟨fun n hn => Bindings.has_of_get? (hget n hn), String.toList_ofList⟩
  · have hfree := (expand_eq_self_iff htight).1 hself
    rw [inert_iff_free, String.toList_ofList] at hfree
    have hin : .reference name ∈ segments := by
      refine hsegments.mem_of_infix hname ?_
      exact ⟨front ++ '%' :: fragment, back, by simp [← hspan]⟩
    have hsplits : Segment.Splits (front ++ '%' :: (fragment ++
        ((Segment.reference name).written ++ back))) segments := by
      simpa [← hspan] using hsegments
    exact not_free_filled hsplits hfragment hname (hget name hin) hfree

end Unsealed

/-- A second expansion gives the same text under all declarations of sealed values that are not the
beginning of a reference if and only if the text is sealed. -/
theorem expand_twice_iff_sealed (text : String) :
    Sealed text.toList ↔
      ∀ history, (∀ a ∈ history, a.kind = .value →
          Sealed a.content.toList ∧ ¬Dangling a.content.toList) →
        ∀ value, (after history).expand text = .ok value →
          (after history).expand value = .ok value := by
  constructor
  · intro hsealed history hhistory value hvalue
    obtain ⟨segments, hsegments⟩ := Segment.exists_splits text.toList
    have hfree := free_filled (tight_after hhistory) hsegments hsealed
    rw [← ((expand_eq_ok_iff hsegments).1 hvalue).2] at hfree
    exact expand_of_inert (inert_iff_free.2 hfree)
  · intro h
    by_contra hsealed
    obtain ⟨names, value, hvalue, hne⟩ := exists_reexpanded hsealed
    refine hne (h _ (fun a ha _ => ?_) value hvalue)
    rw [(mem_uniform ha).2]
    exact tight_content.2

/-- The value of `p` and the text behind its reference make up a reference to `x`. -/
theorem expand_twice_differs : ¬∀ (history : List Attempt) (text value : String),
    (after history).expand text = .ok value → (after history).expand value = .ok value := by
  intro h
  have hpercent : Inert "%" := inert_iff_free.2 (free_of_not_mem (by decide))
  have hletter : Inert "X" := inert_of_not_mem (by decide)
  have hp : (⟨"p", .value, "%"⟩ : Attempt).on {} = .ok { values := [("p", "%")] } := by
    rw [Attempt.on, declare_of_not_contains rfl rfl, expand_of_inert hpercent]
    rfl
  have hx : (⟨"x", .value, "X"⟩ : Attempt).on { values := [("p", "%")] } =
      .ok { values := [("p", "%"), ("x", "X")] } := by
    rw [Attempt.on, declare_of_not_contains rfl rfl, expand_of_inert hletter]
    rfl
  have hone : after [⟨"p", .value, "%"⟩] = { values := [("p", "%")] } := @after_of_ok [] _ _ hp
  have htwo : after [⟨"p", .value, "%"⟩, ⟨"x", .value, "X"⟩] =
      { values := [("p", "%"), ("x", "X")] } := @after_of_ok [_] _ _ (hone ▸ hx)
  have hglued : Segment.Splits "%p;x;".toList [.reference "p", .char 'x', .char ';'] := by
    change Segment.Splits ((Segment.reference "p").written ++ ['x', ';']) _
    exact .reference rfl (.char (plain_iff.2 nofun) (.char (plain_iff.2 nofun) .nil))
  have hreference : Segment.Splits "%x;".toList [.reference "x"] := by
    change Segment.Splits ((Segment.reference "x").written ++ []) _
    exact .reference rfl .nil
  have honce : (after [⟨"p", .value, "%"⟩, ⟨"x", .value, "X"⟩]).expand "%p;x;" = .ok "%x;" := by
    rw [htwo]
    exact (expand_eq_ok_iff hglued).2 ⟨by simp [Bindings.has], rfl⟩
  have htwice : (after [⟨"p", .value, "%"⟩, ⟨"x", .value, "X"⟩]).expand "%x;" = .ok "X" := by
    rw [htwo]
    exact (expand_eq_ok_iff hreference).2 ⟨by simp [Bindings.has], rfl⟩
  have hsame := (h _ _ _ honce).symm.trans htwice
  exact absurd (Except.ok.inj hsame) (by decide)

end EntityTable

end Doctype
