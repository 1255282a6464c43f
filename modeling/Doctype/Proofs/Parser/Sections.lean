import Doctype.Proofs.Cursor.Nesting
import Doctype.Proofs.Parser.Extension
import Doctype.Proofs.Parser.Inclusion

/-! Conditional sections: what is included counts as if it stood outside, and what is ignored as if
it were not there. -/
namespace Doctype.Parser

variable {w : World} {source : Source} {p p' q r : Parser} {cs rest : List Char} {opener : Lexeme}

/-- Behind a `<![` the keyword and the `[` are read. -/
theorem takes_conditional {keyword : String} {i : Item} (hopener : opener.source = source.id)
    (hkeyword : keyword = "INCLUDE" ∧ i = .included opener ∨
      keyword = "IGNORE" ∧ i = .ignored opener) :
    Takes source (conditional w opener) (keyword.toList ++ '[' :: rest) (fun j => j = i) rest := by
  have hname : Nmtoken keyword := by
    rcases hkeyword with ⟨rfl, -⟩ | ⟨rfl, -⟩ <;> exact nmtoken_of_isName (by decide)
  refine (takes_expectName hname (apart_cons (by decide))).bind fun b hb => ?_
  refine (takes_expect (t := .bracket) rfl).bind fun bracket hbracket => ?_
  rw [if_neg (not_not.2 (hbracket.trans hopener.symm)), hb]
  rcases hkeyword with ⟨rfl, rfl⟩ | ⟨rfl, rfl⟩
  · exact takes_pure rfl
  · exact takes_pure rfl

/-- What follows the head of an `INCLUDE` section is parsed inside of the section. -/
theorem Stands.includes (h : p.Stands source ("<![INCLUDE[".toList ++ rest)) :
    ∃ (q : Parser) (location : Location), Advances w p (q.inside [(source.id, location)]) ∧
      q.Stands source rest ∧ q.declared = p.declared ∧ q.keepInstructions = p.keepInstructions := by
  have hlex : lex ("<![INCLUDE[".toList ++ rest) =
      .token .sectionOpen ("INCLUDE".toList ++ '[' :: rest) := rfl
  have hitem (l : Lexeme) (hl : l.token = .sectionOpen) (hsource : l.source = source.id) :
      Takes source (item w 0 l) ("INCLUDE".toList ++ '[' :: rest) (fun i => i = .included l)
        rest := by
    unfold item
    rw [hl]
    exact takes_conditional hsource (.inl ⟨rfl, rfl⟩)
  obtain ⟨l, ls, i, k, hreads, hsource, rfl, hstands, -⟩ := h.reads hlex nofun hitem
  have happly : Item.apply (.included l) { p with stack := k } =
      .ok () (inside [(source.id, l.location)] { p with stack := k }) := by
    unfold inside
    rw [h.sections, ← hsource]
    rfl
  exact ⟨{ p with stack := k }, l.location, hreads.advances_of_apply h.peeked happly, hstands, rfl,
    rfl⟩

/-- Behind the `]]>` of a section the parse goes on outside. -/
theorem Stands.excludes (h : p.Stands source ("]]>".toList ++ rest)) (location : Location) :
    ∃ q : Parser, Advances w (p.inside [(source.id, location)]) q ∧ q.Stands source rest ∧
      q.declared = p.declared ∧ q.keepInstructions = p.keepInstructions := by
  have hlex : lex ("]]>".toList ++ rest) = .token .sectionClose rest := rfl
  have hitem (l : Lexeme) (hl : l.token = .sectionClose) (_ : l.source = source.id) :
      Takes source (item w 0 l) rest (fun i => i = .sectionClose l) rest := by
    unfold item
    rw [hl]
    exact takes_pure rfl
  obtain ⟨l, ls, i, k, hreads, hsource, rfl, hstands, -⟩ := h.reads hlex nofun hitem
  refine ⟨{ p with stack := k }, hreads.advances_inside h.peeked ?_, hstands, rfl, rfl⟩
  change closeSection l _ = _
  rw [closeSection_eq]
  unfold inside
  simp only [h.sections, List.nil_append, hsource, if_true]

/-- An ignored section is left behind its `]]>`. -/
theorem Stands.ignores (h : p.Stands source ("<![IGNORE[".toList ++ (cs ++ ("]]>".toList ++ rest))))
    (hcs : Balanced cs) :
    ∃ q : Parser, Advances w p q ∧ q.Stands source rest ∧ q.declared = p.declared ∧
      q.keepInstructions = p.keepInstructions := by
  have hlex : lex ("<![IGNORE[".toList ++ (cs ++ ("]]>".toList ++ rest))) =
      .token .sectionOpen ("IGNORE".toList ++ '[' :: (cs ++ ("]]>".toList ++ rest))) := rfl
  have hitem (l : Lexeme) (hl : l.token = .sectionOpen) (hsource : l.source = source.id) :
      Takes source (item w 0 l) ("IGNORE".toList ++ '[' :: (cs ++ ("]]>".toList ++ rest)))
        (fun i => i = .ignored l) (cs ++ ("]]>".toList ++ rest)) := by
    unfold item
    rw [hl]
    exact takes_conditional hsource (.inr ⟨rfl, rfl⟩)
  obtain ⟨l, ls, i, k, hreads, hsource, rfl, hstands, -⟩ := h.reads hlex nofun hitem
  obtain ⟨c, front, hsources, hfront, hshows⟩ := hstands.sources
  have hskip := Cursor.gives_skipSections hshows 0
  have hleave : leaveSections 0 (cs ++ ("]]>".toList ++ rest)) = some rest :=
    leaveSections_of_closes hcs rest
  rw [leaveSections_blank_append hfront, hleave] at hskip
  obtain ⟨c', hc', hshows'⟩ := hskip
  have hignored : (k.note (.skipping l.location)).skipIgnored =
      .ok () ((k.note (.skipping l.location)).readTo { source with cursor := c } [] c') :=
    SourceStack.skipIgnored_ok hsources hc'
  obtain ⟨q, hq⟩ := apply_of_declares (p := { p with stack := k }) (i := .ignored l) rfl
    ⟨hignored, rfl⟩
  have heffect := effect_of_apply hq
  obtain ⟨hstack, hsections⟩ := heffect.moves
  rw [hignored] at hstack
  injection hstack with _ hstack
  refine ⟨q, ?_, ⟨h.entity, ⟨c', [], ?_, blank_nil, hshows'⟩, ?_, ?_, ?_⟩, ?_, heffect.keep⟩
  · exact hreads.advances_of_apply h.peeked hq
  · rw [← hstack]
    rfl
  · rw [← hstack]
    exact hstands.fresh
  · exact heffect.peeked.trans h.peeked
  · exact hsections.trans h.sections
  · exact Option.some.inj heffect.declares.symm

/-- A parse that passes a text also passes a section that includes the text. -/
theorem Stands.passes_section (h : p.Stands source cs)
    (h' : p'.Stands source ("<![INCLUDE[".toList ++ (cs ++ ("]]>".toList ++ rest))))
    (hdeclared : p'.declared = p.declared) (hkeep : p'.keepInstructions = p.keepInstructions)
    (hc : Completes w p r) :
    ∃ r' : Parser, r'.Stands source rest ∧ r'.declared = r.declared ∧
      r'.keepInstructions = p.keepInstructions ∧ ∀ e, Completes w p' e ↔ Completes w r' e := by
  obtain ⟨u, hu, he⟩ := hc
  obtain ⟨q, location, hopen, hq, hqdeclared, hqkeep⟩ := h'.includes (w := w)
  obtain ⟨v, hmeets, hiff⟩ := h.passes_inside Eq p.stack.refs hq rfl (hqkeep.trans hkeep)
    (hdeclared.symm.trans hqdeclared.symm) (fun _ => Nat.le_add_left _ _) coupling_eq hu he
    fun _ _ _ => trivial
  obtain ⟨r', hclose, hr', hrdeclared, hrkeep⟩ := hmeets.stands'.excludes (w := w) location
  refine ⟨r', hr', hrdeclared.trans hmeets.declared.symm, hrkeep.trans hmeets.keeps', fun e => ?_⟩
  have hopen' : Reaches w p' (q.inside [(source.id, location)]) := .single hopen
  have hclose' : Reaches w (v.inside [(source.id, location)]) r' := .single hclose
  rw [hopen'.completes_iff h'.peeked, hiff, hclose'.completes_iff hmeets.stands'.peeked]

variable {options : Options} {name A X B : String} {mA mX m : DocumentType}

/-- What is read in front of the same text declares the same. -/
theorem Stands.completes_iff (h : p.Stands source cs) (h' : p'.Stands source cs)
    (hdeclared : p'.declared = p.declared) (hkeep : p'.keepInstructions = p.keepInstructions) :
    (∃ e, Completes w p e ∧ m = e.result) ↔ ∃ e, Completes w p' e ∧ m = e.result := by
  constructor
  · rintro ⟨e, he, rfl⟩
    obtain ⟨e', he', hee'⟩ := h.completes_alike h' hdeclared hkeep he
    exact ⟨e', he', (result_congr hee').symm⟩
  · rintro ⟨e, he, rfl⟩
    obtain ⟨e', he', hee'⟩ := h'.completes_alike h hdeclared.symm hkeep.symm he
    exact ⟨e', he', (result_congr hee').symm⟩

/-- Behind a text that parses, a longer text is parsed from the end of the shorter one on. -/
theorem parses_append_iff (hA : Parses w options name A mA) :
    ∃ e, Completes w (start options name A) e ∧ mA = e.result ∧ ∀ tail : String, ∃ r : Parser,
      r.Stands (outermost options { name, unread := .done }) tail.toList ∧
      r.keepInstructions = options.keepInstructions ∧ r.declared = e.declared ∧
      (∀ e, Completes w (start options name (A ++ tail)) e ↔ Completes w r e) ∧
      ∀ m, Parses w options name (A ++ tail) m ↔ ∃ e, Completes w r e ∧ m = e.result := by
  obtain ⟨hu, e, ⟨p, hr, he⟩, rfl⟩ := parses_iff_completes.1 hA
  refine ⟨e, ⟨p, hr, he⟩, rfl, fun tail => ?_⟩
  obtain ⟨r, hmeets, hiff⟩ := start_append tail hr he
  refine ⟨r, hmeets.stands', hmeets.keeps', hmeets.declared.symm, hiff, fun m => ?_⟩
  rw [parses_iff_completes]
  simp only [hiff]
  exact and_iff_right hu

/-- A section that includes a text behind a DTD parses as the text does, if the text itself parses
there. -/
theorem parses_included_iff (hA : Parses w options name A mA)
    (hX : Parses w options name (A ++ X) mX) (B : String) (m : DocumentType) :
    Parses w options name (A ++ "<![INCLUDE[" ++ X ++ "]]>" ++ B) m ↔
      Parses w options name (A ++ X ++ B) m := by
  obtain ⟨eA, hcA, -, htails⟩ := parses_append_iff hA
  obtain ⟨eX, hcX, -, htailsX⟩ := parses_append_iff hX
  -- in front of the text, in front of the section and behind the text
  obtain ⟨s, hs, hskeep, hsdeclared, hsiff, -⟩ := htails X
  obtain ⟨s', hs', hskeep', hsdeclared', -, hiff'⟩ := htails ("<![INCLUDE[" ++ X ++ "]]>" ++ B)
  obtain ⟨t, ht, htkeep, htdeclared, -, hiff⟩ := htailsX B
  have hsection : s'.Stands (outermost options { name, unread := .done })
      ("<![INCLUDE[".toList ++ (X.toList ++ ("]]>".toList ++ B.toList))) := by
    simpa only [String.toList_append, List.append_assoc] using hs'
  obtain ⟨t', ht', htdeclared', htkeep', hcompletes⟩ := hs.passes_section hsection
    (hsdeclared'.trans hsdeclared.symm) (hskeep'.trans hskeep.symm) ((hsiff eX).1 hcX)
  have htail : A ++ "<![INCLUDE[" ++ X ++ "]]>" ++ B = A ++ ("<![INCLUDE[" ++ X ++ "]]>" ++ B) := by
    simp only [String.append_assoc]
  rw [htail, hiff', hiff]
  simp only [hcompletes]
  exact ht'.completes_iff ht (htdeclared.trans htdeclared'.symm)
    (htkeep.trans (htkeep'.trans hskeep).symm)

/-- A section that ignores a text parses as nothing does, whatever stands in the text besides marks
that match each other. -/
theorem parses_ignored_iff (hA : Parses w options name A mA) (hX : Balanced X.toList) (B : String)
    (m : DocumentType) :
    Parses w options name (A ++ "<![IGNORE[" ++ X ++ "]]>" ++ B) m ↔
      Parses w options name (A ++ B) m := by
  obtain ⟨eA, hcA, -, htails⟩ := parses_append_iff hA
  obtain ⟨s, hs, hskeep, hsdeclared, -, hiff⟩ := htails B
  obtain ⟨s', hs', hskeep', hsdeclared', -, hiff'⟩ := htails ("<![IGNORE[" ++ X ++ "]]>" ++ B)
  have hsection : s'.Stands (outermost options { name, unread := .done })
      ("<![IGNORE[".toList ++ (X.toList ++ ("]]>".toList ++ B.toList))) := by
    simpa only [String.toList_append, List.append_assoc] using hs'
  obtain ⟨t, hadvances, ht, htdeclared, htkeep⟩ := hsection.ignores hX (w := w)
  have hreaches : Reaches w s' t := .single hadvances
  have htail : A ++ "<![IGNORE[" ++ X ++ "]]>" ++ B = A ++ ("<![IGNORE[" ++ X ++ "]]>" ++ B) := by
    simp only [String.append_assoc]
  rw [htail, hiff', hiff]
  simp only [hreaches.completes_iff hs'.peeked]
  exact ht.completes_iff hs (hsdeclared.trans (htdeclared.trans hsdeclared').symm)
    (hskeep.trans (htkeep.trans hskeep').symm)

/-- Behind a DTD an included text counts as if it stood outside of its section, and an ignored one
as if it were not there. -/
theorem parses_section_iff (hA : Parses w options name A mA) (B : String) (m : DocumentType) :
    (∀ X mX, Parses w options name (A ++ X) mX →
      (Parses w options name (A ++ "<![INCLUDE[" ++ X ++ "]]>" ++ B) m ↔
        Parses w options name (A ++ X ++ B) m)) ∧
    ∀ X : String, Balanced X.toList →
      (Parses w options name (A ++ "<![IGNORE[" ++ X ++ "]]>" ++ B) m ↔
        Parses w options name (A ++ B) m) := by
  constructor
  · intro X mX hX
    exact parses_included_iff hA hX B m
  · intro X hX
    exact parses_ignored_iff hA hX B m

theorem parses_section_specimen :
    Parses bare { keepInstructions := true } "a.dtd"
        ("<!ENTITY % e \"<!ELEMENT b ANY>\n\">\n<!ELEMENT b ANY>\n" ++ "<![INCLUDE[" ++ "<?p x?>\n" ++
          "]]>" ++ "") .specimen ∧
      Parses bare { keepInstructions := true } "a.dtd"
        ("<!ENTITY % e \"<!ELEMENT b ANY>\n\">\n<!ELEMENT b ANY>\n" ++ "<![IGNORE[" ++
          "<?p x?><![%e;'<!--]]>" ++ "]]>" ++ "") .draft := by
  obtain ⟨hincluded, -⟩ := parses_section_iff parses_draft "" .specimen
  obtain ⟨-, hignored⟩ := parses_section_iff parses_draft "" .draft
  constructor
  · apply (hincluded "<?p x?>\n" .specimen parses_specimen).2
    rw [String.append_empty]
    exact parses_specimen
  · apply (hignored "<?p x?><![%e;'<!--]]>" (by decide)).2
    rw [String.append_empty]
    exact parses_draft

end Doctype.Parser
