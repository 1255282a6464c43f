import Doctype.Proofs.Print.Roundtrip
import Doctype.Proofs.Source.Directory

/-! Including a text through an entity is the same as including the text. -/
namespace Doctype

/-- A text that an entity stands for: its value, or what a file holds that lies in the directory.
The path of the file tells the directory in its tidy form. -/
inductive EntityTable.StandsFor (t : EntityTable) (w : World) (dir : Path) (name text : String) : Prop
  | value : t.values.get? name = some text → StandsFor t w dir name text
  | file {target : String} {content : Reader} :
      t.uris.get? name = some target → (Path.ofString target).IsFileName →
      w.files.read (dir.join target) = .ok content → content.readAll = .ok text.toList →
      w.files.SameDirectory dir dir.tidy → StandsFor t w dir name text

/-- A text that the second parse reads in a source of its own, on top of the outermost one. -/
def Passage.inclusion (files : FileSystem) (outer inner bottom : Source) (name : String) (n met : Nat)
    (hn : outer.id < n) (hbase : files.SameBase outer.base inner.base)
    (hinner : inner.entity = some name) (hbottom : bottom.entity = none) (tail : List Char)
    (htail : Blank tail) (lead : String → Nat) : Passage where
  ids a b := a = outer.id ∧ b = inner.id ∨ ∃ i, a = n + i ∧ b = inner.id + 1 + i
  bases := files.SameBase
  outer := outer
  inner := inner
  below := [bottom]
  tail := tail
  tail' := []
  barred := some name
  met := met
  lead := lead
  blank := htail
  ids_iff := by
    rintro a a' b b' (⟨rfl, rfl⟩ | ⟨i, rfl, rfl⟩) (⟨rfl, rfl⟩ | ⟨j, rfl, rfl⟩) <;> omega
  ids_outer := .inl ⟨rfl, rfl⟩
  bases_outer := hbase
  entities := by
    intro a ha e he
    rcases List.mem_cons.1 ha with rfl | ha
    · rw [hinner] at he
      exact he
    · rw [List.mem_singleton.1 ha, hbottom] at he
      cases he

namespace Parser

variable {w : World} {keep : Bool}

theorem coupling_sameBase (k : Passage) (hk : ∀ a b, k.bases a b ↔ w.files.SameBase a b) :
    k.Coupling w keep (fun _ => True) Eq := by
  constructor
  · rintro a b rfl name base base' text - hbase hopen
    rw [hk] at hbase
    obtain ⟨text', hopen', hcontent, hbase'⟩ := EntityTable.openReference_sameBase hbase hopen
    exact ⟨text', hopen', hcontent, (hk _ _).2 hbase'⟩
  · rintro a b e i rfl hi -
    exact ⟨e, hi, rfl⟩

theorem contains_of_standsFor {t : EntityTable} {dir : Path} {name text : String}
    (h : t.StandsFor w dir name text) : t.contains name = true := by
  cases h with
  | value hvalue => exact EntityTable.contains_iff.2 (.inl (Bindings.has_of_get? hvalue))
  | file huri => exact EntityTable.contains_iff.2 (.inr (Bindings.has_of_get? huri))

/-- The text that an entity stands for is opened up to blanks around it, and at the same base. -/
theorem open_of_standsFor {t : EntityTable} {dir : Path} {name text : String} (ht : t.Sound)
    (h : t.StandsFor w dir name text) :
    ∃ opened front back cs, t.openReference w name (.dir dir) = .ok opened ∧ Blank front ∧
      Blank back ∧ text.toList = front ++ cs ++ back ∧
      opened.content.readAll = .ok cs ∧
      w.files.SameBase (.dir dir) (opened.origin.base?.getD (.dir dir)) := by
  cases h with
  | value hvalue =>
    have huri : t.uris.get? name = none :=
      Bindings.get?_eq_none_iff.2 (ht.disjoint name (Bindings.has_of_get? hvalue))
    obtain ⟨front, back, hfront, hback, heq⟩ := Text.eq_append_trim text
    have hread := Reader.readAll_ofText (Text.trim text)
    have hopen : t.openReference w name (.dir dir) =
        .ok ⟨.literal name, .ofText (Text.trim text)⟩ := by
      unfold EntityTable.openReference
      rw [huri, hvalue]
    generalize Reader.ofText (Text.trim text) = content at hread hopen
    exact ⟨_, front, back, _, hopen, hfront, hback, heq, hread, .inl rfl⟩
  | @file target content huri hfile hread hcontent hsame =>
    refine ⟨⟨.file (dir.join target), content⟩, [], [], _, ?_, blank_nil, blank_nil, by simp, hcontent, ?_⟩
    · rw [EntityTable.openReference_of_uri huri, EntityTable.locate_of_read hread]
      rfl
    · refine .inr ⟨dir, dir.tidy, rfl, ?_, hsame⟩
      change ((dir.join target).parent?.map Base.dir).getD (.dir dir) = _
      rw [Path.parent?_join hfile]
      rfl

variable {p p' q r : Parser} {source : Source} {cs behind : List Char} {dir : Path}
  {name text : String}

/-- In front of a reference scanning goes on in the replacement text. -/
theorem Stands.next_reference (h : p.Stands source ('%' :: (name.toList ++ ';' :: behind)))
    (hname : isName name) {opened : EntityText}
    (hopen : p.entities.openReference w name source.base = .ok opened) :
    ∃ c : Cursor, c.Shows behind ∧ p.stack.next w p.entities =
      ((p.stack.readTo source [] c).entered w p.entities name opened).next w p.entities := by
  obtain ⟨c, front, hsources, hfront, hshows⟩ := h.sources
  obtain ⟨l, hl⟩ := Cursor.scan_lex hshows
  rw [lex_blank_append hfront, lex_reference _ hname, String.ofList_toList] at hl
  obtain ⟨c', hscan, hshows'⟩ := hl
  have hclosed : ¬(p.stack.readTo source [] c').isOpen name := by
    simp [SourceStack.isOpen, SourceStack.readTo, h.entity]
  have henter : (p.stack.readTo { source with cursor := c } [] c').enter w p.entities name =
      .ok () ((p.stack.readTo source [] c').entered w p.entities name opened) :=
    SourceStack.enter_ok hopen hclosed
  have hstep := SourceStack.step_reference (w := w) (t := p.entities) hsources hscan
  rw [henter] at hstep
  exact ⟨c', hshows', by rw [SourceStack.next_eq, hstep]⟩

/-- In front of a reference a parse goes on in the replacement text. -/
theorem Stands.enters (h : p.Stands source ('%' :: (name.toList ++ ';' :: behind)))
    (hname : isName name) (hbase : source.base = .dir dir) {opened : EntityText}
    (hopen : p.entities.openReference w name (.dir dir) = .ok opened) :
    ∃ (s : SourceStack) (c : Cursor), c.Shows behind ∧
      s.sources = [⟨p.stack.nextId, some name, opened.origin.base?.getD (.dir dir),
        { name := opened.origin.text, unread := opened.content }⟩, { source with cursor := c }] ∧
      s.nextId = p.stack.nextId + 1 ∧
      ∀ e, Completes w p e ↔ Completes w { p with stack := s } e := by
  obtain ⟨c, hshows, hnext⟩ := h.next_reference hname (hbase.symm ▸ hopen)
  refine ⟨_, c, hshows, ?_, rfl, fun e => completes_congr h.peeked hnext⟩
  rw [← hbase]
  rfl

section Inclusion

variable {inner bottom : Source} {front inside back : List Char}

/-- One parse is in front of a text, and the other one is in front of it in a source of its own. -/
theorem Stands.beside_inclusion (h : p.Stands source (front ++ inside ++ back))
    (hsources : p'.stack.sources = [inner, bottom]) (hnextId : p'.stack.nextId = inner.id + 1)
    (hpeek : p'.peeked = none) (hsections : p'.sections = []) (hdeclared : p'.declared = p.declared)
    (hkeep : p'.keepInstructions = p.keepInstructions) (hfront : Blank front) (hback : Blank back)
    (hshows : inner.cursor.Shows inside) (hbase : w.files.SameBase source.base inner.base)
    (hinner : inner.entity = some name) (hbottom : bottom.entity = none) :
    (Passage.inclusion w.files source inner bottom name p.stack.nextId (p.stack.refs name) h.fresh
      hbase hinner hbottom back hback p.stack.refs).Beside p.keepInstructions Eq p p' := by
  let k := Passage.inclusion w.files source inner bottom name p.stack.nextId (p.stack.refs name)
    h.fresh hbase hinner hbottom back hback p.stack.refs
  obtain ⟨c, blank, hsources₀, hblank, hshows₀⟩ := h.sources
  have hledger : k.Ledger p.stack p'.stack := by
    constructor
    · intro i
      refine .inr ⟨i, rfl, ?_⟩
      rw [hnextId]
    · exact h.fresh
    · change inner.id < p'.stack.nextId
      omega
    · rintro n ⟨⟩
      exact le_refl _
    · intro n
      exact Nat.le_add_left _ _
  have hwithin : k.Within c inner.cursor := by
    refine ⟨blank ++ front, [], inside, Passage.blank_append hblank hfront, blank_nil, ?_, ?_⟩
    · change c.Shows (blank ++ front ++ inside ++ back)
      simpa only [List.append_assoc] using hshows₀
    · change inner.cursor.Shows (inside ++ [])
      rwa [List.append_nil]
  have hnone : k.Sections p.sections p'.sections := by
    rw [h.sections, hsections]
    exact .nil
  have habove : k.Above p.stack p'.stack [] [] c inner.cursor :=
    ⟨hsources₀, hsources, .nil, hledger⟩
  exact ⟨⟨[], [], c, inner.cursor, habove, hwithin⟩, h.peeked, hpeek, rfl, hkeep, hdeclared.symm,
    hnone⟩

/-- Behind a text in a source of its own the source is left. -/
theorem leaves_inclusion {k : Passage} {c : Cursor} {s t : Parser} (h : k.Passed keep Eq s t)
    (htail : k.tail' = []) (hbelow : k.below = [{ source with cursor := c }])
    (hshows : c.Shows behind) (hentity : source.entity = none) (hlt : source.id < k.inner.id) :
    ∃ u : Parser, u.Stands source behind ∧ u.declared = s.declared ∧ u.keepInstructions = keep ∧
      ∀ e, Completes w t e ↔ Completes w u e := by
  obtain ⟨c', blank, hsources, hblank, hshows'⟩ := h.behind.sources
  rw [htail, List.append_nil] at hshows'
  obtain ⟨k', hnext, hsources', hnextId, -⟩ :=
    SourceStack.next_of_blank (w := w) (t := t.entities) hsources hshows' hblank
  rw [hbelow] at hsources'
  refine ⟨{ t with stack := k' }, ?_, h.declared.symm, h.keeps', fun e => ?_⟩
  · have hfresh : source.id < k'.nextId := by
      rw [hnextId]
      exact hlt.trans h.behind.ledger.fresh'
    exact ⟨hentity, ⟨c, [], hsources', blank_nil, hshows⟩, hfresh, h.peeked', h.sections'⟩
  · rw [completes_congr h.peeked' hnext]

end Inclusion

/-- A parse that passes a text also passes a reference that stands for the text, unless the same
reference is met inside. -/
theorem Stands.passes_reference (h : p.Stands source cs)
    (h' : p'.Stands source ('%' :: (name.toList ++ ';' :: behind))) (hcs : cs = text.toList)
    (hname : isName name) (hbase : source.base = .dir dir) (hsound : p.entities.Sound)
    (htext : p.entities.StandsFor w dir name text) (hdeclared : p'.declared = p.declared)
    (hkeep : p'.keepInstructions = p.keepInstructions) (hr : Reaches w p q) (he : Ends w q r)
    (hrefs : r.stack.refs name ≤ p.stack.refs name) :
    ∃ r', r'.Stands source behind ∧ r'.declared = r.declared ∧
      r'.keepInstructions = p.keepInstructions ∧ ∀ e, Completes w p' e ↔ Completes w r' e := by
  obtain ⟨opened, front, back, inside, hopen, hfront, hback, heq, hread, hsame⟩ :=
    open_of_standsFor hsound htext
  have hentities : p'.entities = p.entities := congrArg Prod.fst hdeclared
  obtain ⟨s, bottom, hbottom, hsources, hnextId, hiff⟩ := h'.enters hname hbase (hentities ▸ hopen)
  rw [hcs, heq] at h
  have hshows : Cursor.Shows { name := opened.origin.text, unread := opened.content } inside :=
    Reader.readAll_eq_ok.1 hread
  have hbases : w.files.SameBase source.base (opened.origin.base?.getD (.dir dir)) := by
    rw [hbase]
    exact hsame
  have hsources' : ({ p' with stack := s } : Parser).stack.sources = [_, _] := hsources
  have hbeside := h.beside_inclusion hsources' hnextId h'.peeked h'.sections hdeclared hkeep hfront
    hback hshows hbases rfl h.entity
  have hmet {n : String} (hn : n ∈ some name) : ¬p.stack.refs name < r.stack.refs n := by
    obtain rfl : name = n := Option.some.inj hn
    exact not_lt.2 hrefs
  obtain ⟨t, hpassed, hiff'⟩ := hbeside.passed (coupling_sameBase _ fun _ _ => Iff.rfl) hr he
    (fun _ _ _ => trivial) fun ⟨_, hn, hlt⟩ => hmet hn hlt
  obtain ⟨u, hstands, hdeclared', hkeep', hiff''⟩ :=
    leaves_inclusion hpassed rfl rfl hbottom h.entity h'.fresh
  refine ⟨u, hstands, hdeclared', hkeep', fun e => ?_⟩
  rw [hiff, hiff', hiff'']

/-- What is read in front of the same text depends on what has been declared only. -/
theorem Stands.completes_alike {e : Parser} (h : p.Stands source cs) (h' : p'.Stands source cs)
    (hdeclared : p'.declared = p.declared) (hkeep : p'.keepInstructions = p.keepInstructions)
    (hc : Completes w p e) : ∃ e', Completes w p' e' ∧ e'.declared = e.declared := by
  obtain ⟨q, hr, he⟩ := hc
  have hstands : p'.Stands source (cs ++ []) := by rwa [List.append_nil]
  obtain ⟨r', hmeets, hiff⟩ := h.passes Eq p.stack.refs hstands rfl hkeep hdeclared.symm
    (fun _ => Nat.le_add_left _ _) coupling_eq hr he fun _ _ _ => trivial
  obtain ⟨e', hc', hdeclared', -⟩ := hmeets.stands'.completes (w := w)
  exact ⟨e', (hiff e').2 hc', hdeclared'.trans hmeets.declared.symm⟩

theorem result_congr {e e' : Parser} (h : e'.declared = e.declared) : e'.result = e.result := by
  injection h with hentities hmodel
  unfold result
  rw [hentities, hmodel]

variable {options : Options} {A X B : String} {mA mX m : DocumentType} {fuelA fuelX : Nat}
  {jA jX : Journal}

/-- A reference to an entity may stand for its text: what is behind it is read as if the text stood
there itself. In the text no reference to the entity is met. -/
theorem parses_reference_iff {e : String} (hA : parseText w fuelA options name A = (.ok mA, jA))
    (hX : parseText w fuelX options name (A ++ X) = (.ok mX, jX))
    (htext : mA.parameters.StandsFor w options.directory e X)
    (hrefs : jX.count (.referenced e) = jA.count (.referenced e)) (B : String) (m : DocumentType) :
    Parses w options name (A ++ "%" ++ e ++ ";" ++ B) m ↔ Parses w options name (A ++ X ++ B) m := by
  have hu : options.Usable w := usable_of_parseText (congrArg Prod.fst hA)
  obtain ⟨pA, eA, hrA, heA, rfl, hjA⟩ := parseText_ok (congrArg Prod.fst hA)
  obtain ⟨pX, eX, hrX, heX, rfl, hjX⟩ := parseText_ok (congrArg Prod.fst hX)
  have hjA' : jA = eA.conclusion :: eA.stack.journal := by rw [← hjA, hA]
  have hjX' : jX = eX.conclusion :: eX.stack.journal := by rw [← hjX, hX]
  have hsound : eA.Sound := Completes.sound ⟨pA, hrA, heA⟩ (sound_start options name A)
  have hname : isName e := hsound.entities.names e (contains_of_standsFor htext)
  -- at the end of the first text, in front of the second text and in front of the reference
  obtain ⟨s, hs, hiffs⟩ := start_append X hrA heA
  obtain ⟨s', hs', hiffs'⟩ := start_append ("%" ++ e ++ ";" ++ B) hrA heA
  obtain ⟨q, hrq, heq⟩ := (hiffs eX).1 ⟨pX, hrX, heX⟩
  have hstands' : s'.Stands (outermost options { name, unread := .done })
      ('%' :: (e.toList ++ ';' :: B.toList)) := by
    have h := hs'.stands'
    simpa [String.toList_append] using h
  have hentities : s.entities = eA.entities := congrArg Prod.fst hs.declared.symm
  have hcount : eX.stack.refs e ≤ s.stack.refs e := by
    have hle := hs.refs e
    rw [hjX', hjA', count_referenced, count_referenced] at hrefs
    omega
  obtain ⟨r', hr', hdeclared', hkeep', hiff'⟩ := hs.stands'.passes_reference hstands' rfl hname rfl
    (hentities ▸ hsound.entities) (hentities ▸ htext) (hs'.declared.symm.trans hs.declared)
    (hs'.keeps'.trans hs.keeps'.symm) hrq heq hcount
  -- behind the text in both parses
  obtain ⟨r, hr, hiff⟩ := start_append B hrX heX
  have hdeclared : r'.declared = r.declared := hdeclared'.trans hr.declared
  have hkeep : r'.keepInstructions = r.keepInstructions :=
    (hkeep'.trans hs.keeps').trans hr.keeps'.symm
  have htail : A ++ "%" ++ e ++ ";" ++ B = A ++ ("%" ++ e ++ ";" ++ B) := by
    simp only [String.append_assoc]
  rw [htail, parses_iff_completes, parses_iff_completes]
  refine and_congr_right fun _ => ⟨?_, ?_⟩
  · rintro ⟨x, hx, rfl⟩
    obtain ⟨y, hy, hxy⟩ := hr'.completes_alike hr.stands' hdeclared.symm hkeep.symm
      ((hiff' x).1 ((hiffs' x).1 hx))
    exact ⟨y, (hiff y).2 hy, (result_congr hxy).symm⟩
  · rintro ⟨x, hx, rfl⟩
    obtain ⟨y, hy, hxy⟩ := hr.stands'.completes_alike hr' hdeclared hkeep ((hiff x).1 hx)
    exact ⟨y, (hiffs' y).2 ((hiff' y).2 hy), (result_congr hxy).symm⟩

/-- A world with a file that declares an element. -/
def furnished : World :=
  ⟨((FileTree.empty "/").insert "f" (.file (.ofText "<!ELEMENT b ANY>\n"))).files, .unreachable⟩

/-- Entities and elements alone are printed as they are declared. -/
theorem parseText_entities {t : EntityTable} {elements : Bindings ContentSpec} (ht : t.Sound)
    (hplain : ∀ b ∈ t.values, Quotable b.2 ∧ EntityTable.Inert b.2)
    (helements : elements.Proper ContentSpec.Shaped) :
    ∃ fuel journal, parseText w fuel {} "a.dtd" (DocumentType.text { elements, parameters := t }) =
        (.ok { elements, parameters := t }, journal) ∧ ∀ n, journal.count (.referenced n) = 0 := by
  have hm : DocumentType.Sound false { elements, parameters := t } :=
    ⟨helements, .empty, .empty, .empty, nofun⟩
  have hlists : DocumentType.regrouped { elements, parameters := t } = [] := by
    have hperm := DocumentType.regrouped_perm hm.elements.nodup hm.attlists.nodup
    exact hperm.eq_nil
  have hu : ({} : Options).Usable w := nofun
  have hall : DocumentType.Plain { elements, parameters := t } := ⟨hplain, nofun⟩
  obtain ⟨fuel, journal, hparse, hrefs⟩ := parseText_text ht hm hall hu "a.dtd"
  refine ⟨fuel, journal, ?_, hrefs⟩
  rw [hparse]
  unfold DocumentType.normalized
  rw [hlists]

theorem parses_reference_entities :
    Parses bare {} "a.dtd" "<!ENTITY % e \"<!ELEMENT b ANY>\n\">\n%e;"
        { elements := [("b", .any)], parameters := { values := [("e", "<!ELEMENT b ANY>\n")] } } ∧
      Parses furnished {} "a.dtd" "<!ENTITY % e SYSTEM \"f\">\n%e;"
        { elements := [("b", .any)], parameters := { uris := [("e", "f")] } } := by
  constructor
  · have ht : EntityTable.Sound { values := [("e", "<!ELEMENT b ANY>\n")] } :=
      EntityTable.sound_value (by decide)
    have hplain := DocumentType.plain_specimen.parameters
    obtain ⟨fuel, journal, hA, hrefs⟩ := parseText_entities (w := bare) ht hplain .empty
    obtain ⟨fuel', journal', hX, hrefs'⟩ :=
      parseText_entities (w := bare) ht hplain DocumentType.proper_any
    have hcount : journal'.count (.referenced "e") = journal.count (.referenced "e") := by
      rw [hrefs, hrefs']
    exact (parses_reference_iff hA hX (.value rfl) hcount "" _).2 ⟨fuel', congrArg Prod.fst hX⟩
  · have ht : EntityTable.Sound { uris := [("e", "f")] } :=
      EntityTable.sound_uri (by decide) (.inl (by decide))
    obtain ⟨fuel, journal, hA, hrefs⟩ := parseText_entities (w := furnished) ht nofun .empty
    obtain ⟨fuel', journal', hX, hrefs'⟩ :=
      parseText_entities (w := furnished) ht nofun DocumentType.proper_any
    have hfile : EntityTable.StandsFor { uris := [("e", "f")] } furnished "." "e" "<!ELEMENT b ANY>\n" :=
      .file rfl (by decide) rfl (Reader.readAll_ofText _) (.of_tidy _ (by decide))
    have hcount : journal'.count (.referenced "e") = journal.count (.referenced "e") := by
      rw [hrefs, hrefs']
    exact (parses_reference_iff hA hX hfile hcount "" _).2 ⟨fuel', congrArg Prod.fst hX⟩

end Parser

end Doctype
