import Doctype.Proofs.Output.Identifiers
import Doctype.Proofs.Parser.WellFormed
import Doctype.Proofs.Template.Filling

/-! The lines of a handler class that read attributes. Such a line ends in a comment with the type and
the default of the attribute. All that the DTD gives to it is made of name characters, which end no
line, up to the value of the default: that is copied as it is, so that it has to be without line breaks
itself for the comment to hold it. -/
namespace Doctype

/-- The characters that end a line of a class. -/
def isLineBreak (c : Char) : Bool :=
  c == '\n' || c == '\r'

/-- The line breaks of a text in order. -/
def lineBreaks (s : String) : List Char :=
  s.toList.filter isLineBreak

/-- A text that ends its line, with no line break before. -/
def IsLine (text : String) : Prop :=
  ∃ front, text = front ++ "\n" ∧ lineBreaks front = []

/-- No character ends a line. -/
def NoBreak (cs : List Char) : Prop :=
  ∀ c ∈ cs, isLineBreak c = false

theorem all_eq_true_iff_noBreak {cs : List Char} : cs.all (!isLineBreak ·) = true ↔ NoBreak cs := by
  simp [NoBreak]

instance (cs : List Char) : Decidable (NoBreak cs) :=
  decidable_of_iff _ all_eq_true_iff_noBreak

theorem lineBreaks_append (s t : String) : lineBreaks (s ++ t) = lineBreaks s ++ lineBreaks t := by
  rw [lineBreaks, String.toList_append, List.filter_append]
  rfl

theorem lineBreaks_of_noBreak {s : String} (h : NoBreak s.toList) : lineBreaks s = [] := by
  refine List.filter_eq_nil_iff.2 fun c hc => ?_
  rw [h c hc]
  exact Bool.false_ne_true

theorem isLine_append_iff {front : String} : IsLine (front ++ "\n") ↔ lineBreaks front = [] := by
  constructor
  · rintro ⟨front', hfront, hbreaks⟩
    rw [(String.append_left_inj "\n").1 hfront]
    exact hbreaks
  · exact fun h => ⟨front, rfl, h⟩

theorem eq_or_of_isLineBreak {c : Char} (h : isLineBreak c = true) : c = '\n' ∨ c = '\r' := by
  simpa [isLineBreak] using h

section Characters

variable {c d : Char} {name s : String} {cs : List Char}

theorem not_isLineBreak_of_isNameChar (h : isNameChar c = true) : isLineBreak c = false := by
  by_contra hbreak
  rw [Bool.not_eq_false] at hbreak
  rcases eq_or_of_isLineBreak hbreak with rfl | rfl <;> exact absurd h (by decide)

theorem noBreak_of_nmtoken (h : Nmtoken s) : NoBreak s.toList :=
  fun c hc => not_isLineBreak_of_isNameChar (h.2 c hc)

/-- Only small numbers stand for line breaks. -/
theorem not_isLineBreak_ofNat {n : Nat} (h : 13 < n) : isLineBreak (Char.ofNat n) = false := by
  by_contra hbreak
  rw [Bool.not_eq_false] at hbreak
  have hnat : (Char.ofNat n).toNat = 10 ∨ (Char.ofNat n).toNat = 13 := by
    rcases eq_or_of_isLineBreak hbreak with hc | hc <;> rw [hc]
    · exact .inl rfl
    · exact .inr rfl
  by_cases hvalid : n.isValidChar
  · have hsame : (Char.ofNat n).toNat = n := by
      rw [Char.ofNat, dif_pos hvalid]
      rfl
    omega
  · have hzero : (Char.ofNat n).toNat = 0 := by
      rw [Char.ofNat, dif_neg hvalid]
      rfl
    omega

/-- Whatever stands in a table of cases is beyond the line breaks. -/
theorem not_isLineBreak_mapCase {expansions : List (Nat × List Nat)} {runs : List Text.CaseRun}
    (hexpansions : ∀ e ∈ expansions, ∀ n ∈ e.2, 13 < n)
    (hruns : ∀ run ∈ runs, 13 < (run.first : Int) + run.shift) (hc : isLineBreak c = false)
    (hd : d ∈ Text.mapCase expansions runs c) : isLineBreak d = false := by
  rcases Text.mem_mapCase hd with ⟨e, he, n, hn, rfl⟩ | ⟨run, hrun, hcovers, rfl⟩ | rfl
  · exact not_isLineBreak_ofNat (hexpansions e he n hn)
  · simp only [Text.CaseRun.covers, Bool.and_eq_true, decide_eq_true_eq] at hcovers
    have hfirst := hruns run hrun
    have hle := hcovers.1.1
    exact not_isLineBreak_ofNat (by omega)
  · exact hc

theorem not_isLineBreak_upper (hc : isLineBreak c = false) (hd : d ∈ Text.upper c) :
    isLineBreak d = false :=
  not_isLineBreak_mapCase (by decide +kernel) (by decide +kernel) hc hd

theorem not_isLineBreak_lower (hc : isLineBreak c = false) (hd : d ∈ Text.lower c) :
    isLineBreak d = false :=
  not_isLineBreak_mapCase (by decide +kernel) (by decide +kernel) hc hd

end Characters

namespace Identifier

variable {name ident : String} {cs : List Char}

theorem noBreak_mapFirst {f : Char → List Char}
    (hf : ∀ c, isLineBreak c = false → NoBreak (f c)) (h : NoBreak cs) : NoBreak (mapFirst f cs) := by
  cases cs with
  | nil => exact h
  | cons c cs =>
    obtain ⟨hc, hcs⟩ := List.forall_mem_cons.1 h
    exact List.forall_mem_append.2 ⟨hf c hc, hcs⟩

theorem noBreak_word {word : List Char} (h : NoBreak name.toList) (hword : word ∈ words name) :
    NoBreak word := by
  intro c hc
  rcases mem_of_mem_words hword hc with hname | hunnamed
  · exact h c hname
  · exact (by decide : NoBreak ['u', 'n', 'n', 'a', 'm', 'e', 'd']) c hunnamed

theorem noBreak_lowerCamelCase (h : NoBreak name.toList) : NoBreak (lowerCamelCase name) := by
  apply noBreak_mapFirst fun _ hc _ hd => not_isLineBreak_lower hc hd
  intro c hc
  obtain ⟨word, hword, hc⟩ := List.mem_flatMap.1 hc
  have hupper := noBreak_mapFirst (fun _ hc _ hd => not_isLineBreak_upper hc hd) (noBreak_word h hword)
  exact hupper c hc

theorem noBreak_legal (h : NoBreak cs) : NoBreak (legal cs).toList := by
  have hfront : NoBreak (if cs.head?.any Text.isNumeric then '_' :: cs else cs) := by
    split
    · exact List.forall_mem_cons.2 ⟨by decide, h⟩
    · exact h
  unfold legal
  generalize (if cs.head?.any Text.isNumeric then '_' :: cs else cs) = ds at hfront
  change NoBreak (if keywords.contains (.ofList ds) then String.ofList ds ++ "_" else .ofList ds).toList
  have hunderscore : NoBreak "_".toList := by decide
  split
  · rw [String.toList_append, String.toList_ofList]
    exact List.forall_mem_append.2 ⟨hfront, hunderscore⟩
  · rw [String.toList_ofList]
    exact hfront

theorem noBreak_candidate (h : NoBreak ident.toList) (n : Nat) : NoBreak (candidate ident n).toList := by
  cases n with
  | zero => exact h
  | succ n =>
    rw [candidate, String.toList_append, Nat.toString_eq_repr, Nat.toList_repr]
    refine List.forall_mem_append.2 ⟨h, fun c hc => ?_⟩
    have hdigit : c.isDigit = true := Nat.isDigit_of_mem_toDigits (by decide) (by decide) hc
    have hname : isNameChar c = true := by simp [isNameChar, hdigit]
    exact not_isLineBreak_of_isNameChar hname

/-- Identifiers end no line if what they are made from ends none. -/
theorem noBreak_allocate {used : List String} {words : List (List Char)}
    (h : ∀ cs ∈ words, NoBreak cs) : ∀ ident ∈ allocate used words, NoBreak ident.toList := by
  induction words generalizing used with
  | nil => exact nofun
  | cons cs words ih =>
    obtain ⟨hcs, hwords⟩ := List.forall_mem_cons.1 h
    obtain ⟨n, -, -, hfresh⟩ := fresh_counts used (legal cs)
    have hident : NoBreak (fresh used (legal cs)).toList := hfresh ▸ noBreak_candidate (noBreak_legal hcs) n
    exact List.forall_mem_cons.2 ⟨hident, ih hwords⟩

end Identifier

theorem noBreak_pipedText {names : List String} (h : ∀ name ∈ names, Nmtoken name) :
    NoBreak (Parser.pipedText names) := by
  intro c hc
  obtain ⟨name, hname, hc⟩ := List.mem_flatMap.1 hc
  rcases List.mem_cons.1 hc with rfl | hc
  · decide
  · exact noBreak_of_nmtoken (h name hname) c hc

theorem AttributeType.noBreak_text {t : AttributeType} (h : t.Shaped) : NoBreak t.text.toList := by
  have hgroup {front : String} (hfront : NoBreak front.toList) {names : List String}
      (h : names ≠ [] ∧ ∀ name ∈ names, Nmtoken name) :
      NoBreak (front ++ "|".intercalate names ++ ")").toList := by
    obtain ⟨first, names, rfl⟩ := List.exists_cons_of_ne_nil h.1
    obtain ⟨hfirst, hrest⟩ := List.forall_mem_cons.1 h.2
    have hnames := List.forall_mem_append.2 ⟨noBreak_of_nmtoken hfirst, noBreak_pipedText hrest⟩
    have hclose : NoBreak ")".toList := by decide
    rw [String.toList_append, String.toList_append, Parser.toList_piped]
    exact List.forall_mem_append.2 ⟨List.forall_mem_append.2 ⟨hfront, hnames⟩, hclose⟩
  cases t with
  | notations names => exact hgroup (by decide) h
  | enumeration names => exact hgroup (by decide) h
  | _ => decide

/-- The value of a default, if it has one. -/
def DefaultDecl.literal : DefaultDecl → String
  | required | implied => ""
  | fixed v | value v => v

theorem HandlerAttribute.lineBreaks_defaultSummary (d : DefaultDecl) :
    lineBreaks (defaultSummary d) = lineBreaks d.literal := by
  have hquote : lineBreaks "\"" = [] := by decide
  have hfixed : lineBreaks "fixed \"" = [] := by decide
  have hdefault : lineBreaks "default \"" = [] := by decide
  cases d with
  | required => decide
  | implied => decide
  | fixed v =>
    simp only [defaultSummary, lineBreaks_append, hfixed, hquote, List.nil_append, List.append_nil]
    rfl
  | value v =>
    simp only [defaultSummary, lineBreaks_append, hdefault, hquote, List.nil_append, List.append_nil]
    rfl

namespace HandlerAttribute

variable {a : HandlerAttribute}

/-- Variables end no line if the names of the attributes end none. -/
theorem noBreak_ident {list : AttributeList} (h : ∀ name ∈ list.names, NoBreak name.toList)
    (ha : a ∈ ofList list) : NoBreak a.ident.toList := by
  have hident : a.ident ∈ Identifier.forNames ["atts"] Identifier.lowerCamelCase list := by
    rw [← idents_ofList]
    exact List.mem_map_of_mem ha
  refine Identifier.noBreak_allocate (fun cs hcs => ?_) a.ident hident
  obtain ⟨name, hname, rfl⟩ := List.mem_map.1 hcs
  exact Identifier.noBreak_lowerCamelCase (h name hname)

/-- The line breaks of the line that reads an attribute. -/
theorem lineBreaks_text (hname : NoBreak a.name.toList) (hident : NoBreak a.ident.toList)
    (htype : NoBreak a.definition.type.text.toList) :
    ∃ front, a.text (Templates.builtin .sax) = .ok (front ++ "\n") ∧
      lineBreaks front = lineBreaks a.definition.default.literal := by
  refine ⟨_, text_builtin a, ?_⟩
  have hstring : lineBreaks "        String " = [] := by decide
  have hvalue : lineBreaks " = atts.getValue(\"" = [] := by decide
  have hcomment : lineBreaks "\"); // " = [] := by decide
  have hspace : lineBreaks " " = [] := by decide
  simp only [lineBreaks_append, lineBreaks_of_noBreak hname, lineBreaks_of_noBreak hident,
    lineBreaks_of_noBreak htype, lineBreaks_defaultSummary, hstring, hvalue, hcomment, hspace,
    List.nil_append]

end HandlerAttribute

/-- A document type whose attribute has a default of two lines. -/
def DocumentType.verse : DocumentType where
  elements := [("a", .empty)]
  attlists := [("a", [("b", ⟨.cdata, .value "x\ny"⟩)])]

namespace Parser

variable {w : World} {options : Options} {m : DocumentType} {e : HandlerElement} {a : HandlerAttribute}

/-- Whatever a parse gives, the built-in template of an attribute renders text that ends a line, with
the line breaks of the default in it and no others. It is a single line exactly if the default is one. -/
theorem isLine_attribute_iff (h : Gives w options m) (he : e ∈ HandlerElement.ofDocumentType m)
    (ha : a ∈ e.attributes) :
    ∃ front, a.text (Templates.builtin .sax) = .ok (front ++ "\n") ∧
      lineBreaks front = lineBreaks a.definition.default.literal ∧
      (IsLine (front ++ "\n") ↔ lineBreaks a.definition.default.literal = []) := by
  have hproper := (wellFormed_of_parse h).2.attributes e.name
  rw [HandlerElement.attributes_of_mem he] at ha
  have hentry : (a.name, a.definition) ∈ m.attributes e.name := by
    rw [← HandlerAttribute.entries_ofList (m.attributes e.name)]
    exact List.mem_map_of_mem ha
  have hname : NoBreak a.name.toList := noBreak_of_nmtoken (hproper.names _ hentry)
  have hident : NoBreak a.ident.toList := by
    refine HandlerAttribute.noBreak_ident (fun name hname => ?_) ha
    obtain ⟨b, hb, rfl⟩ := List.mem_map.1 hname
    exact noBreak_of_nmtoken (hproper.names b hb)
  have htype : NoBreak a.definition.type.text.toList :=
    AttributeType.noBreak_text (hproper.values _ hentry).1
  obtain ⟨front, htext, hbreaks⟩ := HandlerAttribute.lineBreaks_text hname hident htype
  refine ⟨front, htext, hbreaks, ?_⟩
  rw [← hbreaks]
  exact isLine_append_iff

theorem sound_verse : DocumentType.verse.Sound false := by
  have ha : Nmtoken "a" := nmtoken_of_isName (by decide)
  have hb : Nmtoken "b" := nmtoken_of_isName (by decide)
  have hquotable : Quotable "x\ny" := .inl (by decide)
  exact ⟨.singleton ha trivial, .singleton ha (.singleton hb ⟨trivial, hquotable⟩), .empty, .empty, nofun⟩

theorem parses_verse :
    Parses bare {} "a.dtd" "<!ELEMENT a EMPTY>\n<!ATTLIST a\n  b CDATA \"x\ny\">\n" .verse := by
  have hu : ({} : Options).Usable bare := nofun
  have hplain : DocumentType.verse.Plain := ⟨nofun, nofun⟩
  have htext : DocumentType.verse.text =
      "<!ELEMENT a EMPTY>\n<!ATTLIST a\n  b CDATA \"x\ny\">\n" := by decide
  rw [← htext]
  exact parses_of_normalized EntityTable.sound_empty sound_verse hplain hu rfl "a.dtd"

/-- The handler of an element without children and the variable of its attribute. -/
theorem exists_attribute_verse :
    ∃ e ∈ HandlerElement.ofDocumentType .verse, ∃ a ∈ e.attributes,
      a = ⟨"b", "b", .cdata, .value "x\ny"⟩ := by
  have hname : "a" ∈ (HandlerElement.ofDocumentType .verse).map (·.name) := by
    rw [HandlerElement.names_ofDocumentType]
    exact List.mem_singleton.2 rfl
  obtain ⟨e, he, hname⟩ := List.mem_map.1 hname
  refine ⟨e, he, _, ?_, rfl⟩
  rw [HandlerElement.attributes_of_mem he, hname]
  have hidents : Identifier.allocate ["atts"] (["b"].map Identifier.lowerCamelCase) = ["b"] := by
    decide +kernel
  change _ ∈ List.zipWith _ _ (Identifier.allocate ["atts"] (["b"].map Identifier.lowerCamelCase))
  rw [hidents]
  exact List.mem_singleton.2 rfl

theorem isLine_attribute_verse :
    Gives bare {} .verse ∧ ∃ e ∈ HandlerElement.ofDocumentType .verse, ∃ a ∈ e.attributes,
      ∃ front, a.text (Templates.builtin .sax) = .ok (front ++ "\n") ∧
        lineBreaks front = lineBreaks a.definition.default.literal ∧
        (IsLine (front ++ "\n") ↔ lineBreaks a.definition.default.literal = []) := by
  obtain ⟨fuel, hparse⟩ := parses_verse
  obtain ⟨e, he, a, ha, -⟩ := exists_attribute_verse
  have hgives : Gives bare {} .verse := .text hparse
  exact ⟨hgives, e, he, a, ha, isLine_attribute_iff hgives he ha⟩

/-- The second line of a default is outside of the comment that holds the first. -/
theorem exists_attribute_not_isLine :
    Parses bare {} "a.dtd" "<!ELEMENT a EMPTY>\n<!ATTLIST a\n  b CDATA \"x\ny\">\n" .verse ∧
      ∃ e ∈ HandlerElement.ofDocumentType .verse, ∃ a ∈ e.attributes, ∃ text,
        a.text (Templates.builtin .sax) = .ok text ∧
        text = "        String b = atts.getValue(\"b\"); // CDATA default \"x\ny\"\n" ∧
        ¬IsLine text := by
  obtain ⟨e, he, a, ha, rfl⟩ := exists_attribute_verse
  refine ⟨parses_verse, e, he, _, ha, _, HandlerAttribute.text_builtin _, by decide, ?_⟩
  rw [isLine_append_iff]
  decide

end Parser

end Doctype
