import Doctype.Proofs.Model.Bindings
import Doctype.Template.Lemmas
import Mathlib.Data.List.TakeWhile

/-! Rendering a template replaces its slots. A text is a template exactly if it is made up of text
with doubled braces and of slots. Any other text goes on, behind such parts, with a slot that is not
closed or with a brace that closes nothing. -/
namespace Doctype

namespace Piece

/-- What stands where the reading of a template stops short. -/
inductive Broken : TemplateFault → List Char → Prop
  | openSlot {cs : List Char} : '\x7d' ∉ cs → cs.head? ≠ some '\x7b' →
      Broken .openSlot ('\x7b' :: cs)
  | strayBrace {cs : List Char} : cs.head? ≠ some '\x7d' → Broken .strayBrace ('\x7d' :: cs)

/-- The pieces of a text up to its end or to a fault. -/
inductive Reads : List Char → List Piece → Option TemplateFault → Prop
  | done : Reads [] [] none
  | broken {fault : TemplateFault} {tail : List Char} : Broken fault tail → Reads tail [] (some fault)
  | piece {p : Piece} {cs : List Char} {pieces : List Piece} {fault : Option TemplateFault} :
      p.Writable → Reads cs pieces fault → Reads (p.encode ++ cs) (p :: pieces) fault

variable {cs tail : List Char} {pieces : List Piece} {fault : Option TemplateFault}

/-- What stands between an opening brace and the next closing one is a label. -/
theorem writable_label {d : Char} (hd : d ≠ '\x7b') (after : List Char) :
    (slot ((d :: after).takeWhile (· != '\x7d'))).Writable := by
  constructor
  · intro hmem
    have hne := List.mem_takeWhile_imp hmem
    simp at hne
  · rw [List.takeWhile_cons]
    split
    · simpa using hd
    · simp

theorem encode_label {close : Char} {cs after : List Char}
    (h : cs.dropWhile (· != '\x7d') = close :: after) :
    (slot (cs.takeWhile (· != '\x7d'))).encode ++ after = '\x7b' :: cs := by
  have hne : cs.dropWhile (· != '\x7d') ≠ [] := by simp [h]
  have hclose : close = '\x7d' := by
    have hhead := List.head_dropWhile_not (· != '\x7d') hne
    simpa [h] using hhead
  subst hclose
  have hcs : cs.takeWhile (· != '\x7d') ++ '\x7d' :: after = cs := by
    rw [← h, List.takeWhile_append_dropWhile]
  simp only [encode, List.cons_append, List.append_assoc, List.nil_append, hcs]

/-- Reading finds the pieces of a text. -/
theorem reads_read (cs : List Char) : Reads cs (read cs).1 (read cs).2 := by
  fun_induction read cs with
  | case1 => exact .done
  | case2 c hc =>
    rcases hc with rfl | rfl
    · exact .broken (.openSlot List.not_mem_nil (by simp))
    · exact .broken (.strayBrace (by simp))
  | case3 c after pieces fault hread hc ih =>
    rw [hread] at ih
    have hpair : (char c).encode = [c, c] := by rw [encode, if_pos hc]
    have hreads := Reads.piece (p := char c) trivial ih
    rw [hpair] at hreads
    exact hreads
  | case4 d after hc hd =>
    exact .broken (.strayBrace (by simpa using hd))
  | case5 c hc d after hd hc' hclose =>
    obtain rfl : c = '\x7b' := hc.resolve_right hc'
    have hnone : '\x7d' ∉ d :: after := by
      intro hmem
      have hall := List.dropWhile_eq_nil_iff.1 hclose '\x7d' hmem
      simp at hall
    exact .broken (.openSlot hnone (by simpa using hd))
  | case6 c hc d after hd hc' close after' hclose pieces fault hread ih =>
    obtain rfl : c = '\x7b' := hc.resolve_right hc'
    rw [hread] at ih
    have hreads := Reads.piece (writable_label hd after) ih
    rw [encode_label hclose] at hreads
    exact hreads
  | case7 c after hc pieces fault hread ih =>
    rw [hread] at ih
    have hself : (char c).encode = [c] := by rw [encode, if_neg hc]
    have hreads := Reads.piece (p := char c) trivial ih
    rw [hself] at hreads
    exact hreads

/-- A text whose reading meets no fault is what its pieces are written as. -/
theorem Reads.eq_flatMap (h : Reads cs pieces none) : cs = pieces.flatMap encode := by
  generalize hfault : none = fault at h
  induction h with
  | done => rfl
  | broken => cases hfault
  | piece _ _ ih => rw [List.flatMap_cons, ← ih hfault]

/-- Any other text has its fault behind what its pieces are written as. -/
theorem Reads.exists_tail {f : TemplateFault} (h : Reads cs pieces (some f)) :
    ∃ tail, cs = pieces.flatMap encode ++ tail ∧ Broken f tail := by
  generalize hfault : some f = fault at h
  induction h with
  | done => cases hfault
  | broken hb =>
    cases hfault
    exact ⟨_, rfl, hb⟩
  | piece _ _ ih =>
    obtain ⟨tail, htail, hb⟩ := ih hfault
    exact ⟨tail, by rw [List.flatMap_cons, List.append_assoc, ← htail], hb⟩

theorem Reads.writable (h : Reads cs pieces fault) : ∀ p ∈ pieces, p.Writable := by
  induction h with
  | done | broken => exact fun p hp => absurd hp List.not_mem_nil
  | piece hp _ ih => exact List.forall_mem_cons.2 ⟨hp, ih⟩

/-- The variable of a slot. -/
def slotName? : Piece → Option String
  | char _ => none
  | slot label => some (variableOf label)

/-- The variables of some pieces in order. -/
def slotNames (pieces : List Piece) : List String :=
  pieces.filterMap slotName?

/-- What stands for a piece once its variable has a value. -/
def filled (vars : Bindings String) : Piece → List Char
  | char c => [c]
  | slot label => ((vars.get? (variableOf label)).getD "").toList

/-- Slots are filled unless a variable has no value, of which the first is the error. -/
theorem substitute_eq (vars : Bindings String) (pieces : List Piece) :
    substitute vars pieces =
      match (slotNames pieces).find? (!vars.has ·) with
      | some name => .error name
      | none => .ok (pieces.flatMap (filled vars)) := by
  induction pieces with
  | nil => rfl
  | cons p pieces ih =>
    cases p with
    | char c =>
      have hnames : slotNames (char c :: pieces) = slotNames pieces := rfl
      rw [substitute, ih, hnames]
      cases (slotNames pieces).find? (!vars.has ·) <;> rfl
    | slot label =>
      have hnames : slotNames (slot label :: pieces) = variableOf label :: slotNames pieces := rfl
      rw [substitute, ih, hnames, List.find?_cons]
      cases hvalue : vars.get? (variableOf label) with
      | none =>
        rw [Bindings.get?_eq_none_iff.1 hvalue]
        rfl
      | some value =>
        have hfilled : filled vars (slot label) = value.toList := by
          rw [filled, hvalue, Option.getD_some]
        rw [Bindings.has_of_get? hvalue, List.flatMap_cons, hfilled]
        cases (slotNames pieces).find? (!vars.has ·) <;> rfl

end Piece

/-- How a fault is worded. -/
def TemplateFault.message : TemplateFault → String
  | openSlot => "unterminated placeholder"
  | strayBrace => "unmatched `\x7d`"

namespace Template

open Piece (Broken)

/-- A part of a template. -/
inductive Part
  | literal (text : String)
  /-- A slot with what stands between its braces. -/
  | slot (label : String)

namespace Part

/-- A part as it is written: braces of text are doubled. -/
def encode : Part → String
  | literal text =>
    .ofList (text.toList.flatMap fun c => if c = '\x7b' ∨ c = '\x7d' then [c, c] else [c])
  | slot label => "\x7b" ++ label ++ "\x7d"

/-- A label closes with its slot, and it does not turn the opening brace into a doubled one. -/
def Writable : Part → Prop
  | literal _ => True
  | slot label => '\x7d' ∉ label.toList ∧ label.toList.head? ≠ some '\x7b'

/-- The variable of a slot. Blanks around it do not count. -/
def slotName? : Part → Option String
  | literal _ => none
  | slot label => some (Text.trim label)

/-- What stands for a part once its variable has a value, which is inserted as it is. -/
def filled (vars : Bindings String) : Part → String
  | literal text => text
  | slot label => (vars.get? (Text.trim label)).getD ""

/-- The pieces of a part. -/
def pieces : Part → List Piece
  | literal text => text.toList.map .char
  | slot label => [.slot label.toList]

/-- A piece as a part. -/
def ofPiece : Piece → Part
  | .char c => literal (.ofList [c])
  | .slot label => slot (.ofList label)

end Part

/-- Parts one behind the other as they are written. -/
def spelled (parts : List Part) : String :=
  String.join (parts.map Part.encode)

/-- The variables of some parts in order. -/
def slotNames (parts : List Part) : List String :=
  parts.filterMap Part.slotName?

/-- Parts one behind the other with values for their variables. -/
def filled (vars : Bindings String) (parts : List Part) : String :=
  String.join (parts.map (Part.filled vars))

/-- A text is what some parts are written as. -/
structure Spells (parts : List Part) (text : String) : Prop where
  writable : ∀ p ∈ parts, p.Writable
  text_eq : text = spelled parts

/-- Rendering gives a certain result if certain variables have values. Otherwise the first one that
has none is its error. -/
structure Renders (t : Template) (vars : Bindings String) (names : List String)
    (result : Except Error String) : Prop where
  bound : (∀ v ∈ names, vars.has v) → t.render vars = result
  unbound : ∀ v, names.find? (!vars.has ·) = some v →
    t.render vars = t.fail ("unknown variable `" ++ v ++ "`")

variable {t : Template} {vars : Bindings String} {parts : List Part} {pieces : List Piece}

/-- The result of a template whose text has been read. -/
def resultOf (t : Template) (vars : Bindings String) (pieces : List Piece) :
    Option TemplateFault → Except Error String
  | some fault => t.fail fault.message
  | none => .ok (.ofList (pieces.flatMap (Piece.filled vars)))

theorem renders_pieces {fault : Option TemplateFault}
    (h : Piece.read t.text.toList = (pieces, fault)) (vars : Bindings String) :
    t.Renders vars (Piece.slotNames pieces) (t.resultOf vars pieces fault) := by
  have hsubstitute := Piece.substitute_eq vars pieces
  constructor
  · intro hbound
    have hnone : (Piece.slotNames pieces).find? (!vars.has ·) = none :=
      List.find?_eq_none.2 fun v hv => by simp [hbound v hv]
    rw [hnone] at hsubstitute
    unfold render
    rw [h]
    simp only [hsubstitute]
    cases fault with
    | none => rfl
    | some fault => cases fault <;> rfl
  · intro v hv
    rw [hv] at hsubstitute
    unfold render
    rw [h]
    simp only [hsubstitute]

section Parts

theorem Part.toList_encode (p : Part) : p.encode.toList = p.pieces.flatMap Piece.encode := by
  cases p with
  | literal text => simp [encode, pieces, List.flatMap_map, Piece.encode]
  | slot label => simp [encode, pieces, Piece.encode]

theorem Part.toList_filled (vars : Bindings String) (p : Part) :
    (p.filled vars).toList = p.pieces.flatMap (Piece.filled vars) := by
  cases p with
  | literal text => simp [filled, pieces, List.flatMap_map, Piece.filled]
  | slot label => simp [filled, pieces, Piece.filled, Piece.variableOf]

theorem Part.slotNames_pieces (p : Part) : Piece.slotNames p.pieces = p.slotName?.toList := by
  cases p with
  | literal text => simp [pieces, Piece.slotNames, Piece.slotName?, slotName?]
  | slot label => simp [pieces, Piece.slotNames, Piece.slotName?, slotName?, Piece.variableOf]

theorem Part.writable_pieces {p : Part} (h : p.Writable) : ∀ q ∈ p.pieces, q.Writable := by
  cases p with
  | literal text =>
    intro q hq
    obtain ⟨c, -, rfl⟩ := List.mem_map.1 hq
    trivial
  | slot label =>
    intro q hq
    rw [List.mem_singleton.1 hq]
    exact h

theorem toList_spelled (parts : List Part) :
    (spelled parts).toList = (parts.flatMap Part.pieces).flatMap Piece.encode := by
  induction parts with
  | nil => rfl
  | cons p parts ih =>
    unfold spelled at ih ⊢
    rw [List.map_cons, String.join_cons, String.toList_append, ih, Part.toList_encode,
      List.flatMap_cons, List.flatMap_append]

theorem toList_filled (vars : Bindings String) (parts : List Part) :
    (filled vars parts).toList = (parts.flatMap Part.pieces).flatMap (Piece.filled vars) := by
  induction parts with
  | nil => rfl
  | cons p parts ih =>
    unfold filled at ih ⊢
    rw [List.map_cons, String.join_cons, String.toList_append, ih, Part.toList_filled,
      List.flatMap_cons, List.flatMap_append]

theorem slotNames_flatMap (parts : List Part) :
    Piece.slotNames (parts.flatMap Part.pieces) = slotNames parts := by
  induction parts with
  | nil => rfl
  | cons p parts ih =>
    have hp := p.slotNames_pieces
    unfold Piece.slotNames slotNames at *
    rw [List.flatMap_cons, List.filterMap_append, ih, hp, List.filterMap_cons]
    cases p.slotName? <;> rfl

theorem Spells.read_eq {text : String} (h : Spells parts text) :
    Piece.read text.toList = (parts.flatMap Part.pieces, none) := by
  rw [h.text_eq, toList_spelled]
  apply Piece.read_flatMap_encode
  intro q hq
  obtain ⟨p, hp, hq⟩ := List.mem_flatMap.1 hq
  exact Part.writable_pieces (h.writable p hp) q hq

theorem Part.pieces_ofPiece (p : Piece) : (ofPiece p).pieces = [p] := by
  cases p <;> simp [ofPiece, pieces]

theorem flatMap_ofPiece (pieces : List Piece) :
    (pieces.map Part.ofPiece).flatMap Part.pieces = pieces := by
  rw [List.flatMap_map]
  simp only [Part.pieces_ofPiece, List.flatMap_singleton']

theorem writable_ofPiece (h : ∀ p ∈ pieces, p.Writable) :
    ∀ p ∈ pieces.map Part.ofPiece, p.Writable := by
  intro p hp
  obtain ⟨q, hq, rfl⟩ := List.mem_map.1 hp
  have hw : q.Writable := h q hq
  cases q with
  | char c => trivial
  | slot label => simpa [Part.ofPiece, Part.Writable, Piece.Writable] using hw

/-- A text that is read without a fault is what some parts are written as. -/
theorem spells_of_reads {text : String} (h : Piece.Reads text.toList pieces none) :
    Spells (pieces.map Part.ofPiece) text where
  writable := writable_ofPiece h.writable
  text_eq := by
    rw [← String.toList_inj, toList_spelled, flatMap_ofPiece]
    exact h.eq_flatMap

theorem spells_of_reads_fault {text : String} {fault : TemplateFault}
    (h : Piece.Reads text.toList pieces (some fault)) :
    ∃ front tail, text = front ++ tail ∧ Spells (pieces.map Part.ofPiece) front ∧
      Broken fault tail.toList := by
  obtain ⟨tail, htail, hbroken⟩ := h.exists_tail
  refine ⟨spelled (pieces.map Part.ofPiece), .ofList tail, ?_, ⟨writable_ofPiece h.writable, rfl⟩, ?_⟩
  · rw [← String.toList_inj, String.toList_append, toList_spelled, flatMap_ofPiece,
      String.toList_ofList]
    exact htail
  · rwa [String.toList_ofList]

end Parts

theorem Spells.renders (h : Spells parts t.text) (vars : Bindings String) :
    t.Renders vars (slotNames parts) (.ok (filled vars parts)) := by
  have hrenders := renders_pieces h.read_eq vars
  rw [slotNames_flatMap, resultOf, ← toList_filled, String.ofList_toList] at hrenders
  exact hrenders

/-- A text with a fault is not rendered, whatever values there are. -/
theorem Renders.ne_ok {names : List String} {what result : String}
    (h : t.Renders vars names (t.fail what)) : t.render vars ≠ .ok result := by
  intro hok
  cases hfirst : names.find? (!vars.has ·) with
  | some v =>
    rw [h.unbound v hfirst] at hok
    cases hok
  | none =>
    have hbound : ∀ v ∈ names, vars.has v = true := by
      intro v hv
      simpa using List.find?_eq_none.1 hfirst v hv
    rw [h.bound hbound] at hok
    cases hok

/-- Rendering is substitution. A text that parts are written as gives the parts with values in place
of their slots, unless a variable has no value. Only such texts are rendered at all: any other one
goes on behind some parts with a slot that is not closed or a brace that closes nothing, which is
the error unless a variable before it has no value. -/
theorem render_parts (t : Template) (vars : Bindings String) :
    (∀ parts, Spells parts t.text → t.Renders vars (slotNames parts) (.ok (filled vars parts))) ∧
      ((∃ result, t.render vars = .ok result) → ∃ parts, Spells parts t.text) ∧
      ((¬∃ parts, Spells parts t.text) → ∃ parts front tail fault, t.text = front ++ tail ∧
        Spells parts front ∧ Broken fault tail.toList ∧
        t.Renders vars (slotNames parts) (t.fail fault.message)) := by
  refine ⟨fun parts h => h.renders vars, ?_⟩
  have hreads := Piece.reads_read t.text.toList
  have hrenders := renders_pieces (t := t) rfl vars
  cases hfault : (Piece.read t.text.toList).2 with
  | none =>
    rw [hfault] at hreads
    have hspells := spells_of_reads hreads
    exact ⟨fun _ => ⟨_, hspells⟩, fun hnone => absurd ⟨_, hspells⟩ hnone⟩
  | some fault =>
    rw [hfault] at hreads hrenders
    obtain ⟨front, tail, htext, hspells, hbroken⟩ := spells_of_reads_fault hreads
    have hnames := slotNames_flatMap ((Piece.read t.text.toList).1.map Part.ofPiece)
    rw [flatMap_ofPiece] at hnames
    rw [hnames] at hrenders
    constructor
    · rintro ⟨result, hok⟩
      exact absurd hok hrenders.ne_ok
    · intro _
      exact ⟨_, front, tail, fault, htext, hspells, hbroken, hrenders⟩

/-- Braces on both sides of a slot, and braces in its value. -/
theorem render_parts_braces :
    let t : Template := ⟨"t", "\x7b\x7b\x7b a\x7d\x7d\x7d"⟩
    let parts : List Part := [.literal "\x7b", .slot " a", .literal "\x7d"]
    Spells parts t.text ∧ t.render [("a", "\x7bb\x7d")] = .ok "\x7b\x7bb\x7d\x7d" := by
  intro t parts
  have hw : ∀ p ∈ parts, p.Writable := by
    simp only [parts, List.forall_mem_cons, List.not_mem_nil, false_imp_iff, implies_true, and_true]
    exact ⟨trivial, ⟨by decide, by decide⟩, trivial⟩
  have hspells : Spells parts t.text := ⟨hw, by decide⟩
  have hrenders := (render_parts t [("a", "\x7bb\x7d")]).1 parts hspells
  exact ⟨hspells, hrenders.bound (by decide)⟩

end Template

end Doctype
