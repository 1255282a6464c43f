import Doctype.Output
import Doctype.Proofs.Template.Changes
import Doctype.Proofs.Template.Rendering

/-! What a run of a generator renders. Each template is given the variables that the built-in
template of its name has slots for, so that a run can only fail in a template that has been
replaced. -/
namespace Doctype

namespace Piece

/-- Pieces that can be read again, and whose slots are for certain variables. -/
structure Fits (names : List String) (pieces : List Piece) : Prop where
  writable : ∀ p ∈ pieces, p.Writable
  bound : ∀ v ∈ slotNames pieces, v ∈ names

variable {names : List String} {ps qs : List Piece}

theorem fits_append : Fits names (ps ++ qs) ↔ Fits names ps ∧ Fits names qs := by
  have hnames : slotNames (ps ++ qs) = slotNames ps ++ slotNames qs := List.filterMap_append
  constructor
  · intro h
    have hbound := h.bound
    rw [hnames] at hbound
    have hw := List.forall_mem_append.1 h.writable
    have hv := List.forall_mem_append.1 hbound
    exact ⟨⟨hw.1, hv.1⟩, ⟨hw.2, hv.2⟩⟩
  · intro h
    constructor
    · exact List.forall_mem_append.2 ⟨h.1.writable, h.2.writable⟩
    · rw [hnames]
      exact List.forall_mem_append.2 ⟨h.1.bound, h.2.bound⟩

theorem fits_ofText (s : String) : Fits names (ofText s) := by
  constructor
  · intro p hp
    obtain ⟨c, -, rfl⟩ := List.mem_map.1 hp
    trivial
  · intro v hv
    simp [slotNames, ofText, List.filterMap_map, Function.comp_def, slotName?] at hv

theorem fits_ofVariable {v : String} :
    Fits names (ofVariable v) ↔ (slot v.toList).Writable ∧ Text.trim v ∈ names := by
  have hnames : slotNames (ofVariable v) = [Text.trim v] := by
    simp [slotNames, ofVariable, slotName?, variableOf]
  constructor
  · intro h
    have hbound := h.bound
    rw [hnames] at hbound
    exact ⟨List.forall_mem_singleton.1 h.writable, List.forall_mem_singleton.1 hbound⟩
  · intro h
    constructor
    · exact List.forall_mem_singleton.2 h.1
    · rw [hnames]
      exact List.forall_mem_singleton.2 h.2

end Piece

namespace Templates

open Piece (Fits fits_append fits_ofText fits_ofVariable)

theorem fits_line {names : List String} (s : String) : Fits names (line s) :=
  fits_append.2 ⟨fits_ofText s, fits_ofText "\n"⟩

theorem fits_lines {names : List String} (texts : List String) : Fits names (lines texts) := by
  induction texts with
  | nil => exact fits_ofText ""
  | cons s texts ih => exact fits_append.2 ⟨fits_line s, ih⟩

/-- The variables that the template of a name is given. -/
def supplied : String → List String
  | "sax.file" =>
    ["package", "source", "class", "constants", "start_cases", "end_cases", "handlers"]
  | "sax.package" => ["package"]
  | "sax.constant" | "sax.start_case" | "sax.end_case" | "sax.handler" =>
    ["name", "constant", "method", "content", "args", "params", "attributes"]
  | "sax.attribute" => ["name", "variable", "type", "default"]
  | "xslt.file" => ["source", "templates"]
  | "xslt.element" => ["name", "content", "attributes"]
  | "xslt.attribute" | "xslt.optional_attribute" => ["name"]
  | _ => []

theorem fits_builtinPieces (target : Target) :
    ∀ b ∈ builtinPieces target, Fits (supplied b.1) b.2 := by
  cases target with
  | sax =>
    simp only [builtinPieces, List.forall_mem_cons, List.not_mem_nil, false_imp_iff, implies_true,
      and_true]
    unfold handlerFile handlerPackage handlerConstant handlerStartCase handlerEndCase handlerMethods
      handlerAttribute
    simp only [fits_append, fits_ofText, fits_line, fits_lines, fits_ofVariable, Piece.Writable,
      true_and, and_true]
    and_intros <;> decide
  | xslt =>
    simp only [builtinPieces, List.forall_mem_cons, List.not_mem_nil, false_imp_iff, implies_true,
      and_true]
    unfold stylesheetFile stylesheetElement stylesheetAttribute stylesheetOptionalAttribute
      attributeCopy
    simp only [fits_append, fits_ofText, fits_line, fits_lines, fits_ofVariable, Piece.Writable,
      true_and, and_true]
    and_intros <;> decide
  | dtd => exact List.forall_mem_nil _

/-- A built-in text is written from pieces that fit what its template is given. -/
theorem fits_get?_builtin {target : Target} {name text : String}
    (h : Bindings.get? (builtin target) name = some text) :
    ∃ pieces, Fits (supplied name) pieces ∧ text = .ofList (pieces.flatMap Piece.encode) := by
  obtain ⟨t, ht, hname⟩ := List.mem_map.1 (Bindings.mem_of_get? h)
  obtain ⟨b, hb, hbt⟩ := List.mem_map.1 ht
  subst hbt
  cases hname
  exact ⟨b.2, fits_builtinPieces target b hb, rfl⟩

/-- Pieces are filled with the variables that they fit. -/
theorem render_of_fits {names : List String} {name : String} {pieces : List Piece}
    {vars : Bindings String} (hfits : Fits names pieces) (hvars : vars.names = names) :
    Template.render ⟨name, .ofList (pieces.flatMap Piece.encode)⟩ vars =
      .ok (.ofList (pieces.flatMap (Piece.filled vars))) := by
  have hread : Piece.read (String.ofList (pieces.flatMap Piece.encode)).toList = (pieces, none) := by
    rw [String.toList_ofList, Piece.read_flatMap_encode hfits.writable]
  have hbound : ∀ v ∈ Piece.slotNames pieces, vars.has v = true := by
    intro v hv
    rw [Bindings.has_iff, hvars]
    exact hfits.bound v hv
  exact (Template.renders_pieces (t := ⟨name, _⟩) hread vars).bound hbound

/-- Built-in templates are rendered with the variables that they are given. -/
theorem render_get?_builtin {target : Target} {name text : String} {vars : Bindings String}
    (h : Bindings.get? (builtin target) name = some text) (hvars : vars.names = supplied name) :
    ∃ result, Template.render ⟨name, text⟩ vars = .ok result := by
  obtain ⟨pieces, hfits, rfl⟩ := fits_get?_builtin h
  exact ⟨_, render_of_fits hfits hvars⟩

end Templates

/-- Only defects of a template keep it from being rendered. -/
theorem Template.render_error {t : Template} {vars : Bindings String} {e : Error}
    (h : t.render vars = .error e) : ∃ detail, e = .template detail := by
  unfold render fail at h
  split at h
  split at h <;> cases h <;> exact ⟨_, rfl⟩

section Run

/-- The package clause of a handler class. -/
def ClassName.clause (ts : Templates) (cls : ClassName) : Except Error String :=
  match cls.package with
  | none => pure ""
  | some package => ts.render "sax.package" [("package", package)]

/-- What the template of a handler class can use. -/
def ClassName.vars (cls : ClassName) (source clause : String) (parts : List HandlerParts) :
    Bindings String := [
  ("package", clause), ("source", source), ("class", cls.name),
  ("constants", String.join (parts.map (·.constant))),
  ("start_cases", String.join (parts.map (·.startCase))),
  ("end_cases", String.join (parts.map (·.endCase))),
  ("handlers", String.join (parts.map (·.methods)))]

/-- The template that copies an attribute. -/
def Stylesheet.copyName (a : AttributeDef) : String :=
  match a.default with
  | .implied => "xslt.optional_attribute"
  | _ => "xslt.attribute"

/-- What a run renders as far as it gets: templates by name, with the values for their slots. -/
inductive Use (ts : Templates) (cls : ClassName) (source : String) (d : DocumentType) :
    Target → String → Bindings String → Prop
  | read {e : HandlerElement} {a : HandlerAttribute} : e ∈ HandlerElement.ofDocumentType d →
      a ∈ e.attributes → Use ts cls source d .sax "sax.attribute" a.vars
  | part {e : HandlerElement} {reads : List String} {name : String} :
      e ∈ HandlerElement.ofDocumentType d → e.attributes.mapM (·.text ts) = .ok reads →
      name ∈ ["sax.constant", "sax.start_case", "sax.end_case", "sax.handler"] →
      Use ts cls source d .sax name (e.vars (String.join reads))
  | clause {package : String} : cls.package = some package →
      Use ts cls source d .sax "sax.package" [("package", package)]
  | file {parts : List HandlerParts} {clause : String} :
      (HandlerElement.ofDocumentType d).mapM (·.parts ts) = .ok parts →
      cls.clause ts = .ok clause →
      Use ts cls source d .sax "sax.file" (cls.vars source clause parts)
  | copy {b : String × ContentSpec} {a : String × AttributeDef} : b ∈ d.elements →
      a ∈ d.attributes b.1 →
      Use ts cls source d .xslt (Stylesheet.copyName a.2) [("name", a.1)]
  | rule {b : String × ContentSpec} {copies : List String} : b ∈ d.elements →
      (d.attributes b.1).mapM (Stylesheet.attributeText ts) = .ok copies →
      Use ts cls source d .xslt "xslt.element"
        [("name", b.1), ("content", b.2.text), ("attributes", String.join copies)]
  | stylesheet {rules : List String} :
      d.elements.mapM (Stylesheet.elementText ts d) = .ok rules →
      Use ts cls source d .xslt "xslt.file" [("source", source), ("templates", String.join rules)]

variable {ts : Templates} {cls : ClassName} {source : String} {d : DocumentType} {target : Target}
  {name : String} {vars : Bindings String} {e : Error}

/-- A run renders only templates that its target brings along, with the variables supplied to
them. -/
theorem Use.builtin (h : Use ts cls source d target name vars) :
    Bindings.has (Templates.builtin target) name = true ∧
      vars.names = Templates.supplied name := by
  cases h with
  | read | clause | file | rule | stylesheet => exact ⟨rfl, rfl⟩
  | part _ _ hname =>
    simp only [List.mem_cons, List.not_mem_nil, or_false] at hname
    rcases hname with rfl | rfl | rfl | rfl <;> exact ⟨rfl, rfl⟩
  | copy =>
    unfold Stylesheet.copyName
    split <;> exact ⟨rfl, rfl⟩

section Errors

variable {α β : Type}

theorem error_of_bind {x : Except Error α} {f : α → Except Error β} (h : (x >>= f) = .error e) :
    x = .error e ∨ ∃ a, x = .ok a ∧ f a = .error e := by
  cases x with
  | error e' =>
    cases h
    exact .inl rfl
  | ok a => exact .inr ⟨a, rfl, h⟩

/-- A run over a list fails at one of its members. -/
theorem exists_of_mapM_error {f : α → Except Error β} {xs : List α} (h : xs.mapM f = .error e) :
    ∃ x ∈ xs, f x = .error e := by
  induction xs with
  | nil => cases h
  | cons x xs ih =>
    rw [List.mapM_cons] at h
    rcases error_of_bind h with hx | ⟨y, -, h⟩
    · exact ⟨x, List.mem_cons_self, hx⟩
    · rcases error_of_bind h with hxs | ⟨ys, -, h⟩
      · obtain ⟨x', hx', herror⟩ := ih hxs
        exact ⟨x', List.mem_cons_of_mem _ hx', herror⟩
      · cases h

end Errors

/-- An element fails in the reading of an attribute or in one of its parts. -/
theorem HandlerElement.parts_error {el : HandlerElement} (h : el.parts ts = .error e) :
    (∃ a ∈ el.attributes, ts.render "sax.attribute" a.vars = .error e) ∨
      ∃ reads, el.attributes.mapM (·.text ts) = .ok reads ∧
        ∃ name ∈ ["sax.constant", "sax.start_case", "sax.end_case", "sax.handler"],
          ts.render name (el.vars (String.join reads)) = .error e := by
  unfold parts at h
  rcases error_of_bind h with h | ⟨reads, hreads, h⟩
  · exact .inl (exists_of_mapM_error h)
  · refine .inr ⟨reads, hreads, ?_⟩
    rcases error_of_bind h with h | ⟨_, -, h⟩
    · exact ⟨_, by decide, h⟩
    rcases error_of_bind h with h | ⟨_, -, h⟩
    · exact ⟨_, by decide, h⟩
    rcases error_of_bind h with h | ⟨_, -, h⟩
    · exact ⟨_, by decide, h⟩
    rcases error_of_bind h with h | ⟨_, -, h⟩
    · exact ⟨_, by decide, h⟩
    · cases h

theorem handlerText_eq : handlerText ts cls source d = (do
    let parts ← (HandlerElement.ofDocumentType d).mapM (·.parts ts)
    let clause ← cls.clause ts
    ts.render "sax.file" (cls.vars source clause parts)) := by
  unfold handlerText ClassName.clause
  cases cls.package <;> rfl

theorem exists_use_of_handlerText (h : handlerText ts cls source d = .error e) :
    ∃ name vars, Use ts cls source d .sax name vars ∧ ts.render name vars = .error e := by
  rw [handlerText_eq] at h
  rcases error_of_bind h with h | ⟨parts, hparts, h⟩
  · obtain ⟨el, hel, h⟩ := exists_of_mapM_error h
    rcases HandlerElement.parts_error h with ⟨a, ha, h⟩ | ⟨reads, hreads, name, hname, h⟩
    · exact ⟨_, _, .read hel ha, h⟩
    · exact ⟨_, _, .part hel hreads hname, h⟩
  rcases error_of_bind h with h | ⟨clause, hclause, h⟩
  · unfold ClassName.clause at h
    cases hpackage : cls.package with
    | none =>
      rw [hpackage] at h
      cases h
    | some package =>
      rw [hpackage] at h
      exact ⟨_, _, .clause hpackage, h⟩
  · exact ⟨_, _, .file hparts hclause, h⟩

theorem exists_use_of_stylesheet (h : Stylesheet.text ts source d = .error e) :
    ∃ name vars, Use ts cls source d .xslt name vars ∧ ts.render name vars = .error e := by
  unfold Stylesheet.text at h
  rcases error_of_bind h with h | ⟨rules, hrules, h⟩
  · obtain ⟨b, hb, h⟩ := exists_of_mapM_error h
    unfold Stylesheet.elementText at h
    rcases error_of_bind h with h | ⟨copies, hcopies, h⟩
    · obtain ⟨a, ha, h⟩ := exists_of_mapM_error h
      exact ⟨_, _, .copy hb ha, h⟩
    · exact ⟨_, _, .rule hb hcopies, h⟩
  · exact ⟨_, _, .stylesheet hrules, h⟩

/-- The error of a run is that of a template it renders. -/
theorem exists_use_of_error (h : generate target ts cls source d = .error e) :
    ∃ name vars, Use ts cls source d target name vars ∧ ts.render name vars = .error e := by
  cases target with
  | sax => exact exists_use_of_handlerText h
  | xslt => exact exists_use_of_stylesheet h
  | dtd => cases h

namespace Templates

/-- A run raises an error as it renders a template. -/
structure Raises (ts : Templates) (cls : ClassName) (source : String) (d : DocumentType)
    (target : Target) (t : Template) (e : Error) : Prop where
  get_eq : ts.get t.name = .ok t
  rendered : ∃ vars, Use ts cls source d target t.name vars ∧ t.render vars = .error e

/-- With the templates of its target there, a run fails in one of them. -/
theorem exists_raises
    (hts : ∀ name, Bindings.has (builtin target) name = true → ts.has name = true)
    (h : generate target ts cls source d = .error e) :
    ∃ t, Bindings.has (builtin target) t.name = true ∧ Raises ts cls source d target t e := by
  obtain ⟨name, vars, huse, hrender⟩ := exists_use_of_error h
  have hname := huse.builtin.1
  obtain ⟨text, htext⟩ := Bindings.exists_get?_of_has (hts name hname)
  have hget : ts.get name = .ok ⟨name, text⟩ := by
    unfold get
    rw [htext]
  unfold render at hrender
  rw [hget] at hrender
  exact ⟨⟨name, text⟩, hname, hget, vars, huse, hrender⟩

/-- A template in which a run fails is not built-in. -/
theorem Raises.mem_replaced {changes : List Change} {t : Template}
    (h : Raises (changes.foldl Change.run (builtin target)) cls source d target t e) :
    t ∈ replaced (builtin target) changes := by
  obtain ⟨hget, vars, huse, hrender⟩ := h
  unfold get at hget
  rw [foldl_run] at hget
  split at hget
  · rename_i text htext
    have ht : ⟨t.name, text⟩ = t := Except.ok.inj hget
    rcases get?_foldl_insert htext with hput | hbuiltin
    · exact ht ▸ hput
    · obtain ⟨result, hok⟩ := render_get?_builtin hbuiltin huse.builtin.2
      rw [ht, hrender] at hok
      cases hok
  · cases hget

theorem error_replaced (changes : List Change)
    (h : generate target (changes.foldl Change.run (builtin target)) cls source d = .error e) :
    (∃ detail, e = .template detail) ∧
      ∃ t ∈ replaced (builtin target) changes, Bindings.has (builtin target) t.name = true ∧
        Raises (changes.foldl Change.run (builtin target)) cls source d target t e := by
  have hkept (name : String) (hname : Bindings.has (builtin target) name = true) :
      Bindings.has (changes.foldl Change.run (builtin target)) name = true := by
    rw [foldl_run]
    exact has_foldl_insert _ hname
  obtain ⟨t, hname, hraises⟩ := exists_raises hkept h
  obtain ⟨vars, -, hrender⟩ := hraises.rendered
  exact ⟨Template.render_error hrender, t, hraises.mem_replaced, hname, hraises⟩

/-- A run with the built-in templates gives an output. After changes to them it fails only as it
renders a template that has been put in for a built-in one. -/
theorem generate_replaced (target : Target) (cls : ClassName) (source : String) (d : DocumentType) :
    (∃ text, generate target (builtin target) cls source d = .ok text) ∧
      ∀ changes e,
        generate target (changes.foldl Change.run (builtin target)) cls source d = .error e →
          (∃ detail, e = .template detail) ∧
            ∃ t ∈ replaced (builtin target) changes, Bindings.has (builtin target) t.name = true ∧
              Raises (changes.foldl Change.run (builtin target)) cls source d target t e := by
  constructor
  · cases hresult : generate target (builtin target) cls source d with
    | ok text => exact ⟨text, rfl⟩
    | error e =>
      obtain ⟨-, t, ht, -⟩ := error_replaced [] hresult
      cases ht
  · exact fun changes e h => error_replaced changes h

/-- A template that cannot be read is put in. -/
theorem generate_replaced_broken :
    let changes : List Change := [.insert ⟨"xslt.file", "\x7b"⟩]
    let ts := changes.foldl Change.run (builtin .xslt)
    let e : Error := .template "unterminated placeholder in template `xslt.file`"
    generate .xslt ts {} "a.dtd" {} = .error e ∧
      ∃ t ∈ replaced (builtin .xslt) changes, Raises ts {} "a.dtd" {} .xslt t e := by
  intro changes ts e
  have hget : Bindings.get? ts "xslt.file" = some "\x7b" :=
    (get?_insert (builtin .xslt) ⟨"xslt.file", "\x7b"⟩ "xslt.file").trans (if_pos rfl)
  have hread : Piece.read "\x7b".toList = ([], some .openSlot) := by simp [Piece.read]
  have hrun : generate .xslt ts {} "a.dtd" {} = .error e := by
    change ts.render "xslt.file" _ = _
    unfold render get
    rw [hget]
    change Template.render ⟨"xslt.file", "\x7b"⟩ _ = _
    unfold Template.render
    rw [hread]
    rfl
  obtain ⟨-, t, ht, -, hraises⟩ := (generate_replaced .xslt {} "a.dtd" {}).2 changes e hrun
  exact ⟨hrun, t, ht, hraises⟩

end Templates

end Run

end Doctype
