import Doctype.Proofs.Template.Generation

/-! What the built-in templates of an element and of an attribute render: their own text with the
names, the content and the default in between. -/
namespace Doctype

theorem Bindings.get?_map {α β : Type} (bs : Bindings α) (f : α → β) (name : String) :
    get? (bs.map fun b => (b.1, f b.2)) name = (bs.get? name).map f := by
  induction bs with
  | nil => rfl
  | cons b bs ih =>
    rw [List.map_cons, get?_cons, get?_cons, ih]
    split <;> rfl

namespace Piece

variable {vars : Bindings String} {v value : String}

theorem filled_ofText (vars : Bindings String) (s : String) :
    (ofText s).flatMap (filled vars) = s.toList := by
  simp [ofText, List.flatMap_map, filled]

theorem filled_ofVariable (h : vars.get? (Text.trim v) = some value) :
    (ofVariable v).flatMap (filled vars) = value.toList := by
  simp [ofVariable, filled, variableOf, h]

end Piece

namespace Templates

open Piece (filled filled_ofText)

variable {vars : Bindings String} {target : Target} {name : String}

theorem filled_line (vars : Bindings String) (s : String) :
    (line s).flatMap (filled vars) = s.toList ++ ['\n'] := by
  rw [line, List.flatMap_append, filled_ofText, filled_ofText]
  rfl

/-- The text of a built-in template is what its pieces are written as. -/
theorem get?_builtin (target : Target) (name : String) :
    Bindings.get? (builtin target) name =
      ((builtinPieces target).get? name).map fun pieces => .ofList (pieces.flatMap Piece.encode) := by
  unfold builtin ofList
  rw [List.map_map]
  exact Bindings.get?_map (builtinPieces target)
    (fun pieces => String.ofList (pieces.flatMap Piece.encode)) name

/-- A built-in template is rendered with the variables that it is given. -/
theorem render_builtin {pieces : List Piece} (h : (builtinPieces target).get? name = some pieces)
    (hvars : vars.names = supplied name) :
    (builtin target).render name vars = .ok (.ofList (pieces.flatMap (filled vars))) := by
  have hfits := fits_builtinPieces target (name, pieces) (Bindings.mem_of_get? h)
  unfold render get
  rw [get?_builtin, h]
  exact render_of_fits hfits hvars

end Templates

open Templates

/-- The line that reads an attribute. -/
theorem HandlerAttribute.text_builtin (a : HandlerAttribute) :
    a.text (builtin .sax) =
      .ok ("        String " ++ a.ident ++ " = atts.getValue(\"" ++ a.name ++ "\"); // " ++
        a.definition.type.text ++ " " ++ defaultSummary a.definition.default ++ "\n") := by
  have hname : a.vars.get? (Text.trim "name") = some a.name := rfl
  have hvariable : a.vars.get? (Text.trim "variable") = some a.ident := rfl
  have htype : a.vars.get? (Text.trim "type") = some a.definition.type.text := rfl
  have hdefault : a.vars.get? (Text.trim "default") = some (defaultSummary a.definition.default) := rfl
  have hpieces : (builtinPieces .sax).get? "sax.attribute" = some handlerAttribute := rfl
  rw [text, render_builtin hpieces rfl, Except.ok.injEq, ← String.toList_inj, String.toList_ofList]
  unfold handlerAttribute
  simp only [List.flatMap_append, Piece.filled_ofText, filled_line, Piece.filled_ofVariable hname,
    Piece.filled_ofVariable hvariable, Piece.filled_ofVariable htype,
    Piece.filled_ofVariable hdefault, String.toList_append]
  simp

namespace Stylesheet

/-- The built-in templates copy every attribute. -/
theorem attributeText_builtin (b : String × AttributeDef) :
    ∃ text, attributeText (builtin .xslt) b = .ok text := by
  have hoptional : (builtinPieces .xslt).get? "xslt.optional_attribute" =
      some stylesheetOptionalAttribute := rfl
  have hattribute : (builtinPieces .xslt).get? "xslt.attribute" = some stylesheetAttribute := rfl
  unfold attributeText
  split
  · exact ⟨_, render_builtin hoptional rfl⟩
  · exact ⟨_, render_builtin hattribute rfl⟩

theorem exists_stylesheetElement_eq : ∃ body, stylesheetElement =
    line "" ++ Piece.ofText "  <!-- " ++ Piece.ofVariable "name" ++ Piece.ofText ": " ++
      Piece.ofVariable "content" ++ line " -->" ++ body := by
  unfold stylesheetElement
  simp only [List.append_assoc]
  exact ⟨_, rfl⟩

theorem elementText_of_ok {ts : Templates} {d : DocumentType} {b : String × ContentSpec}
    {copies : List String} (h : (d.attributes b.1).mapM (attributeText ts) = .ok copies) :
    elementText ts d b = ts.render "xslt.element"
      [("name", b.1), ("content", b.2.text), ("attributes", String.join copies)] := by
  unfold elementText
  rw [h]
  rfl

/-- The rule of an element begins with a comment. -/
theorem elementText_builtin (d : DocumentType) (b : String × ContentSpec) :
    ∃ rest, elementText (builtin .xslt) d b =
      .ok ("\n  <!-- " ++ b.1 ++ ": " ++ b.2.text ++ " -->" ++ rest) := by
  have hcopies : ∃ copies, (d.attributes b.1).mapM (attributeText (builtin .xslt)) = .ok copies := by
    cases hresult : (d.attributes b.1).mapM (attributeText (builtin .xslt)) with
    | ok copies => exact ⟨copies, rfl⟩
    | error e =>
      obtain ⟨a, -, herror⟩ := exists_of_mapM_error hresult
      obtain ⟨text, hok⟩ := attributeText_builtin a
      rw [herror] at hok
      cases hok
  obtain ⟨copies, hcopies⟩ := hcopies
  let vars : Bindings String :=
    [("name", b.1), ("content", b.2.text), ("attributes", String.join copies)]
  have hname : vars.get? (Text.trim "name") = some b.1 := rfl
  have hcontent : vars.get? (Text.trim "content") = some b.2.text := rfl
  have hpieces : (builtinPieces .xslt).get? "xslt.element" = some stylesheetElement := rfl
  have hrender : (builtin .xslt).render "xslt.element" vars =
      .ok (.ofList (stylesheetElement.flatMap (Piece.filled vars))) := render_builtin hpieces rfl
  obtain ⟨body, hbody⟩ := exists_stylesheetElement_eq
  refine ⟨.ofList ('\n' :: body.flatMap (Piece.filled vars)), ?_⟩
  rw [elementText_of_ok hcopies, hrender, Except.ok.injEq, ← String.toList_inj, String.toList_ofList, hbody]
  simp only [List.flatMap_append, Piece.filled_ofText, filled_line, Piece.filled_ofVariable hname,
    Piece.filled_ofVariable hcontent, String.toList_append, String.toList_ofList]
  simp

end Stylesheet

end Doctype
