import Doctype.DocumentType
import Doctype.Proofs.Model.Bindings

/-! The attribute lists of a document type in the order in which they are printed. -/
namespace Doctype.DocumentType

variable {d : DocumentType}

/-- The attribute lists of some elements. -/
def listed (d : DocumentType) (elements : Bindings ContentSpec) : Bindings AttributeList :=
  elements.filterMap fun b => (d.attlists.get? b.1).map (b.1, ·)

/-- The attribute lists in the order of their elements, and those that belong to no element. -/
def regrouped (d : DocumentType) : Bindings AttributeList :=
  d.listed d.elements ++ d.attlists.filter fun b => !d.elements.has b.1

/-- What is declared by the normalised DTD. -/
def normalized (d : DocumentType) : DocumentType :=
  { d with attlists := d.regrouped }

theorem mem_listed {elements : Bindings ContentSpec} {b : String × AttributeList} :
    b ∈ d.listed elements ↔ elements.has b.1 = true ∧ d.attlists.get? b.1 = some b.2 := by
  unfold listed
  rw [List.mem_filterMap, Bindings.has_iff, Bindings.names, List.mem_map]
  constructor
  · rintro ⟨c, hc, h⟩
    obtain ⟨list, hlist, rfl⟩ := Option.map_eq_some_iff.1 h
    exact ⟨⟨c, hc, rfl⟩, hlist⟩
  · rintro ⟨⟨c, hc, hcb⟩, h⟩
    rw [← hcb] at h
    refine ⟨c, hc, ?_⟩
    rw [h, Option.map_some, hcb]

theorem names_listed_sublist (d : DocumentType) (elements : Bindings ContentSpec) :
    (d.listed elements).names.Sublist elements.names := by
  unfold listed Bindings.names
  induction elements with
  | nil => exact .slnil
  | cons b bs ih =>
    rw [List.filterMap_cons, List.map_cons]
    cases d.attlists.get? b.1 with
    | none => exact ih.cons b.1
    | some list => exact ih.cons_cons b.1

theorem listed_append (elements : Bindings ContentSpec) (b : String × ContentSpec) :
    d.listed (elements ++ [b]) =
      d.listed elements ++ ((d.attlists.get? b.1).map (b.1, ·)).toList := by
  unfold listed
  rw [List.filterMap_append]
  cases h : d.attlists.get? b.1 with
  | none => simp [h]
  | some list => simp [h]

/-- No attribute list is lost or printed twice. -/
theorem regrouped_perm (helements : d.elements.names.Nodup) (hattlists : d.attlists.names.Nodup) :
    d.regrouped.Perm d.attlists := by
  have hlisted : (d.listed d.elements).Nodup :=
    Bindings.nodup_of_names (helements.sublist (names_listed_sublist d d.elements))
  have hothers : (d.attlists.filter fun b => !d.elements.has b.1).Nodup :=
    (Bindings.nodup_of_names hattlists).filter _
  have hboth : d.regrouped.Nodup := by
    apply List.Nodup.append hlisted hothers
    intro b hb hb'
    have hhas := (mem_listed.1 hb).1
    have hnot := (List.mem_filter.1 hb').2
    rw [hhas] at hnot
    cases hnot
  rw [List.perm_ext_iff_of_nodup hboth (Bindings.nodup_of_names hattlists)]
  intro b
  unfold regrouped
  rw [List.mem_append, mem_listed, List.mem_filter, ← Bindings.mem_iff_get? hattlists]
  cases d.elements.has b.1 <;> simp

/-- The order in which the attribute lists are printed is not changed by printing. -/
theorem text_normalized (helements : d.elements.names.Nodup) (hattlists : d.attlists.names.Nodup) :
    d.normalized.text = d.text := by
  have hperm := regrouped_perm helements hattlists
  have hnodup : d.regrouped.names.Nodup := (hperm.map Prod.fst).nodup_iff.2 hattlists
  have hget (name : String) : d.regrouped.get? name = d.attlists.get? name :=
    Bindings.get?_perm hperm hnodup name
  have helement : d.normalized.elementText = d.elementText := by
    funext b
    unfold elementText normalized
    rw [hget]
  have hothers : (d.regrouped.filter fun b => !d.elements.has b.1) =
      d.attlists.filter fun b => !d.elements.has b.1 := by
    have hlisted : ((d.listed d.elements).filter fun b => !d.elements.has b.1) = [] := by
      rw [List.filter_eq_nil_iff]
      intro b hb
      rw [(mem_listed.1 hb).1]
      decide
    unfold regrouped
    rw [List.filter_append, hlisted, List.filter_filter, List.nil_append]
    simp only [Bool.and_self]
  unfold text
  rw [helement]
  unfold normalized
  rw [hothers]

theorem sameAs_normalized (helements : d.elements.names.Nodup)
    (hattlists : d.attlists.names.Nodup) (hlists : ∀ b ∈ d.attlists, b.2.names.Nodup)
    (hentities : d.entities.names.Nodup) (hnotations : d.notations.names.Nodup) :
    d.normalized.sameAs d = true := by
  have hperm := regrouped_perm helements hattlists
  have hsame : sameAttlists d.regrouped d.attlists = true := by
    unfold sameAttlists
    rw [hperm.length_eq, beq_self_eq_true, Bool.true_and, List.all_eq_true]
    intro b hb
    have hmem : b ∈ d.attlists := hperm.mem_iff.1 hb
    rw [Bindings.get?_of_mem hattlists hmem, Option.any_some]
    exact Bindings.sameAs_self (hlists b hmem)
  unfold sameAs normalized
  rw [Bindings.sameAs_self helements, hsame, Bindings.sameAs_self hentities,
    Bindings.sameAs_self hnotations, beq_self_eq_true, beq_self_eq_true]
  rfl

end Doctype.DocumentType
