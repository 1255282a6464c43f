import Doctype.Proofs.Parser.Nested

/-! Every document type that a parse gives is well-formed. -/
namespace Doctype.Parser

/-- A parse of open sources, of a text or of a file gives a document type. -/
inductive Gives (w : World) (options : Options) (m : DocumentType) : Prop
  | sources {fuel : Nat} {s : SourceStack} :
      (parseSources w fuel options s).1 = .ok m → Gives w options m
  | text {fuel : Nat} {name text : String} :
      (parseText w fuel options name text).1 = .ok m → Gives w options m
  | file {fuel : Nat} {path : Path} :
      (parseFile w fuel options path).1 = .ok m → Gives w options m

variable {w : World} {fuel : Nat} {options : Options} {s : SourceStack} {m : DocumentType}

/-- A parse begins well-formed, and every item keeps it so. -/
theorem sound_of_parseSources (h : (parseSources w fuel options s).1 = .ok m) :
    m.parameters.Sound ∧ m.Sound options.keepInstructions := by
  obtain ⟨b, q, -, hsubset, rfl⟩ := parseSources_ok h
  have hstart : Sound { stack := b, keepInstructions := options.keepInstructions } :=
    ⟨rfl, EntityTable.sound_empty, DocumentType.sound_empty _⟩
  have hcompletes := reaches_of_subset hsubset
  exact Completes.result_sound hcompletes hstart

/-- A parse that succeeds gives names, groups, identifiers and instructions as they can be written,
and parameter entities that are declared in one way only. -/
theorem wellFormed_of_parse (h : Gives w options m) :
    m.parameters.Sound ∧ m.Sound options.keepInstructions := by
  cases h with
  | sources h => exact sound_of_parseSources h
  | text h => exact sound_of_parseSources h
  | file h =>
    unfold parseFile at h
    split at h
    · cases h
    · exact sound_of_parseSources h

theorem wellFormed_of_parse_specimen :
    (Gives bare { keepInstructions := true } .specimen ∧
      DocumentType.specimen.parameters.Sound ∧ DocumentType.specimen.Sound true) ∧
    Gives furnished {} { elements := [("b", .any)] } ∧
      DocumentType.Sound false { elements := [("b", .any)] } := by
  obtain ⟨fuel, htext⟩ := parses_specimen
  obtain ⟨fuel', hfile⟩ := parseFile_furnished
  have hspecimen : Gives bare { keepInstructions := true } .specimen := .text htext
  have hfurnished : Gives furnished {} { elements := [("b", .any)] } := .file hfile
  exact ⟨⟨hspecimen, wellFormed_of_parse hspecimen⟩, hfurnished, (wellFormed_of_parse hfurnished).2⟩

end Doctype.Parser
