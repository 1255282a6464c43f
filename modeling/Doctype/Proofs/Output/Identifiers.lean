import Doctype.Handler
import Mathlib.Data.List.Nodup
import Mathlib.Data.List.Perm.Subperm

/-! The identifiers of a handler class. Different names can have the same words, so an identifier is
counted up until it is new. Such a count ends after no more steps than there are used identifiers,
and what it ends with differs from all of them, whatever the names are. -/
namespace Doctype

namespace Text

/-- A mapped character is itself, or it stands in one of the tables. -/
theorem mem_mapCase {expansions : List (Nat × List Nat)} {runs : List CaseRun} {c d : Char}
    (h : d ∈ mapCase expansions runs c) :
    (∃ e ∈ expansions, ∃ n ∈ e.2, d = Char.ofNat n) ∨
      (∃ run ∈ runs, run.covers c.toNat ∧ d = Char.ofNat (c.toNat + run.shift).toNat) ∨ d = c := by
  unfold mapCase at h
  split at h
  · rename_i image himage
    obtain ⟨n, hn, rfl⟩ := List.mem_map.1 h
    obtain ⟨l₁, l₂, hl, -⟩ := List.lookup_eq_some_iff.1 himage
    exact .inl ⟨(c.toNat, image), hl ▸ List.mem_append_right _ List.mem_cons_self, n, hn, rfl⟩
  · split at h
    · rename_i run hrun
      have hcovers := List.find?_some hrun
      exact .inr (.inl ⟨run, List.mem_of_find?_eq_some hrun, hcovers, List.mem_singleton.1 h⟩)
    · exact .inr (.inr (List.mem_singleton.1 h))

theorem mapCase_ne_nil {expansions : List (Nat × List Nat)} (h : ∀ e ∈ expansions, e.2 ≠ [])
    (runs : List CaseRun) (c : Char) : mapCase expansions runs c ≠ [] := by
  unfold mapCase
  split
  · rename_i image himage
    obtain ⟨l₁, l₂, hl, -⟩ := List.lookup_eq_some_iff.1 himage
    have hmem : (c.toNat, image) ∈ expansions := hl ▸ List.mem_append_right _ List.mem_cons_self
    simpa using h _ hmem
  · split <;> exact List.cons_ne_nil _ _

theorem upper_ne_nil (c : Char) : upper c ≠ [] :=
  mapCase_ne_nil (by decide) upperRuns c

theorem lower_ne_nil (c : Char) : lower c ≠ [] :=
  mapCase_ne_nil (by decide) lowerRuns c

/-- Stretches between separators consist of what has been cut. -/
theorem mem_of_mem_fields {α : Type} {p : α → Bool} {cs field : List α} {c : α}
    (hfield : field ∈ fields p cs) (hc : c ∈ field) : c ∈ cs := by
  induction cs generalizing field with
  | nil =>
    rw [List.mem_singleton.1 hfield] at hc
    exact hc
  | cons d cs ih =>
    unfold fields at hfield
    split at hfield
    · rcases List.mem_cons.1 hfield with rfl | hfield
      · exact absurd hc List.not_mem_nil
      · exact List.mem_cons_of_mem _ (ih hfield hc)
    · split at hfield
      · rename_i hnil
        exact absurd hnil (fields_ne_nil p cs)
      · rename_i first rest hcons
        rw [hcons] at ih
        rcases List.mem_cons.1 hfield with rfl | hfield
        · rcases List.mem_cons.1 hc with rfl | hc
          · exact List.mem_cons_self
          · exact List.mem_cons_of_mem _ (ih List.mem_cons_self hc)
        · exact List.mem_cons_of_mem _ (ih (List.mem_cons_of_mem _ hfield) hc)

end Text

namespace Identifier

open Text (isNumeric)

section Words

/-- Words consist of the characters of the name, unless it has no word. -/
theorem mem_of_mem_words {name : String} {word : List Char} {c : Char} (hword : word ∈ words name)
    (hc : c ∈ word) : c ∈ name.toList ∨ c ∈ ['u', 'n', 'n', 'a', 'm', 'e', 'd'] := by
  unfold words at hword
  split at hword
  · rw [List.mem_singleton.1 hword] at hc
    exact .inr hc
  · exact .inl (Text.mem_of_mem_fields (List.mem_of_mem_filter hword) hc)

theorem words_ne_nil (name : String) : words name ≠ [] := by
  unfold words
  split
  · exact List.cons_ne_nil _ _
  · assumption

theorem word_ne_nil {name : String} {word : List Char} (h : word ∈ words name) : word ≠ [] := by
  unfold words at h
  split at h
  · rw [List.mem_singleton.1 h]
    exact List.cons_ne_nil _ _
  · simpa using List.of_mem_filter h

theorem mapFirst_ne_nil {f : Char → List Char} (hf : ∀ c, f c ≠ []) {cs : List Char} (h : cs ≠ []) :
    mapFirst f cs ≠ [] := by
  cases cs with
  | nil => exact absurd rfl h
  | cons c cs => exact List.append_ne_nil_of_left_ne_nil (hf c) cs

theorem camelCase_ne_nil (name : String) : camelCase name ≠ [] := by
  obtain ⟨word, hword⟩ := List.exists_mem_of_ne_nil _ (words_ne_nil name)
  intro hnil
  exact mapFirst_ne_nil Text.upper_ne_nil (word_ne_nil hword) (List.flatMap_eq_nil_iff.1 hnil word hword)

theorem lowerCamelCase_ne_nil (name : String) : lowerCamelCase name ≠ [] :=
  mapFirst_ne_nil Text.lower_ne_nil (camelCase_ne_nil name)

theorem constantCase_ne_nil (name : String) : constantCase name ≠ [] := by
  unfold constantCase
  cases hwords : words name with
  | nil => exact absurd hwords (words_ne_nil name)
  | cons word rest =>
    have hword : word ∈ words name := hwords ▸ List.mem_cons_self
    obtain ⟨c, hc⟩ := List.exists_mem_of_ne_nil _ (word_ne_nil hword)
    have hne : word.flatMap Text.upper ≠ [] := fun hnil =>
      Text.upper_ne_nil c (List.flatMap_eq_nil_iff.1 hnil c hc)
    cases rest with
    | nil => exact hne
    | cons next rest => exact List.append_ne_nil_of_left_ne_nil hne _

end Words

section Legal

/-- What can stand where an identifier is expected: neither a keyword nor a number in front. -/
structure Legal (ident : String) : Prop where
  ne_empty : ident ≠ ""
  not_keyword : ident ∉ keywords
  head_not_numeric : ∀ c ∈ ident.toList.head?, isNumeric c = false

variable {ident tail : String} {cs : List Char}

/-- Keywords are made of small letters. -/
theorem le_of_mem_keywords {k : String} {c : Char} (hk : k ∈ keywords) (hc : c ∈ k.toList) :
    'a' ≤ c := by
  have hall : (keywords.all fun k => k.toList.all ('a' ≤ ·)) = true := by decide
  exact of_decide_eq_true (List.all_eq_true.1 (List.all_eq_true.1 hall k hk) c hc)

/-- A text with an underscore or a digit in it is no keyword. -/
theorem not_mem_keywords {c : Char} (hc : c ∈ ident.toList) (h : c = '_' ∨ c.isDigit = true) :
    ident ∉ keywords := by
  intro hmem
  have hle := le_of_mem_keywords hmem hc
  rcases h with rfl | hdigit
  · exact absurd hle (by decide)
  · simp only [Char.isDigit, ge_iff_le, Bool.and_eq_true, decide_eq_true_eq,
      UInt32.le_iff_toNat_le] at hdigit
    have hletter : 97 ≤ c.val.toNat := hle
    have hnine : c.val.toNat ≤ 57 := hdigit.2
    omega

/-- Underscores and digits behind a legal beginning are legal. -/
theorem legal_append (hne : ident ≠ "") (hhead : ∀ c ∈ ident.toList.head?, isNumeric c = false)
    {c : Char} (hc : c ∈ tail.toList) (h : c = '_' ∨ c.isDigit = true) : Legal (ident ++ tail) := by
  have hlist : ident.toList ≠ [] := by simpa using hne
  constructor
  · intro hnil
    exact hlist (List.append_eq_nil_iff.1 (by rw [← String.toList_append, hnil]; rfl)).1
  · apply not_mem_keywords (c := c) _ h
    rw [String.toList_append]
    exact List.mem_append_right _ hc
  · rw [String.toList_append, List.head?_append_of_ne_nil _ hlist]
    exact hhead

theorem Legal.candidate (h : Legal ident) (n : Nat) : Legal (candidate ident n) := by
  cases n with
  | zero => exact h
  | succ n =>
    have hdigits : (toString (n + 2)).toList = Nat.toDigits 10 (n + 2) := by
      rw [Nat.toString_eq_repr, Nat.toList_repr]
    obtain ⟨c, hc⟩ := List.exists_mem_of_ne_nil _ (Nat.toDigits_ne_nil (n := n + 2) (b := 10))
    have hdigit : c.isDigit = true := Nat.isDigit_of_mem_toDigits (by decide) (by decide) hc
    exact legal_append h.ne_empty h.head_not_numeric (hdigits ▸ hc) (.inr hdigit)

/-- Escaping makes any word legal. -/
theorem legal_legal (h : cs ≠ []) : Legal (legal cs) := by
  unfold legal
  generalize hs : (if cs.head?.any isNumeric then '_' :: cs else cs) = ds
  have hds : ds ≠ [] ∧ ∀ c ∈ ds.head?, isNumeric c = false := by
    cases hnumeric : cs.head?.any isNumeric with
    | true =>
      rw [hnumeric, if_pos rfl] at hs
      subst hs
      refine ⟨List.cons_ne_nil _ _, fun c hc => ?_⟩
      obtain rfl : '_' = c := Option.some.inj hc
      decide
    | false =>
      rw [hnumeric, if_neg Bool.false_ne_true] at hs
      subst hs
      refine ⟨h, fun c hc => ?_⟩
      rw [Option.mem_def.1 hc] at hnumeric
      exact hnumeric
  have hne : String.ofList ds ≠ "" := by simpa using hds.1
  have hhead : ∀ c ∈ (String.ofList ds).toList.head?, isNumeric c = false := by
    rw [String.toList_ofList]
    exact hds.2
  change Legal (if keywords.contains (.ofList ds) then String.ofList ds ++ "_" else .ofList ds)
  split
  · exact legal_append (c := '_') hne hhead (by decide) (.inl rfl)
  · rename_i hkeyword
    exact ⟨hne, by simpa using hkeyword, hhead⟩

end Legal

section Count

/-- The count of an allocator: it goes on while a candidate is used, and stops at the first one that
is not. From the one candidate on it stops at the other. -/
inductive Counts (used : List String) (ident : String) : Nat → Nat → Prop
  | stop {n : Nat} : candidate ident n ∉ used → Counts used ident n n
  | next {n m : Nat} : candidate ident n ∈ used → Counts used ident (n + 1) m → Counts used ident n m

variable {used : List String} {ident : String}

theorem candidate_injective (ident : String) : Function.Injective (candidate ident) := by
  have hne (n : Nat) : ident ++ toString (n + 2) ≠ ident := by
    rw [Ne, String.append_eq_left_iff, Nat.toString_eq_repr]
    exact Nat.repr_ne_empty
  intro n m h
  cases n with
  | zero =>
    cases m with
    | zero => rfl
    | succ m => exact absurd h.symm (hne m)
  | succ n =>
    cases m with
    | zero => exact absurd h (hne n)
    | succ m =>
      have hsame : toString (n + 2) = toString (m + 2) := (String.append_right_inj ident).1 h
      rw [Nat.toString_eq_repr, Nat.toString_eq_repr, ← String.toList_inj, Nat.toList_repr,
        Nat.toList_repr] at hsame
      have hread := congrArg (Nat.ofDigitChars 10 · 0) hsame
      simp only [Nat.ofDigitChars_ten_toDigits] at hread
      omega

/-- Of one more candidate than there are used identifiers, one is not used. -/
theorem exists_unused (used : List String) (ident : String) :
    ∃ n ∈ List.range (used.length + 1), candidate ident n ∉ used := by
  by_contra! hused
  have hnodup : ((List.range (used.length + 1)).map (candidate ident)).Nodup :=
    List.nodup_range.map (candidate_injective ident)
  have hsub : (List.range (used.length + 1)).map (candidate ident) ⊆ used := by
    intro s hs
    obtain ⟨n, hn, rfl⟩ := List.mem_map.1 hs
    exact hused n hn
  have hlength := (hnodup.subperm hsub).length_le
  rw [List.length_map, List.length_range] at hlength
  omega

/-- A count passes over used candidates. -/
theorem counts_of_forall_lt {n : Nat} (hn : candidate ident n ∉ used)
    (h : ∀ k < n, candidate ident k ∈ used) {k : Nat} (hk : k ≤ n) : Counts used ident k n := by
  -- by induction on the steps that are left
  obtain ⟨steps, rfl⟩ := Nat.exists_eq_add_of_le hk
  induction steps generalizing k with
  | zero => exact .stop hn
  | succ steps ih =>
    have hsteps : k + (steps + 1) = k + 1 + steps := by omega
    rw [hsteps] at hn h ⊢
    exact .next (h k (by omega)) (ih hn h (by omega))

/-- The identifier that is not used is found by counting, which ends. -/
theorem fresh_counts (used : List String) (ident : String) :
    ∃ n ≤ used.length, Counts used ident 0 n ∧ fresh used ident = candidate ident n := by
  obtain ⟨k, hk, hunused⟩ := exists_unused used ident
  cases hfind : (List.range (used.length + 1)).find? fun n => !used.contains (candidate ident n) with
  | none => exact absurd (List.find?_eq_none.1 hfind k hk) (by simpa using hunused)
  | some n =>
    obtain ⟨hn, hrange, hlt⟩ := List.find?_range_eq_some.1 hfind
    have hfirst : ∀ k < n, candidate ident k ∈ used := fun k hk => by simpa using hlt k hk
    refine ⟨n, Nat.le_of_lt_succ (List.mem_range.1 hrange), ?_, ?_⟩
    · exact counts_of_forall_lt (by simpa using hn) hfirst (Nat.zero_le n)
    · rw [fresh, List.find?_map]
      exact congrArg (fun o => (Option.map (candidate ident) o).getD ident) hfind

theorem Counts.not_mem {k n : Nat} (h : Counts used ident k n) : candidate ident n ∉ used := by
  induction h with
  | stop h => exact h
  | next _ _ ih => exact ih

theorem fresh_not_mem (used : List String) (ident : String) : fresh used ident ∉ used := by
  obtain ⟨n, -, hcounts, hfresh⟩ := fresh_counts used ident
  exact hfresh ▸ hcounts.not_mem

theorem Legal.fresh (h : Legal ident) (used : List String) : Legal (fresh used ident) := by
  obtain ⟨n, -, -, hfresh⟩ := fresh_counts used ident
  exact hfresh ▸ h.candidate n

end Count

/-- Legal identifiers that differ from each other and from those that are reserved. -/
structure Allotted (reserved idents : List String) : Prop where
  nodup : idents.Nodup
  unreserved : ∀ ident ∈ idents, ident ∉ reserved
  legal : ∀ ident ∈ idents, Legal ident

theorem allotted_allocate (used : List String) {words : List (List Char)}
    (h : ∀ cs ∈ words, cs ≠ []) : Allotted used (allocate used words) := by
  induction words generalizing used with
  | nil => exact ⟨.nil, nofun, nofun⟩
  | cons cs words ih =>
    obtain ⟨hcs, hwords⟩ := List.forall_mem_cons.1 h
    -- what has been handed out counts as used for the words that follow
    have hrest := ih (fresh used (legal cs) :: used) hwords
    rw [allocate]
    constructor
    · refine List.nodup_cons.2 ⟨fun hmem => ?_, hrest.nodup⟩
      exact hrest.unreserved _ hmem List.mem_cons_self
    · refine List.forall_mem_cons.2 ⟨fresh_not_mem used (legal cs), fun ident hident hused => ?_⟩
      exact hrest.unreserved ident hident (List.mem_cons_of_mem _ hused)
    · exact List.forall_mem_cons.2 ⟨(legal_legal hcs).fresh used, hrest.legal⟩

theorem length_allocate (used : List String) (words : List (List Char)) :
    (allocate used words).length = words.length := by
  induction words generalizing used with
  | nil => rfl
  | cons cs words ih => rw [allocate, List.length_cons, ih, List.length_cons]

/-- The identifiers for the names of some bindings. -/
def forNames {α : Type} (used : List String) (f : String → List Char) (bs : Bindings α) :
    List String :=
  allocate used (bs.names.map f)

theorem length_forNames {α : Type} (used : List String) (f : String → List Char) (bs : Bindings α) :
    (forNames used f bs).length = bs.length := by
  rw [forNames, length_allocate, Bindings.names, List.length_map, List.length_map]

theorem allotted_forNames {α : Type} (used : List String) {f : String → List Char}
    (hf : ∀ name, f name ≠ []) (bs : Bindings α) : Allotted used (forNames used f bs) := by
  apply allotted_allocate
  intro cs hcs
  obtain ⟨name, -, rfl⟩ := List.mem_map.1 hcs
  exact hf name

end Identifier

section Naming

variable {α β γ δ : Type} {f : α → β → γ} {g : γ → δ} {xs : List α} {ys : List β}

theorem map_zipWith_left {h : α → δ} (hg : ∀ x y, g (f x y) = h x) (hlength : xs.length = ys.length) :
    (List.zipWith f xs ys).map g = xs.map h := by
  calc
    (List.zipWith f xs ys).map g = (xs.zip ys).map (h ∘ Prod.fst) := by
      rw [← List.map_uncurry_zip_eq_zipWith, List.map_map]
      exact List.map_congr_left fun p _ => hg p.1 p.2
    _ = xs.map h := by rw [← List.map_map, List.map_fst_zip (Nat.le_of_eq hlength)]

theorem map_zipWith_right {h : β → δ} (hg : ∀ x y, g (f x y) = h y) (hlength : xs.length = ys.length) :
    (List.zipWith f xs ys).map g = ys.map h := by
  calc
    (List.zipWith f xs ys).map g = (xs.zip ys).map (h ∘ Prod.snd) := by
      rw [← List.map_uncurry_zip_eq_zipWith, List.map_map]
      exact List.map_congr_left fun p _ => hg p.1 p.2
    _ = ys.map h := by rw [← List.map_map, List.map_snd_zip (Nat.le_of_eq hlength.symm)]

end Naming

open Identifier

namespace HandlerAttribute

/-- The entries of the list that attributes come from. -/
theorem entries_ofList (list : AttributeList) :
    (ofList list).map (fun a => (a.name, a.definition)) = list := by
  have hmap : (ofList list).map (fun a => (a.name, a.definition)) = list.map id :=
    map_zipWith_left (fun _ _ => rfl) (length_forNames ["atts"] lowerCamelCase list).symm
  rw [hmap, List.map_id]

theorem names_ofList (list : AttributeList) : (ofList list).map (·.name) = list.names := by
  have hnames := congrArg (List.map Prod.fst) (entries_ofList list)
  rwa [List.map_map] at hnames

theorem idents_ofList (list : AttributeList) :
    (ofList list).map (·.ident) = forNames ["atts"] lowerCamelCase list := by
  have hmap : (ofList list).map (·.ident) = (forNames ["atts"] lowerCamelCase list).map id :=
    map_zipWith_right (fun _ _ => rfl) (length_forNames ["atts"] lowerCamelCase list).symm
  rw [hmap, List.map_id]

end HandlerAttribute

namespace HandlerElement

variable {d : DocumentType} {e : HandlerElement}

/-- The constants and the methods of the elements of a document type. -/
def identifiers (d : DocumentType) : List (String × String) :=
  (forNames [] constantCase d.elements).zip (forNames ["Document"] camelCase d.elements)

theorem length_identifiers (d : DocumentType) : d.elements.length = (identifiers d).length := by
  rw [identifiers, List.length_zip, length_forNames, length_forNames, Nat.min_self]

theorem names_ofDocumentType (d : DocumentType) :
    (ofDocumentType d).map (·.name) = d.elements.names :=
  map_zipWith_left (fun _ _ => rfl) (length_identifiers d)

theorem constants_ofDocumentType (d : DocumentType) :
    (ofDocumentType d).map (·.constant) = forNames [] constantCase d.elements := by
  have hmap : (ofDocumentType d).map (·.constant) = (identifiers d).map Prod.fst :=
    map_zipWith_right (fun _ _ => rfl) (length_identifiers d)
  rw [hmap, identifiers, List.map_fst_zip]
  simp only [length_forNames, Nat.le_refl]

theorem methods_ofDocumentType (d : DocumentType) :
    (ofDocumentType d).map (·.method) = forNames ["Document"] camelCase d.elements := by
  have hmap : (ofDocumentType d).map (·.method) = (identifiers d).map Prod.snd :=
    map_zipWith_right (fun _ _ => rfl) (length_identifiers d)
  rw [hmap, identifiers, List.map_snd_zip]
  simp only [length_forNames, Nat.le_refl]

theorem attributes_of_mem (h : e ∈ ofDocumentType d) :
    e.attributes = HandlerAttribute.ofList (d.attributes e.name) := by
  unfold ofDocumentType at h
  rw [← List.map_uncurry_zip_eq_zipWith] at h
  obtain ⟨p, -, rfl⟩ := List.mem_map.1 h
  rfl

/-- The elements and attributes of a document type get identifiers that Java accepts. Constants differ
from each other, methods also from those of every handler, and the variables of an element also from
the parameter of its methods. Each is found by counting, which ends whatever has been used. -/
theorem allotted_identifiers (d : DocumentType) :
    (ofDocumentType d).map (·.name) = d.elements.names ∧
      Allotted [] ((ofDocumentType d).map (·.constant)) ∧
      Allotted ["Document"] ((ofDocumentType d).map (·.method)) ∧
      (∀ e ∈ ofDocumentType d, e.attributes.map (·.name) = (d.attributes e.name).names ∧
        Allotted ["atts"] (e.attributes.map (·.ident))) ∧
      ∀ used ident, ∃ n ≤ used.length, Counts used ident 0 n ∧ fresh used ident = candidate ident n := by
  refine ⟨names_ofDocumentType d, ?_, ?_, fun e he => ?_, fresh_counts⟩
  · rw [constants_ofDocumentType]
    exact allotted_forNames [] constantCase_ne_nil d.elements
  · rw [methods_ofDocumentType]
    exact allotted_forNames ["Document"] camelCase_ne_nil d.elements
  · rw [attributes_of_mem he, HandlerAttribute.names_ofList, HandlerAttribute.idents_ofList]
    exact ⟨rfl, allotted_forNames ["atts"] lowerCamelCase_ne_nil _⟩

/-- A keyword, the name of the parameter, a leading digit, and a word that is taken by an escape. -/
example :
    allocate ["atts"] (["class", "atts", "_1", "class_"].map lowerCamelCase) =
      ["class_", "atts2", "_1", "class_2"] := by
  decide +kernel

end HandlerElement

end Doctype
