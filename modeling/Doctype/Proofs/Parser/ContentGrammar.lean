import Doctype.Parser.Content
import Doctype.Proofs.Parser.Lexemes
import Doctype.Proofs.Parser.Shape
import Doctype.Proofs.Print.Roundtrip

/-! Content models are parsed by exactly their grammar. -/
namespace Doctype

/-- The indicator of an occurrence. -/
def Occurrence.tokens : Occurrence → List Token
  | once => []
  | optional => [.question]
  | zeroOrMore => [.star]
  | oneOrMore => [.plus]

/-- A token that says nothing about the particle in front of it. -/
def Token.EndsParticle : Token → Prop
  | question | star | plus => False
  | _ => True

namespace Particle

/-- The tokens of some items, each behind a separator. -/
def behind (separator : Token) (items : List (List Token × Particle)) : List Token :=
  items.flatMap fun item => separator :: item.1

/-- The tokens that a particle can be derived from: a name, or items in parentheses, with the
indicator of the occurrence. Several items are separated by `,` in a sequence, by `|` in a choice. -/
inductive Derives : List Token → Particle → Prop
  | element (name : String) (occurs : Occurrence) :
      Derives (.name name :: occurs.tokens) (.element name occurs)
  | single {ts : List Token} {item : Particle} (occurs : Occurrence) : Derives ts item →
      Derives (.parenOpen :: (ts ++ .parenClose :: occurs.tokens)) (.seq [item] occurs)
  | seq {first : List Token × Particle} {rest : List (List Token × Particle)}
      (occurs : Occurrence) : rest ≠ [] → (∀ item ∈ first :: rest, Derives item.1 item.2) →
      Derives (.parenOpen :: (first.1 ++ (behind .comma rest ++ .parenClose :: occurs.tokens)))
        (.seq ((first :: rest).map (·.2)) occurs)
  | choice {first : List Token × Particle} {rest : List (List Token × Particle)}
      (occurs : Occurrence) : rest ≠ [] → (∀ item ∈ first :: rest, Derives item.1 item.2) →
      Derives (.parenOpen :: (first.1 ++ (behind .pipe rest ++ .parenClose :: occurs.tokens)))
        (.choice ((first :: rest).map (·.2)) occurs)

end Particle

/-- The tokens of some names, each behind a `|`. -/
def ContentSpec.alternatives (names : List String) : List Token :=
  names.flatMap fun name => [.pipe, .name name]

/-- The tokens that the content of an element can be derived from. A mixed content that names elements
ends in `*`, and a name that stands in it twice counts once, at its first place. -/
inductive ContentSpec.Derives : List Token → ContentSpec → Prop
  | empty : Derives [.name "EMPTY"] .empty
  | any : Derives [.name "ANY"] .any
  | text : Derives [.parenOpen, .hash "PCDATA", .parenClose] (.mixed [])
  | texts : Derives [.parenOpen, .hash "PCDATA", .parenClose, .star] (.mixed [])
  | mixed {names : List String} : names ≠ [] →
      Derives (.parenOpen :: .hash "PCDATA" :: (alternatives names ++ [.parenClose, .star]))
        (.mixed names.eraseDups)
  | children {ts : List Token} {particle : Particle} : particle.IsGroup → particle.Derives ts →
      Derives ts (.children particle)

namespace Particle

/-- Names that are added one by one stand each at its first place. -/
theorem foldl_addName (names : List String) :
    names.foldl addName [] = names.eraseDups := by
  induction names using List.reverseRecOn with
  | nil => rfl
  | append_singleton names name ih =>
    rw [List.foldl_append, ih, List.eraseDups_append]
    unfold addName
    by_cases h : name ∈ names
    · simp [h, List.removeAll]
    · simp [h, List.removeAll]
      rfl

theorem isEmpty_eraseDups (names : List String) : names.eraseDups.isEmpty ↔ names = [] := by
  cases names with
  | nil => exact iff_of_true rfl rfl
  | cons name names => simp [List.eraseDups_cons]

/-- What the rest of a group adds to the separator and the items that have been read. The items
have a property. -/
inductive Continues (D : List Token → Particle → Prop) :
    Option Token → List Particle → List Token → Option Token × List Particle → Prop
  | close {separator : Option Token} {items : List Particle} :
      Continues D separator items [.parenClose] (separator, items)
  | item {s : Token} {separator : Option Token} {items : List Particle} {item : Particle}
      {ts us : List Token} {r : Option Token × List Particle} : s = .pipe ∨ s = .comma →
      separator.getD s = s → D ts item → Continues D (some s) (items ++ [item]) us r →
      Continues D separator items (s :: (ts ++ us)) r

variable {D : List Token → Particle → Prop} {s : Token} {separator : Option Token}
  {items : List Particle} {item : Particle} {ts us : List Token} {r : Option Token × List Particle}
  {occurs : Occurrence}

theorem continues_some {rest : List (List Token × Particle)} (hs : s = .pipe ∨ s = .comma)
    (h : ∀ item ∈ rest, D item.1 item.2) :
    Continues D (some s) items (behind s rest ++ [.parenClose])
      (some s, items ++ rest.map (·.2)) := by
  induction rest generalizing items with
  | nil =>
    rw [List.map_nil, List.append_nil]
    exact .close
  | cons item rest ih =>
    have hrest : Continues D (some s) (items ++ [item.2]) _ _ :=
      ih fun i hi => h i (List.mem_cons_of_mem _ hi)
    rw [List.append_assoc] at hrest
    have hcons : Continues D (some s) items _ _ := .item hs rfl (h item List.mem_cons_self) hrest
    simpa [behind] using hcons

theorem Continues.exists_rest (h : Continues D (some s) items ts r) :
    ∃ rest : List (List Token × Particle), (∀ item ∈ rest, D item.1 item.2) ∧
      ts = behind s rest ++ [.parenClose] ∧ r = (some s, items ++ rest.map (·.2)) := by
  generalize hseparator : some s = separator at h
  induction h with
  | close => exact ⟨[], nofun, rfl, by simp⟩
  | @item s' _ _ item ts us r _ hsame hitem _ ih =>
    subst hseparator
    obtain rfl : s = s' := hsame
    obtain ⟨rest, hrest, rfl, rfl⟩ := ih rfl
    refine ⟨(ts, item) :: rest, ?_, ?_, ?_⟩
    · exact List.forall_mem_cons.2 ⟨hitem, hrest⟩
    · simp [behind]
    · simp

theorem Continues.exists_cons (h : Continues D separator items ts r) :
    ∃ t us, ts = t :: us ∧ t.EndsParticle := by
  cases h with
  | close => exact ⟨_, _, rfl, trivial⟩
  | item hs =>
    refine ⟨_, _, rfl, ?_⟩
    rcases hs with rfl | rfl <;> trivial

/-- Tokens from which a group can be derived, behind their `(`. -/
structure Grouped (ts : List Token) (a : Particle) : Prop where
  isGroup : a.IsGroup
  derives : Derives (.parenOpen :: ts) a

theorem isGroup_groupOf (separator : Option Token) (items : List Particle) (occurs : Occurrence) :
    (Parser.groupOf separator items occurs).IsGroup := by
  unfold Parser.groupOf
  split <;> trivial

/-- A group is derived from its first item, what is added to it, and its occurrence. -/
theorem Derives.group (h : Derives ts item) (hrest : Continues Derives none [item] us r) :
    Derives (.parenOpen :: (ts ++ (us ++ occurs.tokens))) (Parser.groupOf r.1 r.2 occurs) := by
  cases hrest with
  | close => exact .single occurs h
  | @item s _ _ item' ts' us _ hs _ hitem hrest =>
    obtain ⟨rest, hitems, rfl, rfl⟩ := hrest.exists_rest
    have hall : ∀ i ∈ (ts, item) :: (ts', item') :: rest, Derives i.1 i.2 :=
      List.forall_mem_cons.2 ⟨h, List.forall_mem_cons.2 ⟨hitem, hitems⟩⟩
    rcases hs with rfl | rfl
    · simpa [behind, Parser.groupOf] using Derives.choice occurs (by simp) hall
    · simpa [behind, Parser.groupOf] using Derives.seq occurs (by simp) hall

theorem continues_none {rest : List (List Token × Particle)} (hs : s = .pipe ∨ s = .comma)
    (hne : rest ≠ []) (h : ∀ item ∈ rest, D item.1 item.2) :
    Continues D none [item] (behind s rest ++ [.parenClose]) (some s, item :: rest.map (·.2)) := by
  obtain ⟨next, rest, rfl⟩ := List.exists_cons_of_ne_nil hne
  have hrest : Continues D (some s) ([item] ++ [next.2]) _ _ :=
    continues_some hs fun i hi => h i (List.mem_cons_of_mem _ hi)
  have hcons : Continues D none [item] _ _ := .item hs rfl (h next List.mem_cons_self) hrest
  simpa [behind] using hcons

/-- What holds of names, and of groups if it holds of their items, holds of all particles. -/
theorem Derives.induct
    (element : ∀ name (occurs : Occurrence),
      D (.name name :: occurs.tokens) (.element name occurs))
    (group : ∀ {ts us item r} (occurs : Occurrence), D ts item → Continues D none [item] us r →
      D (.parenOpen :: (ts ++ (us ++ occurs.tokens))) (Parser.groupOf r.1 r.2 occurs))
    (h : Derives ts item) : D ts item := by
  induction h with
  | element name occurs => exact element name occurs
  | single occurs _ ih => exact group occurs ih .close
  | @seq first rest occurs hne _ ih =>
    obtain ⟨hfirst, hrest⟩ := List.forall_mem_cons.1 ih
    simpa [Parser.groupOf] using group occurs hfirst (continues_none (.inr rfl) hne hrest)
  | @choice first rest occurs hne _ ih =>
    obtain ⟨hfirst, hrest⟩ := List.forall_mem_cons.1 ih
    simpa [Parser.groupOf] using group occurs hfirst (continues_none (.inl rfl) hne hrest)

end Particle

namespace Parser

variable {w : World} {p : Parser}

/-! What is taken. -/

section Soundness

theorem accepts_occurrence : Accepts w (fun ts o => ts = o.tokens) (occurrence w) p := by
  refine .peek fun l q r hl => ?_
  have htake (o : Occurrence) (ho : o.tokens = [l.token]) :
      Accepts w (fun ts o => ts = o.tokens) (occurrence.take w o) q :=
    .next_eq hl (.pure ho.symm)
  split
  · exact htake _ (by simp [Occurrence.tokens, *])
  · exact htake _ (by simp [Occurrence.tokens, *])
  · exact htake _ (by simp [Occurrence.tokens, *])
  · exact .pure rfl

theorem accepts_mixedNames (fuel : Nat) (names : List String) :
    Accepts w (fun ts all => ∃ added, ts = ContentSpec.alternatives added ++ [.parenClose] ∧
      all = added.foldl Particle.addName names) (mixedNames w fuel names) p := by
  induction fuel generalizing names p with
  | zero => exact .throw _
  | succ fuel ih =>
    refine .next fun l q hl => ?_
    split
    · rename_i hpipe
      refine (Accepts.expectName _).bind fun ts b q hts => ?_
      refine (ih _).mono ?_
      rintro us all ⟨added, rfl, rfl⟩
      exact ⟨b.1 :: added, by simp [ContentSpec.alternatives, hpipe, hts], rfl⟩
    · rename_i hclose
      exact .pure ⟨[], by simp [ContentSpec.alternatives, hclose], rfl⟩
    · exact .unexpected _ _

theorem accepts_mixed (fuel : Nat) :
    Accepts w (fun ts content => ContentSpec.Derives (.parenOpen :: .hash "PCDATA" :: ts) content)
      (mixed w fuel) p := by
  refine (accepts_mixedNames fuel []).bind fun ts names q hts => ?_
  obtain ⟨added, rfl, rfl⟩ := hts
  rw [Particle.foldl_addName]
  dsimp only
  split
  · rename_i hnil
    obtain rfl := (Particle.isEmpty_eraseDups added).1 hnil
    refine .peek fun l q r hl => ?_
    split
    · rename_i hstar
      refine .next_eq hl (.pure ?_)
      rw [hstar]
      exact .texts
    · exact .pure .text
  · rename_i hnames
    rw [Particle.isEmpty_eraseDups] at hnames
    refine (Accepts.expect .star _).bind fun us l r hus => .pure ?_
    rw [hus]
    simpa using ContentSpec.Derives.mixed hnames

theorem accepts_particle {fuel : Nat} (hgroup : ∀ p, Accepts w Particle.Grouped (group w fuel) p) :
    Accepts w Particle.Derives (particle w (fuel + 1)) p := by
  refine .next fun l q _ => ?_
  split
  · rename_i name hname
    refine accepts_occurrence.bind fun ts occurs r hts => .pure ?_
    rw [hname, hts, List.append_nil]
    exact .element name occurs
  · rename_i hopen
    rw [hopen]
    exact (hgroup q).mono fun ts a ha => ha.derives
  · exact .unexpected _ _

theorem accepts_group {fuel : Nat} (hparticle : ∀ p, Accepts w Particle.Derives (particle w fuel) p)
    (hitems : ∀ separator items p, Accepts w (Particle.Continues Particle.Derives separator items)
      (groupItems w fuel separator items) p) :
    Accepts w Particle.Grouped (group w (fuel + 1)) p := by
  refine (hparticle p).bind fun ts first q hfirst => ?_
  refine (hitems none [first] q).bind fun us r q' hrest => ?_
  refine accepts_occurrence.bind fun vs occurs s hvs => .pure ?_
  rw [hvs, List.append_nil]
  exact ⟨Particle.isGroup_groupOf _ _ _, hfirst.group hrest⟩

theorem accepts_groupItems {fuel : Nat} (separator : Option Token) (items : List Particle)
    (hparticle : ∀ p, Accepts w Particle.Derives (particle w fuel) p)
    (hitems : ∀ separator items p, Accepts w (Particle.Continues Particle.Derives separator items)
      (groupItems w fuel separator items) p) :
    Accepts w (Particle.Continues Particle.Derives separator items)
      (groupItems w (fuel + 1) separator items) p := by
  refine .next fun l q _ => ?_
  split
  · rename_i hclose
    rw [hclose]
    exact .pure .close
  · split
    · rename_i hs
      dsimp only
      split
      · rename_i hsame
        rw [hsame]
        refine (hparticle q).bind fun ts item q' hitem => ?_
        refine (hitems (some l.token) (items ++ [item]) q').mono fun us r hrest => ?_
        exact .item hs hsame hitem hrest
      · exact .unexpected _ _
    · exact .unexpected _ _

/-- Particles, groups and the rest of groups are taken from tokens that they can be derived from. -/
theorem accepts_fuel (fuel : Nat) :
    (∀ p, Accepts w Particle.Derives (particle w fuel) p) ∧
      (∀ p, Accepts w Particle.Grouped (group w fuel) p) ∧
        ∀ separator items p, Accepts w (Particle.Continues Particle.Derives separator items)
          (groupItems w fuel separator items) p := by
  induction fuel with
  | zero => exact ⟨fun _ => .throw _, fun _ => .throw _, fun _ _ _ => .throw _⟩
  | succ fuel ih =>
    obtain ⟨hparticle, hgroup, hitems⟩ := ih
    exact ⟨fun _ => accepts_particle hgroup, fun _ => accepts_group hparticle hitems,
      fun separator items _ => accepts_groupItems separator items hparticle hitems⟩

theorem accepts_contentSpec (fuel : Nat) : Accepts w ContentSpec.Derives (contentSpec w fuel) p := by
  refine .next fun l q hl => ?_
  split
  · rename_i h
    rw [h]
    exact .pure .empty
  · rename_i h
    rw [h]
    exact .pure .any
  · rename_i h
    rw [h]
    refine .peek fun m q' r hm => ?_
    split
    · rename_i hmixed
      refine .next_eq hm ?_
      rw [hmixed]
      exact accepts_mixed fuel
    · obtain ⟨-, hgroup, -⟩ := accepts_fuel (w := w) fuel
      refine (hgroup q').bind fun ts a s hts => .pure ?_
      rw [List.append_nil]
      exact .children hts.isGroup hts.derives
  · exact .unexpected _ _

end Soundness

/-! What is read. -/

section Completeness

variable {stop : Token → Prop} {ts us : List Token} {fuel : Nat}

theorem yields_occurrence (o : Occurrence) :
    Yields w Token.EndsParticle (occurrence w) o.tokens o := by
  refine .peek fun t ht u hu => ?_
  cases o with
  | once =>
    cases hu
    split
    · cases ht
    · cases ht
    · cases ht
    · exact .pure
  | optional | zeroOrMore | oneOrMore =>
    cases hu
    exact .next fun _ _ => .pure

theorem yields_mixedNames (added names : List String) (hfuel : added.length < fuel) :
    Yields w stop (mixedNames w fuel names) (ContentSpec.alternatives added ++ [.parenClose])
      (added.foldl Particle.addName names) := by
  obtain ⟨fuel, rfl⟩ : ∃ n, fuel = n + 1 := ⟨fuel - 1, by omega⟩
  induction added generalizing fuel names with
  | nil =>
    refine .next fun l hl => ?_
    rw [hl]
    exact .pure
  | cons name added ih =>
    rw [List.length_cons] at hfuel
    obtain ⟨fuel, rfl⟩ : ∃ n, fuel = n + 1 := ⟨fuel - 1, by omega⟩
    refine .next fun l hl => ?_
    rw [hl]
    exact .expectName fun _ => ih _ _ (by omega)

theorem yields_mixed (added : List String) (hfuel : added.length < fuel)
    (hts : added ≠ [] ∧ ts = [.star] ∨ added = [] ∧ (ts = [] ∨ ts = [.star])) :
    Yields w Token.EndsParticle (mixed w fuel)
      (ContentSpec.alternatives added ++ [.parenClose] ++ ts) (.mixed added.eraseDups) := by
  have hnames : Yields w (fun _ => True) (mixedNames w fuel []) _ _ :=
    yields_mixedNames added [] hfuel
  rw [Particle.foldl_addName] at hnames
  refine hnames.bind ?_ fun _ _ _ _ => trivial
  dsimp only
  rcases hts with ⟨hne, rfl⟩ | ⟨rfl, hts⟩
  · rw [if_neg (mt (Particle.isEmpty_eraseDups added).1 hne)]
    exact .expect fun _ _ => .pure
  · rw [if_pos ((Particle.isEmpty_eraseDups []).2 rfl)]
    refine .peek fun t ht u hu => ?_
    rcases hts with rfl | rfl
    · cases hu
      rw [if_neg (by rintro rfl; cases ht)]
      exact .pure
    · cases hu
      rw [if_pos rfl]
      exact .next fun _ _ => .pure

/-- Tokens that a particle is read from, given fuel for all of them. -/
structure Spelled (w : World) (ts : List Token) (a : Particle) : Prop where
  particle : ∀ fuel, ts.length ≤ fuel → Yields w Token.EndsParticle (particle w fuel) ts a
  first : ∃ t us, ts = t :: us ∧ t ≠ .hash "PCDATA"
  group : a.IsGroup → ∃ t us, ts = .parenOpen :: t :: us ∧ t ≠ .hash "PCDATA" ∧
    ∀ fuel, us.length < fuel → Yields w Token.EndsParticle (group w fuel) (t :: us) a

theorem yields_groupItems {separator : Option Token} {items : List Particle}
    {r : Option Token × List Particle}
    (h : Particle.Continues (Spelled w) separator items ts r) (hfuel : ts.length ≤ fuel) :
    Yields w stop (groupItems w fuel separator items) ts r := by
  induction h generalizing fuel with
  | close =>
    obtain ⟨fuel, rfl⟩ : ∃ n, fuel = n + 1 := ⟨fuel - 1, by simp at hfuel; omega⟩
    refine .next fun l hl => ?_
    rw [if_pos hl]
    exact .pure
  | @item s separator items item ts us r hs hsame hitem hrest ih =>
    rw [List.length_cons, List.length_append] at hfuel
    obtain ⟨fuel, rfl⟩ : ∃ n, fuel = n + 1 := ⟨fuel - 1, by omega⟩
    have hclose : s ≠ .parenClose := by rcases hs with rfl | rfl <;> nofun
    refine .next fun l hl => ?_
    rw [hl, if_neg hclose, if_pos hs, hsame]
    dsimp only
    rw [if_pos rfl]
    refine (hitem.particle fuel (by omega)).bind (ih (by omega)) fun _ _ u hu => ?_
    obtain ⟨v, vs, rfl, hv⟩ := hrest.exists_cons
    cases hu
    exact hv

theorem spelled_element (name : String) (occurs : Occurrence) :
    Spelled w (.name name :: occurs.tokens) (.element name occurs) where
  particle := by
    intro fuel hfuel
    rw [List.length_cons] at hfuel
    obtain ⟨fuel, rfl⟩ : ∃ n, fuel = n + 1 := ⟨fuel - 1, by omega⟩
    refine .next fun l hl => ?_
    rw [hl]
    exact (yields_occurrence occurs).map
  first := ⟨_, _, rfl, by simp⟩
  group := False.elim

theorem spelled_group {item : Particle} {r : Option Token × List Particle} (occurs : Occurrence)
    (h : Spelled w ts item) (hrest : Particle.Continues (Spelled w) none [item] us r) :
    Spelled w (.parenOpen :: (ts ++ (us ++ occurs.tokens))) (groupOf r.1 r.2 occurs) := by
  obtain ⟨separator, items⟩ := r
  obtain ⟨t, vs, rfl, ht⟩ := h.first
  obtain ⟨u, vs', rfl, hu⟩ := hrest.exists_cons
  have hgroup (fuel : Nat) (hfuel : (vs ++ (u :: vs' ++ occurs.tokens)).length < fuel) :
      Yields w Token.EndsParticle (group w fuel) (t :: vs ++ (u :: vs' ++ occurs.tokens))
        (groupOf separator items occurs) := by
    simp only [List.length_append, List.length_cons] at hfuel
    obtain ⟨fuel, rfl⟩ : ∃ n, fuel = n + 1 := ⟨fuel - 1, by omega⟩
    have hfirst := h.particle fuel (by rw [List.length_cons]; omega)
    have hitems : Yields w (fun _ => True) (groupItems w fuel none [item]) _ _ :=
      yields_groupItems hrest (by rw [List.length_cons]; omega)
    refine hfirst.bind ?_ fun _ _ v hv => ?_
    · exact hitems.bind (yields_occurrence occurs).map fun _ _ _ _ => trivial
    · cases hv
      exact hu
  constructor
  · intro fuel hfuel
    rw [List.length_cons] at hfuel
    obtain ⟨fuel, rfl⟩ : ∃ n, fuel = n + 1 := ⟨fuel - 1, by omega⟩
    refine .next fun l hl => ?_
    rw [hl]
    exact hgroup fuel (by simp at hfuel ⊢; omega)
  · exact ⟨_, _, rfl, by simp⟩
  · exact fun _ => ⟨t, _, rfl, ht, hgroup⟩

theorem length_alternatives (names : List String) :
    names.length ≤ (ContentSpec.alternatives names).length := by
  unfold ContentSpec.alternatives
  rw [List.length_flatMap]
  simp
  omega

theorem yields_contentSpec {content : ContentSpec} (h : ContentSpec.Derives ts content)
    (hfuel : ts.length ≤ fuel) : Yields w Token.EndsParticle (contentSpec w fuel) ts content := by
  have hmixed (us : List Token) (h : Yields w Token.EndsParticle (mixed w fuel) us content) :
      Yields w Token.EndsParticle (contentSpec w fuel) (.parenOpen :: .hash "PCDATA" :: us)
        content := by
    refine .next fun l hl => ?_
    rw [hl]
    refine .peek fun t ht u hu => ?_
    cases hu
    rw [if_pos rfl]
    refine .next fun _ _ => h.mono ?_
    rintro _ rfl
    exact ht
  cases h with
  | empty =>
    refine .next fun l hl => ?_
    rw [hl]
    exact .pure
  | any =>
    refine .next fun l hl => ?_
    rw [hl]
    exact .pure
  | text => exact hmixed _ (yields_mixed [] (lt_of_lt_of_le (by decide) hfuel) (.inr ⟨rfl, .inl rfl⟩))
  | texts => exact hmixed _ (yields_mixed [] (lt_of_lt_of_le (by decide) hfuel) (.inr ⟨rfl, .inr rfl⟩))
  | @mixed names hne =>
    have hlength := length_alternatives names
    simp only [List.length_cons, List.length_append] at hfuel
    have hnames : Yields w Token.EndsParticle (mixed w fuel) _ _ :=
      yields_mixed names (by omega) (.inl ⟨hne, rfl⟩)
    rw [List.append_assoc] at hnames
    exact hmixed _ hnames
  | children hgroup h =>
    have hspelled : Spelled w _ _ := h.induct spelled_element spelled_group
    obtain ⟨t, us, rfl, ht, hyields⟩ := hspelled.group hgroup
    refine .next fun l hl => ?_
    rw [hl]
    refine .peek fun t' ht' u hu => ?_
    cases hu
    rw [if_neg ht]
    refine ((hyields fuel ?_).mono ?_).map
    · simp at hfuel
      omega
    · rintro _ rfl
      exact ht'

end Completeness

variable {q r : Parser} {ls : List Lexeme} {c : Lexeme} {fuel : Nat}

/-- In front of `>`, the content of an element is read exactly from the tokens that it can be derived
from, and the `>` is what is taken next. -/
theorem contentSpec_iff_derives (h : Delivers w p ls q) (hq : next w q = .ok c r)
    (hc : c.token = .close) (hfuel : ls.length ≤ fuel) (content : ContentSpec) :
    (∃ q', contentSpec w fuel p = .ok content q' ∧ next w q' = .ok c r) ↔
      content.Derives (ls.map (·.token)) := by
  constructor
  · rintro ⟨q', hcontent, hq'⟩
    obtain ⟨ms, hms, hderives⟩ := accepts_contentSpec fuel content q' hcontent
    have heof : c.token ≠ .endOfInput := by
      rw [hc]
      nofun
    rwa [hms.unique h hq' hq heof] at hderives
  · intro hderives
    refine yields_contentSpec hderives ?_ p ls q c r h rfl hq (hc ▸ trivial)
    rwa [List.length_map]

theorem contentSpec_iff_derives_sequence :
    ∃ p ls q c r, Delivers bare p ls q ∧ next bare q = .ok c r ∧ c.token = .close ∧
      ls.map (·.token) = [.parenOpen, .name "a", .comma, .name "b", .question, .parenClose, .plus] ∧
      ∃ q', contentSpec bare 7 p =
          .ok (.children (.seq [.element "a" .once, .element "b" .optional] .oneOrMore)) q' ∧
        next bare q' = .ok c r := by
  have hlexed : Lexed "(a,b?)+>".toList
      [.parenOpen, .name "a", .comma, .name "b", .question, .parenClose, .plus] ['>'] :=
    .cons rfl (.cons rfl (.cons rfl (.cons rfl (.cons rfl (.cons rfl (.cons rfl (.nil _)))))))
  have hstart := (stands_start {} "a.dtd" "(a,b?)+>").facing
  obtain ⟨ls, q, hls, hts, hfacing⟩ := hstart.delivers hlexed (w := bare)
  have hclose : lex ['>'] = .token .close [] := rfl
  obtain ⟨c, r, hq, ⟨hc, -⟩, -⟩ := takes_next hclose q hfacing
  have hitems : ∀ item ∈ [([.name "a"], .element "a" .once),
      ([.name "b", .question], .element "b" .optional)], Particle.Derives item.1 item.2 :=
    List.forall_mem_cons.2 ⟨.element "a" .once, List.forall_mem_singleton.2 (.element "b" .optional)⟩
  have hgroup := Particle.Derives.seq .oneOrMore (by simp) hitems
  have hderives := ContentSpec.Derives.children (by trivial) hgroup
  have hfuel : ls.length ≤ 7 := by
    rw [← List.length_map, hts]
    rfl
  exact ⟨_, ls, q, c, r, hls, hq, hc, hts,
    (contentSpec_iff_derives hls hq hc hfuel _).2 (hts.symm ▸ hderives)⟩

end Parser

end Doctype
