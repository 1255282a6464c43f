/-! Names bound to values, in the order of declaration or in the order of the names. -/
namespace Doctype

/-- Names with the values bound to them. -/
abbrev Bindings (α : Type) := List (String × α)

namespace Bindings

variable {α : Type}

/-- The bound names in order. -/
def names (bs : Bindings α) : List String :=
  bs.map Prod.fst

/-- Whether a name is bound. -/
def has (bs : Bindings α) (name : String) : Bool :=
  bs.any (·.1 == name)

/-- The value of the first binding of a name. -/
def get? (bs : Bindings α) (name : String) : Option α :=
  bs.lookup name

/-- Adds a binding at the end unless the name is bound: the first binding stays. -/
def add (bs : Bindings α) (name : String) (value : α) : Bindings α :=
  if bs.has name then bs else bs ++ [(name, value)]

/-- Binds a name in place, or at the end if it is new: the last binding stays. -/
def set (bs : Bindings α) (name : String) (value : α) : Bindings α :=
  if bs.has name then bs.map fun b => if b.1 == name then (name, value) else b
  else bs ++ [(name, value)]

/-- Inserts a binding before the first greater name; names compare by code points. -/
def insertSorted (name : String) (value : α) : Bindings α → Bindings α
  | [] => [(name, value)]
  | b :: bs =>
    if name < b.1 then (name, value) :: b :: bs else b :: insertSorted name value bs

/-- The same names with the same values, whatever the order. -/
def sameAs [BEq α] (bs cs : Bindings α) : Bool :=
  bs.length == cs.length && bs.all fun b => cs.get? b.1 == some b.2

theorem mem_names_of_get? {bs : Bindings α} {name : String} {value : α}
    (h : bs.get? name = some value) : name ∈ bs.names := by
  induction bs with
  | nil => simp [get?] at h
  | cons b bs ih =>
    rw [get?, List.lookup_cons] at h
    split at h
    · rename_i he
      simp only [names, List.map_cons, List.mem_cons]
      exact .inl (by simpa using he)
    · simp only [names, List.map_cons, List.mem_cons]
      exact .inr (ih h)

end Bindings

end Doctype
