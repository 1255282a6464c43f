import Doctype.Bindings
import Doctype.Error
import Doctype.Name

/-! Parameter entities: declaring them, and expanding references to them in a text. -/
namespace Doctype

/-- How a parameter entity is declared. -/
inductive EntityKind
  /-- By its replacement text. -/
  | value
  /-- By the path or URI of its replacement text. -/
  | uri
deriving DecidableEq, Repr

/-- The declared parameter entities, each list sorted by name. -/
structure EntityTable where
  values : Bindings String := []
  uris : Bindings String := []
deriving DecidableEq, Repr

namespace EntityTable

/-- The table without entities. -/
def empty : EntityTable := {}

/-- The names declared in either way. -/
def names (t : EntityTable) : List String :=
  t.values.names ++ t.uris.names

/-- Whether a name is declared in either way. -/
def contains (t : EntityTable) (name : String) : Bool :=
  t.values.has name || t.uris.has name

/-- The way a name is declared. -/
def kind? (t : EntityTable) (name : String) : Option EntityKind :=
  if t.values.has name then some .value else if t.uris.has name then some .uri else none

/-- The number of declared entities. -/
def size (t : EntityTable) : Nat :=
  t.values.length + t.uris.length

/-- The order of two lists of bindings: the first difference decides, a name before its value,
and a list comes after its beginnings. -/
def compareBindings : Bindings String → Bindings String → Ordering
  | [], [] => .eq
  | [], _ :: _ => .lt
  | _ :: _, [] => .gt
  | a :: as, b :: bs =>
    ((compare a.1 b.1).then (compare a.2 b.2)).then (compareBindings as bs)

/-- The order of two tables: values first. -/
def compareTables (t u : EntityTable) : Ordering :=
  (compareBindings t.values u.values).then (compareBindings t.uris u.uris)

/-- The name between a `%` that has just been read and a `;`, and what follows. -/
def reference? (cs : List Char) : Option (List Char × List Char) :=
  match cs.dropWhile isNameChar with
  | ';' :: rest =>
    if isNameOf (cs.takeWhile isNameChar) then some (cs.takeWhile isNameChar, rest) else none
  | _ => none

theorem length_lt_of_reference? {cs name rest : List Char} (h : reference? cs = some (name, rest)) :
    rest.length < cs.length := by
  unfold reference? at h
  split at h
  · rename_i r hr
    have := (List.dropWhile_sublist isNameChar (l := cs)).length_le
    split at h
    · simp only [Option.some.injEq, Prod.mk.injEq] at h
      obtain ⟨-, rfl⟩ := h
      rw [hr] at this
      simp only [List.length_cons] at this
      omega
    · simp at h
  · simp at h

/-- The text that a reference inside a literal stands for. -/
def replacement (t : EntityTable) (name : String) : Except Error String :=
  match t.values.get? name with
  | some value => .ok value
  | none =>
    match t.uris.get? name with
    | some target =>
      .error (.unresolvedReference name target
        "external entities cannot be expanded inside a literal")
    | none => .error (.undeclaredEntity name)

/-- Replaces each reference by the text of its entity, which is not searched again. A `%` that
begins no reference stands for itself. -/
def expandChars (t : EntityTable) : List Char → Except Error (List Char)
  | [] => .ok []
  | c :: cs =>
    if c = '%' then
      match _h : reference? cs with
      | some (name, rest) => do
        let text ← t.replacement (.ofList name)
        return text.toList ++ (← expandChars t rest)
      | none => return c :: (← expandChars t cs)
    else return c :: (← expandChars t cs)
termination_by cs => cs.length
decreasing_by
  · have := length_lt_of_reference? _h
    simp only [List.length_cons]
    omega
  · simp
  · simp

/-- Replaces the references in a text. -/
def expand (t : EntityTable) (text : String) : Except Error String :=
  String.ofList <$> t.expandChars text.toList

/-- The error for something that is used as the name of an entity and is none. -/
def badName (name : String) : Error :=
  .invalidEntity ("`" ++ name ++ "` is not a valid entity name")

/-- Declares an entity. The first declaration of a name stays; a value is stored with its
references expanded. -/
def declare (t : EntityTable) (name : String) (kind : EntityKind) (content : String) :
    Except Error EntityTable :=
  if name.isEmpty then .error (.invalidEntity "empty entity name")
  else if !isName name then .error (badName name)
  else if t.contains name then .ok t
  else
    match kind with
    | .value => do
      let value ← t.expand content
      return { t with values := t.values.insertSorted name value }
    | .uri => .ok { t with uris := t.uris.insertSorted name content }

end EntityTable

end Doctype
