/-! Cutting a list at separators. -/
namespace Doctype.Text

/-- The stretches between separators; there is one more of them than there are separators. -/
def fields {α : Type} (isSeparator : α → Bool) : List α → List (List α)
  | [] => [[]]
  | c :: cs =>
    if isSeparator c then [] :: fields isSeparator cs
    else
      match fields isSeparator cs with
      | [] => [[c]]
      | field :: rest => (c :: field) :: rest

/-- Joins stretches with a separator between neighbours. -/
def joinFields {α : Type} (separator : α) : List (List α) → List α
  | [] => []
  | [field] => field
  | field :: rest => field ++ separator :: joinFields separator rest

theorem fields_ne_nil {α : Type} (p : α → Bool) (cs : List α) : fields p cs ≠ [] := by
  cases cs with
  | nil => simp [fields]
  | cons c cs =>
    simp only [fields]
    split
    · simp
    · split <;> simp

/-- Joining undoes cutting. -/
theorem joinFields_fields {α : Type} [BEq α] [LawfulBEq α] (separator : α) (cs : List α) :
    joinFields separator (fields (· == separator) cs) = cs := by
  induction cs with
  | nil => rfl
  | cons c cs ih =>
    simp only [fields]
    split
    · rename_i hc
      obtain rfl : c = separator := by simpa using hc
      cases h : fields (· == c) cs with
      | nil => exact absurd h (fields_ne_nil _ _)
      | cons field rest => rw [h] at ih; simp [joinFields, ih]
    · cases h : fields (· == separator) cs with
      | nil => exact absurd h (fields_ne_nil _ _)
      | cons field rest =>
        rw [h] at ih
        cases rest <;> simp_all [joinFields]

end Doctype.Text
