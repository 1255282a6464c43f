/-! The order that entity expansion goes down in: shorter lists first, then the first difference. -/
namespace Doctype

/-- Lists of the same length compare by their first difference; shorter lists come first. -/
def ShortLex (as bs : List Nat) : Prop :=
  as.length < bs.length ∨ as.length = bs.length ∧ List.Lex (· < ·) as bs

/-- The first difference stays the first behind a common beginning. -/
theorem lex_append {as bs : List Nat} (h : List.Lex (· < ·) as bs) (front : List Nat) :
    List.Lex (· < ·) (front ++ as) (front ++ bs) := by
  induction front with
  | nil => exact h
  | cons _ _ ih => exact .cons ih

/-- A smaller number goes down, whatever comes behind it, as long as not more numbers come. -/
theorem shortLex_append_cons (front : List Nat) {a b : Nat} {as bs : List Nat} (hab : a < b)
    (hlen : as.length ≤ bs.length) : ShortLex (front ++ a :: as) (front ++ b :: bs) := by
  have hlength (c : Nat) (cs : List Nat) :
      (front ++ c :: cs).length = front.length + cs.length + 1 := by
    rw [List.length_append, List.length_cons, Nat.add_assoc]
  rcases Nat.lt_or_ge as.length bs.length with hlt | hge
  · left
    rw [hlength, hlength]
    omega
  · right
    refine ⟨?_, lex_append (.rel hab) front⟩
    rw [hlength, hlength]
    omega

/-- Among lists of one length there is no endless descent. -/
theorem acc_lex_of_length (n : Nat) (as : List Nat) (h : as.length = n) :
    Acc (fun as bs : List Nat => as.length = bs.length ∧ List.Lex (· < ·) as bs) as := by
  induction n generalizing as with
  | zero =>
    obtain rfl := List.length_eq_zero_iff.1 h
    exact ⟨_, fun bs hb => nomatch hb.2⟩
  | succ n ih =>
    cases as with
    | nil => simp at h
    | cons a as =>
      induction a using Nat.strongRecOn generalizing as with
      | _ a iha =>
        have hacc := ih as (by simpa using h)
        induction hacc with
        | intro as _ ihs =>
          refine ⟨_, fun bs hb => ?_⟩
          obtain ⟨hlen, hlex⟩ := hb
          cases hlex with
          | nil => simp at hlen
          | rel hlt => exact iha _ hlt _ (by simpa [h] using hlen)
          | cons hlex =>
            simp only [List.length_cons, Nat.add_right_cancel_iff] at hlen
            exact ihs _ ⟨hlen, hlex⟩ (by simpa [hlen] using h)

theorem shortLex_wf : WellFounded ShortLex := by
  refine ⟨fun as => ?_⟩
  generalize hn : as.length = n
  induction n using Nat.strongRecOn generalizing as with
  | _ n ih =>
    have hacc := acc_lex_of_length n as hn
    induction hacc with
    | intro as _ ihs =>
      refine ⟨_, fun bs hb => ?_⟩
      rcases hb with hlt | ⟨hlen, hlex⟩
      · exact ih _ (by omega) bs rfl
      · exact ihs bs ⟨hlen, hlex⟩ (by omega)

/-- Lists of numbers, shorter ones first and then by their first difference. -/
structure Weights where
  list : List Nat

instance : WellFoundedRelation Weights :=
  ⟨fun a b => ShortLex a.list b.list, InvImage.wf Weights.list shortLex_wf⟩

/-- How many different names of a list are not open. -/
def unopened (isOpen : String → Bool) : List String → Nat
  | [] => 0
  | name :: names =>
    (if isOpen name || names.contains name then 0 else 1) + unopened isOpen names

theorem unopened_congr {o o' : String → Bool} {names : List String}
    (h : ∀ name ∈ names, o name = o' name) : unopened o names = unopened o' names := by
  induction names with
  | nil => rfl
  | cons name names ih =>
    simp only [unopened, h name List.mem_cons_self,
      ih fun n hn => h n (List.mem_cons_of_mem _ hn)]

/-- Opening or closing one name changes the count by at most one. -/
theorem unopened_le_add_one {o o' : String → Bool} {e : String} {names : List String}
    (h : ∀ name, name ≠ e → o name = o' name) : unopened o names ≤ unopened o' names + 1 := by
  induction names with
  | nil => simp [unopened]
  | cons name names ih =>
    simp only [unopened]
    by_cases hm : names.contains name
    · simp only [hm, Bool.or_true, if_true]
      omega
    · by_cases he : name = e
      · have : unopened o names = unopened o' names := unopened_congr fun n hn => h n fun hne => by
          subst hne he
          exact hm (by simpa using hn)
        split <;> split <;> omega
      · rw [h name he]
        omega

/-- Opening a name of the list lowers the count. -/
theorem unopened_lt {o o' : String → Bool} {e : String} {names : List String}
    (h : ∀ name, name ≠ e → o name = o' name) (hm : e ∈ names) (ho : o e = true)
    (ho' : o' e = false) : unopened o names < unopened o' names := by
  induction names with
  | nil => simp at hm
  | cons name names ih =>
    simp only [unopened]
    by_cases hin : e ∈ names
    · have := ih hin
      by_cases he : name = e
      · subst he
        simp only [List.contains_eq_mem, hin, decide_true, Bool.or_true, if_true]
        omega
      · rw [h name he]
        omega
    · have he : name = e := by
        rcases List.mem_cons.1 hm with he | hm
        · exact he.symm
        · exact absurd hm hin
      subst he
      have : unopened o names = unopened o' names := unopened_congr fun n hn => h n fun hne =>
        hin (hne ▸ hn)
      simp only [ho, ho', if_true, List.contains_eq_mem, hin, decide_false,
        Bool.or_false, Bool.false_eq_true, if_false]
      omega

end Doctype
