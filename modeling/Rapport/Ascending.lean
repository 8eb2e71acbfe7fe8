set_option autoImplicit false

/-! # Ascending lists of names

A set of names, written as the list of its members in code point order without repetition. The
seeds of a query are one, so the order in which they were given and their repetitions are gone from
the start. -/

namespace Rapport.Ascending

/-- Put a name into an ascending list, unless it is there. -/
def insert (n : String) : List String → List String
  | [] => [n]
  | m :: rest => if n < m then n :: m :: rest else if n = m then m :: rest else m :: insert n rest

/-- The members of a list, ascending and each once. -/
def ofList (names : List String) : List String := names.foldr insert []

@[simp] theorem mem_insert {n m : String} {names : List String} :
    m ∈ insert n names ↔ m = n ∨ m ∈ names := by
  induction names with
  | nil => simp [insert]
  | cons k rest ih =>
    by_cases hlt : n < k
    · simp [insert, hlt]
    · by_cases heq : n = k
      · subst heq; simp [insert]
      · simp only [insert, hlt, heq, if_false, List.mem_cons, ih]
        exact or_left_comm

@[simp] theorem mem_ofList {m : String} {names : List String} :
    m ∈ ofList names ↔ m ∈ names := by
  induction names with
  | nil => simp [ofList]
  | cons n rest ih => rw [show ofList (n :: rest) = insert n (ofList rest) from rfl]; simp [ih]

theorem pairwise_insert (n : String) {names : List String} (h : names.Pairwise (· < ·)) :
    (insert n names).Pairwise (· < ·) := by
  induction names with
  | nil => simp [insert]
  | cons k rest ih =>
    obtain ⟨hk, hrest⟩ := List.pairwise_cons.1 h
    by_cases hlt : n < k
    · simp only [insert, hlt, if_true]
      refine List.pairwise_cons.2 ⟨fun m hm => ?_, h⟩
      rcases List.mem_cons.1 hm with rfl | hm
      · exact hlt
      · exact String.lt_trans hlt (hk m hm)
    · by_cases heq : n = k
      · simpa [insert, hlt, heq] using h
      · simp only [insert, hlt, heq, if_false]
        refine List.pairwise_cons.2 ⟨fun m hm => ?_, ih hrest⟩
        rcases mem_insert.1 hm with rfl | hm
        · exact Classical.byContradiction fun hnot =>
            heq (String.le_antisymm hnot hlt)
        · exact hk m hm

/-- The list is strictly ascending, so it names each member once. -/
theorem pairwise_ofList (names : List String) : (ofList names).Pairwise (· < ·) := by
  induction names with
  | nil => simp [ofList]
  | cons n rest ih => exact pairwise_insert n ih

end Rapport.Ascending
