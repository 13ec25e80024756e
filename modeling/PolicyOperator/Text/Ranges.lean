/-!
# Ranges of characters

A class of characters given by the ranges of its numbers, as the tables of Unicode properties are.
-/

namespace PolicyOperator.Text

/-- Ranges by their first and last numbers, in rising order. -/
abbrev Ranges := List (Nat × Nat)

/-- The number lies in one of the ranges. The first range that does not end before it decides. -/
def Ranges.has (n : Nat) : Ranges → Bool
  | [] => false
  | (first, last) :: rest => if n ≤ last then first ≤ n else Ranges.has n rest

/-- A number that the table has lies in one of its ranges. -/
theorem Ranges.exists_mem_of_has {n : Nat} {r : Ranges} (h : r.has n = true) :
    ∃ x ∈ r, x.1 ≤ n ∧ n ≤ x.2 := by
  induction r with
  | nil => simp [Ranges.has] at h
  | cons x r ih =>
    by_cases hx : n ≤ x.2
    · exact ⟨x, List.mem_cons_self, by simpa [Ranges.has, hx] using h, hx⟩
    · obtain ⟨y, hy, hn⟩ := ih (by simpa [Ranges.has, hx] using h)
      exact ⟨y, List.mem_cons_of_mem x hy, hn⟩

end PolicyOperator.Text
