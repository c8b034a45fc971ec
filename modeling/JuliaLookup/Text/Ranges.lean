import JuliaLookup.Text.Basic

/-!
# Range tables

A class of code points, given by the ranges that it consists of. The ranges of a table are closed,
in increasing order and apart from each other, so a search can stop at the first range that starts
beyond the code point.
-/

namespace JuliaLookup

/-- Closed ranges in increasing order. -/
abbrev RangeTable := List (Nat × Nat)

namespace RangeTable

/-- Whether a range holds `n`. -/
def holds : RangeTable → Nat → Bool
  | [], _ => false
  | (low, high) :: rest, n => if n < low then false else n ≤ high || holds rest n

@[simp] theorem holds_nil (n : Nat) : holds [] n = false := rfl

/-- Every range starts at or above `bound`, ends where it starts or later, and leaves a gap before
the next one. -/
def isSorted : RangeTable → (bound : Nat) → Bool
  | [], _ => true
  | (low, high) :: rest, bound => bound ≤ low && low ≤ high && isSorted rest (high + 2)

/-- Nothing below the bound of a sorted table is held. -/
theorem holds_eq_false_of_lt {table : RangeTable} {bound n : Nat}
    (hs : table.isSorted bound = true) (hn : n < bound) : table.holds n = false := by
  cases table with
  | nil => rfl
  | cons r rest =>
    obtain ⟨low, high⟩ := r
    simp only [isSorted, Bool.and_eq_true, decide_eq_true_eq] at hs
    simp only [holds]
    rw [if_pos (by omega)]

/-- On a sorted table the search finds exactly the members of the ranges. -/
theorem holds_iff {table : RangeTable} {bound n : Nat} (hs : table.isSorted bound = true) :
    table.holds n = true ↔ ∃ r ∈ table, r.1 ≤ n ∧ n ≤ r.2 := by
  induction table generalizing bound with
  | nil => simp
  | cons r rest ih =>
    obtain ⟨low, high⟩ := r
    simp only [isSorted, Bool.and_eq_true, decide_eq_true_eq] at hs
    obtain ⟨⟨hb, hl⟩, hrest⟩ := hs
    by_cases hlow : n < low
    · have hnone : holds rest n = false := holds_eq_false_of_lt hrest (by omega)
      have hno : ¬ ∃ r ∈ rest, r.1 ≤ n ∧ n ≤ r.2 := by
        rw [← ih hrest, hnone]; simp
      simp only [holds, if_pos hlow, List.mem_cons, exists_eq_or_imp, hno, or_false]
      simp; omega
    · simp only [holds, if_neg hlow, Bool.or_eq_true, decide_eq_true_eq, ih hrest, List.mem_cons,
        exists_eq_or_imp]
      constructor
      · rintro (h | h)
        · exact Or.inl ⟨by omega, h⟩
        · exact Or.inr h
      · rintro (h | h)
        · exact Or.inl h.2
        · exact Or.inr h

end RangeTable

end JuliaLookup
