import Mathlib.Data.Int.Notation

/-!
# Ranges of a list

The index convention of `LRANGE` and `LTRIM`: both ends are included, and
negative indexes count from the end of the list.
-/
namespace Redis

variable {α : Type}

/-- The elements from `start` to `stop`, as `LRANGE` replies with them and `LTRIM` keeps them. -/
def range (l : List α) (start stop : ℤ) : List α :=
  let first := if start < 0 then max 0 (start + l.length) else start
  let last := if stop < 0 then stop + l.length else stop
  if last < first ∨ l.length ≤ first then []
  else (l.drop first.toNat).take (min last (l.length - 1) - first + 1).toNat

theorem range_take (l : List α) (k : Nat) : range l 0 k = l.take (k + 1) := by
  have here : ¬ (k : ℤ) < 0 := by omega
  simp only [range, here, if_false, false_or, Int.lt_irrefl, Int.toNat_zero, List.drop_zero]
  split
  · have none_ : l = [] := List.length_eq_zero_iff.mp (by omega)
    rw [none_, List.take_nil]
  · rw [List.take_eq_take_iff]
    omega

/-- The last index is -1. -/
theorem range_all (l : List α) : range l 0 (-1) = l := by
  have last : (-1 : ℤ) < 0 := by decide
  simp only [range, last, if_true, Int.lt_irrefl, if_false, Int.toNat_zero, List.drop_zero]
  split
  · exact (List.length_eq_zero_iff.mp (by omega)).symm
  · exact List.take_of_length_le (by omega)

/-- A range that is cut off by a count of elements: for the count 0 it ends at the last element. -/
theorem range_limit (l : List α) (limit : Nat) :
    range l 0 (limit - 1) = if limit = 0 then l else l.take limit := by
  cases limit with
  | zero => exact range_all l
  | succ limit =>
      have last : ((limit + 1 : Nat) : ℤ) - 1 = limit := by omega
      rw [last, range_take, if_neg (by omega)]

end Redis
