import Mathlib.Tactic

/-! Unsigned 64-bit counters that stop at the largest value. -/

namespace CiaoHost.Lib.Saturating

def u64Max : ℕ := 18446744073709551615

def satAdd (a b : ℕ) : ℕ := min (a + b) u64Max

/-- `saturating_add(1).max(1)`: the successor of a counter that is never zero. -/
def bump (n : ℕ) : ℕ := max (satAdd n 1) 1

lemma satAdd_le (a b : ℕ) : satAdd a b ≤ u64Max := min_le_right _ _

lemma satAdd_eq {a b : ℕ} (h : a + b ≤ u64Max) : satAdd a b = a + b := min_eq_left h

lemma bump_pos (n : ℕ) : 0 < bump n := lt_of_lt_of_le one_pos (le_max_right _ _)

lemma bump_le (n : ℕ) : bump n ≤ u64Max :=
  max_le (satAdd_le n 1) (by decide)

lemma bump_eq {n : ℕ} (h : n < u64Max) : bump n = n + 1 := by
  unfold bump
  rw [satAdd_eq (by omega)]
  omega

lemma bump_u64Max : bump u64Max = u64Max := by decide

end CiaoHost.Lib.Saturating
