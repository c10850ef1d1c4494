import Mathlib.Algebra.BigOperators.Intervals
import Mathlib.Data.Nat.Find

/-!
# Moves to the front

A buffer of which a number of leading entries is taken away, again and again. The entries that are
left move to the front; what lies behind them is not cleared, so an entry may be seen again at a
place that it had before.
-/

namespace Framework.FrontMoves

variable {α : Type*} (content : ℕ → α) (size : ℕ) (drop : ℕ → ℕ)

def dropped (j : ℕ) : ℕ := ∑ i ∈ Finset.range j, drop i

/-- The buffer after `j` moves, when `size` entries were in it at first. -/
def contentAfter : ℕ → ℕ → α
  | 0 => content
  | j + 1 => fun i =>
      if i < size - dropped drop (j + 1) then contentAfter j (i + drop j) else contentAfter j i

/-- Where the entry `i` after `j` moves stood at first. -/
def origin (j i : ℕ) : ℕ :=
  i + dropped drop (Nat.findGreatest (fun m => i + dropped drop m < size) j)

variable {content size drop}

@[simp] theorem dropped_zero : dropped drop 0 = 0 := rfl

theorem dropped_succ (drop : ℕ → ℕ) (j : ℕ) : dropped drop (j + 1) = dropped drop j + drop j :=
  Finset.sum_range_succ drop j

@[simp] theorem origin_zero (i : ℕ) : origin size drop 0 i = i := by simp [origin]

theorem origin_of_lt {j i : ℕ} (h : i + dropped drop j < size) :
    origin size drop j i = i + dropped drop j := by
  have hgreatest : Nat.findGreatest (fun m => i + dropped drop m < size) j = j :=
    Nat.findGreatest_eq_iff.mpr ⟨le_rfl, fun _ => h, fun _ hlt hle => absurd hle (by omega)⟩
  rw [origin, hgreatest]

theorem origin_succ_of_le {j i : ℕ} (h : size ≤ i + dropped drop (j + 1)) :
    origin size drop (j + 1) i = origin size drop j i := by
  rw [origin, Nat.findGreatest_succ, if_neg (by omega), origin]

theorem contentAfter_succ (j i : ℕ) :
    contentAfter content size drop (j + 1) i =
      if i < size - dropped drop (j + 1) then contentAfter content size drop j (i + drop j)
      else contentAfter content size drop j i := rfl

theorem contentAfter_eq (j i : ℕ) :
    contentAfter content size drop j i = content (origin size drop j i) := by
  induction j generalizing i with
  | zero => rw [origin_zero, contentAfter]
  | succ j ih =>
      have hsucc := dropped_succ drop j
      by_cases h : i < size - dropped drop (j + 1)
      · rw [contentAfter_succ, if_pos h, ih, origin_of_lt (by omega), origin_of_lt (by omega), hsucc]
        congr 1
        omega
      · rw [contentAfter_succ, if_neg h, ih, origin_succ_of_le (by omega)]

end Framework.FrontMoves
