import Mathlib.Data.List.Range

/-!
# Loops that flush in blocks

A loop over indices that are grouped in blocks of equal size. Each index may touch the state; a
block in which some index did is flushed, but only when the loop enters the next block or ends.
Such a loop is the plain loop over the blocks.
-/

namespace Framework

structure BlockLoop (σ : Type*) where
  size : Nat
  touch : Nat → σ → σ × Bool
  flush : Nat → σ → σ

namespace BlockLoop

variable {σ : Type*} (l : BlockLoop σ)

/-- `dirty |= touch(i);` -/
def touchAt (x : σ × Bool) (i : Nat) : σ × Bool :=
  ((l.touch i x.1).1, x.2 || (l.touch i x.1).2)

/-- `if (i % size == 0 && dirty) { flush(i / size - 1); dirty = false; }` -/
def enter (x : σ × Bool) (i : Nat) : σ × Bool :=
  if i % l.size = 0 ∧ x.2 then (l.flush (i / l.size - 1) x.1, false) else x

def flushIf (block : Nat) (x : σ × Bool) : σ :=
  if x.2 then l.flush block x.1 else x.1

def iterations (n : Nat) (s : σ) : σ × Bool :=
  (List.range n).foldl (fun x i => l.touchAt (l.enter x i) i) (s, false)

def run (n : Nat) (s : σ) : σ := l.flushIf ((n - 1) / l.size) (l.iterations n s)

/-- Touch `count` indices from `start` on. -/
def touches (start count : Nat) (s : σ) : σ × Bool :=
  (List.range count).foldl (fun x j => l.touchAt x (start + j)) (s, false)

def block (n : Nat) (s : σ) (b : Nat) : σ :=
  l.flushIf b (l.touches (l.size * b) (min l.size (n - l.size * b)) s)

def blocks (n count : Nat) (s : σ) : σ := (List.range count).foldl (l.block n) s

theorem iterations_succ (n : Nat) (s : σ) :
    l.iterations (n + 1) s = l.touchAt (l.enter (l.iterations n s) n) n := by
  simp [iterations, List.range_succ]

@[simp] theorem touches_zero (start : Nat) (s : σ) : l.touches start 0 s = (s, false) := rfl

theorem touches_succ (start count : Nat) (s : σ) :
    l.touches start (count + 1) s = l.touchAt (l.touches start count s) (start + count) := by
  simp [touches, List.range_succ]

@[simp] theorem blocks_zero (n : Nat) (s : σ) : l.blocks n 0 s = s := rfl

theorem blocks_succ (n count : Nat) (s : σ) :
    l.blocks n (count + 1) s = l.block n (l.blocks n count s) count := by
  simp [blocks, List.range_succ]

variable {l}

private theorem enter_of_mod_eq_zero {x : σ × Bool} {i : Nat} (hi : i % l.size = 0) :
    l.enter x i = (l.flushIf (i / l.size - 1) x, false) := by
  rcases x with ⟨s, dirty⟩
  cases dirty <;> simp [enter, flushIf, hi]

private theorem enter_of_mod_ne_zero {x : σ × Bool} {i : Nat} (hi : i % l.size ≠ 0) :
    l.enter x i = x := by
  simp [enter, hi]

/-- While the loop stands at index `i`, it has finished the blocks before and has touched the
indices of the current block below `i`. -/
private theorem enter_iterations {n i : Nat} (hsize : 0 < l.size) (hi : i ≤ n) (s : σ) :
    l.enter (l.iterations i s) i =
      l.touches (l.size * (i / l.size)) (i % l.size) (l.blocks n (i / l.size) s) := by
  induction i with
  | zero => simp [iterations, enter]
  | succ i ih =>
      have hdiv := Nat.div_add_mod i l.size
      have hlt := Nat.mod_lt i hsize
      have htouched : l.iterations (i + 1) s =
          l.touches (l.size * (i / l.size)) (i % l.size + 1) (l.blocks n (i / l.size) s) := by
        rw [iterations_succ, ih (Nat.le_of_succ_le hi), touches_succ, hdiv]
      by_cases hlast : i % l.size + 1 = l.size
      · have hnext : i + 1 = l.size * (i / l.size + 1) := by
          rw [Nat.mul_succ]
          omega
        have hmod : (i + 1) % l.size = 0 := by rw [hnext, Nat.mul_mod_right]
        have hquot : (i + 1) / l.size = i / l.size + 1 := by
          rw [hnext, Nat.mul_div_cancel_left _ hsize]
        have hfull : min l.size (n - l.size * (i / l.size)) = l.size := by omega
        rw [enter_of_mod_eq_zero hmod, hmod, hquot, touches_zero, htouched, blocks_succ, block, hfull,
          hlast, Nat.add_sub_cancel]
      · have hmod : (i + 1) % l.size = i % l.size + 1 := by
          rw [← hdiv, Nat.add_assoc, Nat.mul_add_mod, Nat.mul_add_mod, Nat.mod_mod]
          exact Nat.mod_eq_of_lt (by omega)
        have hquot : (i + 1) / l.size = i / l.size := by
          have hdiv' := Nat.div_add_mod (i + 1) l.size
          rw [hmod] at hdiv'
          exact Nat.eq_of_mul_eq_mul_left hsize (by omega)
        rw [enter_of_mod_ne_zero (by omega), hmod, hquot, htouched]

/-- The loop that defers its flushes is the loop over the blocks. -/
theorem run_eq_blocks (hsize : 0 < l.size) (n : Nat) (s : σ) :
    l.run n s = l.blocks n ((n + l.size - 1) / l.size) s := by
  cases n with
  | zero => simp [run, iterations, flushIf, Nat.div_eq_of_lt (Nat.sub_one_lt_of_lt hsize)]
  | succ n =>
      have hdiv := Nat.div_add_mod n l.size
      have hlt := Nat.mod_lt n hsize
      have hcount : (n + 1 + l.size - 1) / l.size = n / l.size + 1 := by
        rw [show n + 1 + l.size - 1 = n + l.size by omega, Nat.add_div_right _ hsize]
      have hlast : min l.size (n + 1 - l.size * (n / l.size)) = n % l.size + 1 := by omega
      rw [run, iterations_succ, enter_iterations hsize (Nat.le_succ n), hcount, blocks_succ, block,
        hlast, touches_succ, hdiv, Nat.add_sub_cancel]

end BlockLoop

end Framework
