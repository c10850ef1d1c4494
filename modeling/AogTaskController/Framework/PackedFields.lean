import Mathlib.Data.List.Range

/-!
# Fields of equal width packed into one word

Field `i` occupies the bits from `w * i` on, as `word |= field << (w * i)` builds it.
-/

namespace Framework

variable {w : Nat}

/-- `word = 0; for (i = 0; i < n; i++) word |= f i << (w * i);` -/
def packFields (width : Nat) (f : Nat → BitVec w) (n : Nat) : BitVec width :=
  (List.range n).foldl (fun word i => word ||| (f i).setWidth width <<< (w * i)) 0

/-- `(word >> (w * i)) & (2^w - 1)` -/
def readField {width : Nat} (w : Nat) (word : BitVec width) (i : Nat) : BitVec w :=
  (word.sshiftRight (w * i)).setWidth w

theorem packFields_succ (width : Nat) (f : Nat → BitVec w) (n : Nat) :
    packFields width f (n + 1) = packFields width f n ||| (f n).setWidth width <<< (w * n) := by
  simp [packFields, List.range_succ]

theorem getLsbD_packFields {width n k : Nat} (hw : 0 < w) (f : Nat → BitVec w) :
    (packFields width f n).getLsbD k =
      (decide (k < width) && decide (k / w < n) && (f (k / w)).getLsbD (k % w)) := by
  induction n with
  | zero => simp [packFields]
  | succ n ih =>
      have hdiv : w * (k / w) + k % w = k := Nat.div_add_mod k w
      have hmod : k % w < w := Nat.mod_lt k hw
      rw [packFields_succ, BitVec.getLsbD_or, ih, BitVec.getLsbD_shiftLeft, BitVec.getLsbD_setWidth]
      rcases Nat.lt_trichotomy (k / w) n with hlt | heq | hgt
      · have hbelow : k < w * n := by
          rw [Nat.mul_comm, ← Nat.div_lt_iff_lt_mul hw]
          exact hlt
        simp [hlt, Nat.lt_succ_of_lt hlt, hbelow]
      · have hin : k - w * n = k % w := by
          rw [← heq]
          omega
        have hstart : ¬ k < w * n := by
          rw [← heq]
          omega
        have hfits : k % w < width ∨ ¬ k < width := by omega
        rcases hfits with hfits | hfits
        · simp [heq, hin, hstart, hfits]
        · simp [hfits]
      · have hnot : ¬ k / w < n + 1 := by omega
        have habove : w ≤ k - w * n := by
          have : w * (n + 1) ≤ w * (k / w) := Nat.mul_le_mul_left w hgt
          rw [Nat.mul_succ] at this
          omega
        have hzero : (f n).getLsbD (k - w * n) = false := BitVec.getLsbD_of_ge _ _ habove
        simp [hnot, Nat.not_lt_of_gt hgt, hzero]

theorem getLsbD_readField {width i k : Nat} {word : BitVec width} (hk : k < w)
    (hfits : w * i + w ≤ width) : (readField w word i).getLsbD k = word.getLsbD (w * i + k) := by
  rw [readField, BitVec.getLsbD_setWidth, BitVec.getLsbD_sshiftRight]
  have hin : w * i + k < width := by omega
  simp [hk, hin, show ¬ width ≤ k by omega]

theorem readField_packFields {width n i : Nat} (f : Nat → BitVec w) (hi : i < n)
    (hfits : w * n ≤ width) : readField w (packFields width f n) i = f i := by
  rcases Nat.eq_zero_or_pos w with rfl | hw
  · exact Subsingleton.elim _ _
  have hend : w * i + w ≤ width := by
    have : w * (i + 1) ≤ w * n := Nat.mul_le_mul_left w hi
    rw [Nat.mul_succ] at this
    omega
  ext k hk
  rw [← BitVec.getLsbD_eq_getElem, ← BitVec.getLsbD_eq_getElem, getLsbD_readField hk hend,
    getLsbD_packFields hw, Nat.mul_add_div hw, Nat.div_eq_of_lt hk, Nat.mul_add_mod,
    Nat.mod_eq_of_lt hk]
  simp [hi, show w * i + k < width by omega]

theorem packFields_congr {width n : Nat} {f g : Nat → BitVec w} (h : ∀ i < n, f i = g i) :
    packFields width f n = packFields width g n := by
  induction n with
  | zero => rfl
  | succ n ih =>
      rw [packFields_succ, packFields_succ, ih fun i hi => h i (Nat.lt_succ_of_lt hi),
        h n (Nat.lt_succ_self n)]

/-- Two nested counting loops enumerate what one loop does by quotient and remainder. -/
theorem flatMap_range_map_range {α : Type*} {k : Nat} (hk : 0 < k) (f : Nat → Nat → α) (m : Nat) :
    ((List.range m).flatMap fun j => (List.range k).map fun i => f j i) =
      (List.range (m * k)).map fun n => f (n / k) (n % k) := by
  induction m with
  | zero => simp
  | succ m ih =>
      have hlast : (List.range k).map (fun i => f m i) =
          (List.range k).map fun i => f ((m * k + i) / k) ((m * k + i) % k) := by
        apply List.map_congr_left
        intro i hi
        have hlt : i < k := List.mem_range.mp hi
        rw [Nat.mul_comm, Nat.mul_add_div hk, Nat.mul_add_mod, Nat.div_eq_of_lt hlt,
          Nat.mod_eq_of_lt hlt, Nat.add_zero]
      rw [List.range_succ, List.flatMap_append, ih, List.flatMap_singleton, hlast, Nat.succ_mul,
        List.range_add, List.map_append, List.map_map]
      rfl

end Framework
