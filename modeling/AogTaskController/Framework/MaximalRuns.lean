import Mathlib.Data.List.Pairwise

/-!
# Maximal runs

The positions where a predicate on the natural numbers holds, as a list of its maximal runs. A scan
from the front appends a run where one begins; the rules below say what a position means for the
list.
-/

namespace Framework

structure Run where
  first : Nat
  last : Nat
  deriving DecidableEq, Repr

namespace Run

def Covers (r : Run) (k : Nat) : Prop := r.first ≤ k ∧ k ≤ r.last

def Before (r s : Run) : Prop := r.last + 1 < s.first

def shift (r : Run) : Run := ⟨r.first + 1, r.last + 1⟩

theorem covers_shift {r : Run} {k : Nat} : r.shift.Covers k ↔ 0 < k ∧ r.Covers (k - 1) := by
  simp only [Covers, shift]
  omega

theorem before_shift {r s : Run} (h : r.Before s) : r.shift.Before s.shift := by
  simp only [Before, shift] at h ⊢
  omega

end Run

/-- The maximal runs of `on` that begin below `i`, in order. -/
structure RunsBelow (on : Nat → Prop) (i : Nat) (runs : List Run) : Prop where
  ordered : runs.Pairwise Run.Before
  begun : ∀ r ∈ runs, r.first ≤ r.last ∧ r.first < i
  sound : ∀ r ∈ runs, ∀ k, r.Covers k → on k
  maximal : ∀ r ∈ runs, ¬ on (r.last + 1)
  complete : ∀ k < i, on k → ∃ r ∈ runs, r.Covers k

namespace RunsBelow

variable {on : Nat → Prop} {i : Nat} {runs : List Run}

theorem nil : RunsBelow on 0 [] where
  ordered := .nil
  begun := by simp
  sound := by simp
  maximal := by simp
  complete := by simp

theorem on_first (h : RunsBelow on i runs) {r : Run} (hr : r ∈ runs) : on r.first :=
  h.sound r hr r.first ⟨Nat.le_refl _, (h.begun r hr).1⟩

theorem eq_nil_iff (h : RunsBelow on i runs) : runs = [] ↔ ∀ k < i, ¬ on k := by
  constructor
  · intro hnil k hk hon
    obtain ⟨r, hr, _⟩ := h.complete k hk hon
    rw [hnil] at hr
    cases hr
  · intro hnone
    apply List.eq_nil_iff_forall_not_mem.mpr
    intro r hr
    exact hnone r.first (h.begun r hr).2 (h.on_first hr)

theorem skip (h : RunsBelow on i runs) (hskip : on i → 0 < i ∧ on (i - 1)) :
    RunsBelow on (i + 1) runs where
  ordered := h.ordered
  begun r hr := ⟨(h.begun r hr).1, Nat.lt_succ_of_lt (h.begun r hr).2⟩
  sound := h.sound
  maximal := h.maximal
  complete k hk hon := by
    rcases Nat.lt_or_eq_of_le (Nat.le_of_lt_succ hk) with hlt | rfl
    · exact h.complete k hlt hon
    · obtain ⟨hpos, hbefore⟩ := hskip hon
      obtain ⟨r, hr, hcovers⟩ := h.complete (k - 1) (by omega) hbefore
      refine ⟨r, hr, by have := hcovers.1; omega, ?_⟩
      -- the run that covers the position before cannot end there
      have hne : r.last ≠ k - 1 := by
        intro hend
        have hmaximal := h.maximal r hr
        rw [hend, Nat.sub_add_cancel hpos] at hmaximal
        exact hmaximal hon
      have := hcovers.2
      omega

theorem begin (h : RunsBelow on i runs) {last : Nat} (hbegins : 0 < i → ¬ on (i - 1))
    (hle : i ≤ last) (hrun : ∀ k, i ≤ k → k ≤ last → on k) (hstops : ¬ on (last + 1)) :
    RunsBelow on (i + 1) (runs ++ [⟨i, last⟩]) where
  ordered := by
    rw [List.pairwise_append]
    refine ⟨h.ordered, List.pairwise_singleton _ _, fun r hr s hs => ?_⟩
    obtain rfl := List.mem_singleton.mp hs
    obtain ⟨_, hfirst⟩ := h.begun r hr
    -- otherwise the run covers the position before
    apply Nat.lt_of_not_le
    intro (hreaches : i ≤ r.last + 1)
    exact hbegins (by omega) (h.sound r hr (i - 1) ⟨by omega, by omega⟩)
  begun := List.forall_mem_append.mpr
    ⟨fun r hr => ⟨(h.begun r hr).1, Nat.lt_succ_of_lt (h.begun r hr).2⟩,
      List.forall_mem_singleton.mpr ⟨hle, Nat.lt_succ_self i⟩⟩
  sound := List.forall_mem_append.mpr
    ⟨h.sound, List.forall_mem_singleton.mpr fun k hk => hrun k hk.1 hk.2⟩
  maximal := List.forall_mem_append.mpr ⟨h.maximal, List.forall_mem_singleton.mpr hstops⟩
  complete k hk hon := by
    rcases Nat.lt_or_eq_of_le (Nat.le_of_lt_succ hk) with hlt | rfl
    · obtain ⟨r, hr, hcovers⟩ := h.complete k hlt hon
      exact ⟨r, List.mem_append_left _ hr, hcovers⟩
    · exact ⟨⟨k, last⟩, List.mem_append_right _ (List.mem_singleton_self _), Nat.le_refl k, hle⟩

/-- Once all positions have been scanned the runs cover those where the predicate holds. -/
theorem covers_iff (h : RunsBelow on i runs) (hall : ∀ k, on k → k < i) {k : Nat} :
    (∃ r ∈ runs, r.Covers k) ↔ on k := by
  constructor
  · intro h'
    obtain ⟨r, hr, hcovers⟩ := h'
    exact h.sound r hr k hcovers
  · intro hon
    exact h.complete k (hall k hon) hon

theorem covers_shift_iff (h : RunsBelow on i runs) (hall : ∀ k, on k → k < i) {k : Nat} :
    (∃ r ∈ runs.map Run.shift, r.Covers k) ↔ 0 < k ∧ on (k - 1) := by
  simp only [List.mem_map, exists_exists_and_eq_and, Run.covers_shift]
  rw [← h.covers_iff hall]
  constructor
  · intro h'
    obtain ⟨r, hr, hpos, hcovers⟩ := h'
    exact ⟨hpos, r, hr, hcovers⟩
  · intro h'
    obtain ⟨hpos, r, hr, hcovers⟩ := h'
    exact ⟨r, hr, hpos, hcovers⟩

theorem ordered_shift (h : RunsBelow on i runs) : (runs.map Run.shift).Pairwise Run.Before :=
  h.ordered.map Run.shift fun _ _ => Run.before_shift

theorem begun_shift (h : RunsBelow on i runs) : ∀ r ∈ runs.map Run.shift, r.first ≤ r.last := by
  intro r hr
  obtain ⟨s, hs, rfl⟩ := List.mem_map.mp hr
  exact Nat.succ_le_succ (h.begun s hs).1

end RunsBelow

end Framework
