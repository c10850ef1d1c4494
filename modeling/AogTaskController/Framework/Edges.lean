import Mathlib.Data.List.Destutter

/-!
# Sending on change

A value is sent when it differs from the last one sent: the messages are the edges of the sequence
of values.
-/

namespace Framework

variable {α : Type*} [DecidableEq α]

/-- The values sent after `last`. -/
def edges (last : α) (values : List α) : List α := (values.destutter' (· ≠ ·) last).tail

def lastSent (last : α) (values : List α) : α := values.getLast?.getD last

@[simp] theorem edges_nil (last : α) : edges last [] = [] := rfl

private theorem destutter'_eq_cons_edges (last : α) (values : List α) :
    values.destutter' (· ≠ ·) last = last :: edges last values := by
  induction values generalizing last with
  | nil => rfl
  | cons value values ih =>
      rw [edges, List.destutter'_cons]
      split
      · rfl
      · rw [ih last]
        rfl

theorem edges_cons (last value : α) (values : List α) :
    edges last (value :: values) =
      if value = last then edges last values else value :: edges value values := by
  rw [edges, List.destutter'_cons]
  by_cases h : value = last
  · rw [if_neg (by simp [h]), if_pos h]
    rfl
  · rw [if_pos (Ne.symm h), if_neg h, List.tail_cons, destutter'_eq_cons_edges]

theorem edges_concat (last value : α) (values : List α) :
    edges last (values ++ [value]) =
      edges last values ++ if value = lastSent last values then [] else [value] := by
  induction values generalizing last with
  | nil => by_cases h : value = last <;> simp [edges_cons, lastSent, h]
  | cons first values ih =>
      have hlast : lastSent last (first :: values) = lastSent first values := by
        simp [lastSent, List.getLast?_cons]
      rw [List.cons_append, edges_cons, edges_cons, hlast]
      by_cases h : first = last
      · subst h
        rw [if_pos rfl, if_pos rfl, ih]
      · rw [if_neg h, if_neg h, ih, List.cons_append]

omit [DecidableEq α] in
@[simp] theorem lastSent_concat (last value : α) (values : List α) :
    lastSent last (values ++ [value]) = value := by
  simp [lastSent]

theorem lastSent_edges (last : α) (values : List α) :
    lastSent last (edges last values) = lastSent last values := by
  induction values using List.reverseRecOn with
  | nil => rfl
  | append_singleton values value ih =>
      rw [edges_concat, lastSent_concat]
      split
      next h => rw [List.append_nil, ih, h]
      next => rw [lastSent_concat]

theorem edges_eq_nil {last : α} {values : List α} (h : ∀ value ∈ values, value = last) :
    edges last values = [] := by
  induction values with
  | nil => rfl
  | cons value values ih =>
      rw [List.forall_mem_cons] at h
      rw [edges_cons, if_pos h.1, ih h.2]

theorem edges_map {β : Type*} [DecidableEq β] {f : α → β} (hf : Function.Injective f) (last : α)
    (values : List α) : edges (f last) (values.map f) = (edges last values).map f := by
  induction values generalizing last with
  | nil => rfl
  | cons value values ih =>
      rw [List.map_cons, edges_cons, edges_cons, ih, ih, apply_ite (List.map f), List.map_cons]
      simp only [hf.eq_iff]

theorem mem_edges {last value : α} {values : List α} (hne : value ≠ last) :
    value ∈ edges last values ↔ value ∈ values := by
  constructor
  · intro h
    have hmem : value ∈ values.destutter' (· ≠ ·) last := List.mem_of_mem_tail h
    rcases List.mem_cons.mp ((List.destutter'_sublist values _ last).mem hmem) with heq | hmem
    · exact absurd heq hne
    · exact hmem
  · intro h
    induction values generalizing last with
    | nil => cases h
    | cons first values ih =>
        rw [edges_cons]
        rcases List.mem_cons.mp h with rfl | h
        · rw [if_neg hne]
          exact List.mem_cons_self
        · split
          · exact ih hne h
          · by_cases heq : value = first
            · exact heq ▸ List.mem_cons_self
            · exact List.mem_cons_of_mem _ (ih heq h)

theorem length_edges_le_one {last : α} {values : List α}
    (h : values.Pairwise fun a b => a ≠ last → b = a) : (edges last values).length ≤ 1 := by
  induction values with
  | nil => exact Nat.zero_le 1
  | cons value values ih =>
      rw [List.pairwise_cons] at h
      rw [edges_cons]
      by_cases heq : value = last
      · rw [if_pos heq]
        exact ih h.2
      · rw [if_neg heq, edges_eq_nil fun b hb => h.1 b hb heq]
        exact le_rfl

end Framework
