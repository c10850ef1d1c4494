import AogTaskController.Framework.Edges

/-!
# Reminding while it lasts

A condition is looked at from time to time. While it holds every look reports it, and when it no longer
holds that is reported once. With the repetitions left out, the reports are the edges.
-/

namespace Framework

/-- The reports of a series of looks, behind one that has found `before`. -/
def reminders : Bool → List Bool → List Bool
  | _, [] => []
  | before, now :: looks => (if now || before then [now] else []) ++ reminders now looks

theorem reminders_concat (before now : Bool) (looks : List Bool) :
    reminders before (looks ++ [now]) =
      reminders before looks ++ if now || lastSent before looks then [now] else [] := by
  induction looks generalizing before with
  | nil => exact List.append_nil _
  | cons first looks ih =>
      have hlast : lastSent before (first :: looks) = lastSent first looks := by
        simp [lastSent, List.getLast?_cons]
      rw [List.cons_append, reminders, ih, reminders, List.append_assoc, hlast]

theorem count_true_reminders (before : Bool) (looks : List Bool) :
    (reminders before looks).count true = looks.count true := by
  induction looks generalizing before with
  | nil => rfl
  | cons now looks ih =>
      rw [reminders, List.count_append, ih, List.count_cons]
      cases now <;> cases before <;> simp [Nat.add_comm]

theorem edges_reminders (before : Bool) (looks : List Bool) :
    edges before (reminders before looks) = edges before looks := by
  induction looks generalizing before with
  | nil => rfl
  | cons now looks ih =>
      rw [reminders, edges_cons]
      cases now with
      | true =>
          rw [Bool.true_or, if_pos rfl, List.singleton_append, edges_cons]
          cases before <;> simp [ih]
      | false =>
          cases before with
          | true => simp [edges_cons, ih]
          | false => exact ih false

theorem count_false_reminders (before : Bool) (looks : List Bool) :
    (reminders before looks).count false = (edges before looks).count false := by
  induction looks generalizing before with
  | nil => rfl
  | cons now looks ih =>
      rw [reminders, List.count_append, ih, edges_cons]
      cases now with
      | true =>
          rw [Bool.true_or, if_pos rfl]
          cases before <;> simp
      | false => cases before <;> simp [Nat.add_comm]

end Framework
