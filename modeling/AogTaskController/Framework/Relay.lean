import Mathlib.Logic.Relation

/-!
# Relays

A value is copied there and back over two first-in first-out channels. Whoever owns the value sends
commands that say what has become of it, the far end obeys them one at a time and reports what it
works with, and the owner notes the reports. The two channels are independent, and so is the far end.
-/

namespace Framework

structure Relay (ν μ ρ : Type*) where
  original : ν
  down : List μ
  working : ν
  /-- The far end has changed its value since it was last reported. -/
  due : Bool
  up : List ρ
  copy : ν

namespace Relay

variable {ν μ ρ : Type*} {obey : ν → μ → ν} {note : ν → ρ → ν}

/-- One step of anybody, where `obey` is what a command makes of the value at the far end and `note`
what a report makes of the copy. -/
inductive Step (obey : ν → μ → ν) (note : ν → ρ → ν) : Relay ν μ ρ → Relay ν μ ρ → Prop
  | write (r : Relay ν μ ρ) (sent : List μ) :
      Step obey note r { r with original := sent.foldl obey r.original, down := r.down ++ sent }
  | obey (r : Relay ν μ ρ) {command : μ} {rest : List μ} {due : Bool}
      (hdown : r.down = command :: rest)
      (hdue : due = false → r.due = false ∧ obey r.working command = r.working) :
      Step obey note r { r with down := rest, working := obey r.working command, due := due }
  | report (r : Relay ν μ ρ) {x : ρ} (hx : ∀ v, note v x = r.working) :
      Step obey note r { r with up := r.up ++ [x], due := false }
  /-- A report about something else. -/
  | mention (r : Relay ν μ ρ) {x : ρ} (hx : ∀ v, note v x = v) :
      Step obey note r { r with up := r.up ++ [x] }
  | receive (r : Relay ν μ ρ) {x : ρ} {rest : List ρ} (hup : r.up = x :: rest) :
      Step obey note r { r with up := rest, copy := note r.copy x }

/-- With what is on its way, the far end has the original and the copy has what the far end works
with, unless a report is due. -/
structure Sound (obey : ν → μ → ν) (note : ν → ρ → ν) (r : Relay ν μ ρ) : Prop where
  down : r.down.foldl obey r.working = r.original
  up : r.due = false → r.up.foldl note r.copy = r.working

theorem Step.sound {r r' : Relay ν μ ρ} (h : Step obey note r r') (hr : r.Sound obey note) :
    r'.Sound obey note := by
  cases h with
  | write sent =>
      refine ⟨?_, hr.up⟩
      simp only [List.foldl_append, hr.down]
  | obey hdown hdue =>
      constructor
      · have hold := hr.down
        rw [hdown] at hold
        exact hold
      · intro hdue'
        have hsame := hdue hdue'
        exact (hr.up hsame.1).trans hsame.2.symm
  | report hx =>
      refine ⟨hr.down, fun _ => ?_⟩
      rw [List.foldl_append]
      exact hx _
  | mention hx =>
      refine ⟨hr.down, fun hdue => ?_⟩
      rw [List.foldl_append]
      exact (hx _).trans (hr.up hdue)
  | receive hup =>
      refine ⟨hr.down, fun hdue => ?_⟩
      have hold := hr.up hdue
      rw [hup] at hold
      exact hold

theorem Sound.of_step {r r' : Relay ν μ ρ} (hr : r.Sound obey note)
    (h : Relation.ReflGen (Step obey note) r r') : r'.Sound obey note := by
  cases h with
  | refl => exact hr
  | single h => exact h.sound hr

/-- Nothing on its way and no report due: the copy is the original. -/
theorem Sound.settled {r : Relay ν μ ρ} (hr : r.Sound obey note) (hdown : r.down = [])
    (hdue : r.due = false) (hup : r.up = []) : r.copy = r.original := by
  have horiginal := hr.down
  have hcopy := hr.up hdue
  rw [hdown, List.foldl_nil] at horiginal
  rw [hup, List.foldl_nil] at hcopy
  exact hcopy.trans horiginal

end Relay

end Framework
