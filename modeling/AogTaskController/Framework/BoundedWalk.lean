import Mathlib.Data.Finset.Card
import Mathlib.Data.Nat.Find
import Mathlib.Logic.Relation

/-!
# Bounded walks along a partial successor function

A search that follows `next` from a start and gives up after a number of visits. When only `m`
elements have a successor, `m + 1` visits find whatever is reachable, cycles or not.
-/

namespace Framework

variable {α : Type*} (next : α → Option α)

/-- The element after `k` steps, if the walk gets that far. -/
def walk : Nat → α → Option α
  | 0, a => some a
  | k + 1, a => (next a).bind (walk k)

/-- Visit at most `n` elements, starting with `a`, and stop at the first that satisfies `p`. -/
def anyWithin (p : α → Bool) : Nat → α → Bool
  | 0, _ => false
  | n + 1, a => p a || (next a).any (anyWithin p n)

def Follows (a b : α) : Prop := next a = some b

variable {next}

theorem walk_add (i j : Nat) (a : α) : walk next (i + j) a = (walk next i a).bind (walk next j) := by
  induction i generalizing a with
  | zero => simp [walk]
  | succ i ih =>
      rw [Nat.succ_add, walk, walk]
      cases next a with
      | none => rfl
      | some b => exact ih b

theorem walk_succ_of_follows {a b : α} (h : Follows next a b) (k : Nat) :
    walk next (k + 1) a = walk next k b := by
  rw [walk, h, Option.bind_some]

theorem reaches_iff_walk {a b : α} :
    Relation.ReflTransGen (Follows next) a b ↔ ∃ k, walk next k a = some b := by
  constructor
  · intro h
    induction h using Relation.ReflTransGen.head_induction_on with
    | refl => exact ⟨0, rfl⟩
    | head hstep _ ih =>
        obtain ⟨k, hk⟩ := ih
        exact ⟨k + 1, (walk_succ_of_follows hstep k).trans hk⟩
  · intro h'
    obtain ⟨k, hk⟩ := h'
    induction k generalizing a with
    | zero =>
        obtain rfl := Option.some.inj hk
        exact .refl
    | succ k ih =>
        obtain ⟨c, hstep, hrest⟩ := Option.bind_eq_some_iff.mp hk
        exact (ih hrest).head hstep

theorem anyWithin_iff_walk {p : α → Bool} {n : Nat} {a : α} :
    anyWithin next p n a = true ↔ ∃ k < n, ∃ b, walk next k a = some b ∧ p b = true := by
  induction n generalizing a with
  | zero => simp [anyWithin]
  | succ n ih =>
      rw [anyWithin, Bool.or_eq_true, Option.any_eq_true]
      constructor
      · rintro (ha | ⟨b, hstep, hb⟩)
        · exact ⟨0, Nat.succ_pos n, a, rfl, ha⟩
        · obtain ⟨k, hk, c, hwalk, hc⟩ := ih.mp hb
          exact ⟨k + 1, Nat.succ_lt_succ hk, c, (walk_succ_of_follows hstep k).trans hwalk, hc⟩
      · intro h
        obtain ⟨k, hk, c, hwalk, hc⟩ := h
        cases k with
        | zero =>
            obtain rfl := Option.some.inj hwalk
            exact .inl hc
        | succ k =>
            obtain ⟨b, hstep, hrest⟩ := Option.bind_eq_some_iff.mp hwalk
            exact .inr ⟨b, hstep, ih.mpr ⟨k, Nat.lt_of_succ_lt_succ hk, c, hrest, hc⟩⟩

/-- A walk longer than the domain visits some element twice and can be cut short there. -/
theorem exists_walk_le {dom : Finset α} (hdom : ∀ a b, Follows next a b → a ∈ dom) {a b : α}
    {k : Nat} (hk : walk next k a = some b) : ∃ k ≤ dom.card, walk next k a = some b := by
  classical
  have hex : ∃ k, walk next k a = some b := ⟨k, hk⟩
  refine ⟨Nat.find hex, Nat.le_of_not_lt fun hlong => ?_, Nat.find_spec hex⟩
  have hvisit (i : Nat) (hi : i < Nat.find hex) :
      ∃ c ∈ dom, walk next i a = some c ∧ walk next (Nat.find hex - i) c = some b := by
    have hwalk := Nat.find_spec hex
    rw [← Nat.add_sub_cancel' hi.le, walk_add] at hwalk
    obtain ⟨c, hc, hrest⟩ := Option.bind_eq_some_iff.mp hwalk
    obtain ⟨j, hj⟩ : ∃ j, Nat.find hex - i = j + 1 := ⟨Nat.find hex - i - 1, by omega⟩
    have hfollows := hrest
    rw [hj] at hfollows
    obtain ⟨d, hstep, _⟩ := Option.bind_eq_some_iff.mp hfollows
    exact ⟨c, hdom c d hstep, hc, hrest⟩
  have : Nonempty α := ⟨a⟩
  choose! visited hmem hvisited hrest using hvisit
  obtain ⟨i, hi, j, hj, hne, heq⟩ := Finset.exists_ne_map_eq_of_card_lt_of_maps_to
    (s := Finset.range (Nat.find hex)) (f := visited) (by simpa using hlong)
    (fun i hi => hmem i (Finset.mem_range.mp hi))
  rw [Finset.mem_range] at hi hj
  have hcut {i j : Nat} (hi : i < Nat.find hex) (hj : j < Nat.find hex) (hij : i < j)
      (heq : visited i = visited j) : False := by
    have hshort : walk next (i + (Nat.find hex - j)) a = some b := by
      rw [walk_add, hvisited i hi, heq, Option.bind_some]
      exact hrest j hj
    exact Nat.find_min hex (by omega) hshort
  rcases Nat.lt_or_gt_of_ne hne with hlt | hgt
  · exact hcut hi hj hlt heq
  · exact hcut hj hi hgt heq.symm

/-- One visit more than there are elements with a successor decides reachability. -/
theorem anyWithin_iff_reaches {p : α → Bool} {m : Nat} (dom : Finset α)
    (hdom : ∀ a b, Follows next a b → a ∈ dom) (hcard : dom.card ≤ m) {a : α} :
    anyWithin next p (m + 1) a = true ↔
      ∃ b, Relation.ReflTransGen (Follows next) a b ∧ p b = true := by
  rw [anyWithin_iff_walk]
  constructor
  · intro h
    obtain ⟨k, _, b, hwalk, hb⟩ := h
    exact ⟨b, reaches_iff_walk.mpr ⟨k, hwalk⟩, hb⟩
  · intro h
    obtain ⟨b, hreach, hb⟩ := h
    obtain ⟨k, hk⟩ := reaches_iff_walk.mp hreach
    obtain ⟨k, hle, hk⟩ := exists_walk_le hdom hk
    exact ⟨k, Nat.lt_succ_of_le (hle.trans hcard), b, hk, hb⟩

end Framework
