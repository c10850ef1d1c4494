import Mathlib.Logic.Function.Iterate
import Mathlib.Logic.Relation

/-!
# While loops

A `while` loop over an explicit state: a guard and a body. `run` executes it with a bound on the
number of iterations; `Exits` is the run that stops, without the bound, and `Reaches` lists the
states in which the guard is tested, also of a run that never stops.
-/

namespace Framework

/-- `while (guard s) s = body s;` -/
structure WhileLoop (σ : Type*) where
  guard : σ → Bool
  body : σ → σ

namespace WhileLoop

variable {σ τ : Type*} {l : WhileLoop σ} {k : WhileLoop τ}

/-- Run at most `fuel` iterations; `none` when the guard still holds after them. -/
def run (l : WhileLoop σ) : Nat → σ → Option σ
  | 0, s => if l.guard s then none else some s
  | fuel + 1, s => if l.guard s then run l fuel (l.body s) else some s

inductive Exits (l : WhileLoop σ) : σ → σ → Prop
  | stop {s : σ} (h : l.guard s = false) : Exits l s s
  | next {s t : σ} (h : l.guard s = true) (ht : Exits l (l.body s) t) : Exits l s t

def Terminates (l : WhileLoop σ) (s : σ) : Prop := ∃ t, l.Exits s t

def Iterates (l : WhileLoop σ) (s t : σ) : Prop := l.guard s = true ∧ t = l.body s

/-- The states in which the guard is tested. -/
def Reaches (l : WhileLoop σ) : σ → σ → Prop := Relation.ReflTransGen l.Iterates

/-- What is observed where the body runs, along a run that stops. -/
inductive Observes {α : Type*} (l : WhileLoop σ) (observe : σ → List α) : σ → List α → Prop
  | stop {s : σ} (h : l.guard s = false) : Observes l observe s []
  | next {s : σ} {seen : List α} (h : l.guard s = true) (hs : Observes l observe (l.body s) seen) :
      Observes l observe s (observe s ++ seen)

theorem run_of_not_guard {s : σ} (h : l.guard s = false) (fuel : Nat) : l.run fuel s = some s := by
  cases fuel <;> simp [run, h]

theorem run_succ {s : σ} (h : l.guard s = true) (fuel : Nat) :
    l.run (fuel + 1) s = l.run fuel (l.body s) := by
  simp [run, h]

theorem exits_iff_run {s t : σ} : l.Exits s t ↔ ∃ fuel, l.run fuel s = some t := by
  constructor
  · intro h
    induction h with
    | stop hg => exact ⟨0, run_of_not_guard hg 0⟩
    | next hg _ ih =>
        obtain ⟨fuel, hrun⟩ := ih
        exact ⟨fuel + 1, by rwa [run_succ hg]⟩
  · intro h'
    obtain ⟨fuel, hrun⟩ := h'
    induction fuel generalizing s with
    | zero =>
        cases hg : l.guard s with
        | true => simp [run, hg] at hrun
        | false =>
            rw [run_of_not_guard hg] at hrun
            exact Option.some.inj hrun ▸ .stop hg
    | succ fuel ih =>
        cases hg : l.guard s with
        | true => exact .next hg (ih (by rwa [run_succ hg] at hrun))
        | false =>
            rw [run_of_not_guard hg] at hrun
            exact Option.some.inj hrun ▸ .stop hg

theorem exits_iff_of_not_guard {s t : σ} (h : l.guard s = false) : l.Exits s t ↔ t = s := by
  constructor
  · intro ht
    cases ht with
    | stop _ => rfl
    | next hg _ => simp [h] at hg
  · rintro rfl
    exact .stop h

theorem exits_iff_body {s t : σ} (h : l.guard s = true) : l.Exits s t ↔ l.Exits (l.body s) t := by
  constructor
  · intro ht
    cases ht with
    | stop hg => simp [h] at hg
    | next _ ht => exact ht
  · exact .next h

theorem terminates_iff_body {s : σ} (h : l.guard s = true) :
    l.Terminates s ↔ l.Terminates (l.body s) :=
  exists_congr fun _ => exits_iff_body h

theorem Exits.not_guard {s t : σ} (h : l.Exits s t) : l.guard t = false := by
  induction h with
  | stop hg => exact hg
  | next _ _ ih => exact ih

theorem Exits.unique {s t t' : σ} (h : l.Exits s t) (h' : l.Exits s t') : t = t' := by
  induction h with
  | stop hg => exact ((exits_iff_of_not_guard hg).mp h').symm
  | next hg _ ih => exact ih ((exits_iff_body hg).mp h')

theorem Reaches.refl (s : σ) : l.Reaches s s := Relation.ReflTransGen.refl

theorem Reaches.head {s t : σ} (h : l.guard s = true) (hr : l.Reaches (l.body s) t) :
    l.Reaches s t :=
  Relation.ReflTransGen.head ⟨h, rfl⟩ hr

theorem Reaches.tail {s t : σ} (hr : l.Reaches s t) (h : l.guard t = true) :
    l.Reaches s (l.body t) :=
  Relation.ReflTransGen.tail hr ⟨h, rfl⟩

/-- The invariant rule: what the body preserves holds whenever the guard is tested. -/
theorem Reaches.invariant {s t : σ} (hr : l.Reaches s t) (I : σ → Prop)
    (hbody : ∀ u, I u → l.guard u = true → I (l.body u)) (hs : I s) : I t := by
  induction hr with
  | refl => exact hs
  | tail _ hstep ih =>
      obtain ⟨hg, rfl⟩ := hstep
      exact hbody _ ih hg

theorem Exits.reaches {s t : σ} (h : l.Exits s t) : l.Reaches s t := by
  induction h with
  | stop _ => exact .refl _
  | next hg _ ih => exact ih.head hg

theorem reaches_iff_iterate {s t : σ} :
    l.Reaches s t ↔ ∃ j, t = l.body^[j] s ∧ ∀ i < j, l.guard (l.body^[i] s) = true := by
  constructor
  · intro h
    induction h with
    | refl => exact ⟨0, rfl, fun i hi => absurd hi (Nat.not_lt_zero i)⟩
    | tail _ hstep ih =>
        obtain ⟨j, rfl, hguard⟩ := ih
        obtain ⟨hg, rfl⟩ := hstep
        refine ⟨j + 1, (Function.iterate_succ_apply' l.body j s).symm, fun i hi => ?_⟩
        cases Nat.eq_or_lt_of_le (Nat.le_of_lt_succ hi) with
        | inl heq => exact heq ▸ hg
        | inr hlt => exact hguard i hlt
  · intro h
    obtain ⟨j, rfl, hguard⟩ := h
    induction j with
    | zero => exact .refl s
    | succ j ih =>
        rw [Function.iterate_succ_apply']
        exact (ih fun i hi => hguard i (by omega)).tail (hguard j (by omega))

theorem observes_iff_of_not_guard {α : Type*} {observe : σ → List α} {s : σ} {seen : List α}
    (h : l.guard s = false) : l.Observes observe s seen ↔ seen = [] := by
  constructor
  · intro hs
    cases hs with
    | stop _ => rfl
    | next hg _ => simp [h] at hg
  · rintro rfl
    exact .stop h

theorem observes_iff_body {α : Type*} {observe : σ → List α} {s : σ} {seen : List α}
    (h : l.guard s = true) :
    l.Observes observe s seen ↔ ∃ rest, seen = observe s ++ rest ∧ l.Observes observe (l.body s) rest := by
  constructor
  · intro hs
    cases hs with
    | stop hg => simp [h] at hg
    | next _ hrest => exact ⟨_, rfl, hrest⟩
  · intro hs
    obtain ⟨rest, rfl, hrest⟩ := hs
    exact .next h hrest

theorem Observes.unique {α : Type*} {observe : σ → List α} {s : σ} {seen seen' : List α}
    (h : l.Observes observe s seen) (h' : l.Observes observe s seen') : seen = seen' := by
  induction h generalizing seen' with
  | stop hg => exact ((observes_iff_of_not_guard hg).mp h').symm
  | next hg _ ih =>
      obtain ⟨rest, rfl, hrest⟩ := (observes_iff_body hg).mp h'
      rw [ih hrest]

/-- A loop stops when an invariant of its body makes a measure fall in every iteration. -/
theorem terminates_of_measure (I : σ → Prop) (μ : σ → Nat)
    (hbody : ∀ s, I s → l.guard s = true → I (l.body s) ∧ μ (l.body s) < μ s) {s : σ} (hs : I s) :
    l.Terminates s := by
  induction hm : μ s using Nat.strongRecOn generalizing s with
  | ind m ih =>
      cases hg : l.guard s with
      | false => exact ⟨s, .stop hg⟩
      | true =>
          obtain ⟨hI, hlt⟩ := hbody s hs hg
          exact (terminates_iff_body hg).mpr (ih _ (hm ▸ hlt) hI rfl)

/-- A loop runs forever when its body preserves a property that implies the guard. -/
theorem not_terminates_of_forever (I : σ → Prop)
    (hbody : ∀ s, I s → l.guard s = true ∧ I (l.body s)) {s : σ} (hs : I s) : ¬ l.Terminates s := by
  intro h
  obtain ⟨t, ht⟩ := h
  have hI : I t := ht.reaches.invariant I (fun u hu _ => (hbody u hu).2) hs
  exact absurd ht.not_guard (by simp [(hbody t hI).1])

theorem Reaches.not_terminates {s t : σ} (hr : l.Reaches s t) (ht : ¬ l.Terminates t) :
    ¬ l.Terminates s := by
  induction hr with
  | refl => exact ht
  | tail _ hstep ih =>
      obtain ⟨hg, rfl⟩ := hstep
      exact ih fun h => ht ((terminates_iff_body hg).mp h)

/-- Two loops run in step on related states: their guards agree and their bodies preserve the
relation. -/
def Lockstep (l : WhileLoop σ) (k : WhileLoop τ) (R : σ → τ → Prop) : Prop :=
  ∀ s t, R s t → l.guard s = k.guard t ∧ (l.guard s = true → R (l.body s) (k.body t))

theorem Lockstep.symm {R : σ → τ → Prop} (h : Lockstep l k R) : Lockstep k l fun t s => R s t := by
  intro t s hR
  obtain ⟨hguard, hbody⟩ := h s t hR
  exact ⟨hguard.symm, fun hg => hbody (hguard.trans hg)⟩

theorem Lockstep.reaches {R : σ → τ → Prop} (h : Lockstep l k R) {s s' : σ} {t : τ}
    (hs : l.Reaches s s') (hR : R s t) : ∃ t', k.Reaches t t' ∧ R s' t' := by
  induction hs with
  | refl => exact ⟨t, .refl t, hR⟩
  | tail _ hstep ih =>
      obtain ⟨hg, rfl⟩ := hstep
      obtain ⟨t', ht', hR'⟩ := ih
      obtain ⟨hguard, hbody⟩ := h _ t' hR'
      exact ⟨k.body t', ht'.tail (hguard ▸ hg), hbody hg⟩

theorem Lockstep.exits {R : σ → τ → Prop} (h : Lockstep l k R) {s s' : σ} {t : τ}
    (hs : l.Exits s s') (hR : R s t) : ∃ t', k.Exits t t' ∧ R s' t' := by
  induction hs generalizing t with
  | stop hg => exact ⟨t, .stop ((h _ t hR).1 ▸ hg), hR⟩
  | next hg _ ih =>
      obtain ⟨hguard, hbody⟩ := h _ t hR
      obtain ⟨t', ht', hR'⟩ := ih (hbody hg)
      exact ⟨t', .next (hguard ▸ hg) ht', hR'⟩

theorem Lockstep.terminates_iff {R : σ → τ → Prop} (h : Lockstep l k R) {s : σ} {t : τ}
    (hR : R s t) : l.Terminates s ↔ k.Terminates t := by
  constructor
  · intro h'
    obtain ⟨s', hs⟩ := h'
    obtain ⟨t', ht', _⟩ := h.exits hs hR
    exact ⟨t', ht'⟩
  · intro h'
    obtain ⟨t', ht⟩ := h'
    obtain ⟨s', hs', _⟩ := h.symm.exits ht hR
    exact ⟨s', hs'⟩

end WhileLoop

end Framework
