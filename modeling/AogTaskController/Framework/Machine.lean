import Mathlib.Data.List.Induction

/-!
# Deterministic machines

A machine reacts to events one at a time and each reaction observes something. A run is given by
its events; `after` is the state they lead to and `trace` what was observed on the way. The rules
below turn facts about one event into facts about every run.
-/

namespace Framework

structure Machine (σ ε ω : Type*) where
  init : σ
  step : σ → ε → σ × List ω

namespace Machine

variable {σ τ ε ω : Type*} (m : Machine σ ε ω)

def after (es : List ε) : σ := es.foldl (fun s e => (m.step s e).1) m.init

def traceFrom (m : Machine σ ε ω) : σ → List ε → List ω
  | _, [] => []
  | s, e :: es => (m.step s e).2 ++ traceFrom m (m.step s e).1 es

def trace (es : List ε) : List ω := m.traceFrom m.init es

@[simp] theorem after_nil : m.after [] = m.init := rfl

@[simp] theorem trace_nil : m.trace [] = [] := rfl

theorem after_snoc (es : List ε) (e : ε) : m.after (es ++ [e]) = (m.step (m.after es) e).1 := by
  simp [after]

private theorem traceFrom_snoc (s : σ) (es : List ε) (e : ε) :
    m.traceFrom s (es ++ [e]) =
      m.traceFrom s es ++ (m.step (es.foldl (fun s e => (m.step s e).1) s) e).2 := by
  induction es generalizing s with
  | nil => simp [traceFrom]
  | cons f es ih => simp [traceFrom, ih]

theorem trace_snoc (es : List ε) (e : ε) :
    m.trace (es ++ [e]) = m.trace es ++ (m.step (m.after es) e).2 :=
  m.traceFrom_snoc m.init es e

/-- The machine behind a run, as a machine that starts there. -/
def resume (es : List ε) : Machine σ ε ω := { m with init := m.after es }

theorem after_resume (pre es : List ε) : (m.resume pre).after es = m.after (pre ++ es) := by
  rw [after, after, List.foldl_append]
  rfl

theorem trace_append (pre es : List ε) :
    m.trace (pre ++ es) = m.trace pre ++ (m.resume pre).trace es := by
  induction es using List.reverseRecOn with
  | nil => rw [List.append_nil, trace_nil, List.append_nil]
  | append_singleton es e ih =>
      rw [← List.append_assoc, trace_snoc, trace_snoc, ih, after_resume, List.append_assoc]
      rfl

/-- The states of all runs. -/
def Reachable (s : σ) : Prop := ∃ es, m.after es = s

theorem reachable_after (es : List ε) : m.Reachable (m.after es) := ⟨es, rfl⟩

theorem Reachable.step {m : Machine σ ε ω} {s : σ} (hs : m.Reachable s) (e : ε) :
    m.Reachable (m.step s e).1 := by
  obtain ⟨es, rfl⟩ := hs
  exact ⟨es ++ [e], m.after_snoc es e⟩

/-- The invariant rule: what every event preserves holds in every reachable state. -/
theorem Reachable.invariant {m : Machine σ ε ω} {s : σ} (hs : m.Reachable s) (I : σ → Prop)
    (hinit : I m.init) (hstep : ∀ t e, I t → I (m.step t e).1) : I s := by
  obtain ⟨es, rfl⟩ := hs
  induction es using List.reverseRecOn with
  | nil => exact hinit
  | append_singleton es e ih =>
      rw [after_snoc]
      exact hstep _ e ih

/-- The invariant rule for what a run observes: a relation between the observations so far and the
state that every event preserves holds after every run. -/
theorem trace_invariant (R : List ω → σ → Prop) (hinit : R [] m.init)
    (hstep : ∀ trace s e, R trace s → R (trace ++ (m.step s e).2) (m.step s e).1) (es : List ε) :
    R (m.trace es) (m.after es) := by
  induction es using List.reverseRecOn with
  | nil => exact hinit
  | append_singleton es e ih =>
      rw [trace_snoc, after_snoc]
      exact hstep _ _ e ih

/-- A relation between the observations so far and the state holds after every prefix of a run. -/
def Always (R : List ω → σ → Prop) (es : List ε) : Prop :=
  ∀ pre, pre <+: es → R (m.trace pre) (m.after pre)

/-- A condition on the state and the event holds at every step of a run. -/
def Guarded (G : σ → ε → Prop) (es : List ε) : Prop :=
  ∀ pre e, pre ++ [e] <+: es → G (m.after pre) e

variable {m}

theorem always_nil {R : List ω → σ → Prop} : m.Always R [] ↔ R [] m.init := by
  simp [Always]

theorem always_snoc {R : List ω → σ → Prop} {es : List ε} {e : ε} :
    m.Always R (es ++ [e]) ↔
      m.Always R es ∧ R (m.trace (es ++ [e])) (m.after (es ++ [e])) := by
  simp only [Always, List.prefix_concat_iff, or_imp, forall_and, forall_eq]
  exact and_comm

theorem Always.last {R : List ω → σ → Prop} {es : List ε} (h : m.Always R es) :
    R (m.trace es) (m.after es) :=
  h es List.prefix_rfl

theorem guarded_nil {G : σ → ε → Prop} : m.Guarded G [] := by
  simp [Guarded]

theorem guarded_snoc {G : σ → ε → Prop} {es : List ε} {e : ε} :
    m.Guarded G (es ++ [e]) ↔ m.Guarded G es ∧ G (m.after es) e := by
  constructor
  · intro h
    exact ⟨fun pre f hpre => h pre f (hpre.trans (List.prefix_append es [e])),
      h es e List.prefix_rfl⟩
  · intro h' pre f hpre
    obtain ⟨hes, he⟩ := h'
    rcases List.prefix_concat_iff.mp hpre with heq | hpre
    · obtain ⟨rfl, heq⟩ := List.append_inj' heq rfl
      obtain rfl : f = e := by simpa using heq
      exact he
    · exact hes pre f hpre

theorem Guarded.of_prefix {G : σ → ε → Prop} {es pre : List ε} (h : m.Guarded G es)
    (hpre : pre <+: es) : m.Guarded G pre :=
  fun before e he => h before e (he.trans hpre)

theorem guarded_singleton {G : σ → ε → Prop} {e : ε} : m.Guarded G [e] ↔ G m.init e := by
  have hsnoc := @guarded_snoc σ ε ω m G [] e
  rw [List.nil_append, after_nil] at hsnoc
  rw [hsnoc]
  exact and_iff_right guarded_nil

/-- A relation that holds at the start, and that a step of a run in `P` keeps exactly when its guard
holds, holds throughout such a run if and only if every step meets its guard. -/
theorem always_iff_guarded_of {R : List ω → σ → Prop} {G : σ → ε → Prop} (P : ε → Prop)
    (hinit : R [] m.init)
    (hstep : ∀ es e, P e → R (m.trace es) (m.after es) →
      (R (m.trace (es ++ [e])) (m.after (es ++ [e])) ↔ G (m.after es) e))
    {es : List ε} (hes : ∀ e ∈ es, P e) : m.Always R es ↔ m.Guarded G es := by
  induction es using List.reverseRecOn with
  | nil => exact iff_of_true (always_nil.mpr hinit) guarded_nil
  | append_singleton es e ih =>
      have he := hes e (List.mem_append_right es (List.mem_singleton_self e))
      rw [always_snoc, guarded_snoc, ← ih fun f hf => hes f (List.mem_append_left _ hf)]
      constructor
      · intro h
        obtain ⟨hbefore, hlast⟩ := h
        exact ⟨hbefore, (hstep es e he hbefore.last).mp hlast⟩
      · intro h
        obtain ⟨hbefore, hlast⟩ := h
        exact ⟨hbefore, (hstep es e he hbefore.last).mpr hlast⟩

theorem always_iff_guarded {R : List ω → σ → Prop} {G : σ → ε → Prop} (hinit : R [] m.init)
    (hstep : ∀ es e, R (m.trace es) (m.after es) →
      (R (m.trace (es ++ [e])) (m.after (es ++ [e])) ↔ G (m.after es) e)) (es : List ε) :
    m.Always R es ↔ m.Guarded G es :=
  always_iff_guarded_of (fun _ => True) hinit (fun es e _ => hstep es e) fun _ _ => trivial

/-- A relation that only the events in `P` can break holds throughout a run if and only if it
holds after each of them. -/
theorem always_iff_after {R : List ω → σ → Prop} (P : ε → Prop) (hinit : R [] m.init)
    (hstep : ∀ es e, ¬ P e → R (m.trace es) (m.after es) →
      R (m.trace (es ++ [e])) (m.after (es ++ [e]))) (es : List ε) :
    m.Always R es ↔
      ∀ pre e, pre ++ [e] <+: es → P e → R (m.trace (pre ++ [e])) (m.after (pre ++ [e])) := by
  constructor
  · intro h pre e hpre _
    exact h _ hpre
  · intro h pre hpre
    induction pre using List.reverseRecOn with
    | nil => exact hinit
    | append_singleton pre e ih =>
        by_cases he : P e
        · exact h pre e hpre he
        · exact hstep pre e he (ih ((List.prefix_append pre [e]).trans hpre))

/-- `k` is what can be seen of `m` through a view of its state and a filter on what it observes. -/
structure Projection (m : Machine σ ε ω) (k : Machine τ ε ω) (view : σ → τ) (keep : ω → Bool) :
    Prop where
  init : view m.init = k.init
  step : ∀ s e, k.step (view s) e = (view (m.step s e).1, (m.step s e).2.filter keep)

namespace Projection

variable {k : Machine τ ε ω} {view : σ → τ} {keep : ω → Bool}

theorem after (h : Projection m k view keep) (es : List ε) : view (m.after es) = k.after es := by
  induction es using List.reverseRecOn with
  | nil => exact h.init
  | append_singleton es e ih => rw [after_snoc, after_snoc, ← ih, h.step]

theorem trace (h : Projection m k view keep) (es : List ε) :
    (m.trace es).filter keep = k.trace es := by
  induction es using List.reverseRecOn with
  | nil => rfl
  | append_singleton es e ih =>
      rw [trace_snoc, trace_snoc, List.filter_append, ih, ← h.after, h.step]

theorem resume (h : Projection m k view keep) (es : List ε) :
    Projection (m.resume es) (k.resume es) view keep where
  init := h.after es
  step := h.step

theorem reachable (h : Projection m k view keep) {s : σ} (hs : m.Reachable s) :
    k.Reachable (view s) := by
  obtain ⟨es, rfl⟩ := hs
  exact ⟨es, (h.after es).symm⟩

end Projection

end Machine

end Framework
