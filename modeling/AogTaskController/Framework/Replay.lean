import AogTaskController.Framework.Machine

/-!
# Replaying a run

A run of one machine is a run of a smaller one: each event is read as some events of the smaller
machine, and of what is observed only the smaller machine's part is looked at. What holds of every run
of the smaller machine then holds of the larger one.
-/

namespace Framework

namespace Machine

variable {σ τ ε δ ω υ : Type*}

/-- The same machine from another state on. -/
def startAt (m : Machine σ ε ω) (s : σ) : Machine σ ε ω := { m with init := s }

theorem after_append (m : Machine σ ε ω) (pre es : List ε) :
    m.after (pre ++ es) = (m.startAt (m.after pre)).after es := by
  rw [after, after, List.foldl_append]
  rfl

theorem trace_append_startAt (m : Machine σ ε ω) (pre es : List ε) :
    m.trace (pre ++ es) = m.trace pre ++ (m.startAt (m.after pre)).trace es :=
  m.trace_append pre es

@[simp] theorem after_startAt_nil (m : Machine σ ε ω) (s : σ) : (m.startAt s).after [] = s := rfl

@[simp] theorem after_startAt_cons (m : Machine σ ε ω) (s : σ) (e : ε) (es : List ε) :
    (m.startAt s).after (e :: es) = (m.startAt (m.step s e).1).after es := rfl

@[simp] theorem trace_startAt_nil (m : Machine σ ε ω) (s : σ) : (m.startAt s).trace [] = [] := rfl

private theorem traceFrom_startAt (m : Machine σ ε ω) (s t : σ) (es : List ε) :
    (m.startAt s).traceFrom t es = m.traceFrom t es := by
  induction es generalizing t with
  | nil => rfl
  | cons e es ih => rw [traceFrom, traceFrom, ih]; rfl

@[simp] theorem trace_startAt_cons (m : Machine σ ε ω) (s : σ) (e : ε) (es : List ε) :
    (m.startAt s).trace (e :: es) = (m.step s e).2 ++ (m.startAt (m.step s e).1).trace es := by
  rw [trace, trace, traceFrom_startAt, traceFrom_startAt]
  rfl

theorem guarded_cons {m : Machine σ ε ω} {G : σ → ε → Prop} {e : ε} {es : List ε} :
    m.Guarded G (e :: es) ↔ G m.init e ∧ (m.startAt (m.step m.init e).1).Guarded G es := by
  constructor
  · intro h
    refine ⟨h [] e (List.prefix_append [e] es), fun pre f hpre => ?_⟩
    exact h (e :: pre) f (List.prefix_cons_inj e |>.mpr hpre)
  · intro h pre f hpre
    obtain ⟨hfirst, hrest⟩ := h
    cases pre with
    | nil =>
        obtain rfl := List.head_eq_of_cons_eq (List.prefix_iff_eq_take.mp hpre)
        exact hfirst
    | cons g pre =>
        obtain ⟨rfl, htail⟩ := List.cons_prefix_cons.mp hpre
        exact hrest pre f htail

theorem exists_of_mem_trace (m : Machine σ ε ω) {es : List ε} {o : ω} (h : o ∈ m.trace es) :
    ∃ pre e, pre ++ [e] <+: es ∧ o ∈ (m.step (m.after pre) e).2 := by
  induction es using List.reverseRecOn with
  | nil => cases h
  | append_singleton es e ih =>
      rw [trace_snoc, List.mem_append] at h
      rcases h with h | h
      · obtain ⟨pre, f, hpre, hobserved⟩ := ih h
        exact ⟨pre, f, hpre.trans (List.prefix_append es [e]), hobserved⟩
      · exact ⟨es, e, List.prefix_rfl, h⟩

/-- `k` replays `m`. -/
structure Replay (m : Machine σ ε ω) (k : Machine τ δ υ) (rel : σ → τ → Prop) (events : ε → List δ)
    (see : ω → Option υ) : Prop where
  init : rel m.init k.init
  step : ∀ s t e, rel s t → rel (m.step s e).1 ((k.startAt t).after (events e)) ∧
    (m.step s e).2.filterMap see = (k.startAt t).trace (events e)

namespace Replay

variable {m : Machine σ ε ω} {k : Machine τ δ υ} {rel : σ → τ → Prop} {events : ε → List δ}
  {see : ω → Option υ}

theorem after (h : Replay m k rel events see) (es : List ε) :
    rel (m.after es) (k.after (es.flatMap events)) := by
  induction es using List.reverseRecOn with
  | nil => exact h.init
  | append_singleton es e ih =>
      rw [after_snoc, List.flatMap_append, List.flatMap_singleton, after_append]
      exact (h.step _ _ e ih).1

theorem trace (h : Replay m k rel events see) (es : List ε) :
    (m.trace es).filterMap see = k.trace (es.flatMap events) := by
  induction es using List.reverseRecOn with
  | nil => rfl
  | append_singleton es e ih =>
      rw [trace_snoc, List.filterMap_append, ih, List.flatMap_append, List.flatMap_singleton,
        trace_append_startAt, (h.step _ _ e (h.after es)).2]

end Replay

end Machine

end Framework
