import AogTaskController.Framework.Replay
import Mathlib.Data.List.Chain

/-!
# Periodic gates

Something is to be done once in a period. It is done when the gate is found open: a period has passed
since the stamp. The stamp is set behind it, or only if it succeeded. Of the time since the stamp only
the remainder modulo some span is known.

However the gate is looked at, what is done is never less than a period apart. If it is looked at often
enough and the span is large enough, it is never much more.
-/

namespace Framework

inductive GateEvent
  | wait (elapsed : Nat)
  /-- The gate is looked at. `work` passes before the stamp is set. -/
  | poll (ready : Bool) (work : Nat) (succeeds : Bool)
  deriving DecidableEq

/-- What is done once, from the look at the gate to the stamp. -/
structure Pass where
  opened : Nat
  closed : Nat
  succeeded : Bool
  deriving DecidableEq

structure Gate where
  clock : Nat := 0
  stamp : Nat := 0

namespace Gate

def isOpen (span period : Nat) (g : Gate) : Bool := period ≤ (g.clock - g.stamp) % span

def step (span period : Nat) (g : Gate) : GateEvent → Gate × List Pass
  | .wait elapsed => ({ g with clock := g.clock + elapsed }, [])
  | .poll ready work succeeds =>
      if ready && g.isOpen span period then
        ({ clock := g.clock + work, stamp := if succeeds then g.clock + work else g.stamp },
          [⟨g.clock, g.clock + work, succeeds⟩])
      else ({ g with clock := g.clock + work }, [])

theorem le_of_isOpen {span period : Nat} {g : Gate} (h : g.isOpen span period = true) :
    g.stamp + period ≤ g.clock ∨ period = 0 := by
  have hmod := Nat.mod_le (g.clock - g.stamp) span
  have hperiod : period ≤ (g.clock - g.stamp) % span := of_decide_eq_true h
  omega

end Gate

def gate (span period : Nat) : Machine Gate GateEvent Pass where
  init := {}
  step := Gate.step span period

variable {span period : Nat}

/-- The second pass begins a period after the end of the first, unless the first failed. -/
def Pass.Apart (period : Nat) (first second : Pass) : Prop :=
  first.closed ≤ second.opened ∧ (first.succeeded = true → first.closed + period ≤ second.opened)

def lastStamp (stamp : Nat) (passes : List Pass) : Nat :=
  ((passes.filter (·.succeeded)).getLast?.map (·.closed)).getD stamp

@[simp] theorem lastStamp_nil (stamp : Nat) : lastStamp stamp [] = stamp := rfl

theorem lastStamp_snoc (stamp : Nat) (passes : List Pass) (pass : Pass) :
    lastStamp stamp (passes ++ [pass]) =
      if pass.succeeded then pass.closed else lastStamp stamp passes := by
  rw [lastStamp, List.filter_append]
  cases hsucceeded : pass.succeeded with
  | true => simp [hsucceeded]
  | false => simp [hsucceeded, lastStamp]

structure Paced (period : Nat) (passes : List Pass) (g : Gate) : Prop where
  apart : passes.Pairwise (Pass.Apart period)
  closed : ∀ pass ∈ passes, pass.closed ≤ g.clock ∧ (pass.succeeded = true → pass.closed ≤ g.stamp)
  stamp : g.stamp ≤ g.clock
  count : (passes.countP (·.succeeded)) * period ≤ g.stamp
  last : g.stamp = lastStamp 0 passes

theorem Paced.wait {passes : List Pass} {g : Gate} (h : Paced period passes g) (elapsed : Nat) :
    Paced period passes { g with clock := g.clock + elapsed } where
  apart := h.apart
  closed pass hpass := ⟨(h.closed pass hpass).1.trans (Nat.le_add_right _ _), (h.closed pass hpass).2⟩
  stamp := h.stamp.trans (Nat.le_add_right _ _)
  count := h.count
  last := h.last

theorem Paced.pass {passes : List Pass} {g : Gate} (h : Paced period passes g)
    (hopen : g.isOpen span period = true) (work : Nat) (succeeds : Bool) :
    Paced period (passes ++ [⟨g.clock, g.clock + work, succeeds⟩])
      { clock := g.clock + work, stamp := if succeeds then g.clock + work else g.stamp } := by
  have hstamp := h.stamp
  have hcount := h.count
  have hlate : g.stamp + period ≤ g.clock := by
    have hlate := Gate.le_of_isOpen hopen
    omega
  constructor
  case apart =>
    refine List.pairwise_append.mpr ⟨h.apart, List.pairwise_singleton _ _, ?_⟩
    intro pass hpass last hlast
    obtain rfl := List.mem_singleton.mp hlast
    obtain ⟨hclosed, hsucceeded⟩ := h.closed pass hpass
    exact ⟨hclosed, fun hsuccess => (Nat.add_le_add_right (hsucceeded hsuccess) period).trans hlate⟩
  case closed =>
    intro pass hpass
    rcases List.mem_append.mp hpass with hpass | hpass
    · obtain ⟨hclosed, hsucceeded⟩ := h.closed pass hpass
      refine ⟨hclosed.trans (Nat.le_add_right _ _), fun hsuccess => ?_⟩
      have hbefore := hsucceeded hsuccess
      show pass.closed ≤ if succeeds then g.clock + work else g.stamp
      split <;> omega
    · obtain rfl := List.mem_singleton.mp hpass
      refine ⟨Nat.le_refl _, fun hsuccess => ?_⟩
      rw [if_pos hsuccess]
  case stamp =>
    show (if succeeds then g.clock + work else g.stamp) ≤ g.clock + work
    split <;> omega
  case count =>
    rw [List.countP_append, List.countP_singleton]
    cases succeeds with
    | true =>
        simp only [if_true, Nat.add_mul, Nat.one_mul]
        omega
    | false => simpa using hcount
  case last => rw [lastStamp_snoc, ← h.last]

theorem Paced.step {passes : List Pass} {g : Gate} (h : Paced period passes g) (e : GateEvent) :
    Paced period (passes ++ ((gate span period).step g e).2) ((gate span period).step g e).1 := by
  cases e with
  | wait elapsed => simpa only [gate, Gate.step, List.append_nil] using h.wait elapsed
  | poll ready work succeeds =>
      simp only [gate, Gate.step]
      split
      next hopen => exact h.pass (Bool.and_eq_true_iff.mp hopen).2 work succeeds
      next => simpa only [List.append_nil] using h.wait work

theorem Paced.run {passes : List Pass} {g : Gate} (h : Paced period passes g) (es : List GateEvent) :
    Paced period (passes ++ ((gate span period).startAt g).trace es)
      (((gate span period).startAt g).after es) := by
  induction es generalizing passes g with
  | nil =>
      rw [Machine.trace_startAt_nil, List.append_nil]
      exact h
  | cons e es ih =>
      rw [Machine.trace_startAt_cons, ← List.append_assoc]
      exact ih (h.step e)

theorem paced_init (period : Nat) : Paced period [] {} :=
  ⟨List.Pairwise.nil, by simp, Nat.le_refl 0, by simp, rfl⟩

theorem paced_after (span period : Nat) (es : List GateEvent) :
    Paced period ((gate span period).trace es) ((gate span period).after es) :=
  (paced_init period).run es

theorem stamp_after (es : List GateEvent) :
    ((gate span period).after es).stamp = lastStamp 0 ((gate span period).trace es) :=
  (paced_after span period es).last

/-- Every look at the gate finds it ready and succeeds, and comes at most `gap` after the one before,
the first of them after `waited` have gone by already. -/
def Steady (gap : Nat) : Nat → List GateEvent → Prop
  | _, [] => True
  | waited, .wait elapsed :: es => Steady gap (waited + elapsed) es
  | waited, .poll ready work succeeds :: es =>
      ready = true ∧ succeeds = true ∧ waited ≤ gap ∧ Steady gap work es

instance decidableSteady (gap : Nat) : ∀ waited es, Decidable (Steady gap waited es)
  | _, [] => .isTrue trivial
  | waited, .wait elapsed :: es => decidableSteady gap (waited + elapsed) es
  | waited, .poll ready work succeeds :: es =>
      have : Decidable (Steady gap work es) := decidableSteady gap work es
      inferInstanceAs (Decidable (ready = true ∧ succeeds = true ∧ waited ≤ gap ∧ Steady gap work es))

def sinceLook : Nat → List GateEvent → Nat
  | waited, [] => waited
  | waited, .wait elapsed :: es => sinceLook (waited + elapsed) es
  | _, .poll _ work _ :: es => sinceLook work es

theorem steady_append {gap waited : Nat} {es fs : List GateEvent} :
    Steady gap waited (es ++ fs) ↔ Steady gap waited es ∧ Steady gap (sinceLook waited es) fs := by
  induction es generalizing waited with
  | nil => simp [Steady, sinceLook]
  | cons e es ih =>
      cases e with
      | wait elapsed => exact ih
      | poll ready work succeeds =>
          simp only [List.cons_append, Steady, sinceLook, ih, and_assoc]

/-- The second pass begins less than a period and a gap after the first. -/
def Pass.Follows (period gap : Nat) (first second : Pass) : Prop :=
  second.opened < first.closed + period + gap

/-- Less than a period had passed at the last look. -/
structure Prompt (period waited : Nat) (g : Gate) : Prop where
  stamp : g.stamp ≤ g.clock
  recent : g.clock < g.stamp + period + waited

theorem Prompt.wait {waited : Nat} {g : Gate} (h : Prompt period waited g) (elapsed : Nat) :
    Prompt period (waited + elapsed) { g with clock := g.clock + elapsed } where
  stamp := h.stamp.trans (Nat.le_add_right _ _)
  recent := by
    have hrecent := h.recent
    show g.clock + elapsed < g.stamp + period + (waited + elapsed)
    omega

/-- A steady run from any state: the passes follow each other, and none is overdue at the end. -/
theorem steady_from (hperiod : 0 < period) {gap : Nat} (hspan : period + gap ≤ span)
    (es : List GateEvent) : ∀ (waited : Nat) (g : Gate), Prompt period waited g →
      Steady gap waited es →
      List.IsChain (Pass.Follows period gap)
          (⟨g.stamp, g.stamp, true⟩ :: ((gate span period).startAt g).trace es) ∧
        Prompt period (sinceLook waited es) (((gate span period).startAt g).after es) := by
  induction es with
  | nil => exact fun _ g hprompt _ => ⟨List.isChain_singleton _, hprompt⟩
  | cons e es ih =>
      intro waited g hprompt hsteady
      have hstamp := hprompt.stamp
      have hrecent := hprompt.recent
      rw [Machine.trace_startAt_cons, Machine.after_startAt_cons]
      cases e with
      | wait elapsed => exact ih _ _ (hprompt.wait elapsed) hsteady
      | poll ready work succeeds =>
          obtain ⟨rfl, rfl, hgap, hrest⟩ := hsteady
          have hmod : (g.clock - g.stamp) % span = g.clock - g.stamp := Nat.mod_eq_of_lt (by omega)
          by_cases hopen : g.isOpen span period = true
          · have hstep : (gate span period).step g (.poll true work true) =
                ({ clock := g.clock + work, stamp := g.clock + work },
                  [⟨g.clock, g.clock + work, true⟩]) := by
              simp only [gate, Gate.step, hopen, Bool.and_self, if_true]
            have hnext : Prompt period work
                { clock := g.clock + work, stamp := g.clock + work } :=
              ⟨Nat.le_refl _, by show g.clock + work < g.clock + work + period + work; omega⟩
            obtain ⟨hchain, hend⟩ := ih work _ hnext hrest
            rw [hstep]
            refine ⟨List.isChain_cons_cons.mpr ⟨?_, ?_⟩, hend⟩
            · show g.clock < g.stamp + period + gap
              omega
            · -- the pass just made is the one that the rest of the run follows
              revert hchain
              cases ((gate span period).startAt _).trace es with
              | nil => exact fun _ => List.isChain_singleton _
              | cons pass passes =>
                  intro hchain
                  obtain ⟨hfirst, hothers⟩ := List.isChain_cons_cons.mp hchain
                  exact List.isChain_cons_cons.mpr ⟨hfirst, hothers⟩
          · have hyoung : g.clock < g.stamp + period := by
              have hnot : ¬ period ≤ (g.clock - g.stamp) % span := fun hopened =>
                hopen (decide_eq_true hopened)
              omega
            have hstep : (gate span period).step g (.poll true work true) =
                ({ g with clock := g.clock + work }, []) := by
              simp only [gate, Gate.step, hopen, Bool.true_and, Bool.false_eq_true, if_false]
            rw [hstep]
            refine ih work { g with clock := g.clock + work } ⟨?_, ?_⟩ hrest
            · exact hstamp.trans (Nat.le_add_right _ _)
            · show g.clock + work < g.stamp + period + work
              omega

def duration : List GateEvent → Nat
  | [] => 0
  | .wait elapsed :: es => elapsed + duration es
  | .poll _ work _ :: es => work + duration es

theorem duration_append (es more : List GateEvent) :
    duration (es ++ more) = duration es + duration more := by
  induction es with
  | nil => exact (Nat.zero_add _).symm
  | cons e es ih => cases e <;> simp only [List.cons_append, duration, ih, Nat.add_assoc]

theorem clock_after (es : List GateEvent) : ((gate span period).after es).clock = duration es := by
  induction es using List.reverseRecOn with
  | nil => rfl
  | append_singleton es e ih =>
      rw [Machine.after_snoc, duration_append, ← ih]
      cases e with
      | wait elapsed => rfl
      | poll ready work succeeds =>
          simp only [gate, Gate.step]
          split <;> rfl

/-- What a gate makes of being looked at. Whatever the looks: two passes are a period apart, unless the
first failed. If they are steady: the first pass and each next one begin less than a period and a gap
behind the one before, and no pass is overdue. -/
structure KeepsPeriod (span period : Nat) (looks : List GateEvent) (passes : List Pass) : Prop where
  apart : passes.Pairwise (Pass.Apart period)
  count : passes.countP (·.succeeded) * period ≤ duration looks
  prompt : ∀ gap, period + gap ≤ span → Steady gap 0 looks →
    List.IsChain (Pass.Follows period gap) (⟨0, 0, true⟩ :: passes) ∧
      duration looks < lastStamp 0 passes + period + sinceLook 0 looks

theorem steady_after (hperiod : 0 < period) {gap : Nat} (hspan : period + gap ≤ span)
    {looks : List GateEvent} (h : Steady gap 0 looks) :
    List.IsChain (Pass.Follows period gap) (⟨0, 0, true⟩ :: (gate span period).trace looks) ∧
      Prompt period (sinceLook 0 looks) ((gate span period).after looks) :=
  steady_from hperiod hspan looks 0 {} ⟨Nat.le_refl 0, by show 0 < 0 + period + 0; omega⟩ h

theorem gate_keepsPeriod (hperiod : 0 < period) (looks : List GateEvent) :
    KeepsPeriod span period looks ((gate span period).trace looks) := by
  have hpaced := paced_after span period looks
  have hclock := @clock_after span period looks
  constructor
  case apart => exact hpaced.apart
  case count => exact hclock ▸ hpaced.count.trans hpaced.stamp
  case prompt =>
    intro gap hspan hsteady
    obtain ⟨hchain, hend⟩ := steady_after hperiod hspan hsteady
    refine ⟨hchain, ?_⟩
    rw [← hclock, ← stamp_after]
    exact hend.recent

def look (before : Nat) (ready : Bool) (work : Nat) (succeeds : Bool) (behind : Nat) :
    List GateEvent :=
  [.wait before, .poll ready work succeeds, .wait behind]

end Framework
