import AogTaskController.Framework.Replay
import AogTaskController.TaskController.ClosedLoop

/-!
# Settling

Left alone, the server and an implement settle: every step that takes a message off a channel or
reports a change brings the end nearer, and where none is left the actual states are the setpoints.
-/

namespace AogTaskController.TaskController

open Framework

def LoopEvent.Settles (s : ClosedLoop) : LoopEvent → Prop
  | .obey => s.toImplement ≠ []
  | .report block _ => block < 16 ∧ s.unreported block = true
  | .receive => s.toServer ≠ []
  | _ => False

instance (s : ClosedLoop) (e : LoopEvent) : Decidable (e.Settles s) :=
  match e with
  | .obey => inferInstanceAs (Decidable (s.toImplement ≠ []))
  | .report block _ => inferInstanceAs (Decidable (block < 16 ∧ s.unreported block = true))
  | .receive => inferInstanceAs (Decidable (s.toServer ≠ []))
  | .call _ | .mention _ => inferInstanceAs (Decidable False)

/-- The settling steps that are left at most. -/
def ClosedLoop.work (s : ClosedLoop) : Nat :=
  3 * s.toImplement.length + 2 * (List.range 16).countP s.unreported + s.toServer.length

private theorem obeyed_eq_of_ne {command : Command} {block : Nat}
    (h : ∀ element value,
      command ≠ .setValue (Ddi.setpointCondensedWorkState1_16 + block) element value)
    {sect : Nat} (hsect : sect / 16 = block) (state : SectionState) :
    obeyed sect state command = state := by
  cases command with
  | setValue ddi element value =>
      rw [obeyed, if_neg]
      intro hddi
      rw [hsect] at hddi
      exact h element value (by rw [hddi])
  | _ => rfl

namespace ClosedLoop

variable {stack : IsobusStack} {partner : ControlFunction} {s : ClosedLoop}

private theorem countP_unreported_obey (command : Command) :
    (List.range 16).countP (fun block => s.unreported block ||
      (List.range 16).any fun i => obeyed (16 * block + i) (s.working (16 * block + i)) command !=
        s.working (16 * block + i)) ≤ (List.range 16).countP s.unreported + 1 := by
  -- the block that the command is about, or any other if it is about none
  obtain ⟨here, hhere⟩ : ∃ here : Nat, ∀ block, block ≠ here → ∀ element value,
      command ≠ .setValue (Ddi.setpointCondensedWorkState1_16 + block) element value := by
    cases command with
    | setValue ddi element value =>
        refine ⟨ddi - Ddi.setpointCondensedWorkState1_16, fun block hblock _ _ heq => hblock ?_⟩
        obtain ⟨rfl, _, _⟩ := Command.setValue.inj heq
        exact (Nat.add_sub_cancel_left ..).symm
    | _ => exact ⟨0, fun _ _ _ _ heq => by cases heq⟩
  have hle : (List.range 16).countP (fun block => s.unreported block ||
      (List.range 16).any fun i => obeyed (16 * block + i) (s.working (16 * block + i)) command !=
        s.working (16 * block + i)) ≤
      (List.range 16).countP (fun block => s.unreported block || block == here) := by
    apply List.countP_mono_left
    intro block _ hblock
    rw [Bool.or_eq_true] at hblock ⊢
    rcases hblock with hold | hchanged
    · exact .inl hold
    · right
      by_contra hother
      rw [List.any_eq_true] at hchanged
      obtain ⟨i, hi, hdiffers⟩ := hchanged
      have hdiv : (16 * block + i) / 16 = block := by
        have := List.mem_range.mp hi
        omega
      rw [obeyed_eq_of_ne (hhere block (by simpa using hother)) hdiv] at hdiffers
      simp at hdiffers
  have hone : (List.range 16).countP (· == here) ≤ 1 :=
    List.nodup_iff_count_le_one.mp List.nodup_range here
  have hor : ∀ l : List Nat, l.countP (fun block => s.unreported block || block == here) ≤
      l.countP s.unreported + l.countP (· == here) := by
    intro l
    induction l with
    | nil => simp
    | cons block l ih =>
        simp only [List.countP_cons]
        cases s.unreported block <;> cases block == here <;> simp <;> omega
  exact hle.trans ((hor _).trans (Nat.add_le_add_left hone _))

private theorem countP_report_le {block : Nat} (hunreported : s.unreported block = true) {l : List Nat}
    (hmem : block ∈ l) :
    l.countP (fun b => b != block && s.unreported b) + 1 ≤ l.countP s.unreported := by
  have hle (l : List Nat) :
      l.countP (fun b => b != block && s.unreported b) ≤ l.countP s.unreported := by
    apply List.countP_mono_left
    intro b _ hb
    rw [Bool.and_eq_true] at hb
    exact hb.2
  induction l with
  | nil => cases hmem
  | cons b l ih =>
      rw [List.countP_cons, List.countP_cons]
      rcases List.mem_cons.mp hmem with rfl | hrest
      · have hrest := hle l
        simp [hunreported]
        omega
      · have hrest := ih hrest
        cases s.unreported b <;> cases b != block <;> simp <;> omega

private theorem work_step (stack : IsobusStack) (partner : ControlFunction) {e : LoopEvent}
    (he : e.Settles s) :
    (s.step stack partner e).1.work + 1 ≤ s.work := by
  cases e with
  | call _ | mention _ => exact he.elim
  | obey =>
      rw [step]
      cases hqueue : s.toImplement with
      | nil => exact absurd hqueue he
      | cons command rest =>
          have hcount := @countP_unreported_obey s command
          simp only [work, hqueue, List.length_cons]
          omega
  | report block elementNumber =>
      have hcount := countP_report_le he.2 (List.mem_range.mpr he.1)
      simp only [work, step, List.length_append, List.length_singleton]
      omega
  | receive =>
      rw [step]
      cases hqueue : s.toServer with
      | nil => exact absurd hqueue he
      | cons m rest =>
          simp only [work, hqueue, List.length_cons]
          omega

private theorem settled_of_stuck (h : ∀ e : LoopEvent, ¬ e.Settles s) (st : ClientState) :
    s.Settled st := by
  refine ⟨?_, ?_, fun block hblock => ?_⟩
  · by_contra hqueue
    exact h .obey hqueue
  · by_contra hqueue
    exact h .receive hqueue
  · by_contra hunreported
    exact h (.report block 0)
      ⟨ClientState.lt_sixteen_of_lt_numberOfBlocks hblock, Bool.eq_true_of_not_eq_false hunreported⟩

private theorem settling_allowed {e : LoopEvent} (he : e.Settles s) :
    e.Allowed partner ∧ s.CanTell partner e := by
  cases e with
  | call _ | mention _ => exact he.elim
  | obey | receive => exact ⟨trivial, trivial⟩
  | report block elementNumber => exact ⟨he.1, trivial⟩

private theorem length_settling {m : Machine ClosedLoop LoopEvent Observation}
    (hm : m.step = step stack partner) {es : List LoopEvent}
    (h : m.Guarded (fun s e => e.Settles s) es) : (m.after es).work + es.length ≤ m.init.work := by
  induction es using List.reverseRecOn with
  | nil => exact le_rfl
  | append_singleton es e ih =>
      rw [Machine.guarded_snoc] at h
      have hrest := ih h.1
      have hstep := work_step stack partner h.2
      rw [Machine.after_snoc, hm, List.length_append, List.length_singleton]
      omega

theorem guarded_append {m : Machine ClosedLoop LoopEvent Observation} {es post : List LoopEvent}
    (hcan : m.Guarded (CanTell partner) es)
    (h : (m.resume es).Guarded (fun s e => e.Settles s) post) :
    (∀ e ∈ post, e.Allowed partner) ∧ m.Guarded (CanTell partner) (es ++ post) := by
  induction post using List.reverseRecOn with
  | nil => exact ⟨fun _ he => absurd he List.not_mem_nil, by rwa [List.append_nil]⟩
  | append_singleton post e ih =>
      rw [Machine.guarded_snoc, Machine.after_resume] at h
      obtain ⟨hallowed, hguarded⟩ := ih h.1
      obtain ⟨he, hcan⟩ := @settling_allowed partner _ e h.2
      refine ⟨?_, ?_⟩
      · rw [List.forall_mem_append]
        exact ⟨hallowed, fun f hf => by rwa [List.mem_singleton.mp hf]⟩
      · rw [← List.append_assoc, Machine.guarded_snoc]
        exact ⟨hguarded, hcan⟩

end ClosedLoop

/-- After any run of the loop from an accepted activation on, in which every update could be told, only
so many settling steps can follow, and when none can, the actual state of every section is its
setpoint, but for sections whose element or an ancestor of it does not work. -/
theorem settling_shows_setpoints {stack : IsobusStack} {partner : ControlFunction} {pre : List Event}
    {fs : FileSystem} {chunks : List (List UInt8)} {errors : ActivationErrors}
    (haccepted : (((serverMachine stack).after pre).step stack (.activateObjectPool partner fs)).2 =
      [.activation partner chunks (.returned true errors)])
    (hlists : ∀ st, ((serverMachine stack).after (pre ++
      [.activateObjectPool partner fs])).clients[partner]? = some st → st.ListsEveryBlock)
    {m : Machine ClosedLoop LoopEvent Observation}
    (hm : m = loopMachine stack partner
      ((serverMachine stack).after (pre ++ [.activateObjectPool partner fs])))
    {es post : List LoopEvent} (hallowed : ∀ e ∈ es, e.Allowed partner)
    (hcan : m.Guarded (ClosedLoop.CanTell partner) es)
    (hsettling : (m.resume es).Guarded (fun s e => e.Settles s) post) :
    post.length ≤ (m.after es).work ∧
      ((∀ e : LoopEvent, ¬ e.Settles (m.after (es ++ post))) →
        ∃ st, (m.after (es ++ post)).server.clients[partner]? = some st ∧
          ∀ sect < st.numberOfSections, st.getSectionActualState sect =
            if st.isElementOrParentOff (st.getElementNumberForSection sect) then .off
            else st.getSectionSetpointState sect) := by
  subst hm
  obtain ⟨start, hstart⟩ := linked_activation haccepted hlists
  obtain ⟨hpost, hguarded⟩ := ClosedLoop.guarded_append hcan hsettling
  constructor
  · have hlength := ClosedLoop.length_settling rfl hsettling
    exact (Nat.le_add_left ..).trans hlength
  · intro hstuck
    have hall : ∀ e ∈ es ++ post, e.Allowed partner :=
      List.forall_mem_append.mpr ⟨hallowed, hpost⟩
    obtain ⟨st, hlinked, _⟩ := ClosedLoop.Linked.run (fun _ => True) []
      ⟨start, hstart, trivial⟩ (fun _ _ _ _ _ => trivial) hall hguarded
    refine ⟨st, hlinked.client, fun sect hsect => ?_⟩
    exact hlinked.getSectionActualState (ClosedLoop.settled_of_stuck hstuck st) hsect

def condensedLoop : Machine ClosedLoop LoopEvent Observation :=
  loopMachine (.ofPool condensedPool [1]) 7 ((serverMachine (.ofPool condensedPool [1])).after
    ([.storeDeviceDescriptorObjectPool 7 [0]] ++ [.activateObjectPool 7 .working]))

def condensedSetup : List LoopEvent :=
  [.call .requestMeasurementCommands, .call (.updateSectionControlEnabled true)]

theorem condensedPool_accepted :
    (((serverMachine (.ofPool condensedPool [1])).after
      [.storeDeviceDescriptorObjectPool 7 [0]]).step (.ofPool condensedPool [1])
        (.activateObjectPool 7 .working)).2 = [.activation 7 [[0]] (.returned true {})] := rfl

theorem condensedPool_listsEveryBlock (st : ClientState)
    (hst : ((serverMachine (.ofPool condensedPool [1])).after
      ([.storeDeviceDescriptorObjectPool 7 [0]] ++ [.activateObjectPool 7 .working])).clients[7]? =
        some st) : st.ListsEveryBlock := by
  have hall : (((serverMachine (.ofPool condensedPool [1])).after
      ([.storeDeviceDescriptorObjectPool 7 [0]] ++ [.activateObjectPool 7 .working])).clients[7]?.all
        fun st => decide st.ListsEveryBlock) = true := by
    decide +kernel
  rw [hst] at hall
  exact of_decide_eq_true hall

theorem condensedSetup_allowed (sectionStates : List Bool) :
    ∀ e ∈ condensedSetup ++ [.call (.updateSectionStates sectionStates)], e.Allowed 7 := by
  simp [condensedSetup, LoopEvent.Allowed, Event.replaces, valueCommands]

theorem condensedSetup_canTell (sectionStates : List Bool) :
    condensedLoop.Guarded (ClosedLoop.CanTell 7)
      (condensedSetup ++ [.call (.updateSectionStates sectionStates)]) := by
  rw [Machine.guarded_snoc]
  constructor
  · simp only [condensedSetup, Machine.guarded_cons, Machine.guarded_nil, and_true]
    exact ⟨fun _ _ => trivial, fun _ _ => trivial⟩
  · intro st hst _
    have hall : ((condensedLoop.after condensedSetup).server.clients[7]?.all
        (·.areMeasurementCommandsSent)) = true := by
      decide +kernel
    rw [hst] at hall
    exact .inl hall

theorem condensedLoop_settles :
    let es := condensedSetup ++ [LoopEvent.call (.updateSectionStates [true])]
    let post := [LoopEvent.obey, .obey, .report 0 1, .receive]
    post.length ≤ (condensedLoop.after es).work ∧
      ((∀ e : LoopEvent, ¬ e.Settles (condensedLoop.after (es ++ post))) →
        ∃ st, (condensedLoop.after (es ++ post)).server.clients[7]? = some st ∧
          ∀ sect < st.numberOfSections, st.getSectionActualState sect =
            if st.isElementOrParentOff (st.getElementNumberForSection sect) then .off
            else st.getSectionSetpointState sect) := by
  apply settling_shows_setpoints condensedPool_accepted condensedPool_listsEveryBlock rfl
    (condensedSetup_allowed [true]) (condensedSetup_canTell [true])
  simp only [Machine.guarded_cons, Machine.guarded_nil, and_true]
  decide +kernel

end AogTaskController.TaskController
