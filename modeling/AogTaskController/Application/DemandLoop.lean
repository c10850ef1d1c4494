import AogTaskController.Application.Heartbeat
import AogTaskController.Application.SectionDemand
import AogTaskController.TaskController.Settling

/-!
# From the demand to the heartbeat

The section states that AOG demands go out to the implement as setpoints, the implement reports what
it has made of them, and the heartbeat shows its reports to AOG. Once the loop has settled, AOG reads
back what it has demanded last.
-/

namespace AogTaskController.Application

open Framework TaskController

/-- The setpoints of the client are the bits of the payload. -/
def Demanded (data : List UInt8) (st : ClientState) : Prop :=
  ∀ sect < st.numberOfSections, sect < 64 →
    (st.getSectionSetpointState sect = .on ↔ sectionBit data sect = true)

def Event.demands : Event → Bool
  | .updateSectionStates _ => true
  | _ => false

def LoopEvent.demands : LoopEvent → Bool
  | .call e => Event.demands e
  | _ => false

private theorem demanded_updateSectionStates (data : List UInt8) {st : ClientState}
    (hauto : st.isSectionControlEnabled = true) :
    Demanded data (st.updateSectionStates (sectionStatesOfPayload data)).1 := by
  intro sect hsect hbit
  by_cases hsections : st.numberOfSections = 0
  · obtain ⟨states, workState, hframe⟩ := st.updateSectionStates_fst (sectionStatesOfPayload data)
    have hnone : (st.updateSectionStates (sectionStatesOfPayload data)).1.numberOfSections = 0 := by
      rw [hframe]
      exact hsections
    omega
  · rw [ClientState.updateSectionStates_eq hauto hsections] at hsect ⊢
    have hget : (st.applyDemand (sectionStatesOfPayload data) st.numberOfSections).getSectionSetpointState
        sect = demandedState (sectionStatesOfPayload data) sect (st.getSectionSetpointState sect) := by
      rw [ClientState.getSectionSetpointState_applyDemand, if_pos ⟨hsect, hsect⟩]
    exact (Eq.congr_left hget).trans (demanded_iff_sectionBit hbit _)

theorem Demanded.of_same {data : List UInt8} {st st' : ClientState} (h : Demanded data st)
    (hsections : st'.numberOfSections = st.numberOfSections)
    (hsetpoint : ∀ sect, st'.getSectionSetpointState sect = st.getSectionSetpointState sect) :
    Demanded data st' := by
  intro sect hsect hbit
  rw [hsections] at hsect
  rw [hsetpoint]
  exact h sect hsect hbit

theorem Demanded.onValueCommand {data : List UInt8} {st : ClientState} (h : Demanded data st)
    (m : ValueCommand) : Demanded data (st.onValueCommand m.ddi m.elementNumber m.value) := by
  have hreport := st.reportOnly_onValueCommand m.ddi m.elementNumber m.value
  exact h.of_same hreport.numberOfSections hreport.setpoint

theorem Demanded.onEvent {data : List UInt8} {st : ClientState} (h : Demanded data st)
    (partner : ControlFunction) {e : Event} (he : Event.demands e = false) :
    Demanded data (st.onEvent partner e) := by
  cases e with
  | updateSectionStates sectionStates => cases he
  | requestMeasurementCommands =>
      obtain ⟨m, sent, heq⟩ := st.requestMeasurementCommands_frame.1
      rw [ClientState.onEvent, heq]
      exact h
  | onValueCommand q ddi elementNumber value =>
      rw [ClientState.onEvent]
      split
      · exact h.onValueCommand ⟨ddi, elementNumber, value⟩
      · exact h
  | _ => exact h

theorem Demanded.clientStep {data : List UInt8} {st : ClientState} (h : Demanded data st)
    (partner : ControlFunction) (s : ClosedLoop) {e : LoopEvent} (he : LoopEvent.demands e = false) :
    Demanded data (s.clientStep partner st e) := by
  cases e with
  | call e => exact h.onEvent partner he
  | receive =>
      rw [ClosedLoop.clientStep]
      split
      · exact h
      · exact h.onValueCommand _
  | _ => exact h

private theorem sectionBit_heartbeat_of_settled {stack : IsobusStack} {partner : ControlFunction}
    {s : ClosedLoop} {st : ClientState} {data : List UInt8}
    (hlinked : ClosedLoop.Linked stack partner s st) (hdemanded : Demanded data st)
    (hsettled : s.Settled st) {sect : Nat} (hsect : sect < st.numberOfSections) (hbit : sect < 64) :
    sectionBit ((heartbeatPayload st).drop 2) sect =
      (sectionBit data sect && !st.isElementOrParentOff (st.getElementNumberForSection sect)) := by
  rw [sectionBit_heartbeatPayload, hlinked.getSectionActualState hsettled hsect]
  have hon := hdemanded sect hsect hbit
  cases st.isElementOrParentOff (st.getElementNumberForSection sect) with
  | true => simp
  | false =>
      rw [if_neg Bool.false_ne_true, Bool.not_false, Bool.and_true, Bool.eq_iff_iff, beq_iff_eq]
      exact hon

/-- From an accepted activation on, in every interleaving of calls, commands and reports in which every
update could be told: if the last demand found the client in automatic mode, then at every later
moment at which the loop has settled, the heartbeat shows a section as on exactly if it is demanded and
neither its element nor an ancestor of it has reported that it does not work. -/
theorem heartbeat_shows_demand {stack : IsobusStack} {partner : ControlFunction} {pre : List Event}
    {fs : FileSystem} {chunks : List (List UInt8)} {errors : ActivationErrors}
    (haccepted : (((serverMachine stack).after pre).step stack (.activateObjectPool partner fs)).2 =
      [.activation partner chunks (.returned true errors)])
    (hlists : ∀ st, ((serverMachine stack).after (pre ++
      [.activateObjectPool partner fs])).clients[partner]? = some st → st.ListsEveryBlock)
    {m : Machine ClosedLoop LoopEvent Observation}
    (hm : m = loopMachine stack partner
      ((serverMachine stack).after (pre ++ [.activateObjectPool partner fs])))
    {es post : List LoopEvent} (data : List UInt8)
    (hallowed : ∀ e ∈ es ++ post, e.Allowed partner)
    (hcan : m.Guarded (ClosedLoop.CanTell partner)
      (es ++ [.call (.updateSectionStates (sectionStatesOfPayload data))] ++ post))
    (hauto : ∀ st, (m.after es).server.clients[partner]? = some st →
      st.isSectionControlEnabled = true)
    (hlast : ∀ e ∈ post, LoopEvent.demands e = false) :
    ∃ st, (m.after (es ++ [.call (.updateSectionStates (sectionStatesOfPayload data))] ++
        post)).server.clients[partner]? = some st ∧
      ((m.after (es ++ [.call (.updateSectionStates (sectionStatesOfPayload data))] ++
          post)).Settled st →
        ∀ sect < st.numberOfSections, sect < 64 →
          sectionBit ((heartbeatPayload st).drop 2) sect =
            (sectionBit data sect &&
              !st.isElementOrParentOff (st.getElementNumberForSection sect))) := by
  subst hm
  obtain ⟨start, hstart⟩ := linked_activation haccepted hlists
  rw [List.forall_mem_append] at hallowed
  have hbefore := hcan.of_prefix (List.prefix_append _ post)
  rw [Machine.guarded_snoc] at hbefore
  obtain ⟨before, hlinked, _⟩ := ClosedLoop.Linked.run (fun _ => True) [] ⟨start, hstart, trivial⟩
    (fun _ _ _ _ _ => trivial) hallowed.1 hbefore.1
  rw [List.nil_append] at hlinked
  have hallowedDemand : (LoopEvent.call (.updateSectionStates (sectionStatesOfPayload
    data))).Allowed partner := ⟨rfl, rfl⟩
  have hdemand := hlinked.step hallowedDemand hbefore.2
  obtain ⟨st, hend, hdemanded⟩ := ClosedLoop.Linked.run (Demanded data) _
    ⟨_, (Machine.after_snoc ..).symm ▸ hdemand,
      demanded_updateSectionStates data (hauto before hlinked.client)⟩
    (fun s st e he h => h.clientStep partner s (hlast e he)) hallowed.2 hcan
  refine ⟨st, hend.client, fun hsettled sect hsect hbit => ?_⟩
  exact sectionBit_heartbeat_of_settled hend hdemanded hsettled hsect hbit

theorem condensedLoop_shows_demand :
    let demand := LoopEvent.call (.updateSectionStates (sectionStatesOfPayload [1, 0, 0, 0, 0, 0, 0, 0]))
    let post := [LoopEvent.obey, .obey, .report 0 1, .receive]
    ∃ st, (condensedLoop.after (condensedSetup ++ [demand] ++ post)).server.clients[7]? = some st ∧
      ((condensedLoop.after (condensedSetup ++ [demand] ++ post)).Settled st →
        ∀ sect < st.numberOfSections, sect < 64 →
          sectionBit ((heartbeatPayload st).drop 2) sect =
            (sectionBit [1, 0, 0, 0, 0, 0, 0, 0] sect &&
              !st.isElementOrParentOff (st.getElementNumberForSection sect))) := by
  have hauto (st : ClientState)
      (hst : (condensedLoop.after condensedSetup).server.clients[7]? = some st) :
      st.isSectionControlEnabled = true := by
    have hall : ((condensedLoop.after condensedSetup).server.clients[7]?.all
        (·.isSectionControlEnabled)) = true := by
      decide +kernel
    rw [hst] at hall
    exact hall
  have hsteps : (condensedLoop.resume (condensedSetup ++ [.call (.updateSectionStates
      (sectionStatesOfPayload [1, 0, 0, 0, 0, 0, 0, 0]))])).Guarded (fun s e => e.Settles s)
        [.obey, .obey, .report 0 1, .receive] := by
    simp only [Machine.guarded_cons, Machine.guarded_nil, and_true]
    decide +kernel
  have hpost := ClosedLoop.guarded_append (condensedSetup_canTell _) hsteps
  have hsetup := List.forall_mem_append.mp (condensedSetup_allowed [])
  exact heartbeat_shows_demand condensedPool_accepted condensedPool_listsEveryBlock rfl _
    (List.forall_mem_append.mpr ⟨hsetup.1, hpost.1⟩) hpost.2 hauto (by decide)

end AogTaskController.Application
