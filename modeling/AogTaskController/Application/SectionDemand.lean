import AogTaskController.Application.PacketHandler
import AogTaskController.TaskController.Sessions
import AogTaskController.TaskController.SetpointUpdate

/-!
# From the section states packet to the implement

A packet with section states reaches every client in automatic mode: its setpoints follow the 64
bits, and each block of 16 that changed is sent once.
-/

namespace AogTaskController.Application

open Framework TaskController Udp

/-- The condensed message for a block in its final state, with 3 for positions beyond the last
section. -/
def blockMessage (st : ClientState) (block : Nat) : Command :=
  .setValue (290 + block) (st.getElementNumberForDdi (290 + block))
    (packFields 32 (fun i =>
      if 16 * block + i < st.numberOfSections then
        (st.getSectionSetpointState (16 * block + i)).bits
      else 3) 16)

def blockDiffers (st st' : ClientState) (block : Nat) : Bool :=
  (List.range 16).any fun i =>
    st'.getSectionSetpointState (16 * block + i) != st.getSectionSetpointState (16 * block + i)

/-- The demand in `data` has taken a client from `st` to `st'` with these commands. -/
structure DemandArrived (data : List UInt8) (st st' : ClientState) (sent : List Command) : Prop where
  /-- Nothing but setpoints and the recorded work state setpoint has changed. -/
  frame : ∃ states workState, st' = (st.setSetpoints states).setSetpointWorkState workState
  demanded : ∀ sect < st.numberOfSections, sect < 64 →
    (st'.getSectionSetpointState sect = .on ↔ sectionBit data sect = true)
  kept : ∀ sect, 64 ≤ sect → st'.getSectionSetpointState sect = st.getSectionSetpointState sect
  condensed : sent.filter Command.isCondensedSetpoint =
    ((List.range st.numberOfBlocks).filter (blockDiffers st st')).map (blockMessage st')
  others : ∀ command ∈ sent, command.isCondensedSetpoint = true ∨
    ∃ element value, command = .setValue Ddi.setpointWorkState element value
  workState : st.hasElementNumberForDdi Ddi.setpointWorkState = true →
    st.setpointWorkState = st.isAnySectionSetpointOn →
    st'.setpointWorkState = st'.isAnySectionSetpointOn

section Client

variable {data : List UInt8} {st : ClientState}

theorem demanded_iff_sectionBit {sect : Nat} (hsect : sect < 64) (state : SectionState) :
    demandedState (sectionStatesOfPayload data) sect state = .on ↔ sectionBit data sect = true := by
  rw [demandedState, sectionStatesOfPayload_getElem?, if_pos hsect]
  cases sectionBit data sect with
  | true => simp
  | false =>
      by_cases hon : state = .on
      · simp [hon]
      · simp [hon]

private theorem demanded_above {sect : Nat} (hsect : 64 ≤ sect) (state : SectionState) :
    demandedState (sectionStatesOfPayload data) sect state = state := by
  rw [demandedState, sectionStatesOfPayload_getElem?, if_neg (Nat.not_lt_of_le hsect)]

private theorem condensedCommand_eq_blockMessage {sectionStates : List Bool} {block : Nat}
    (hblock : block < 16)
    (workState : Bool) :
    st.condensedCommand sectionStates block =
      blockMessage ((st.applyDemand sectionStates st.numberOfSections).setSetpointWorkState
        workState) block := by
  rw [ClientState.condensedCommand, ClientState.condensedValue_eq hblock]
  have hpadded : packFields 32 (fun i =>
      ((st.applyDemand sectionStates st.numberOfSections).getSectionSetpointState
        (16 * block + i)).bits) 16 =
      packFields 32 (fun i =>
        if 16 * block + i < st.numberOfSections then
          ((st.applyDemand sectionStates st.numberOfSections).getSectionSetpointState
            (16 * block + i)).bits
        else 3) 16 := by
    apply packFields_congr
    intro i _
    by_cases hsect : 16 * block + i < st.numberOfSections
    · rw [if_pos hsect]
    · have hbeyond := @ClientState.getSectionSetpointState_of_le
        (st.applyDemand sectionStates st.numberOfSections) (16 * block + i) (Nat.le_of_not_lt hsect)
      rw [if_neg hsect, hbeyond]
      rfl
  rw [hpadded]
  rfl

private theorem blockDiffers_eq_blockChanges (sectionStates : List Bool) (workState : Bool)
    (block : Nat) :
    blockDiffers st ((st.applyDemand sectionStates st.numberOfSections).setSetpointWorkState
      workState) block = st.blockChanges sectionStates block := by
  rw [Bool.eq_iff_iff, ClientState.blockChanges, blockDiffers, List.any_eq_true, List.any_eq_true]
  apply exists_congr
  intro i
  rw [ClientState.demandChanges_iff, bne_iff_ne]
  apply and_congr_right
  intro _
  constructor
  · intro hdiffers
    refine ⟨?_, hdiffers⟩
    by_contra hsect
    apply hdiffers
    refine (ClientState.getSectionSetpointState_applyDemand _ _).trans ?_
    rw [if_neg fun h => hsect h.2]
  · exact fun h => h.2

private theorem updateSectionStates_demandArrived (henabled : st.isSectionControlEnabled = true)
    (hsections : st.numberOfSections ≠ 0)
    (hmapped : ∀ block < st.numberOfBlocks,
      st.hasElementNumberForDdi (Ddi.setpointCondensedWorkState1_16 + block) = true) :
    DemandArrived data st (st.updateSectionStates (sectionStatesOfPayload data)).1
      (st.updateSectionStates (sectionStatesOfPayload data)).2 := by
  rw [ClientState.updateSectionStates_eq henabled hsections]
  have hget (sect : Nat) (hsect : sect < st.numberOfSections) :
      (st.applyDemand (sectionStatesOfPayload data) st.numberOfSections).getSectionSetpointState
        sect = demandedState (sectionStatesOfPayload data) sect (st.getSectionSetpointState sect) := by
    rw [ClientState.getSectionSetpointState_applyDemand, if_pos ⟨hsect, hsect⟩]
  constructor
  case frame => exact ⟨_, _, rfl⟩
  case demanded =>
    intro sect hsect hbit
    refine Eq.congr_left (hget sect hsect) |>.trans ?_
    exact demanded_iff_sectionBit hbit _
  case kept =>
    intro sect hbit
    refine (ClientState.getSectionSetpointState_applyDemand _ sect).trans ?_
    rw [demanded_above hbit, ite_self]
  case condensed =>
    rw [ClientState.filter_condensed_blockCommands hmapped le_rfl,
      funext (blockDiffers_eq_blockChanges (sectionStatesOfPayload data)
        (st.workStateBefore (sectionStatesOfPayload data) st.numberOfBlocks))]
    apply List.map_congr_left
    intro block hblock
    have hrange := List.mem_range.mp (List.mem_filter.mp hblock).1
    exact condensedCommand_eq_blockMessage (ClientState.lt_sixteen_of_lt_numberOfBlocks hrange) _
  case others =>
    intro command hcommand
    obtain ⟨block, hblock, hmem⟩ := List.mem_flatMap.mp hcommand
    exact ClientState.mem_blockCommands hmapped (List.mem_range.mp hblock) hmem
  case workState =>
    intro hwork hrecorded
    have hall : st.applyDemand (sectionStatesOfPayload data) (16 * st.numberOfBlocks) =
        st.applyDemand (sectionStatesOfPayload data) st.numberOfSections := by
      apply ClientState.applyDemand_congr
      intro sect hsect
      left
      rw [ClientState.numberOfBlocks]
      omega
    refine (ClientState.workStateBefore_eq hmapped hwork hrecorded le_rfl).trans ?_
    rw [hall]
    rfl

end Client

private theorem packetHandler_sectionStates (stack : IsobusStack) (s : Server) {data : List UInt8}
    (hdata : 8 ≤ data.length) :
    packetHandler stack s ⟨0x7F, 0xE5, data⟩ =
      s.forEachClient (·.updateSectionStates (sectionStatesOfPayload data)) := by
  have hdecode : decodePacket ⟨0x7F, 0xE5, data⟩ =
      some (.sectionStates (sectionStatesOfPayload data)) := by
    simp [decodePacket, hdata]
  rw [packetHandler, hdecode]
  rfl

/-- A packet with section states leaves clients that are in manual mode or have no sections alone
and reaches every other client. -/
theorem sectionStates_reach_clients (stack : IsobusStack) (s : Server) (data : List UInt8)
    (hdata : 8 ≤ data.length)
    (hmapped : ∀ (partner : ControlFunction) (st : ClientState), s.clients[partner]? = some st →
      st.isSectionControlEnabled = true →
        ∀ block < st.numberOfBlocks, st.hasElementNumberForDdi (290 + block) = true)
    (partner : ControlFunction) :
    match s.clients[partner]? with
    | none =>
        (packetHandler stack s ⟨0x7F, 0xE5, data⟩).1.clients[partner]? = none ∧
          sentTo partner (packetHandler stack s ⟨0x7F, 0xE5, data⟩).2 = []
    | some st =>
        ∃ st', (packetHandler stack s ⟨0x7F, 0xE5, data⟩).1.clients[partner]? = some st' ∧
          if st.isSectionControlEnabled = true ∧ st.numberOfSections ≠ 0 then
            DemandArrived data st st' (sentTo partner (packetHandler stack s ⟨0x7F, 0xE5, data⟩).2)
          else st' = st ∧ sentTo partner (packetHandler stack s ⟨0x7F, 0xE5, data⟩).2 = [] := by
  rw [packetHandler_sectionStates stack s hdata, Server.sentTo_forEachClient,
    Server.clients_forEachClient]
  cases hclient : s.clients[partner]? with
  | none => exact ⟨rfl, rfl⟩
  | some st =>
      refine ⟨(st.updateSectionStates (sectionStatesOfPayload data)).1, rfl, ?_⟩
      simp only
      split
      next hactive =>
        exact updateSectionStates_demandArrived hactive.1 hactive.2
          (hmapped partner st hclient hactive.1)
      next hidle =>
        rw [ClientState.updateSectionStates_of_idle hidle]
        exact ⟨rfl, rfl⟩

/-- A client in automatic mode with two sections and DDIs 289 and 290 on its element 1. -/
def twoSectionClient : ClientState where
  ddiToElementNumber := ((∅ : Std.ExtTreeMap Ddi Nat).insert 289 1).insert 290 1
  numberOfSections := 2
  isSectionControlEnabled := true

theorem sectionStates_reach_twoSectionClient :
    ∃ st', (packetHandler (.ofPool [] []) { clients := (∅ : Std.ExtTreeMap _ _).insert 7 twoSectionClient }
        ⟨0x7F, 0xE5, [1, 0, 0, 0, 0, 0, 0, 0]⟩).1.clients[7]? = some st' ∧
      DemandArrived [1, 0, 0, 0, 0, 0, 0, 0] twoSectionClient st'
        (sentTo 7 (packetHandler (.ofPool [] [])
          { clients := (∅ : Std.ExtTreeMap _ _).insert 7 twoSectionClient }
          ⟨0x7F, 0xE5, [1, 0, 0, 0, 0, 0, 0, 0]⟩).2) := by
  have hmapped (partner : ControlFunction) (st : ClientState)
      (hst : ((∅ : Std.ExtTreeMap ControlFunction ClientState).insert 7 twoSectionClient)[partner]? =
        some st) (_ : st.isSectionControlEnabled = true) :
      ∀ block < st.numberOfBlocks, st.hasElementNumberForDdi (290 + block) = true := by
    have hentry : 7 = partner ∧ twoSectionClient = st := by
      simpa [Std.ExtTreeMap.getElem?_insert, ite_eq_iff] using hst
    obtain ⟨_, rfl⟩ := hentry
    decide
  have harrives := sectionStates_reach_clients (.ofPool [] [])
    { clients := (∅ : Std.ExtTreeMap _ _).insert 7 twoSectionClient } [1, 0, 0, 0, 0, 0, 0, 0]
    (by decide) hmapped 7
  simp only [Std.ExtTreeMap.getElem?_insert_self] at harrives
  exact harrives

end AogTaskController.Application
