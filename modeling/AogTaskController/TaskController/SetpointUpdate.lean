import AogTaskController.TaskController.SetpointCommands

/-!
# Updating the section setpoints

`update_section_states` in closed form: the blocks of 16 sections are updated one after the other,
and a block that changes is sent while the later blocks still have their old setpoints.
-/

namespace AogTaskController.TaskController

open Framework

def demandedState (sectionStates : List Bool) (sect : Nat) (state : SectionState) : SectionState :=
  match sectionStates[sect]? with
  | some true => .on
  | some false => if state = .on then .off else state
  | none => state

/-- A set value command for one of the DDIs 290 to 305. -/
def Command.isCondensedSetpoint : Command → Bool
  | .setValue ddi _ _ => ddi.isSetpointCondensed
  | _ => false

namespace ClientState

def setSetpoints (st : ClientState) (states : Vector SectionState st.numberOfSections) :
    ClientState :=
  { st with sectionSetpointStates := states }

def applyDemand (st : ClientState) (sectionStates : List Bool) (stop : Nat) : ClientState :=
  st.setSetpoints (st.sectionSetpointStates.mapIdx fun i state =>
    if i < stop then demandedState sectionStates i state else state)

def demandChanges (st : ClientState) (sectionStates : List Bool) (sect : Nat) : Bool :=
  sect < st.numberOfSections &&
    demandedState sectionStates sect (st.getSectionSetpointState sect) !=
      st.getSectionSetpointState sect

def blockChanges (st : ClientState) (sectionStates : List Bool) (block : Nat) : Bool :=
  (List.range 16).any fun i => st.demandChanges sectionStates (16 * block + i)

def numberOfBlocks (st : ClientState) : Nat := (st.numberOfSections + 15) / 16

/-- The client when the blocks up to `block` have the new setpoints. -/
def throughBlock (st : ClientState) (sectionStates : List Bool) (block : Nat) : ClientState :=
  st.applyDemand sectionStates (16 * (block + 1))

/-- The recorded work state setpoint before the block is sent. -/
def workStateBefore (st : ClientState) (sectionStates : List Bool) : Nat → Bool
  | 0 => st.setpointWorkState
  | block + 1 =>
      if st.blockChanges sectionStates block then
        (((st.throughBlock sectionStates block).setSetpointWorkState
          (workStateBefore st sectionStates block)).sendSectionSetpointStates block).1.setpointWorkState
      else workStateBefore st sectionStates block

def blockCommands (st : ClientState) (sectionStates : List Bool) (block : Nat) : List Command :=
  if st.blockChanges sectionStates block then
    (((st.throughBlock sectionStates block).setSetpointWorkState
      (st.workStateBefore sectionStates block)).sendSectionSetpointStates block).2
  else []

variable {st : ClientState} {sectionStates : List Bool}

theorem getSectionSetpointState_applyDemand (stop sect : Nat) :
    (st.applyDemand sectionStates stop).getSectionSetpointState sect =
      if sect < stop ∧ sect < st.numberOfSections then
        demandedState sectionStates sect (st.getSectionSetpointState sect)
      else st.getSectionSetpointState sect := by
  by_cases hsect : sect < st.numberOfSections
  · refine (@getSectionSetpointState_of_lt (st.applyDemand sectionStates stop) sect hsect).trans ?_
    refine (Vector.getElem_mapIdx hsect).trans ?_
    simp only [getSectionSetpointState_of_lt hsect, hsect, and_true]
  · rw [getSectionSetpointState_of_le (Nat.le_of_not_lt hsect), if_neg (by omega)]
    exact @getSectionSetpointState_of_le (st.applyDemand sectionStates stop) sect
      (Nat.le_of_not_lt hsect)

theorem applyDemand_congr {stop stop' : Nat}
    (h : ∀ sect < st.numberOfSections, (sect < stop ↔ sect < stop') ∨
      st.demandChanges sectionStates sect = false) :
    st.applyDemand sectionStates stop = st.applyDemand sectionStates stop' := by
  rw [applyDemand, applyDemand]
  congr 1
  apply Vector.ext
  intro sect hsect
  simp only [Vector.getElem_mapIdx]
  rcases h sect hsect with hiff | hsame
  · simp only [hiff]
  · have hstate : demandedState sectionStates sect st.sectionSetpointStates[sect] =
        st.sectionSetpointStates[sect] := by
      simpa [demandChanges, hsect, getSectionSetpointState_of_lt hsect] using hsame
    simp only [hstate, ite_self]

private theorem applyDemand_zero : st.applyDemand sectionStates 0 = st := by
  have hvector : (st.sectionSetpointStates.mapIdx fun i state =>
      if i < 0 then demandedState sectionStates i state else state) = st.sectionSetpointStates := by
    apply Vector.ext
    intro sect hsect
    simp
  rw [applyDemand, hvector]
  rfl

private theorem setSectionSetpointState_applyDemand {sect : Nat}
    (hsect : sect < st.numberOfSections)
    (workState : Bool) :
    ((st.applyDemand sectionStates sect).setSetpointWorkState workState).setSectionSetpointState sect
        (demandedState sectionStates sect (st.getSectionSetpointState sect)) =
      (st.applyDemand sectionStates (sect + 1)).setSetpointWorkState workState := by
  have hvector : (st.sectionSetpointStates.mapIdx fun i old =>
        if i < sect then demandedState sectionStates i old else old).setIfInBounds sect
          (demandedState sectionStates sect (st.getSectionSetpointState sect)) =
      st.sectionSetpointStates.mapIdx fun i old =>
        if i < sect + 1 then demandedState sectionStates i old else old := by
    apply Vector.ext
    intro i hi
    rw [Vector.getElem_setIfInBounds]
    by_cases heq : sect = i
    · subst heq
      simp [getSectionSetpointState_of_lt hsect]
    · have hlt : i < sect ↔ i < sect + 1 := by omega
      simp [heq, hlt]
  exact congrArg (fun v => (st.setSetpoints v).setSetpointWorkState workState) hvector

private theorem applyDemand_succ_of_same {sect : Nat}
    (hsame : demandedState sectionStates sect (st.getSectionSetpointState sect) =
      st.getSectionSetpointState sect) :
    st.applyDemand sectionStates (sect + 1) = st.applyDemand sectionStates sect := by
  apply applyDemand_congr
  intro i _
  by_cases heq : i = sect
  · right
    simp [demandChanges, heq, hsame]
  · left
    omega

private theorem touchSection_applyDemand {sect : Nat} (hsect : sect < st.numberOfSections)
    (workState : Bool) (sent : List Command) :
    touchSection sectionStates sect
        ((st.applyDemand sectionStates sect).setSetpointWorkState workState, sent) =
      (((st.applyDemand sectionStates (sect + 1)).setSetpointWorkState workState, sent),
        st.demandChanges sectionStates sect) := by
  have hget : ((st.applyDemand sectionStates sect).setSetpointWorkState
      workState).getSectionSetpointState sect = st.getSectionSetpointState sect := by
    refine (getSectionSetpointState_applyDemand sect sect).trans ?_
    rw [if_neg (by omega)]
  have hnext := @setSectionSetpointState_applyDemand st sectionStates sect hsect workState
  have hsame := @applyDemand_succ_of_same st sectionStates sect
  rw [touchSection, demandChanges, hget]
  cases hdemand : sectionStates[sect]? with
  | none =>
      have hstate : demandedState sectionStates sect (st.getSectionSetpointState sect) =
          st.getSectionSetpointState sect := by simp [demandedState, hdemand]
      simp [hsame hstate, hstate]
  | some demand =>
      cases demand with
      | true =>
          have hstate : demandedState sectionStates sect (st.getSectionSetpointState sect) = .on := by
            simp [demandedState, hdemand]
          by_cases hon : st.getSectionSetpointState sect = .on
          · rw [hstate, hsame (hstate.trans hon.symm)]
            simp [hon]
          · rw [hstate] at hnext
            simp [hnext, hstate, hon, hsect, Ne.symm hon]
      | false =>
          by_cases hon : st.getSectionSetpointState sect = .on
          · have hstate : demandedState sectionStates sect (st.getSectionSetpointState sect) =
                .off := by simp [demandedState, hdemand, hon]
            rw [hstate] at hnext
            rw [hstate]
            simp [hnext, hon, hsect]
          · have hstate : demandedState sectionStates sect (st.getSectionSetpointState sect) =
                st.getSectionSetpointState sect := by simp [demandedState, hdemand, hon]
            simp [hsame hstate, hstate, hon]

private theorem touches_applyDemand {start count : Nat}
    (hcount : start + count ≤ st.numberOfSections)
    (workState : Bool) (sent : List Command) :
    (setpointLoop sectionStates).touches start count
        ((st.applyDemand sectionStates start).setSetpointWorkState workState, sent) =
      (((st.applyDemand sectionStates (start + count)).setSetpointWorkState workState, sent),
        (List.range count).any fun i => st.demandChanges sectionStates (start + i)) := by
  induction count with
  | zero => simp
  | succ count ih =>
      rw [BlockLoop.touches_succ, ih (by omega), BlockLoop.touchAt]
      have hsect : start + count < st.numberOfSections := by omega
      have htouch : (setpointLoop sectionStates).touch (start + count)
          ((st.applyDemand sectionStates (start + count)).setSetpointWorkState workState, sent) =
            (((st.applyDemand sectionStates (start + count + 1)).setSetpointWorkState workState, sent),
              st.demandChanges sectionStates (start + count)) :=
        touchSection_applyDemand hsect workState sent
      rw [htouch, List.range_succ, List.any_append]
      simp [Nat.add_assoc]

private theorem sendSetpointWorkState_fst :
    st.sendSetpointWorkState.1 =
      st.setSetpointWorkState st.sendSetpointWorkState.1.setpointWorkState := by
  rw [sendSetpointWorkState]
  split <;> rfl

private theorem sendSectionSetpointStates_fst (ddiOffset : Nat) :
    (st.sendSectionSetpointStates ddiOffset).1 =
      st.setSetpointWorkState (st.sendSectionSetpointStates ddiOffset).1.setpointWorkState := by
  rw [sendSectionSetpointStates]
  split
  · exact sendSetpointWorkState_fst
  · split
    · split <;> rfl
    · split
      · exact sendSetpointWorkState_fst
      · rfl

theorem workStateBefore_succ (block : Nat) :
    st.workStateBefore sectionStates (block + 1) =
      if st.blockChanges sectionStates block then
        (((st.throughBlock sectionStates block).setSetpointWorkState
          (st.workStateBefore sectionStates block)).sendSectionSetpointStates block).1.setpointWorkState
      else st.workStateBefore sectionStates block := rfl

private theorem setpointLoop_block {block : Nat} (hblock : 16 * block ≤ st.numberOfSections)
    (sent : List Command) :
    (setpointLoop sectionStates).block st.numberOfSections
        ((st.applyDemand sectionStates (16 * block)).setSetpointWorkState
          (st.workStateBefore sectionStates block), sent) block =
      ((st.applyDemand sectionStates (16 * (block + 1))).setSetpointWorkState
          (st.workStateBefore sectionStates (block + 1)),
        sent ++ st.blockCommands sectionStates block) := by
  have hinside : 16 * block + min 16 (st.numberOfSections - 16 * block) ≤ st.numberOfSections := by
    omega
  have hend : st.applyDemand sectionStates
        (16 * block + min 16 (st.numberOfSections - 16 * block)) =
      st.throughBlock sectionStates block := by
    apply applyDemand_congr
    intro sect hsect
    left
    omega
  have hchanges : ((List.range (min 16 (st.numberOfSections - 16 * block))).any fun i =>
      st.demandChanges sectionStates (16 * block + i)) = st.blockChanges sectionStates block := by
    rw [Bool.eq_iff_iff, blockChanges, List.any_eq_true, List.any_eq_true]
    constructor
    · intro h
      obtain ⟨i, hi, hchange⟩ := h
      rw [List.mem_range] at hi
      exact ⟨i, List.mem_range.mpr (by omega), hchange⟩
    · intro h
      obtain ⟨i, hi, hchange⟩ := h
      have hsect : 16 * block + i < st.numberOfSections := by
        rw [demandChanges, Bool.and_eq_true, decide_eq_true_eq] at hchange
        exact hchange.1
      rw [List.mem_range] at hi
      exact ⟨i, List.mem_range.mpr (by omega), hchange⟩
  rw [BlockLoop.block, show (setpointLoop sectionStates).size = 16 from rfl,
    touches_applyDemand hinside, hend, hchanges, BlockLoop.flushIf, workStateBefore_succ, blockCommands]
  cases st.blockChanges sectionStates block with
  | false => simp [throughBlock]
  | true =>
      rw [if_pos rfl, if_pos rfl, if_pos rfl]
      refine Prod.ext ?_ rfl
      exact (sendSectionSetpointStates_fst block).trans rfl

private theorem setpointLoop_blocks {count : Nat} (hcount : 16 * count < st.numberOfSections + 16) :
    (setpointLoop sectionStates).blocks st.numberOfSections count (st, []) =
      ((st.applyDemand sectionStates (16 * count)).setSetpointWorkState
          (st.workStateBefore sectionStates count),
        (List.range count).flatMap (st.blockCommands sectionStates)) := by
  induction count with
  | zero =>
      rw [BlockLoop.blocks_zero, Nat.mul_zero, applyDemand_zero]
      rfl
  | succ count ih =>
      rw [BlockLoop.blocks_succ, ih (by omega), setpointLoop_block (by omega), List.range_succ,
        List.flatMap_append, List.flatMap_singleton]

/-- `update_section_states` for one client in automatic mode: every setpoint follows the demand,
and the blocks that change are sent in ascending order. -/
theorem updateSectionStates_eq (henabled : st.isSectionControlEnabled = true)
    (hsections : st.numberOfSections ≠ 0) :
    st.updateSectionStates sectionStates =
      ((st.applyDemand sectionStates st.numberOfSections).setSetpointWorkState
          (st.workStateBefore sectionStates st.numberOfBlocks),
        (List.range st.numberOfBlocks).flatMap (st.blockCommands sectionStates)) := by
  have hall : st.applyDemand sectionStates (16 * st.numberOfBlocks) =
      st.applyDemand sectionStates st.numberOfSections := by
    apply applyDemand_congr
    intro sect hsect
    left
    rw [numberOfBlocks]
    omega
  rw [updateSectionStates, henabled, Bool.not_true, if_neg Bool.false_ne_true, if_neg hsections,
    BlockLoop.run_eq_blocks (Nat.succ_pos 15)]
  have hcount : 16 * st.numberOfBlocks < st.numberOfSections + 16 := by
    rw [numberOfBlocks]
    omega
  refine (setpointLoop_blocks hcount).trans ?_
  rw [hall]

theorem demandChanges_iff {sect : Nat} :
    st.demandChanges sectionStates sect = true ↔
      sect < st.numberOfSections ∧
        (st.applyDemand sectionStates st.numberOfSections).getSectionSetpointState sect ≠
          st.getSectionSetpointState sect := by
  rw [demandChanges, Bool.and_eq_true, decide_eq_true_eq, bne_iff_ne,
    getSectionSetpointState_applyDemand]
  constructor
  · intro h
    rwa [if_pos ⟨h.1, h.1⟩]
  · intro h
    rwa [if_pos ⟨h.1, h.1⟩] at h

theorem blockChanges_iff {block : Nat} :
    st.blockChanges sectionStates block = true ↔
      ∃ sect, sect / 16 = block ∧ st.demandChanges sectionStates sect = true := by
  rw [blockChanges, List.any_eq_true]
  constructor
  · intro h
    obtain ⟨i, hi, hchange⟩ := h
    rw [List.mem_range] at hi
    exact ⟨16 * block + i, by omega, hchange⟩
  · intro h
    obtain ⟨sect, hsect, hchange⟩ := h
    refine ⟨sect - 16 * block, List.mem_range.mpr (by omega), ?_⟩
    rwa [show 16 * block + (sect - 16 * block) = sect by omega]

theorem lt_numberOfBlocks_of_blockChanges {block : Nat}
    (h : st.blockChanges sectionStates block = true) : block < st.numberOfBlocks := by
  obtain ⟨sect, hblock, hchange⟩ := blockChanges_iff.mp h
  have hsect := (demandChanges_iff.mp hchange).1
  rw [numberOfBlocks]
  omega

theorem lt_sixteen_of_lt_numberOfBlocks {block : Nat} (hblock : block < st.numberOfBlocks) :
    block < 16 := by
  have hlt := st.numberOfSections_lt
  rw [numberOfBlocks] at hblock
  omega

theorem condensedValue_eq {block : Nat} (hblock : block < 16) :
    st.condensedValue block =
      packFields 32 (fun i => (st.getSectionSetpointState (16 * block + i)).bits) 16 := by
  apply packFields_congr
  intro i hi
  rw [show (block * 16 % 256 + i) % 256 = 16 * block + i by omega]

theorem readField_condensedValue {block i : Nat} (hblock : block < 16) (hi : i < 16) :
    SectionState.ofBits (readField 2 (st.condensedValue block) i) =
      st.getSectionSetpointState (16 * block + i) := by
  rw [condensedValue_eq hblock, readField_packFields _ hi (by decide), SectionState.ofBits_bits]

/-- When a block is sent, its own setpoints are the final ones. -/
private theorem condensedValue_throughBlock {block : Nat} (hblock : block < 16) :
    (st.throughBlock sectionStates block).condensedValue block =
      (st.applyDemand sectionStates st.numberOfSections).condensedValue block := by
  rw [condensedValue_eq hblock, condensedValue_eq hblock]
  apply packFields_congr
  intro i hi
  rw [throughBlock, getSectionSetpointState_applyDemand, getSectionSetpointState_applyDemand]
  have hbelow : 16 * block + i < 16 * (block + 1) := by omega
  simp only [hbelow, true_and, and_self]

theorem sendSectionSetpointStates_of_mapped {ddiOffset : Nat}
    (hmapped : st.hasElementNumberForDdi (Ddi.setpointCondensedWorkState1_16 + ddiOffset) = true) :
    st.sendSectionSetpointStates ddiOffset =
      (st.sendSetpointWorkState.1,
        .setValue (Ddi.setpointCondensedWorkState1_16 + ddiOffset)
          (st.getElementNumberForDdi (Ddi.setpointCondensedWorkState1_16 + ddiOffset))
          (st.condensedValue ddiOffset) :: st.sendSetpointWorkState.2) := by
  simp [sendSectionSetpointStates, hmapped]

theorem mem_sendSetpointWorkState {command : Command} (h : command ∈ st.sendSetpointWorkState.2) :
    ∃ element value, command = .setValue Ddi.setpointWorkState element value := by
  rw [sendSetpointWorkState] at h
  split at h
  · exact ⟨_, _, List.mem_singleton.mp h⟩
  · cases h

private theorem isCondensedSetpoint_setValue {block element : Nat} {value : BitVec 32}
    (hblock : block < 16) :
    (Command.setValue (Ddi.setpointCondensedWorkState1_16 + block) element
      value).isCondensedSetpoint = true :=
  Ddi.isSetpointCondensed_add hblock

def condensedCommand (st : ClientState) (sectionStates : List Bool) (block : Nat) : Command :=
  .setValue (Ddi.setpointCondensedWorkState1_16 + block)
    (st.getElementNumberForDdi (Ddi.setpointCondensedWorkState1_16 + block))
    ((st.applyDemand sectionStates st.numberOfSections).condensedValue block)

theorem blockCommands_of_mapped {block : Nat} (hblock : block < 16)
    (hmapped : st.hasElementNumberForDdi (Ddi.setpointCondensedWorkState1_16 + block) = true) :
    st.blockCommands sectionStates block =
      if st.blockChanges sectionStates block then
        st.condensedCommand sectionStates block ::
          (((st.throughBlock sectionStates block).setSetpointWorkState
            (st.workStateBefore sectionStates block)).sendSetpointWorkState).2
      else [] := by
  rw [blockCommands]
  cases st.blockChanges sectionStates block with
  | false => rfl
  | true =>
      have hsend := @sendSectionSetpointStates_of_mapped
        ((st.throughBlock sectionStates block).setSetpointWorkState
          (st.workStateBefore sectionStates block)) block hmapped
      rw [if_pos rfl, if_pos rfl, hsend, condensedCommand, ← condensedValue_throughBlock hblock]
      rfl

theorem sendSetpointWorkState_of_mapped
    (hmapped : st.hasElementNumberForDdi Ddi.setpointWorkState = true) :
    st.sendSetpointWorkState.1.setpointWorkState = st.isAnySectionSetpointOn := by
  rw [sendSetpointWorkState]
  by_cases hchange : st.setpointWorkState = st.isAnySectionSetpointOn
  · simp [hchange]
  · simp [hchange, hmapped, setSetpointWorkState]

private theorem throughBlock_of_unchanged {block : Nat}
    (hsame : st.blockChanges sectionStates block = false) :
    st.throughBlock sectionStates block = st.applyDemand sectionStates (16 * block) := by
  apply applyDemand_congr
  intro sect _
  by_cases hblock : sect / 16 = block
  · right
    by_contra hchange
    have hchanges := blockChanges_iff.mpr ⟨sect, hblock, Bool.not_eq_false _ ▸ hchange⟩
    simp [hsame] at hchanges
  · left
    omega

section Mapped

variable (hmapped : ∀ block < st.numberOfBlocks,
  st.hasElementNumberForDdi (Ddi.setpointCondensedWorkState1_16 + block) = true)

include hmapped

theorem workStateBefore_eq (hwork : st.hasElementNumberForDdi Ddi.setpointWorkState = true)
    (hrecorded : st.setpointWorkState = st.isAnySectionSetpointOn) {block : Nat}
    (hblock : block ≤ st.numberOfBlocks) :
    st.workStateBefore sectionStates block =
      (st.applyDemand sectionStates (16 * block)).isAnySectionSetpointOn := by
  induction block with
  | zero => rw [workStateBefore, hrecorded, Nat.mul_zero, applyDemand_zero]
  | succ block ih =>
      rw [workStateBefore_succ]
      cases hchanges : st.blockChanges sectionStates block with
      | false =>
          have hthrough := throughBlock_of_unchanged hchanges
          rw [throughBlock] at hthrough
          rw [if_neg Bool.false_ne_true, ih (Nat.le_of_succ_le hblock), hthrough]
      | true =>
          have hsend := @sendSectionSetpointStates_of_mapped
            ((st.throughBlock sectionStates block).setSetpointWorkState
              (st.workStateBefore sectionStates block)) block (hmapped block hblock)
          rw [if_pos rfl, hsend]
          exact @sendSetpointWorkState_of_mapped ((st.throughBlock sectionStates
            block).setSetpointWorkState (st.workStateBefore sectionStates block)) hwork

theorem filter_condensed_blockCommands {count : Nat} (hcount : count ≤ st.numberOfBlocks) :
    ((List.range count).flatMap (st.blockCommands sectionStates)).filter
        Command.isCondensedSetpoint =
      ((List.range count).filter (st.blockChanges sectionStates)).map
        (st.condensedCommand sectionStates) := by
  induction count with
  | zero => rfl
  | succ count ih =>
      have hlt : count < 16 := lt_sixteen_of_lt_numberOfBlocks hcount
      have hcondensed : (st.condensedCommand sectionStates count).isCondensedSetpoint = true :=
        isCondensedSetpoint_setValue hlt
      have hwork (x : ClientState) :
          x.sendSetpointWorkState.2.filter Command.isCondensedSetpoint = [] := by
        rw [List.filter_eq_nil_iff]
        intro command hcommand
        obtain ⟨element, value, rfl⟩ := mem_sendSetpointWorkState hcommand
        exact Bool.false_ne_true
      rw [List.range_succ, List.flatMap_append, List.filter_append, ih (Nat.le_of_succ_le hcount),
        List.flatMap_singleton, blockCommands_of_mapped hlt (hmapped count hcount),
        List.filter_append, List.map_append]
      cases hchanges : st.blockChanges sectionStates count with
      | false => simp [hchanges]
      | true => simp [hchanges, hcondensed, hwork]

theorem mem_blockCommands {block : Nat} (hblock : block < st.numberOfBlocks) {command : Command}
    (h : command ∈ st.blockCommands sectionStates block) :
    command.isCondensedSetpoint = true ∨
      ∃ element value, command = .setValue Ddi.setpointWorkState element value := by
  have hlt : block < 16 := lt_sixteen_of_lt_numberOfBlocks hblock
  rw [blockCommands_of_mapped hlt (hmapped block hblock)] at h
  split at h
  · rcases List.mem_cons.mp h with rfl | h
    · exact .inl (isCondensedSetpoint_setValue hlt)
    · exact .inr (mem_sendSetpointWorkState h)
  · cases h

end Mapped

private theorem updateSectionStates_of_disabled (hdisabled : st.isSectionControlEnabled = false) :
    st.updateSectionStates sectionStates = (st, []) := by
  simp [updateSectionStates, hdisabled]

private theorem updateSectionStates_of_no_sections (hsections : st.numberOfSections = 0) :
    st.updateSectionStates sectionStates = (st, []) := by
  simp [updateSectionStates, hsections]

theorem updateSectionStates_of_idle
    (hidle : ¬ (st.isSectionControlEnabled = true ∧ st.numberOfSections ≠ 0)) :
    st.updateSectionStates sectionStates = (st, []) := by
  cases henabled : st.isSectionControlEnabled with
  | false => exact updateSectionStates_of_disabled henabled
  | true =>
      have hsections : st.numberOfSections = 0 := by
        by_contra hne
        exact hidle ⟨henabled, hne⟩
      exact updateSectionStates_of_no_sections hsections

end ClientState

end AogTaskController.TaskController
