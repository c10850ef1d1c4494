import AogTaskController.Framework.Edges
import AogTaskController.TaskController.MeasurementCommands
import AogTaskController.TaskController.Activation
import AogTaskController.TaskController.SetpointUpdate

/-!
# Work state pulses

While `update_section_states` sends block after block, the work state setpoint follows the sections
as far as they are updated. When the sections that were on are switched off in an earlier block
than those that come on, this switches the whole implement off and on again.
-/

namespace AogTaskController.TaskController

open Framework

def workStateMessages (sent : List Command) : List (BitVec 32) :=
  sent.filterMap fun
    | .setValue ddi _ value => if ddi = Ddi.setpointWorkState then some value else none
    | _ => none

def workStateValue (state : Bool) : BitVec 32 := if state then 1 else 0

namespace ClientState

def DemandedOn (st : ClientState) (sectionStates : List Bool) (sect : Nat) : Prop :=
  sect < st.numberOfSections ∧
    demandedState sectionStates sect (st.getSectionSetpointState sect) = .on

/-- The demand changes a block that is sent as a condensed message, with every section that was on
in this block or before and every section that stays or comes on behind it. -/
def SwitchesOver (st : ClientState) (sectionStates : List Bool) (block : Nat) : Prop :=
  st.hasElementNumberForDdi (Ddi.setpointCondensedWorkState1_16 + block) = true ∧
    st.blockChanges sectionStates block = true ∧
    (∀ sect, st.getSectionSetpointState sect = .on → sect < 16 * (block + 1)) ∧
    ∀ sect, st.DemandedOn sectionStates sect → 16 * (block + 1) ≤ sect

/-- A call of `update_section_states` sends at most one work state setpoint, and does not switch
the implement off while it has sections on before and after. -/
structure NoPulse (st : ClientState) (sectionStates : List Bool) : Prop where
  atMostOne : (workStateMessages (st.updateSectionStates sectionStates).2).length ≤ 1
  staysOn : st.isAnySectionSetpointOn = true →
    (st.updateSectionStates sectionStates).1.isAnySectionSetpointOn = true →
    (0 : BitVec 32) ∉ workStateMessages (st.updateSectionStates sectionStates).2

variable {st : ClientState} {sectionStates : List Bool}

private theorem isAnySectionSetpointOn_applyDemand (stop : Nat) :
    (st.applyDemand sectionStates stop).isAnySectionSetpointOn = true ↔
      (∃ sect < stop, st.DemandedOn sectionStates sect) ∨
        ∃ sect, stop ≤ sect ∧ st.getSectionSetpointState sect = .on := by
  rw [isAnySectionSetpointOn_iff]
  simp only [getSectionSetpointState_applyDemand, DemandedOn]
  constructor
  · intro h
    obtain ⟨sect, hon⟩ := h
    split at hon
    next hsect => exact .inl ⟨sect, hsect.1, hsect.2, hon⟩
    next hsect =>
      have hlt : sect < st.numberOfSections := by
        by_contra hnot
        rw [getSectionSetpointState_of_le (Nat.le_of_not_lt hnot)] at hon
        cases hon
      exact .inr ⟨sect, by omega, hon⟩
  · intro h
    rcases h with ⟨sect, hstop, hsect, hon⟩ | ⟨sect, hstop, hon⟩
    · exact ⟨sect, by rwa [if_pos ⟨hstop, hsect⟩]⟩
    · exact ⟨sect, by rwa [if_neg (by omega)]⟩

def isSent (st : ClientState) (sectionStates : List Bool) (block : Nat) : Bool :=
  st.blockChanges sectionStates block &&
    st.hasElementNumberForDdi (Ddi.setpointCondensedWorkState1_16 + block)

def workStates (st : ClientState) (sectionStates : List Bool) (count : Nat) : List Bool :=
  ((List.range count).filter (st.isSent sectionStates)).map fun block =>
    (st.throughBlock sectionStates block).isAnySectionSetpointOn

private theorem workStates_succ (count : Nat) :
    st.workStates sectionStates (count + 1) = st.workStates sectionStates count ++
      if st.isSent sectionStates count then
        [(st.throughBlock sectionStates count).isAnySectionSetpointOn]
      else [] := by
  rw [workStates, List.range_succ, List.filter_append, List.map_append, ← workStates]
  cases hsent : st.isSent sectionStates count with
  | true => simp [hsent]
  | false => simp [hsent]

private theorem workStateMessages_append (sent sent' : List Command) :
    workStateMessages (sent ++ sent') = workStateMessages sent ++ workStateMessages sent' := by
  rw [workStateMessages, List.filterMap_append]
  rfl

private theorem sendSetpointWorkState_of_work
    (hwork : st.hasElementNumberForDdi Ddi.setpointWorkState = true) :
    st.sendSetpointWorkState.1.setpointWorkState = st.isAnySectionSetpointOn ∧
      workStateMessages st.sendSetpointWorkState.2 =
        if st.isAnySectionSetpointOn = st.setpointWorkState then []
        else [workStateValue st.isAnySectionSetpointOn] := by
  refine ⟨sendSetpointWorkState_of_mapped hwork, ?_⟩
  rw [sendSetpointWorkState]
  by_cases hsame : st.isAnySectionSetpointOn = st.setpointWorkState
  · simp [hsame, workStateMessages]
  · simp [hsame, Ne.symm hsame, hwork, workStateMessages, workStateValue]

section Mapped

variable (hper : st.usesPerElementControl = false)
  (hwork : st.hasElementNumberForDdi Ddi.setpointWorkState = true)

include hper hwork

private theorem sendSectionSetpointStates_workState {block : Nat} (hblock : block < 16) :
    (st.sendSectionSetpointStates block).1.setpointWorkState =
        (if st.hasElementNumberForDdi (Ddi.setpointCondensedWorkState1_16 + block) then
          st.isAnySectionSetpointOn else st.setpointWorkState) ∧
      workStateMessages (st.sendSectionSetpointStates block).2 =
        if st.hasElementNumberForDdi (Ddi.setpointCondensedWorkState1_16 + block) = true ∧
          st.isAnySectionSetpointOn ≠ st.setpointWorkState then
          [workStateValue st.isAnySectionSetpointOn] else [] := by
  have hcondensed := (@Ddi.ne_setpointCondensed Ddi.setpointWorkState rfl block hblock).symm
  have hlegacy := (@Ddi.ne_actualCondensed Ddi.setpointWorkState rfl block hblock).symm
  obtain ⟨hstate, hmessages⟩ := sendSetpointWorkState_of_work hwork
  cases hmapped : st.hasElementNumberForDdi (Ddi.setpointCondensedWorkState1_16 + block) with
  | true =>
      rw [sendSectionSetpointStates_of_mapped hmapped]
      refine ⟨hstate, ?_⟩
      have hcons (command : Command) (sent : List Command) :
          workStateMessages (command :: sent) =
            workStateMessages [command] ++ workStateMessages sent :=
        workStateMessages_append [command] sent
      rw [hcons, hmessages]
      by_cases hsame : st.isAnySectionSetpointOn = st.setpointWorkState
      · simp [workStateMessages, hcondensed, hsame]
      · simp [workStateMessages, hcondensed, hsame]
  | false =>
      rw [sendSectionSetpointStates, hmapped, hper]
      by_cases hold : st.hasElementNumberForDdi (Ddi.actualCondensedWorkState1_16 + block) = true
      · by_cases hsettable : st.pool.isDdiSettable (Ddi.actualCondensedWorkState1_16 + block) = true
        · simp [hold, hsettable, workStateMessages, hlegacy]
        · simp [hold, hsettable, workStateMessages]
      · simp [hold, workStateMessages]

/-- The work state setpoints that are sent are the edges of those that the blocks ask for. -/
private theorem workStateMessages_blocks {count : Nat} (hcount : count ≤ st.numberOfBlocks) :
    st.workStateBefore sectionStates count =
        lastSent st.setpointWorkState (st.workStates sectionStates count) ∧
      workStateMessages ((List.range count).flatMap (st.blockCommands sectionStates)) =
        (edges st.setpointWorkState (st.workStates sectionStates count)).map workStateValue := by
  induction count with
  | zero => exact ⟨rfl, rfl⟩
  | succ count ih =>
      obtain ⟨hbefore, hmessages⟩ := ih (Nat.le_of_succ_le hcount)
      have hlt : count < 16 := lt_sixteen_of_lt_numberOfBlocks hcount
      obtain ⟨hstate, hsent⟩ := @sendSectionSetpointStates_workState
        ((st.throughBlock sectionStates count).setSetpointWorkState
          (st.workStateBefore sectionStates count)) hper hwork count hlt
      have hsame : ((st.throughBlock sectionStates count).setSetpointWorkState
          (st.workStateBefore sectionStates count)).isAnySectionSetpointOn =
            (st.throughBlock sectionStates count).isAnySectionSetpointOn := rfl
      have hhas : ((st.throughBlock sectionStates count).setSetpointWorkState
          (st.workStateBefore sectionStates count)).hasElementNumberForDdi
            (Ddi.setpointCondensedWorkState1_16 + count) =
          st.hasElementNumberForDdi (Ddi.setpointCondensedWorkState1_16 + count) := rfl
      have hold : ((st.throughBlock sectionStates count).setSetpointWorkState
          (st.workStateBefore sectionStates count)).setpointWorkState =
            st.workStateBefore sectionStates count := rfl
      rw [hsame, hhas, hold] at hstate hsent
      rw [workStateBefore_succ, List.range_succ, List.flatMap_append, workStateMessages_append,
        hmessages, List.flatMap_singleton, blockCommands, hstate]
      rw [workStates_succ, isSent]
      cases st.blockChanges sectionStates count with
      | false =>
          simp only [Bool.false_and, Bool.false_eq_true, if_false, List.append_nil]
          exact ⟨hbefore, List.append_nil _⟩
      | true =>
          rw [if_pos rfl, if_pos rfl, hsent, Bool.true_and]
          cases st.hasElementNumberForDdi (Ddi.setpointCondensedWorkState1_16 + count) with
          | false =>
              simp only [Bool.false_eq_true, false_and, if_false, List.append_nil]
              exact ⟨hbefore, trivial⟩
          | true =>
              simp only [if_true, true_and, lastSent_concat, edges_concat, ← hbefore]
              by_cases heq : (st.throughBlock sectionStates count).isAnySectionSetpointOn =
                  st.workStateBefore sectionStates count
              · simp [heq]
              · simp [heq]

private theorem workStateMessages_updateSectionStates (sectionStates : List Bool)
    (henabled : st.isSectionControlEnabled = true) (hsections : st.numberOfSections ≠ 0) :
    workStateMessages (st.updateSectionStates sectionStates).2 =
      (edges st.setpointWorkState (st.workStates sectionStates st.numberOfBlocks)).map
        workStateValue := by
  rw [updateSectionStates_eq henabled hsections]
  exact (workStateMessages_blocks hper hwork le_rfl).2

end Mapped

private theorem mem_workStates {value : Bool} :
    value ∈ st.workStates sectionStates st.numberOfBlocks ↔
      ∃ block, st.isSent sectionStates block = true ∧
        (st.throughBlock sectionStates block).isAnySectionSetpointOn = value := by
  rw [workStates, List.mem_map]
  apply exists_congr
  intro block
  rw [List.mem_filter, List.mem_range]
  constructor
  · intro h
    exact ⟨h.1.2, h.2⟩
  · intro h
    refine ⟨⟨?_, h.1⟩, h.2⟩
    apply lt_numberOfBlocks_of_blockChanges
    exact (Bool.and_eq_true_iff.mp h.1).1

private theorem switchesOver_iff {block : Nat} :
    st.SwitchesOver sectionStates block ↔
      st.isSent sectionStates block = true ∧
        (st.throughBlock sectionStates block).isAnySectionSetpointOn = false := by
  have hnone : (st.throughBlock sectionStates block).isAnySectionSetpointOn = false ↔
      (∀ sect, st.getSectionSetpointState sect = .on → sect < 16 * (block + 1)) ∧
        ∀ sect, st.DemandedOn sectionStates sect → 16 * (block + 1) ≤ sect := by
    rw [← Bool.not_eq_true, throughBlock, isAnySectionSetpointOn_applyDemand, not_or]
    push Not
    constructor
    · intro h
      exact ⟨fun sect hon => Nat.lt_of_not_le fun hle => h.2 sect hle hon,
        fun sect hon => Nat.le_of_not_lt fun hlt => h.1 sect hlt hon⟩
    · intro h
      exact ⟨fun sect hlt hon => absurd (h.2 sect hon) (Nat.not_le_of_lt hlt),
        fun sect hle hon => absurd (h.1 sect hon) (Nat.not_lt_of_le hle)⟩
  rw [hnone, SwitchesOver, isSent, Bool.and_eq_true, and_assoc, and_left_comm]

private theorem exists_switchesOver_iff :
    (∃ block, st.SwitchesOver sectionStates block) ↔
      false ∈ st.workStates sectionStates st.numberOfBlocks := by
  rw [mem_workStates]
  exact exists_congr fun _ => switchesOver_iff

private theorem pairwise_workStates {R : Bool → Bool → Prop}
    (h : ∀ block block', block < block' →
      R (st.throughBlock sectionStates block).isAnySectionSetpointOn
        (st.throughBlock sectionStates block').isAnySectionSetpointOn) (count : Nat) :
    (st.workStates sectionStates count).Pairwise R := by
  rw [workStates, List.pairwise_map]
  exact (List.pairwise_lt_range.filter _).imp fun hlt => h _ _ hlt

private theorem pairwise_of_all_off (hoff : st.isAnySectionSetpointOn = false) (count : Nat) :
    (st.workStates sectionStates count).Pairwise fun a b => a ≠ false → b = a := by
  apply pairwise_workStates
  intro block block' hlt hon
  have hnone (sect : Nat) : st.getSectionSetpointState sect ≠ .on := fun h =>
    Bool.false_ne_true (hoff.symm.trans (isAnySectionSetpointOn_iff.mpr ⟨sect, h⟩))
  rw [ne_eq, Bool.not_eq_false] at hon
  rw [hon]
  rw [throughBlock, isAnySectionSetpointOn_applyDemand] at hon ⊢
  rcases hon with ⟨sect, hstop, hon⟩ | ⟨sect, _, hon⟩
  · exact .inl ⟨sect, by omega, hon⟩
  · exact absurd hon (hnone sect)

private theorem pairwise_of_none_demanded (hnone : ¬ ∃ sect, st.DemandedOn sectionStates sect)
    (count : Nat) :
    (st.workStates sectionStates count).Pairwise fun a b => a ≠ true → b = a := by
  apply pairwise_workStates
  intro block block' hlt hoff
  rw [Bool.eq_false_of_not_eq_true hoff, ← Bool.not_eq_true]
  intro hon
  apply hoff
  rw [throughBlock, isAnySectionSetpointOn_applyDemand] at hon ⊢
  rcases hon with ⟨sect, _, hon⟩ | ⟨sect, hstop, hon⟩
  · exact absurd ⟨sect, hon⟩ hnone
  · exact .inr ⟨sect, by omega, hon⟩

private theorem isAny_updateSectionStates (henabled : st.isSectionControlEnabled = true)
    (hsections : st.numberOfSections ≠ 0) :
    (st.updateSectionStates sectionStates).1.isAnySectionSetpointOn = true ↔
      ∃ sect, st.DemandedOn sectionStates sect := by
  rw [updateSectionStates_eq henabled hsections]
  refine isAnySectionSetpointOn_applyDemand _ |>.trans ?_
  constructor
  · intro h
    rcases h with ⟨sect, _, hon⟩ | ⟨sect, hbeyond, hon⟩
    · exact ⟨sect, hon⟩
    · rw [getSectionSetpointState_of_le hbeyond] at hon
      cases hon
  · intro h
    obtain ⟨sect, hon⟩ := h
    exact .inl ⟨sect, hon.1, hon⟩

private theorem noPulse_of_silent
    (h : workStateMessages (st.updateSectionStates sectionStates).2 = []) :
    st.NoPulse sectionStates where
  atMostOne := by
    rw [h]
    exact Nat.zero_le 1
  staysOn _ _ := by
    rw [h]
    exact List.not_mem_nil

/-- A client on condensed messages whose DDI 289 is mapped is never pulsed if and only if the
demand does not move what is on from one sent block to later ones. -/
theorem noPulse_iff (st : ClientState) (sectionStates : List Bool)
    (hper : st.usesPerElementControl = false)
    (hwork : st.hasElementNumberForDdi Ddi.setpointWorkState = true)
    (hrecorded : st.setpointWorkState = st.isAnySectionSetpointOn) :
    st.NoPulse sectionStates ↔
      ¬ (st.isSectionControlEnabled = true ∧ st.isAnySectionSetpointOn = true ∧
        (∃ sect, st.DemandedOn sectionStates sect) ∧ ∃ block, st.SwitchesOver sectionStates block) := by
  by_cases hactive : st.isSectionControlEnabled = true ∧ st.numberOfSections ≠ 0
  · obtain ⟨henabled, hsections⟩ := hactive
    have hmessages := workStateMessages_updateSectionStates hper hwork sectionStates henabled
      hsections
    rw [hrecorded] at hmessages
    have hafter : (st.updateSectionStates sectionStates).1.isAnySectionSetpointOn = true ↔
        ∃ sect, st.DemandedOn sectionStates sect := isAny_updateSectionStates henabled hsections
    have hzero (values : List Bool) :
        (0 : BitVec 32) ∈ values.map workStateValue ↔ false ∈ values := by
      simp [workStateValue]
    cases hbefore : st.isAnySectionSetpointOn with
    | false =>
        rw [hbefore] at hmessages
        refine iff_of_true ⟨?_, fun h => absurd (hbefore.symm.trans h) Bool.false_ne_true⟩
          fun h => Bool.false_ne_true h.2.1
        rw [hmessages, List.length_map]
        exact length_edges_le_one (pairwise_of_all_off hbefore _)
    | true =>
        rw [hbefore] at hmessages
        by_cases hdemanded : ∃ sect, st.DemandedOn sectionStates sect
        · have hcondition : (st.isSectionControlEnabled = true ∧ true = true ∧
              (∃ sect, st.DemandedOn sectionStates sect) ∧
                ∃ block, st.SwitchesOver sectionStates block) ↔
              false ∈ st.workStates sectionStates st.numberOfBlocks := by
            rw [exists_switchesOver_iff]
            exact ⟨fun h => h.2.2.2, fun h => ⟨henabled, rfl, hdemanded, h⟩⟩
          rw [hcondition]
          constructor
          · intro h hmem
            apply h.staysOn hbefore (hafter.mpr hdemanded)
            rw [hmessages, hzero, mem_edges Bool.false_ne_true]
            exact hmem
          · intro h
            have hall (value : Bool)
                (hvalue : value ∈ st.workStates sectionStates st.numberOfBlocks) : value = true := by
              by_contra hnot
              rw [Bool.eq_false_of_not_eq_true hnot] at hvalue
              exact h hvalue
            apply noPulse_of_silent
            rw [hmessages, edges_eq_nil hall, List.map_nil]
        · refine iff_of_true ⟨?_, fun _ h => absurd (hafter.mp h) hdemanded⟩
            fun h => hdemanded h.2.2.1
          rw [hmessages, List.length_map]
          exact length_edges_le_one (pairwise_of_none_demanded hdemanded _)
  · have hnothing : st.updateSectionStates sectionStates = (st, []) :=
      updateSectionStates_of_idle hactive
    refine iff_of_true (noPulse_of_silent ?_) ?_
    · rw [hnothing]
      rfl
    · intro h
      obtain ⟨henabled, _, ⟨sect, hsect, _⟩, _⟩ := h
      exact hactive ⟨henabled, Nat.ne_of_gt (Nat.zero_lt_of_lt hsect)⟩

def firstSectionOn : ClientState :=
  ((((IsobusStack.ofPool condensedPool ((List.range 32).map (· + 1))).newClientState
    condensedPool).requestMeasurementCommands.1.updateSectionControlEnabled true).1.updateSectionStates
      [true]).1

theorem noPulse_all_off : firstSectionOn.NoPulse (List.replicate 64 false) := by
  have hcondition := (noPulse_iff firstSectionOn (List.replicate 64 false) (by decide +kernel)
    (by decide +kernel) (by decide +kernel)).mpr
  apply hcondition
  intro h
  obtain ⟨_, _, ⟨sect, hsect, hon⟩, _⟩ := h
  have hlt : sect < 64 := Nat.lt_trans hsect (by decide +kernel)
  rw [demandedState, List.getElem?_replicate, if_pos hlt] at hon
  by_cases hstate : firstSectionOn.getSectionSetpointState sect = .on
  · cases (if_pos hstate).symm.trans hon
  · exact hstate ((if_neg hstate).symm.trans hon)

/-- Section 0 goes off and section 16 comes on: the implement is switched off and on again. -/
theorem pulse_on_switching_over :
    ¬ ∀ (st : ClientState) (sectionStates : List Bool),
      st.pool.sectionControlMethod = .condensedSetpoint → st.usesPerElementControl = false →
      st.hasElementNumberForDdi Ddi.setpointWorkState = true →
      st.setpointWorkState = st.isAnySectionSetpointOn → st.NoPulse sectionStates := by
  intro h
  have hpulse := (h firstSectionOn (List.replicate 16 false ++ [true]) (by decide +kernel)
    (by decide +kernel) (by decide +kernel) (by decide +kernel)).atMostOne
  revert hpulse
  decide +kernel

end ClientState

end AogTaskController.TaskController
