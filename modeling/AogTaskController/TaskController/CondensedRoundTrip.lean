import AogTaskController.TaskController.ActualStates

/-!
# Condensed work states, there and back

A client that reports the condensed setpoint message back as its condensed actual state has the
setpoints of that block for actual states. Both directions compute the section of a field in eight
bits; sixteen blocks of sixteen fields are just as many sections as eight bits count.
-/

namespace AogTaskController.TaskController

open Framework

namespace ClientState

/-- The entry of a section, if it has one, before any element has a say in it. -/
def storedActualState (st : ClientState) (sect : Nat) : Option SectionState :=
  st.sectionActualStates[sect]?

private theorem storedActualState_setSectionActualState (st : ClientState) (i : Nat)
    (state : SectionState)
    (sect : Nat) :
    (st.setSectionActualState i state).storedActualState sect =
      if i = sect ∧ sect < st.numberOfSections then some state else st.storedActualState sect := by
  show (st.sectionActualStates.setIfInBounds i state)[sect]? = _
  rw [Vector.getElem?_setIfInBounds]
  by_cases hi : i = sect
  · subst hi
    by_cases hsect : i < st.numberOfSections
    · simp [hsect]
    · simp [hsect, storedActualState]
  · simp [hi, storedActualState]

theorem storedActualState_setElementNumberForSection (st : ClientState) (i elementNumber sect : Nat) :
    (st.setElementNumberForSection i elementNumber).storedActualState sect =
      st.storedActualState sect := by
  rw [setElementNumberForSection]
  split <;> rfl

private theorem storedActualState_prefix (st : ClientState) {block : Nat} (hblock : block < 16)
    (elementNumber : Nat) (value : BitVec 32) {count : Nat} (hcount : count ≤ 16) (sect : Nat) :
    ((List.range count).foldl (fun st i =>
      (st.setSectionActualState (reportedSection (Ddi.actualCondensedWorkState1_16 + block) i)
        (SectionState.ofBits (readField 2 value i))).setElementNumberForSection
          (reportedSection (Ddi.actualCondensedWorkState1_16 + block) i) elementNumber)
        st).storedActualState sect =
      if sect / 16 = block ∧ sect % 16 < count ∧ sect < st.numberOfSections then
        some (SectionState.ofBits (readField 2 value (sect % 16)))
      else st.storedActualState sect := by
  induction count with
  | zero => simp
  | succ count ih =>
      have hstored := ih (Nat.le_of_succ_le hcount)
      have hsections := (st.onActualCondensed_prefix hblock elementNumber value
        (Nat.le_of_succ_le hcount)).1.numberOfSections
      rw [List.range_succ, List.foldl_append]
      generalize (List.range count).foldl _ st = st' at hstored hsections ⊢
      simp only [List.foldl_cons, List.foldl_nil, reportedSection_add hblock hcount]
      rw [storedActualState_setElementNumberForSection, storedActualState_setSectionActualState,
        hsections, hstored]
      by_cases hlast : 16 * block + count = sect
      · have hmod : sect % 16 = count := by omega
        have hdiv : sect / 16 = block := by omega
        simp [hlast, hmod, hdiv]
      · have hiff : (sect / 16 = block ∧ sect % 16 < count + 1 ∧ sect < st.numberOfSections) ↔
            (sect / 16 = block ∧ sect % 16 < count ∧ sect < st.numberOfSections) := by omega
        simp only [hlast, hiff, false_and, if_false]

theorem storedActualState_onValueCommand (st : ClientState) {block : Nat} (hblock : block < 16)
    (elementNumber : Nat) (value : BitVec 32) (sect : Nat) :
    (st.onValueCommand (Ddi.actualCondensedWorkState1_16 + block) elementNumber
        value).storedActualState sect =
      if sect / 16 = block ∧ sect < st.numberOfSections then
        some (SectionState.ofBits (readField 2 value (sect % 16)))
      else st.storedActualState sect := by
  have hmod : sect % 16 < 16 := Nat.mod_lt _ (by decide)
  rw [onValueCommand, if_pos (Ddi.isActualCondensed_add hblock)]
  refine (st.storedActualState_prefix hblock elementNumber value (le_refl 16) sect).trans ?_
  simp only [hmod, true_and]

/-- For every client, block and assignment of setpoints: the condensed message, reported to a client
with the same number of sections, stores the setpoints of the block and nothing else, and its fields
without a section are 3. -/
theorem condensedValue_onValueCommand (st st' : ClientState)
    (hsections : st'.numberOfSections = st.numberOfSections) {block : Nat} (hblock : block < 16)
    (elementNumber : Nat) :
    (∀ sect, 16 * block ≤ sect → sect < min (16 * block + 16) st.numberOfSections →
      (st'.onValueCommand (Ddi.actualCondensedWorkState1_16 + block) elementNumber
        (st.condensedValue block)).storedActualState sect = st.sectionSetpointStates[sect]?) ∧
    (∀ sect, ¬ (16 * block ≤ sect ∧ sect < min (16 * block + 16) st.numberOfSections) →
      (st'.onValueCommand (Ddi.actualCondensedWorkState1_16 + block) elementNumber
        (st.condensedValue block)).storedActualState sect = st'.storedActualState sect) ∧
    ∀ i < 16, st.numberOfSections ≤ 16 * block + i →
      readField 2 (st.condensedValue block) i = 3 := by
  refine ⟨fun sect hlow hhigh => ?_, fun sect hout => ?_, fun i hi hbeyond => ?_⟩
  · have hsect : sect < st.numberOfSections := by omega
    have hdiv : sect / 16 = block := by omega
    have hfield : 16 * block + sect % 16 = sect := by omega
    rw [storedActualState_onValueCommand st' hblock, hsections, if_pos ⟨hdiv, hsect⟩,
      readField_condensedValue hblock (Nat.mod_lt _ (by decide)), hfield,
      getSectionSetpointState_of_lt hsect, Vector.getElem?_eq_getElem hsect]
  · have hnot : ¬ (sect / 16 = block ∧ sect < st'.numberOfSections) := by omega
    rw [storedActualState_onValueCommand st' hblock, if_neg hnot]
  · rw [condensedValue_eq hblock, readField_packFields _ hi (by decide),
      getSectionSetpointState_of_le hbeyond]
    rfl

def partialBlock : ClientState :=
  ((default : ClientState).setNumberOfSections 18).setSectionSetpointState 17 .on

theorem condensedValue_onValueCommand_partialBlock :
    let st := (default : ClientState).setNumberOfSections 18
    (st.onValueCommand 162 1 (partialBlock.condensedValue 1)).storedActualState 17 = some .on :=
  (condensedValue_onValueCommand partialBlock ((default : ClientState).setNumberOfSections 18) rfl
    (by decide : 1 < 16) 1).1 17 (by decide) (by decide)

end ClientState

end AogTaskController.TaskController
