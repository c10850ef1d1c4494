import AogTaskController.TaskController.Sessions
import AogTaskController.TaskController.SetpointUpdate

/-!
# The setup of a client

The section control method and the mapping from DDIs to elements are functions of the client's pool:
the method from activation on, the mapping as soon as the measurement commands are sent. This holds
in every state that a session can reach.
-/

namespace AogTaskController.TaskController

open Framework

namespace ClientState

/-- The method and the mapping are those that the pool declares. -/
structure SetUp (st : ClientState) : Prop where
  elements : st.ddiToElementNumber =
    if st.areMeasurementCommandsSent then st.pool.declaredElements else ∅
  method : st.usesPerElementControl =
    decide (st.pool.sectionControlMethod = .settableActualWorkState)
  perElementDdi : st.usesPerElementControl = true → st.perElementSetpointDDI = Ddi.actualWorkState

/-- The two states differ at most in what the client has reported. -/
structure ReportOnly (st st' : ClientState) : Prop where
  pool : st'.pool = st.pool
  areMeasurementCommandsSent : st'.areMeasurementCommandsSent = st.areMeasurementCommandsSent
  ddiToElementNumber : st'.ddiToElementNumber = st.ddiToElementNumber
  numberOfSections : st'.numberOfSections = st.numberOfSections
  usesPerElementControl : st'.usesPerElementControl = st.usesPerElementControl
  perElementSetpointDDI : st'.perElementSetpointDDI = st.perElementSetpointDDI
  setpoint : ∀ sect, st'.getSectionSetpointState sect = st.getSectionSetpointState sect

theorem ReportOnly.refl (st : ClientState) : ReportOnly st st :=
  ⟨rfl, rfl, rfl, rfl, rfl, rfl, fun _ => rfl⟩

theorem ReportOnly.trans {st st' st'' : ClientState} (h : ReportOnly st st')
    (h' : ReportOnly st' st'') : ReportOnly st st'' where
  pool := h'.pool.trans h.pool
  areMeasurementCommandsSent := h'.areMeasurementCommandsSent.trans h.areMeasurementCommandsSent
  ddiToElementNumber := h'.ddiToElementNumber.trans h.ddiToElementNumber
  numberOfSections := h'.numberOfSections.trans h.numberOfSections
  usesPerElementControl := h'.usesPerElementControl.trans h.usesPerElementControl
  perElementSetpointDDI := h'.perElementSetpointDDI.trans h.perElementSetpointDDI
  setpoint sect := (h'.setpoint sect).trans (h.setpoint sect)

theorem SetUp.of_reportOnly {st st' : ClientState} (hst : st.SetUp) (h : ReportOnly st st') :
    st'.SetUp where
  elements := by rw [h.ddiToElementNumber, h.areMeasurementCommandsSent, h.pool, hst.elements]
  method := by rw [h.usesPerElementControl, h.pool, hst.method]
  perElementDdi := by
    rw [h.usesPerElementControl, h.perElementSetpointDDI]
    exact hst.perElementDdi

theorem reportOnly_setElementNumberForSection (st : ClientState) (sect elementNumber : Nat) :
    ReportOnly st (st.setElementNumberForSection sect elementNumber) := by
  rw [setElementNumberForSection]
  split
  · exact ⟨rfl, rfl, rfl, rfl, rfl, rfl, fun _ => rfl⟩
  · exact .refl st

private theorem reportOnly_setSectionActualState (st : ClientState) (sect : Nat)
    (state : SectionState) :
    ReportOnly st (st.setSectionActualState sect state) :=
  ⟨rfl, rfl, rfl, rfl, rfl, rfl, fun _ => rfl⟩

private theorem reportOnly_foldl {f : ClientState → Nat → ClientState}
    (hf : ∀ st i, ReportOnly st (f st i)) (indices : List Nat) (st : ClientState) :
    ReportOnly st (indices.foldl f st) := by
  induction indices generalizing st with
  | nil => exact .refl st
  | cons i indices ih => exact (hf st i).trans (ih (f st i))

theorem reportOnly_mapSections (st : ClientState) (sectionElementNumbers : List Nat) :
    ReportOnly st (st.mapSections sectionElementNumbers) := by
  apply reportOnly_foldl
  intro st i
  cases sectionElementNumbers[i]? with
  | none => exact .refl st
  | some elementNumber => exact reportOnly_setElementNumberForSection st i elementNumber

private theorem reportOnly_onActualWorkState (st : ClientState) (elementNumber : Nat)
    (value : BitVec 32) : ReportOnly st (st.onActualWorkState elementNumber value) := by
  have hstored : ReportOnly st (st.setElementWorkState elementNumber (value == 1)) :=
    ⟨rfl, rfl, rfl, rfl, rfl, rfl, fun _ => rfl⟩
  simp only [onActualWorkState]
  split
  · split
    · exact hstored.trans (reportOnly_setSectionActualState _ _ _)
    · exact hstored
  · exact hstored

theorem reportOnly_onValueCommand (st : ClientState) (ddi : Ddi) (elementNumber : Nat)
    (value : BitVec 32) : ReportOnly st (st.onValueCommand ddi elementNumber value) := by
  rw [onValueCommand]
  split
  · apply reportOnly_foldl
    intro st i
    exact (reportOnly_setSectionActualState st _ _).trans
      (reportOnly_setElementNumberForSection _ _ _)
  · split
    · exact ⟨rfl, rfl, rfl, rfl, rfl, rfl, fun _ => rfl⟩
    · split
      · exact reportOnly_onActualWorkState st elementNumber value
      · exact .refl st

theorem SetUp.has_of_sent {st : ClientState} (h : st.SetUp)
    (hsent : st.areMeasurementCommandsSent = true) {ddi : Ddi} (hddi : ddi ≠ Ddi.gnssQuality) :
    st.hasElementNumberForDdi ddi = true ↔
      (isWorkStateDdi ddi = true ∨ isSectionControlDdi ddi = true) ∧ st.pool.Lists ddi := by
  rw [hasElementNumberForDdi, h.elements, hsent, if_pos rfl, Pool.contains_declaredElements hddi]

theorem SetUp.has_of_unsent {st : ClientState} (h : st.SetUp)
    (hunsent : st.areMeasurementCommandsSent = false) (ddi : Ddi) :
    st.hasElementNumberForDdi ddi = false := by
  rw [hasElementNumberForDdi, h.elements, hunsent, if_neg Bool.false_ne_true]
  exact Std.ExtTreeMap.contains_empty

theorem SetUp.has_condensed {st : ClientState} (h : st.SetUp)
    (hsent : st.areMeasurementCommandsSent = true) {block : Nat} (hblock : block < 16) :
    st.hasElementNumberForDdi (Ddi.setpointCondensedWorkState1_16 + block) = true ↔
      st.pool.Lists (Ddi.setpointCondensedWorkState1_16 + block) := by
  have hgnss := (@Ddi.ne_setpointCondensed Ddi.gnssQuality rfl block hblock).symm
  rw [h.has_of_sent hsent hgnss, isSectionControlDdi, Ddi.isSetpointCondensed_add hblock]
  simp

theorem SetUp.has_legacy {st : ClientState} (h : st.SetUp)
    (hsent : st.areMeasurementCommandsSent = true) {block : Nat} (hblock : block < 16) :
    st.hasElementNumberForDdi (Ddi.actualCondensedWorkState1_16 + block) = true ↔
      st.pool.Lists (Ddi.actualCondensedWorkState1_16 + block) := by
  have hgnss := (@Ddi.ne_actualCondensed Ddi.gnssQuality rfl block hblock).symm
  rw [h.has_of_sent hsent hgnss, isWorkStateDdi, Ddi.isActualCondensed_add hblock]
  simp

private theorem setUp_default : (default : ClientState).SetUp := ⟨rfl, rfl, fun h => by cases h⟩

theorem SetUp.requestMeasurementCommands {st : ClientState} (h : st.SetUp) :
    st.requestMeasurementCommands.1.SetUp := by
  cases hsent : st.areMeasurementCommandsSent with
  | true =>
      rw [requestMeasurementCommands_of_sent (.inl hsent)]
      exact h
  | false =>
      rcases Nat.eq_zero_or_pos st.numberOfSections with hsections | hsections
      · rw [requestMeasurementCommands_of_sent (.inr hsections)]
        exact h
      · have hempty : st.ddiToElementNumber = ∅ := by
          rw [h.elements, hsent]
          rfl
        rw [requestMeasurementCommands_of_unsent hsent hsections, hempty]
        exact ⟨rfl, h.method, h.perElementDdi⟩

theorem updateSectionStates_fst (st : ClientState) (sectionStates : List Bool) :
    ∃ states workState, (st.updateSectionStates sectionStates).1 =
      (st.setSetpoints states).setSetpointWorkState workState := by
  by_cases hactive : st.isSectionControlEnabled = true ∧ st.numberOfSections ≠ 0
  · rw [updateSectionStates_eq hactive.1 hactive.2]
    exact ⟨_, _, rfl⟩
  · rw [updateSectionStates_of_idle hactive]
    exact ⟨st.sectionSetpointStates, st.setpointWorkState, rfl⟩

theorem SetUp.updateSectionStates {st : ClientState} (h : st.SetUp) (sectionStates : List Bool) :
    (st.updateSectionStates sectionStates).1.SetUp := by
  obtain ⟨states, workState, heq⟩ := st.updateSectionStates_fst sectionStates
  rw [heq]
  exact ⟨h.elements, h.method, h.perElementDdi⟩

end ClientState

section Activation

open ClientState

variable (stack : IsobusStack) (pool : Pool)

private theorem newClientState_eq :
    ∃ st, ReportOnly (stack.poolState pool) st ∧
      stack.newClientState pool =
        match pool.sectionControlMethod with
        | .settableActualWorkState =>
            (st.setUsesPerElementControl true).setPerElementSetpointDdi Ddi.actualWorkState
        | _ => st :=
  ⟨_, reportOnly_mapSections _ _, rfl⟩

private theorem newClientState_setUp : (stack.newClientState pool).SetUp := by
  obtain ⟨st, hst, heq⟩ := newClientState_eq stack pool
  have hmethod : st.usesPerElementControl = false := hst.usesPerElementControl
  have helements : st.ddiToElementNumber = ∅ := hst.ddiToElementNumber
  have hsent : st.areMeasurementCommandsSent = false := hst.areMeasurementCommandsSent
  have hpool : st.pool = pool := hst.pool
  rw [heq]
  cases hpoolMethod : pool.sectionControlMethod with
  | settableActualWorkState =>
      constructor
      · simp [setUsesPerElementControl, setPerElementSetpointDdi, helements, hsent]
      · simp [setUsesPerElementControl, setPerElementSetpointDdi, hpool, hpoolMethod]
      · exact fun _ => rfl
  | _ =>
      constructor
      · simp [helements, hsent]
      · simp [hmethod, hpool, hpoolMethod]
      · intro h
        cases hmethod.symm.trans h

theorem newClientState_setpoint {sect : Nat}
    (hsect : sect < (stack.newClientState pool).numberOfSections) :
    (stack.newClientState pool).getSectionSetpointState sect = .off := by
  obtain ⟨st, hst, heq⟩ := newClientState_eq stack pool
  have hoff (hlt : sect < st.numberOfSections) : st.getSectionSetpointState sect = .off := by
    rw [hst.setpoint]
    rw [hst.numberOfSections] at hlt
    rw [getSectionSetpointState_of_lt hlt]
    have hempty : (Vector.replicate 0 SectionState.off)[sect]? = none := by simp
    refine (Vector.getElem_ofFn hlt).trans ?_
    exact congrArg (fun state : Option SectionState => state.getD .off) hempty
  rw [heq] at hsect ⊢
  revert hsect
  cases pool.sectionControlMethod <;> exact hoff

end Activation

theorem setUp_invariant (stack : IsobusStack) : ClientInvariant stack ClientState.SetUp where
  empty := ClientState.setUp_default
  fresh := newClientState_setUp stack
  onValueCommand st ddi elementNumber value h :=
    h.of_reportOnly (ClientState.reportOnly_onValueCommand st ddi elementNumber value)
  requestMeasurementCommands _ h := h.requestMeasurementCommands
  updateSectionStates _ sectionStates h := h.updateSectionStates sectionStates
  updateSectionControlEnabled _ _ h := ⟨h.elements, h.method, h.perElementDdi⟩

end AogTaskController.TaskController
