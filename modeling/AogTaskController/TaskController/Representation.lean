import AogTaskController.TaskController.Geometry

/-!
# Representation of the section data

The section data as the class stores it: a counter next to three vectors that are indexed without a
check. The client state is an abstraction of it, accessor by accessor, and what the class relies on
holds in every run.
-/

namespace AogTaskController.TaskController

open Framework

def SectionState.toByte : SectionState → Nat
  | .off => 0
  | .on => 1
  | .errorState => 2
  | .notInstalled => 3

structure SectionStore where
  numberOfSections : Nat
  sectionSetpointStates : List Nat
  sectionActualStates : List Nat
  sectionToElementNumber : List Nat
  elementToSection : Std.ExtTreeMap Nat Nat

/-- `vector[index] = value`, which is undefined behind the end. -/
def storeAt (vector : List Nat) (index value : Nat) : Option (List Nat) :=
  if index < vector.length then some (vector.set index value) else none

/-- `vector.resize(size, value)` -/
def resize (vector : List Nat) (size value : Nat) : List Nat :=
  vector.take size ++ List.replicate (size - vector.length) value

namespace SectionStore

def setNumberOfSections (s : SectionStore) (number : UInt8) : SectionStore where
  numberOfSections := number.toNat
  sectionSetpointStates := resize s.sectionSetpointStates number.toNat 0
  sectionActualStates := resize s.sectionActualStates number.toNat 0
  sectionToElementNumber := resize s.sectionToElementNumber number.toNat 0
  elementToSection := s.elementToSection

/-! The accessors of a section; `none` where they index a vector out of range. -/

def setSectionSetpointState (s : SectionStore) (sect state : Nat) : Option SectionStore :=
  if sect < s.numberOfSections then
    (storeAt s.sectionSetpointStates sect state).map fun states =>
      { s with sectionSetpointStates := states }
  else some s

def setSectionActualState (s : SectionStore) (sect state : Nat) : Option SectionStore :=
  if sect < s.numberOfSections then
    (storeAt s.sectionActualStates sect state).map fun states =>
      { s with sectionActualStates := states }
  else some s

def getElementNumberForSection (s : SectionStore) (sect : Nat) : Option Nat :=
  if sect < s.numberOfSections ∧ sect < s.sectionToElementNumber.length then
    s.sectionToElementNumber[sect]?
  else some 0

def setElementNumberForSection (s : SectionStore) (sect elementNumber : Nat) : Option SectionStore :=
  if sect < s.numberOfSections ∧ sect < s.sectionToElementNumber.length then
    (storeAt s.sectionToElementNumber sect elementNumber).map fun elements =>
      { s with
        sectionToElementNumber := elements
        elementToSection := s.elementToSection.insert elementNumber sect }
  else some s

def getSectionSetpointState (s : SectionStore) (sect : Nat) : Option Nat :=
  if sect < s.numberOfSections then s.sectionSetpointStates[sect]?
  else some SectionState.notInstalled.toByte

/-- `isElementOrParentOff` is the walk up the element hierarchy. -/
def getSectionActualState (s : SectionStore) (usesPerElementControl : Bool)
    (isElementOrParentOff : Nat → Bool) (sect : Nat) : Option Nat :=
  if sect < s.numberOfSections then
    if usesPerElementControl then s.sectionActualStates[sect]?
    else
      (s.getElementNumberForSection sect).bind fun elementNumber =>
        if isElementOrParentOff elementNumber then some SectionState.off.toByte
        else s.sectionActualStates[sect]?
  else some SectionState.notInstalled.toByte

structure WellFormed (s : SectionStore) : Prop where
  setpointLength : s.sectionSetpointStates.length = s.numberOfSections
  actualLength : s.sectionActualStates.length = s.numberOfSections
  elementLength : s.sectionToElementNumber.length = s.numberOfSections
  setpoints : ∀ state ∈ s.sectionSetpointStates,
    state = SectionState.off.toByte ∨ state = SectionState.on.toByte
  actuals : ∀ state ∈ s.sectionActualStates, state ≤ 3
  sections : ∀ (elementNumber sect : Nat), s.elementToSection[elementNumber]? = some sect →
    sect < s.numberOfSections

structure InRange (s : SectionStore) : Prop where
  setSectionSetpointState : ∀ sect state, s.setSectionSetpointState sect state ≠ none
  setSectionActualState : ∀ sect state, s.setSectionActualState sect state ≠ none
  getElementNumberForSection : ∀ sect, s.getElementNumberForSection sect ≠ none
  setElementNumberForSection : ∀ sect elementNumber,
    s.setElementNumberForSection sect elementNumber ≠ none
  getSectionSetpointState : ∀ sect, s.getSectionSetpointState sect ≠ none
  getSectionActualState : ∀ usesPerElementControl isElementOrParentOff sect,
    s.getSectionActualState usesPerElementControl isElementOrParentOff sect ≠ none

private theorem WellFormed.inRange {s : SectionStore} (h : s.WellFormed) : s.InRange where
  setSectionSetpointState sect state := by
    by_cases hsect : sect < s.numberOfSections <;>
      simp [SectionStore.setSectionSetpointState, storeAt, h.setpointLength, hsect]
  setSectionActualState sect state := by
    by_cases hsect : sect < s.numberOfSections <;>
      simp [SectionStore.setSectionActualState, storeAt, h.actualLength, hsect]
  getElementNumberForSection sect := by
    by_cases hsect : sect < s.numberOfSections <;>
      simp [SectionStore.getElementNumberForSection, h.elementLength, hsect]
  setElementNumberForSection sect elementNumber := by
    by_cases hsect : sect < s.numberOfSections <;>
      simp [SectionStore.setElementNumberForSection, storeAt, h.elementLength, hsect]
  getSectionSetpointState sect := by
    by_cases hsect : sect < s.numberOfSections <;>
      simp [SectionStore.getSectionSetpointState, h.setpointLength, hsect]
  getSectionActualState usesPerElementControl isElementOrParentOff sect := by
    rw [SectionStore.getSectionActualState]
    by_cases hsect : sect < s.numberOfSections
    · have hactual : s.sectionActualStates[sect]? ≠ none := by simp [h.actualLength, hsect]
      have helement : sect < s.sectionToElementNumber.length := h.elementLength ▸ hsect
      have hbound : sect < s.numberOfSections ∧ sect < s.sectionToElementNumber.length :=
        ⟨hsect, helement⟩
      rw [if_pos hsect]
      split
      · exact hactual
      · rw [SectionStore.getElementNumberForSection, if_pos hbound,
          List.getElem?_eq_getElem helement, Option.bind_some]
        split
        · exact Option.some_ne_none _
        · exact hactual
    · rw [if_neg hsect]
      exact Option.some_ne_none _

end SectionStore

private theorem SectionState.toByte_le (state : SectionState) : state.toByte ≤ 3 := by
  cases state <;> decide

namespace ClientState

def store (st : ClientState) : SectionStore where
  numberOfSections := st.numberOfSections
  sectionSetpointStates := st.sectionSetpointStates.toList.map SectionState.toByte
  sectionActualStates := st.sectionActualStates.toList.map SectionState.toByte
  sectionToElementNumber := st.sectionToElementNumber.toList
  elementToSection := st.elementToSection

private theorem map_resize {α : Type} {number : Nat} (vector : Vector α number) (size : Nat)
    (value : α) (f : α → Nat) :
    resize (vector.toList.map f) size (f value) =
      ((Vector.ofFn fun i : Fin size => vector[i.val]?.getD value).toList).map f := by
  apply List.ext_getElem
  · simp [resize]
    omega
  · intro i hi hi'
    by_cases hlt : i < number
    · simp only [resize]
      rw [List.getElem_append_left (by simp at hi' ⊢; omega)]
      simp [hlt]
    · simp only [resize]
      rw [List.getElem_append_right (by simp; omega)]
      simp [hlt]

section Accessors

variable (st : ClientState) (sect : Nat)

private theorem store_setNumberOfSections (number : UInt8) :
    st.store.setNumberOfSections number = (st.setNumberOfSections number).store := by
  have helements : resize st.sectionToElementNumber.toList number.toNat 0 = _ :=
    (congrArg (resize · number.toNat 0) (List.map_id _).symm).trans
      (map_resize st.sectionToElementNumber number.toNat 0 id)
  rw [SectionStore.setNumberOfSections]
  simp only [store, setNumberOfSections, helements, List.map_id]
  rw [← map_resize _ number.toNat SectionState.off, ← map_resize _ number.toNat SectionState.off]
  rfl

private theorem store_setSectionSetpointState (state : SectionState) :
    st.store.setSectionSetpointState sect state.toByte =
      some (st.setSectionSetpointState sect state).store := by
  by_cases hsect : sect < st.numberOfSections
  · simp [SectionStore.setSectionSetpointState, storeAt, store, setSectionSetpointState, hsect]
  · have hbehind : (st.sectionSetpointStates.toList.map SectionState.toByte).length ≤ sect := by
      simpa using hsect
    simp [SectionStore.setSectionSetpointState, store, setSectionSetpointState, hsect,
      List.set_eq_of_length_le hbehind]

private theorem store_setSectionActualState (state : SectionState) :
    st.store.setSectionActualState sect state.toByte =
      some (st.setSectionActualState sect state).store := by
  by_cases hsect : sect < st.numberOfSections
  · simp [SectionStore.setSectionActualState, storeAt, store, setSectionActualState, hsect]
  · have hbehind : (st.sectionActualStates.toList.map SectionState.toByte).length ≤ sect := by
      simpa using hsect
    simp [SectionStore.setSectionActualState, store, setSectionActualState, hsect,
      List.set_eq_of_length_le hbehind]

private theorem store_getElementNumberForSection :
    st.store.getElementNumberForSection sect = some (st.getElementNumberForSection sect) := by
  by_cases hsect : sect < st.numberOfSections <;>
    simp [SectionStore.getElementNumberForSection, store, getElementNumberForSection, hsect]

private theorem store_setElementNumberForSection (elementNumber : Nat) :
    st.store.setElementNumberForSection sect elementNumber =
      some (st.setElementNumberForSection sect elementNumber).store := by
  rw [setElementNumberForSection]
  by_cases hsect : sect < st.numberOfSections
  · rw [if_pos hsect]
    simp [SectionStore.setElementNumberForSection, storeAt, store, hsect]
  · rw [if_neg hsect]
    simp [SectionStore.setElementNumberForSection, store, hsect]

private theorem store_getSectionSetpointState :
    st.store.getSectionSetpointState sect = some (st.getSectionSetpointState sect).toByte := by
  by_cases hsect : sect < st.numberOfSections <;>
    simp [SectionStore.getSectionSetpointState, store, getSectionSetpointState, hsect]

private theorem store_getSectionActualState :
    st.store.getSectionActualState st.usesPerElementControl st.isElementOrParentOff sect =
      some (st.getSectionActualState sect).toByte := by
  rw [SectionStore.getSectionActualState, store_getElementNumberForSection, getSectionActualState,
    Option.bind_some]
  by_cases hsect : sect < st.numberOfSections
  · have hactual : st.store.sectionActualStates[sect]? =
        some (st.sectionActualStates[sect]?.getD .off).toByte := by
      simp [store, hsect]
    have hstore : sect < st.store.numberOfSections := hsect
    rw [if_pos hstore, if_pos hsect, hactual]
    split
    · rfl
    · split <;> rfl
  · have hstore : ¬ sect < st.store.numberOfSections := hsect
    rw [if_neg hstore, if_neg hsect]

end Accessors

/-- Each accessor of the class does on the stored vectors what it does on the state. -/
structure Abstracts (st : ClientState) : Prop where
  setNumberOfSections : ∀ number,
    st.store.setNumberOfSections number = (st.setNumberOfSections number).store
  setSectionSetpointState : ∀ sect (state : SectionState),
    st.store.setSectionSetpointState sect state.toByte =
      some (st.setSectionSetpointState sect state).store
  setSectionActualState : ∀ sect (state : SectionState),
    st.store.setSectionActualState sect state.toByte =
      some (st.setSectionActualState sect state).store
  getElementNumberForSection : ∀ sect,
    st.store.getElementNumberForSection sect = some (st.getElementNumberForSection sect)
  setElementNumberForSection : ∀ sect elementNumber,
    st.store.setElementNumberForSection sect elementNumber =
      some (st.setElementNumberForSection sect elementNumber).store
  getSectionSetpointState : ∀ sect,
    st.store.getSectionSetpointState sect = some (st.getSectionSetpointState sect).toByte
  getSectionActualState : ∀ sect,
    st.store.getSectionActualState st.usesPerElementControl st.isElementOrParentOff sect =
      some (st.getSectionActualState sect).toByte

private theorem abstracts (st : ClientState) : st.Abstracts where
  setNumberOfSections := st.store_setNumberOfSections
  setSectionSetpointState := st.store_setSectionSetpointState
  setSectionActualState := st.store_setSectionActualState
  getElementNumberForSection := st.store_getElementNumberForSection
  setElementNumberForSection := st.store_setElementNumberForSection
  getSectionSetpointState := st.store_getSectionSetpointState
  getSectionActualState := st.store_getSectionActualState

structure Represented (st : ClientState) : Prop where
  setpoints : ∀ sect < st.numberOfSections,
    st.getSectionSetpointState sect = .off ∨ st.getSectionSetpointState sect = .on
  sections : ∀ elementNumber sect, st.tryGetSectionForElement elementNumber = some sect →
    sect < st.numberOfSections
  method : st.usesPerElementControl = true ↔ st.perElementSetpointDDI = Ddi.actualWorkState

private theorem Represented.wellFormed {st : ClientState} (h : st.Represented) :
    st.store.WellFormed where
  setpointLength := by simp [store]
  actualLength := by simp [store]
  elementLength := by simp [store]
  setpoints byte hbyte := by
    obtain ⟨state, hstate, rfl⟩ := List.mem_map.mp hbyte
    obtain ⟨sect, hsect, rfl⟩ := List.getElem_of_mem hstate
    have hlt : sect < st.numberOfSections := by simpa using hsect
    have hsetpoint := h.setpoints sect hlt
    rw [getSectionSetpointState_of_lt hlt] at hsetpoint
    rw [Vector.getElem_toList]
    exact hsetpoint.imp (congrArg _) (congrArg _)
  actuals byte hbyte := by
    obtain ⟨state, _, rfl⟩ := List.mem_map.mp hbyte
    exact state.toByte_le
  sections := h.sections

theorem Represented.of_reportOnly {st st' : ClientState} (h : st.Represented)
    (hreport : ReportOnly st st')
    (hsections : ∀ elementNumber sect, st'.tryGetSectionForElement elementNumber = some sect →
      sect < st.numberOfSections) : st'.Represented where
  setpoints sect hsect := by
    rw [hreport.setpoint]
    exact h.setpoints sect (hreport.numberOfSections ▸ hsect)
  sections elementNumber sect hfound :=
    hreport.numberOfSections.symm ▸ hsections elementNumber sect hfound
  method := by
    rw [hreport.usesPerElementControl, hreport.perElementSetpointDDI]
    exact h.method

/-- The reverse map leads to sections of the client. -/
def ReverseInRange (st : ClientState) : Prop :=
  ∀ elementNumber sect, st.tryGetSectionForElement elementNumber = some sect →
    sect < st.numberOfSections

theorem ReverseInRange.setElementNumberForSection {st : ClientState} (h : st.ReverseInRange)
    (i elementNumber : Nat) : (st.setElementNumberForSection i elementNumber).ReverseInRange := by
  intro e sect hfound
  rw [(reportOnly_setElementNumberForSection st i elementNumber).numberOfSections]
  rw [tryGetSectionForElement_setElementNumberForSection] at hfound
  split at hfound
  · rename_i hi
    obtain rfl := Option.some.inj hfound
    exact hi.1
  · exact h e sect hfound

theorem ReverseInRange.onValueCommand {st : ClientState} (h : st.ReverseInRange) (ddi : Ddi)
    (elementNumber : Nat) (value : BitVec 32) :
    (st.onValueCommand ddi elementNumber value).ReverseInRange := by
  rw [ClientState.onValueCommand]
  split
  · rw [onActualCondensed]
    generalize List.range 16 = fields
    induction fields generalizing st with
    | nil => exact h
    | cons i fields ih =>
        have hstate : (st.setSectionActualState (reportedSection ddi i)
            (SectionState.ofBits (readField 2 value i))).ReverseInRange := h
        exact ih (hstate.setElementNumberForSection _ _)
  · split
    · exact h
    · split
      · simp only [onActualWorkState]
        split
        · split <;> exact h
        · exact h
      · exact h

theorem ReverseInRange.mapFirstSections {st : ClientState} (h : st.ReverseInRange)
    (sectionElementNumbers : List Nat) (count : Nat) :
    (st.mapFirstSections sectionElementNumbers count).ReverseInRange := by
  induction count with
  | zero => exact h
  | succ count ih =>
      rw [mapFirstSections_succ]
      cases sectionElementNumbers[count]? with
      | none => exact ih
      | some elementNumber => exact ih.setElementNumberForSection count elementNumber

theorem Represented.updateSectionStates {st : ClientState} (h : st.Represented)
    (sectionStates : List Bool) : (st.updateSectionStates sectionStates).1.Represented := by
  by_cases hactive : st.isSectionControlEnabled = true ∧ st.numberOfSections ≠ 0
  · rw [updateSectionStates_eq hactive.1 hactive.2]
    refine ⟨?_, h.sections, h.method⟩
    intro sect hsect
    have hsetpoint : ((st.applyDemand sectionStates st.numberOfSections).setSetpointWorkState
        (st.workStateBefore sectionStates st.numberOfBlocks)).getSectionSetpointState sect =
          demandedState sectionStates sect (st.getSectionSetpointState sect) :=
      (getSectionSetpointState_applyDemand st.numberOfSections sect).trans (if_pos ⟨hsect, hsect⟩)
    rw [hsetpoint, demandedState]
    split
    · exact .inr rfl
    · split
      · exact .inl rfl
      · exact h.setpoints sect hsect
    · exact h.setpoints sect hsect
  · rw [updateSectionStates_of_idle hactive]
    exact h

private theorem represented_default : (default : ClientState).Represented where
  setpoints _ hsect := absurd hsect (Nat.not_lt_zero _)
  sections elementNumber _ hfound := by
    have hnone : (default : ClientState).tryGetSectionForElement elementNumber = none :=
      Std.ExtTreeMap.getElem?_empty
    rw [hnone] at hfound
    cases hfound
  method := by decide

end ClientState

section Activation

open ClientState

variable (stack : IsobusStack) (pool : Pool)

private theorem newClientState_method :
    (stack.newClientState pool).usesPerElementControl = true ∧
        (stack.newClientState pool).perElementSetpointDDI = Ddi.actualWorkState ∨
      (stack.newClientState pool).usesPerElementControl = false ∧
        (stack.newClientState pool).perElementSetpointDDI = 0 := by
  have hmapped := reportOnly_mapSections (stack.poolState pool) (stack.geometrySections pool)
  rw [IsobusStack.newClientState]
  cases pool.sectionControlMethod with
  | settableActualWorkState => exact .inl ⟨rfl, rfl⟩
  | _ => exact .inr ⟨hmapped.usesPerElementControl, hmapped.perElementSetpointDDI⟩

private theorem newClientState_represented : (stack.newClientState pool).Represented where
  setpoints _ hsect := .inl (newClientState_setpoint stack pool hsect)
  sections elementNumber sect hfound := by
    have hempty : (stack.poolState pool).ReverseInRange := by
      intro e sect h
      have hnone : (stack.poolState pool).tryGetSectionForElement e = none :=
        Std.ExtTreeMap.getElem?_empty
      rw [hnone] at h
      cases h
    rw [newClientState_tryGetSectionForElement] at hfound
    have hlt := hempty.mapFirstSections _ _ elementNumber sect hfound
    rw [numberOfSections_mapFirstSections] at hlt
    rw [newClientState_numberOfSections]
    exact hlt.trans_eq UInt8.toNat_ofNat'
  method := by
    rcases newClientState_method stack pool with ⟨huses, hddi⟩ | ⟨huses, hddi⟩
    · exact iff_of_true huses hddi
    · rw [huses, hddi]
      decide

end Activation

private theorem represented_invariant (stack : IsobusStack) :
    ClientInvariant stack ClientState.Represented where
  empty := ClientState.represented_default
  fresh := newClientState_represented stack
  onValueCommand st ddi elementNumber value h := by
    have hreport := ClientState.reportOnly_onValueCommand st ddi elementNumber value
    apply h.of_reportOnly hreport
    intro e sect hfound
    have hlt := ClientState.ReverseInRange.onValueCommand h.sections ddi elementNumber value e sect
      hfound
    rwa [hreport.numberOfSections] at hlt
  requestMeasurementCommands st h := by
    obtain ⟨m, sent, heq⟩ := st.requestMeasurementCommands_frame.1
    rw [heq]
    exact ⟨h.setpoints, h.sections, h.method⟩
  updateSectionStates _ sectionStates h := h.updateSectionStates sectionStates
  updateSectionControlEnabled _ _ h := ⟨h.setpoints, h.sections, h.method⟩

/-- In every state that the server can reach, every client is well formed: no accessor indexes a
vector out of range, each does what the model says, and the per-element method comes with DDI 141. -/
theorem clients_wellFormed (stack : IsobusStack) {s : Server} (hs : (serverMachine stack).Reachable s)
    {partner : ControlFunction} {st : ClientState} (hst : s.clients[partner]? = some st) :
    st.store.WellFormed ∧ (st.usesPerElementControl = true ↔ st.perElementSetpointDDI = 141) ∧
      st.store.InRange ∧ st.Abstracts := by
  have h := server_client_invariant (represented_invariant stack) hs hst
  exact ⟨h.wellFormed, h.method, h.wellFormed.inRange, st.abstracts⟩

theorem activatedClient_wellFormed :
    ((IsobusStack.ofPool condensedPool [1, 2]).newClientState condensedPool).store.WellFormed :=
  (@clients_wellFormed (.ofPool condensedPool [1, 2]) _ (Machine.reachable_after _
    [.storeDeviceDescriptorObjectPool 7 [0], .activateObjectPool 7 .working]) 7 _ rfl).1

end AogTaskController.TaskController
