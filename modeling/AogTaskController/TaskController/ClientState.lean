import AogTaskController.TaskController.ElementHierarchy

/-!
# Client state

What the task controller keeps for each client. The section vectors have one entry for each
section by their type.
-/

namespace AogTaskController.TaskController

inductive SectionState
  | off
  | on
  | errorState
  | notInstalled
  deriving DecidableEq

namespace SectionState

def bits : SectionState → BitVec 2
  | .off => 0
  | .on => 1
  | .errorState => 2
  | .notInstalled => 3

def ofBits (bits : BitVec 2) : SectionState :=
  if bits = 0 then .off else if bits = 1 then .on else if bits = 2 then .errorState
  else .notInstalled

@[simp] theorem ofBits_bits (state : SectionState) : ofBits state.bits = state := by
  cases state <;> rfl

end SectionState

inductive Command
  | setValue (ddi : Ddi) (elementNumber : Nat) (value : BitVec 32)
  | changeThreshold (ddi : Ddi) (elementNumber threshold : Nat)
  | timeInterval (ddi : Ddi) (elementNumber interval : Nat)
  deriving DecidableEq

structure ClientState where
  pool : Pool := []
  areMeasurementCommandsSent : Bool := false
  ddiToElementNumber : Std.ExtTreeMap Ddi Nat := ∅
  numberOfSections : Nat := 0
  numberOfSections_lt : numberOfSections < 256 := by decide
  sectionSetpointStates : Vector SectionState numberOfSections := Vector.replicate _ .off
  sectionActualStates : Vector SectionState numberOfSections := Vector.replicate _ .off
  sectionToElementNumber : Vector Nat numberOfSections := Vector.replicate _ 0
  elementToSection : Std.ExtTreeMap Nat Nat := ∅
  setpointWorkState : Bool := false
  elementWorkStates : Std.ExtTreeMap Nat Bool := ∅
  elementParents : ParentMap := ∅
  isSectionControlEnabled : Bool := false
  usesPerElementControl : Bool := false
  perElementSetpointDDI : Ddi := 0

instance : Inhabited ClientState := ⟨{}⟩

namespace ClientState

/-- `resize` keeps what fits and fills up with zeros. -/
def setNumberOfSections (st : ClientState) (number : UInt8) : ClientState :=
  { st with
    numberOfSections := number.toNat
    numberOfSections_lt := number.toNat_lt
    sectionSetpointStates := Vector.ofFn fun i => st.sectionSetpointStates[i.val]?.getD .off
    sectionActualStates := Vector.ofFn fun i => st.sectionActualStates[i.val]?.getD .off
    sectionToElementNumber := Vector.ofFn fun i => st.sectionToElementNumber[i.val]?.getD 0 }

def setSectionSetpointState (st : ClientState) (sect : Nat) (state : SectionState) : ClientState :=
  { st with sectionSetpointStates := st.sectionSetpointStates.setIfInBounds sect state }

def setSectionActualState (st : ClientState) (sect : Nat) (state : SectionState) : ClientState :=
  { st with sectionActualStates := st.sectionActualStates.setIfInBounds sect state }

def getElementNumberForSection (st : ClientState) (sect : Nat) : Nat :=
  st.sectionToElementNumber[sect]?.getD 0

def setElementNumberForSection (st : ClientState) (sect elementNumber : Nat) : ClientState :=
  if sect < st.numberOfSections then
    { st with
      sectionToElementNumber := st.sectionToElementNumber.setIfInBounds sect elementNumber
      elementToSection := st.elementToSection.insert elementNumber sect }
  else st

def tryGetSectionForElement (st : ClientState) (elementNumber : Nat) : Option Nat :=
  st.elementToSection[elementNumber]?

def getSectionSetpointState (st : ClientState) (sect : Nat) : SectionState :=
  st.sectionSetpointStates[sect]?.getD .notInstalled

def tryGetElementWorkState (st : ClientState) (elementNumber : Nat) : Option Bool :=
  st.elementWorkStates[elementNumber]?

def isElementOrParentOff (st : ClientState) (elementNumber : Nat) : Bool :=
  anyInChain st.elementParents elementNumber fun element =>
    st.tryGetElementWorkState element == some false

def getSectionActualState (st : ClientState) (sect : Nat) : SectionState :=
  if sect < st.numberOfSections then
    if st.usesPerElementControl then st.sectionActualStates[sect]?.getD .off
    else if st.isElementOrParentOff (st.getElementNumberForSection sect) then .off
    else st.sectionActualStates[sect]?.getD .off
  else .notInstalled

def isAnySectionSetpointOn (st : ClientState) : Bool :=
  st.sectionSetpointStates.any (· == .on)

def setSetpointWorkState (st : ClientState) (state : Bool) : ClientState :=
  { st with setpointWorkState := state }

def setSectionControlEnabled (st : ClientState) (state : Bool) : ClientState :=
  { st with isSectionControlEnabled := state }

def setUsesPerElementControl (st : ClientState) (state : Bool) : ClientState :=
  { st with usesPerElementControl := state }

def setPerElementSetpointDdi (st : ClientState) (ddi : Ddi) : ClientState :=
  { st with perElementSetpointDDI := ddi }

def markMeasurementCommandsSent (st : ClientState) : ClientState :=
  { st with areMeasurementCommandsSent := true }

def getElementNumberForDdi (st : ClientState) (ddi : Ddi) : Nat :=
  st.ddiToElementNumber[ddi]?.getD 0

def setElementNumberForDdi (st : ClientState) (ddi : Ddi) (elementNumber : Nat) : ClientState :=
  { st with ddiToElementNumber := st.ddiToElementNumber.insert ddi elementNumber }

def hasElementNumberForDdi (st : ClientState) (ddi : Ddi) : Bool :=
  st.ddiToElementNumber.contains ddi

def setElementWorkState (st : ClientState) (elementNumber : Nat) (isWorking : Bool) :
    ClientState :=
  { st with elementWorkStates := st.elementWorkStates.insert elementNumber isWorking }

def buildElementHierarchy (st : ClientState) : ClientState :=
  { st with elementParents := st.pool.buildParentMap }

theorem getSectionSetpointState_of_lt {st : ClientState} {sect : Nat}
    (hsect : sect < st.numberOfSections) :
    st.getSectionSetpointState sect = st.sectionSetpointStates[sect] := by
  simp [getSectionSetpointState, hsect]

theorem getSectionSetpointState_of_le {st : ClientState} {sect : Nat}
    (hsect : st.numberOfSections ≤ sect) :
    st.getSectionSetpointState sect = .notInstalled := by
  simp [getSectionSetpointState, hsect]

theorem isAnySectionSetpointOn_iff {st : ClientState} :
    st.isAnySectionSetpointOn = true ↔ ∃ sect, st.getSectionSetpointState sect = .on := by
  simp only [isAnySectionSetpointOn, Vector.any_eq_true, beq_iff_eq]
  constructor
  · intro h
    obtain ⟨sect, hsect, hon⟩ := h
    exact ⟨sect, (getSectionSetpointState_of_lt hsect).trans hon⟩
  · intro h
    obtain ⟨sect, hon⟩ := h
    have hsect : sect < st.numberOfSections := by
      by_contra hnot
      rw [getSectionSetpointState_of_le (Nat.le_of_not_lt hnot)] at hon
      cases hon
    exact ⟨sect, hsect, (getSectionSetpointState_of_lt hsect).symm.trans hon⟩

theorem isElementOrParentOff_iff {st : ClientState} {elementNumber : Nat} :
    st.isElementOrParentOff elementNumber = true ↔
      ∃ ancestor, Relation.ReflTransGen (Framework.Follows fun element => st.elementParents[element]?)
        elementNumber ancestor ∧ st.elementWorkStates[ancestor]? = some false := by
  rw [isElementOrParentOff, anyInChain_iff]
  simp only [tryGetElementWorkState, beq_iff_eq]

end ClientState

end AogTaskController.TaskController
