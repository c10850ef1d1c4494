import AogTaskController.Framework.BlockLoop
import AogTaskController.Framework.PackedFields
import AogTaskController.TaskController.ClientState

/-!
# Setpoint commands

What the main thread sends to one client: section setpoints, in messages for 16 sections each, the
work state setpoint, the section control state and the GNSS quality. The methods of the server run
these for every client; `clients[client]` is then the entry at hand.
-/

namespace AogTaskController.TaskController

open Framework

namespace ClientState

/-- The states of the 16 sections from `ddiOffset * 16` on, two bits each; the section index is
an 8-bit number. -/
def condensedValue (st : ClientState) (ddiOffset : Nat) : BitVec 32 :=
  packFields 32
    (fun i => (st.getSectionSetpointState ((ddiOffset * 16 % 256 + i) % 256)).bits) 16

def sendSetpointWorkState (st : ClientState) : ClientState × List Command :=
  let setpointWorkState := st.isAnySectionSetpointOn
  if st.setpointWorkState ≠ setpointWorkState ∧ st.hasElementNumberForDdi Ddi.setpointWorkState then
    (st.setSetpointWorkState setpointWorkState,
      [.setValue Ddi.setpointWorkState (st.getElementNumberForDdi Ddi.setpointWorkState)
        (if setpointWorkState then 1 else 0)])
  else (st, [])

/-- The section indices of the per-element path, up to the first beyond the last section. -/
def elementSections (st : ClientState) (ddiOffset : Nat) : List Nat :=
  ((List.range 16).map fun i => (ddiOffset * 16 % 256 + i) % 256).takeWhile
    (· < st.numberOfSections)

def sendElementSetpoints (st : ClientState) (ddiOffset : Nat) : List Command :=
  (st.elementSections ddiOffset).filterMap fun sect =>
    if st.getElementNumberForSection sect ≠ 0 then
      some (.setValue st.perElementSetpointDDI (st.getElementNumberForSection sect)
        (if st.getSectionSetpointState sect = .on then 1 else 0))
    else none

def sendSectionSetpointStates (st : ClientState) (ddiOffset : Nat) : ClientState × List Command :=
  let ddiTarget := Ddi.setpointCondensedWorkState1_16 + ddiOffset
  let ddiTargetLegacy := Ddi.actualCondensedWorkState1_16 + ddiOffset
  if st.hasElementNumberForDdi ddiTarget then
    let (st', sent) := st.sendSetpointWorkState
    (st', .setValue ddiTarget (st.getElementNumberForDdi ddiTarget) (st.condensedValue ddiOffset)
      :: sent)
  else if st.hasElementNumberForDdi ddiTargetLegacy then
    if st.pool.isDdiSettable ddiTargetLegacy then
      (st, [.setValue ddiTargetLegacy (st.getElementNumberForDdi ddiTargetLegacy)
        (st.condensedValue ddiOffset)])
    else (st, [])
  else if st.usesPerElementControl then
    let (st', sent) := st.sendSetpointWorkState
    (st', st.sendElementSetpoints ddiOffset ++ sent)
  else (st, [])

/-- The loop body of `update_section_states`, behind the deferred message. -/
def touchSection (sectionStates : List Bool) (i : Nat) (x : ClientState × List Command) :
    (ClientState × List Command) × Bool :=
  match sectionStates[i]? with
  | some demand =>
      if demand ≠ (x.1.getSectionSetpointState i == .on) then
        ((x.1.setSectionSetpointState i (if demand then .on else .off), x.2), true)
      else (x, false)
  | none => (x, false)

def setpointLoop (sectionStates : List Bool) : BlockLoop (ClientState × List Command) where
  size := 16
  touch := touchSection sectionStates
  flush ddiOffset x :=
    let (st, sent) := x.1.sendSectionSetpointStates ddiOffset
    (st, x.2 ++ sent)

def updateSectionStates (st : ClientState) (sectionStates : List Bool) :
    ClientState × List Command :=
  if !st.isSectionControlEnabled then (st, [])
  else if st.numberOfSections = 0 then (st, [])
  else (setpointLoop sectionStates).run st.numberOfSections (st, [])

def sendSectionControlState (st : ClientState) (enabled : Bool) : Command :=
  .setValue Ddi.sectionControlState (st.getElementNumberForDdi Ddi.sectionControlState)
    (if enabled then 1 else 0)

def updateSectionControlEnabled (st : ClientState) (enabled : Bool) : ClientState × List Command :=
  (st.setSectionControlEnabled enabled,
    if st.hasElementNumberForDdi Ddi.sectionControlState && 0 < st.numberOfSections then
      [st.sendSectionControlState enabled]
    else [])

def sendGnssQuality (st : ClientState) (quality : UInt8) : List Command :=
  if st.hasElementNumberForDdi Ddi.gnssQuality then
    [.setValue Ddi.gnssQuality (st.getElementNumberForDdi Ddi.gnssQuality)
      (BitVec.ofNat 32 quality.toNat)]
  else []

theorem eq_of_mem_updateSectionControlEnabled {st : ClientState} {enabled : Bool} {command : Command}
    (h : command ∈ (st.updateSectionControlEnabled enabled).2) :
    command = st.sendSectionControlState enabled := by
  rw [updateSectionControlEnabled] at h
  split at h
  · exact List.mem_singleton.mp h
  · cases h

theorem eq_of_mem_sendGnssQuality {st : ClientState} {quality : UInt8} {command : Command}
    (h : command ∈ st.sendGnssQuality quality) :
    command = .setValue Ddi.gnssQuality (st.getElementNumberForDdi Ddi.gnssQuality)
      (BitVec.ofNat 32 quality.toNat) := by
  rw [sendGnssQuality] at h
  split at h
  · exact List.mem_singleton.mp h
  · cases h

end ClientState

end AogTaskController.TaskController
