import AogTaskController.Framework.PackedFields
import AogTaskController.TaskController.ClientState

/-!
# Value commands

What a client reports about itself: its section states, whether it is in automatic, and the work
state of its elements.
-/

namespace AogTaskController.TaskController

open Framework

namespace ClientState

/-- The section that field `i` of a condensed actual work state stands for, an 8-bit number. -/
def reportedSection (ddi : Ddi) (i : Nat) : Nat :=
  (16 * (ddi - Ddi.actualCondensedWorkState1_16) % 256 + i) % 256

def onActualCondensed (st : ClientState) (ddi : Ddi) (elementNumber : Nat) (value : BitVec 32) :
    ClientState :=
  (List.range 16).foldl (fun st i =>
    (st.setSectionActualState (reportedSection ddi i)
      (SectionState.ofBits (readField 2 value i))).setElementNumberForSection
        (reportedSection ddi i) elementNumber) st

def onActualWorkState (st : ClientState) (elementNumber : Nat) (value : BitVec 32) : ClientState :=
  let st := st.setElementWorkState elementNumber (value == 1)
  if st.usesPerElementControl then
    match st.tryGetSectionForElement elementNumber with
    | some sect => st.setSectionActualState sect (if value == 1 then .on else .off)
    | none => st
  else st

/-- The DDIs for which `on_value_command` looks up the entry of the sender. -/
def handlesValueCommand (ddi : Ddi) : Bool :=
  ddi.isActualCondensed || ddi == Ddi.sectionControlState || ddi == Ddi.actualWorkState

def onValueCommand (st : ClientState) (ddi : Ddi) (elementNumber : Nat) (value : BitVec 32) :
    ClientState :=
  if ddi.isActualCondensed then st.onActualCondensed ddi elementNumber value
  else if ddi = Ddi.sectionControlState then st.setSectionControlEnabled (value == 1)
  else if ddi = Ddi.actualWorkState then st.onActualWorkState elementNumber value
  else st

end ClientState

end AogTaskController.TaskController
