import Mathlib.Data.List.Basic

/-!
# Device descriptor object pools

The pool that a client uploads, as the stack hands it to the task controller: a list of objects
that is searched in order. Only the object fields that the task controller reads are kept.
-/

namespace AogTaskController.TaskController

abbrev Ddi := Nat

namespace Ddi

abbrev actualWorkState : Ddi := 141
abbrev sectionControlState : Ddi := 160
abbrev actualCondensedWorkState1_16 : Ddi := 161
abbrev actualCondensedWorkState241_256 : Ddi := 176
abbrev setpointWorkState : Ddi := 289
abbrev setpointCondensedWorkState1_16 : Ddi := 290
abbrev setpointCondensedWorkState241_256 : Ddi := 305
abbrev condensedSectionOverrideState1_16 : Ddi := 367
abbrev condensedSectionOverrideState241_256 : Ddi := 382
abbrev gnssQuality : Ddi := 514

def isActualCondensed (ddi : Ddi) : Bool :=
  actualCondensedWorkState1_16 ≤ ddi && ddi ≤ actualCondensedWorkState241_256

def isSetpointCondensed (ddi : Ddi) : Bool :=
  setpointCondensedWorkState1_16 ≤ ddi && ddi ≤ setpointCondensedWorkState241_256

def isCondensedSectionOverride (ddi : Ddi) : Bool :=
  condensedSectionOverrideState1_16 ≤ ddi && ddi ≤ condensedSectionOverrideState241_256

private theorem isSetpointCondensed_iff {ddi : Ddi} :
    ddi.isSetpointCondensed = true ↔ 290 ≤ ddi ∧ ddi ≤ 305 := by
  rw [isSetpointCondensed, Bool.and_eq_true, decide_eq_true_eq, decide_eq_true_eq]

private theorem isActualCondensed_iff {ddi : Ddi} :
    ddi.isActualCondensed = true ↔ 161 ≤ ddi ∧ ddi ≤ 176 := by
  rw [isActualCondensed, Bool.and_eq_true, decide_eq_true_eq, decide_eq_true_eq]

theorem isSetpointCondensed_add {block : Nat} (hblock : block < 16) :
    isSetpointCondensed (setpointCondensedWorkState1_16 + block) = true :=
  isSetpointCondensed_iff.mpr
    ⟨Nat.le_add_right 290 block, Nat.add_le_add_left (Nat.le_of_lt_succ hblock) 290⟩

theorem isActualCondensed_add {block : Nat} (hblock : block < 16) :
    isActualCondensed (actualCondensedWorkState1_16 + block) = true :=
  isActualCondensed_iff.mpr
    ⟨Nat.le_add_right 161 block, Nat.add_le_add_left (Nat.le_of_lt_succ hblock) 161⟩

theorem ne_setpointCondensed {ddi : Ddi} (hddi : ddi.isSetpointCondensed = false) {block : Nat}
    (hblock : block < 16) : ddi ≠ setpointCondensedWorkState1_16 + block := by
  intro heq
  rw [heq, isSetpointCondensed_add hblock] at hddi
  cases hddi

theorem ne_actualCondensed {ddi : Ddi} (hddi : ddi.isActualCondensed = false) {block : Nat}
    (hblock : block < 16) : ddi ≠ actualCondensedWorkState1_16 + block := by
  intro heq
  rw [heq, isActualCondensed_add hblock] at hddi
  cases hddi

theorem exists_of_isActualCondensed {ddi : Ddi} (h : ddi.isActualCondensed = true) :
    ∃ block < 16, ddi = actualCondensedWorkState1_16 + block := by
  obtain ⟨hlow, hhigh⟩ := isActualCondensed_iff.mp h
  obtain ⟨block, rfl⟩ := Nat.exists_eq_add_of_le hlow
  exact ⟨block, Nat.lt_succ_of_le (Nat.le_of_add_le_add_left hhigh), rfl⟩

end Ddi

structure DeviceObject where
  objectId : Nat
  localizationLabel : List UInt8
  deriving DecidableEq

structure DeviceElementObject where
  objectId : Nat
  elementNumber : Nat
  parentObject : Nat
  childObjectIds : List Nat
  deriving DecidableEq

structure DeviceProcessDataObject where
  objectId : Nat
  ddi : Ddi
  settable : Bool
  onChange : Bool
  timeInterval : Bool
  deriving DecidableEq

inductive DdopObject
  | device (object : DeviceObject)
  | deviceElement (object : DeviceElementObject)
  | deviceProcessData (object : DeviceProcessDataObject)
  | other (objectId : Nat)
  deriving DecidableEq

def DdopObject.objectId : DdopObject → Nat
  | .device object => object.objectId
  | .deviceElement object => object.objectId
  | .deviceProcessData object => object.objectId
  | .other objectId => objectId

def DdopObject.device? : DdopObject → Option DeviceObject
  | .device object => some object
  | _ => none

def DdopObject.deviceElement? : DdopObject → Option DeviceElementObject
  | .deviceElement object => some object
  | _ => none

def DdopObject.deviceProcessData? : DdopObject → Option DeviceProcessDataObject
  | .deviceProcessData object => some object
  | _ => none

/-- The objects in index order. A null object, which the source skips, is left out. -/
abbrev Pool := List DdopObject

namespace Pool

def getObjectById (pool : Pool) (id : Nat) : Option DdopObject :=
  pool.find? fun object => object.objectId == id

def deviceElements (pool : Pool) : List DeviceElementObject :=
  pool.filterMap DdopObject.deviceElement?

def processData (pool : Pool) : List DeviceProcessDataObject :=
  pool.filterMap DdopObject.deviceProcessData?

def deviceObject (pool : Pool) : Option DeviceObject :=
  pool.findSome? DdopObject.device?

/-- The element numbers found by looking for an object in every child list: one for each time an
element lists it. -/
def listingElements (pool : Pool) (object : DeviceProcessDataObject) : List Nat :=
  pool.deviceElements.flatMap fun element =>
    (element.childObjectIds.filter (· == object.objectId)).map fun _ => element.elementNumber

/-- The number of the first element that lists the object as a child. -/
def findOwningElementNumber (pool : Pool) (object : DeviceProcessDataObject) : Option Nat :=
  (pool.deviceElements.find? fun element =>
    element.childObjectIds.any (· == object.objectId)).map (·.elementNumber)

/-- The Settable property of the first process data object with the DDI. -/
def isDdiSettable (pool : Pool) (ddi : Ddi) : Bool :=
  ((pool.processData.find? (·.ddi == ddi)).map (·.settable)).getD false

def Lists (pool : Pool) (ddi : Ddi) : Prop :=
  ∃ object ∈ pool.processData, object.ddi = ddi ∧ pool.listingElements object ≠ []

instance (pool : Pool) (ddi : Ddi) : Decidable (pool.Lists ddi) :=
  inferInstanceAs (Decidable (∃ object ∈ pool.processData, _ ∧ _))

end Pool

/-- How activation found that the device takes section setpoints. -/
inductive SectionControlMethod
  | condensedSetpoint
  | settableCondensedActual
  | settableActualWorkState
  | unsupported
  deriving DecidableEq

/-- The scan of `activate_object_pool` for the section control method. -/
def Pool.sectionControlMethod (pool : Pool) : SectionControlMethod :=
  let hasCondensedSetpoint := pool.processData.any (·.ddi.isSetpointCondensed)
  let hasSettableCondensedActual :=
    pool.processData.any fun object => object.ddi.isActualCondensed && object.settable
  let hasSettableActualWorkState :=
    pool.processData.any fun object => object.ddi == Ddi.actualWorkState && object.settable
  if hasCondensedSetpoint then .condensedSetpoint
  else if hasSettableCondensedActual then .settableCondensedActual
  else if hasSettableActualWorkState then .settableActualWorkState
  else .unsupported

end AogTaskController.TaskController
