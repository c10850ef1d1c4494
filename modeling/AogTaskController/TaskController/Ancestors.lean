import AogTaskController.TaskController.ClientState

/-!
# Ancestors in the pool

The cached parent map is keyed by element numbers, the pool links its objects by object IDs. Where
element numbers are distinct, an element has the same ancestors either way, in pools of any shape.
-/

namespace AogTaskController.TaskController

open Framework

namespace Pool

/-- The parent object ID of the first element finds the second one. -/
def ParentObject (pool : Pool) (child parent : DeviceElementObject) : Prop :=
  pool.getObjectById child.parentObject = some (.deviceElement parent)

private theorem mem_deviceElements {pool : Pool} {element : DeviceElementObject} :
    element ∈ pool.deviceElements ↔ .deviceElement element ∈ pool := by
  rw [deviceElements, List.mem_filterMap]
  constructor
  · intro h
    obtain ⟨object, hobject, helement⟩ := h
    cases object with
    | deviceElement found =>
        cases helement
        exact hobject
    | _ => cases helement
  · intro h
    exact ⟨_, h, rfl⟩

theorem ParentObject.mem {pool : Pool} {child parent : DeviceElementObject}
    (h : pool.ParentObject child parent) : parent ∈ pool.deviceElements :=
  mem_deviceElements.mpr (List.mem_of_find?_eq_some h)

theorem DistinctElementNumbers.eq {pool : Pool} (hdistinct : pool.DistinctElementNumbers)
    {element element' : DeviceElementObject} (h : element ∈ pool.deviceElements)
    (h' : element' ∈ pool.deviceElements) (heq : element.elementNumber = element'.elementNumber) :
    element = element' :=
  List.inj_on_of_nodup_map hdistinct h h' heq

/-- The ancestors of an element by number are the numbers of its ancestors by object. -/
private theorem reaches_parentElement_iff {pool : Pool} (hdistinct : pool.DistinctElementNumbers)
    {elementNumber ancestorNumber : Nat} :
    Relation.ReflTransGen pool.ParentElement elementNumber ancestorNumber ↔
      elementNumber = ancestorNumber ∨
        ∃ element ∈ pool.deviceElements, element.elementNumber = elementNumber ∧
          ∃ ancestor, Relation.ReflTransGen pool.ParentObject element ancestor ∧
            ancestor.elementNumber = ancestorNumber := by
  constructor
  · intro h
    induction h with
    | refl => exact .inl rfl
    | @tail child parent _ hparent ih =>
        obtain ⟨link, hlink, rfl, object, hobject, rfl⟩ := hparent
        right
        rcases ih with rfl | ⟨element, helement, hnumber, ancestor, hreaches, hancestor⟩
        · exact ⟨link, hlink, rfl, object, .single hobject, rfl⟩
        · have hmem : ancestor ∈ pool.deviceElements := by
            rcases hreaches.cases_tail with rfl | ⟨_, _, hlast⟩
            · exact helement
            · exact ParentObject.mem hlast
          obtain rfl := hdistinct.eq hmem hlink hancestor
          exact ⟨element, helement, hnumber, object, hreaches.tail hobject, rfl⟩
  · intro h
    rcases h with rfl | ⟨element, helement, rfl, ancestor, hreaches, rfl⟩
    · exact .refl
    · suffices h : ancestor ∈ pool.deviceElements ∧
          Relation.ReflTransGen pool.ParentElement element.elementNumber ancestor.elementNumber from h.2
      induction hreaches with
      | refl => exact ⟨helement, .refl⟩
      | tail _ hparent ih =>
          exact ⟨ParentObject.mem hparent, ih.2.tail ⟨_, ih.1, rfl, _, hparent, rfl⟩⟩

end Pool

namespace ClientState

/-- For every pool with distinct element numbers and all recorded work states: an element counts as
off if and only if it, or an element up its parent objects, has last reported that it is off. -/
theorem isElementOrParentOff_buildElementHierarchy_iff (st : ClientState)
    (hdistinct : st.pool.DistinctElementNumbers) (elementNumber : Nat) :
    st.buildElementHierarchy.isElementOrParentOff elementNumber = true ↔
      st.elementWorkStates[elementNumber]? = some false ∨
        ∃ element ∈ st.pool.deviceElements, element.elementNumber = elementNumber ∧
          ∃ ancestor, Relation.ReflTransGen st.pool.ParentObject element ancestor ∧
            st.elementWorkStates[ancestor.elementNumber]? = some false := by
  have hreaches (ancestorNumber : Nat) : Relation.ReflTransGen
      (Follows fun element => st.buildElementHierarchy.elementParents[element]?) elementNumber
        ancestorNumber ↔ Relation.ReflTransGen st.pool.ParentElement elementNumber ancestorNumber :=
    Pool.reaches_buildParentMap_iff hdistinct
  simp only [isElementOrParentOff_iff, hreaches, Pool.reaches_parentElement_iff hdistinct]
  constructor
  · intro h
    obtain ⟨_, rfl | ⟨element, helement, hnumber, ancestor, hancestor, rfl⟩, hoff⟩ := h
    · exact .inl hoff
    · exact .inr ⟨element, helement, hnumber, ancestor, hancestor, hoff⟩
  · intro h
    rcases h with hoff | ⟨element, helement, hnumber, ancestor, hancestor, hoff⟩
    · exact ⟨elementNumber, .inl rfl, hoff⟩
    · exact ⟨_, .inr ⟨element, helement, hnumber, ancestor, hancestor, rfl⟩, hoff⟩

/-- Two elements that are each other's parent, a third one below them, and one below no element. -/
def brokenPool : Pool :=
  [.device ⟨0, []⟩, .deviceElement ⟨50, 5, 51, []⟩, .deviceElement ⟨51, 6, 50, []⟩,
    .deviceElement ⟨52, 7, 51, []⟩, .deviceElement ⟨53, 8, 0, []⟩]

theorem isElementOrParentOff_brokenPool :
    (({ (default : ClientState) with pool := brokenPool }).setElementWorkState 5
      false).buildElementHierarchy.isElementOrParentOff 7 = true := by
  have hup : brokenPool.ParentObject ⟨52, 7, 51, []⟩ ⟨51, 6, 50, []⟩ := by
    show brokenPool.getObjectById 51 = _
    decide
  have hround : brokenPool.ParentObject ⟨51, 6, 50, []⟩ ⟨50, 5, 51, []⟩ := by
    show brokenPool.getObjectById 50 = _
    decide
  exact (isElementOrParentOff_buildElementHierarchy_iff
    (({ (default : ClientState) with pool := brokenPool }).setElementWorkState 5 false)
    (by decide) 7).mpr (.inr ⟨⟨52, 7, 51, []⟩, by decide, rfl, ⟨50, 5, 51, []⟩,
      (Relation.ReflTransGen.single hup).tail hround, by decide⟩)

end ClientState

end AogTaskController.TaskController
