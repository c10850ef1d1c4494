import AogTaskController.TaskController.Setup

/-!
# Section control methods

Activation chooses the section control method from all objects of the pool. Sending chooses again
for every block, from the mapping and from the first object that has the DDI.
-/

namespace AogTaskController.TaskController

open Framework

namespace Pool

variable {pool : Pool}

private theorem isSetpointCondensed_of_method
    (hmethod : pool.sectionControlMethod ≠ .condensedSetpoint)
    {object : DeviceProcessDataObject} (hobject : object ∈ pool.processData) :
    object.ddi.isSetpointCondensed = false := by
  by_contra hcondensed
  apply hmethod
  have hany : pool.processData.any (·.ddi.isSetpointCondensed) = true :=
    List.any_eq_true.mpr ⟨object, hobject, Bool.eq_true_of_not_eq_false hcondensed⟩
  simp [sectionControlMethod, hany]

private theorem settable_of_method (hmethod : pool.sectionControlMethod = .settableActualWorkState)
    {object : DeviceProcessDataObject} (hobject : object ∈ pool.processData)
    (hddi : object.ddi.isActualCondensed = true) : object.settable = false := by
  by_contra hsettable
  have hany : (pool.processData.any fun object =>
      object.ddi.isActualCondensed && object.settable) = true := by
    rw [List.any_eq_true]
    exact ⟨object, hobject, by rw [hddi, Bool.eq_true_of_not_eq_false hsettable]; rfl⟩
  revert hmethod
  simp only [sectionControlMethod, hany]
  split
  · simp
  · simp

theorem not_lists_of_method (hmethod : pool.sectionControlMethod ≠ .condensedSetpoint) {block : Nat}
    (hblock : block < 16) : ¬ pool.Lists (Ddi.setpointCondensedWorkState1_16 + block) := by
  intro hlists
  obtain ⟨object, hobject, hddi, _⟩ := hlists
  have hnot := isSetpointCondensed_of_method hmethod hobject
  rw [hddi, Ddi.isSetpointCondensed_add hblock] at hnot
  cases hnot

private theorem isDdiSettable_of_method
    (hmethod : pool.sectionControlMethod = .settableActualWorkState)
    {block : Nat} (hblock : block < 16) :
    pool.isDdiSettable (Ddi.actualCondensedWorkState1_16 + block) = false := by
  rw [isDdiSettable]
  cases hfind : pool.processData.find? (·.ddi == Ddi.actualCondensedWorkState1_16 + block) with
  | none => rfl
  | some object =>
      have hfound := List.find?_some hfind
      have hddi : object.ddi = Ddi.actualCondensedWorkState1_16 + block := beq_iff_eq.mp hfound
      apply settable_of_method hmethod (List.mem_of_find?_eq_some hfind)
      rw [hddi, Ddi.isActualCondensed_add hblock]

end Pool

def IsobusStack.DeclaresMethod (stack : IsobusStack) (pool : Pool) (block : Nat) : Prop :=
  match pool.sectionControlMethod with
  | .condensedSetpoint => pool.Lists (Ddi.setpointCondensedWorkState1_16 + block)
  | .settableCondensedActual =>
      ∃ object ∈ pool.processData, object.ddi = Ddi.actualCondensedWorkState1_16 + block ∧
        object.settable = true ∧ pool.listingElements object ≠ []
  | .settableActualWorkState =>
      ∃ sect, sect / 16 = block ∧ (stack.newClientState pool).getElementNumberForSection sect ≠ 0
  | .unsupported => False

namespace ClientState

/-- Sending the block issues a condensed message with its 16 setpoints. -/
def CarriesCondensed (st : ClientState) (block : Nat) (ddi : Ddi) : Prop :=
  ∃ element value, .setValue ddi element value ∈ (st.sendSectionSetpointStates block).2 ∧
    ∀ i < 16, SectionState.ofBits (readField 2 value i) =
      st.getSectionSetpointState (16 * block + i)

/-- Sending the block issues the setpoint of each of its sections that has an element, and there
is one. -/
def CarriesPerElement (st : ClientState) (block : Nat) : Prop :=
  (∃ sect, sect / 16 = block ∧ st.getElementNumberForSection sect ≠ 0) ∧
    ∀ sect, sect / 16 = block → st.getElementNumberForSection sect ≠ 0 →
      .setValue Ddi.actualWorkState (st.getElementNumberForSection sect)
        (if st.getSectionSetpointState sect = .on then 1 else 0) ∈
          (st.sendSectionSetpointStates block).2

/-- Sending the block uses the method that activation chose. -/
def CarriesByMethod (st : ClientState) (block : Nat) : Prop :=
  match st.pool.sectionControlMethod with
  | .condensedSetpoint => st.CarriesCondensed block (Ddi.setpointCondensedWorkState1_16 + block)
  | .settableCondensedActual =>
      st.CarriesCondensed block (Ddi.actualCondensedWorkState1_16 + block)
  | .settableActualWorkState => st.CarriesPerElement block
  | .unsupported => False

def ChoosesMethod (st : ClientState) (block : Nat) : Prop :=
  match st.pool.sectionControlMethod with
  | .condensedSetpoint => True
  | .settableCondensedActual =>
      st.pool.isDdiSettable (Ddi.actualCondensedWorkState1_16 + block) = true
  | .settableActualWorkState =>
      ¬ st.pool.Lists (Ddi.actualCondensedWorkState1_16 + block) ∧
        ∃ sect, sect / 16 = block ∧ st.getElementNumberForSection sect ≠ 0
  | .unsupported => False

variable {st : ClientState} {block : Nat}

theorem sendSectionSetpointStates_of_legacy
    (hunmapped : st.hasElementNumberForDdi (Ddi.setpointCondensedWorkState1_16 + block) = false)
    (hlegacy : st.hasElementNumberForDdi (Ddi.actualCondensedWorkState1_16 + block) = true) :
    st.sendSectionSetpointStates block =
      (st, if st.pool.isDdiSettable (Ddi.actualCondensedWorkState1_16 + block) then
        [.setValue (Ddi.actualCondensedWorkState1_16 + block)
          (st.getElementNumberForDdi (Ddi.actualCondensedWorkState1_16 + block))
          (st.condensedValue block)]
      else []) := by
  rw [sendSectionSetpointStates, hunmapped, hlegacy]
  cases st.pool.isDdiSettable (Ddi.actualCondensedWorkState1_16 + block) <;> rfl

theorem sendSectionSetpointStates_of_perElement
    (hunmapped : st.hasElementNumberForDdi (Ddi.setpointCondensedWorkState1_16 + block) = false)
    (hlegacy : st.hasElementNumberForDdi (Ddi.actualCondensedWorkState1_16 + block) = false)
    (hper : st.usesPerElementControl = true) :
    (st.sendSectionSetpointStates block).2 =
      st.sendElementSetpoints block ++ st.sendSetpointWorkState.2 := by
  rw [sendSectionSetpointStates, hunmapped, hlegacy, hper]
  rfl

private theorem mem_takeWhile_of_pairwise {p : Nat → Bool} {l : List Nat}
    (hl : l.Pairwise fun a b => p b = true → p a = true) {x : Nat} :
    x ∈ l.takeWhile p ↔ x ∈ l ∧ p x = true := by
  induction l with
  | nil => simp
  | cons a l ih =>
      obtain ⟨hhead, htail⟩ := List.pairwise_cons.mp hl
      by_cases ha : p a = true
      · rw [List.takeWhile_cons_of_pos ha, List.mem_cons, ih htail, List.mem_cons, or_and_right]
        apply or_congr_left
        exact ⟨fun h => ⟨h, h ▸ ha⟩, fun h => h.1⟩
      · rw [List.takeWhile_cons_of_neg ha]
        refine iff_of_false List.not_mem_nil ?_
        intro hx
        rcases List.mem_cons.mp hx.1 with rfl | hmem
        · exact ha hx.2
        · exact ha (hhead x hmem hx.2)

theorem mem_elementSections (hblock : block < 16) {sect : Nat} :
    sect ∈ st.elementSections block ↔ sect / 16 = block ∧ sect < st.numberOfSections := by
  have hindices : ((List.range 16).map fun i => (block * 16 % 256 + i) % 256) =
      (List.range 16).map fun i => 16 * block + i := by
    apply List.map_congr_left
    intro i hi
    rw [List.mem_range] at hi
    omega
  rw [elementSections, hindices, mem_takeWhile_of_pairwise, decide_eq_true_eq, List.mem_map]
  · apply and_congr_left'
    constructor
    · intro h
      obtain ⟨i, hi, rfl⟩ := h
      rw [List.mem_range] at hi
      omega
    · intro h
      exact ⟨sect - 16 * block, List.mem_range.mpr (by omega), by omega⟩
  · rw [List.pairwise_map]
    apply List.pairwise_lt_range.imp
    intro i j hij hj
    rw [decide_eq_true_eq] at hj ⊢
    omega

private theorem lt_of_getElementNumberForSection_ne_zero {sect : Nat}
    (h : st.getElementNumberForSection sect ≠ 0) : sect < st.numberOfSections := by
  by_contra hsect
  apply h
  simp [getElementNumberForSection, Nat.le_of_not_lt hsect]

theorem setValue_mem_sendElementSetpoints (hblock : block < 16) {sect : Nat}
    (hsect : sect / 16 = block) (helement : st.getElementNumberForSection sect ≠ 0) :
    .setValue st.perElementSetpointDDI (st.getElementNumberForSection sect)
      (if st.getSectionSetpointState sect = .on then 1 else 0) ∈ st.sendElementSetpoints block := by
  rw [sendElementSetpoints, List.mem_filterMap]
  refine ⟨sect, ?_, if_pos helement⟩
  exact (mem_elementSections hblock).mpr ⟨hsect, lt_of_getElementNumberForSection_ne_zero helement⟩

section SetUp

variable (h : st.SetUp) (hsent : st.areMeasurementCommandsSent = true) (hblock : block < 16)

include h hsent hblock

private theorem carriesCondensed_setpoint
    (hlists : st.pool.Lists (Ddi.setpointCondensedWorkState1_16 + block)) :
    st.CarriesCondensed block (Ddi.setpointCondensedWorkState1_16 + block) := by
  have hmapped := (h.has_condensed hsent hblock).mpr hlists
  refine ⟨st.getElementNumberForDdi (Ddi.setpointCondensedWorkState1_16 + block),
    st.condensedValue block, ?_, fun i hi => readField_condensedValue hblock hi⟩
  rw [sendSectionSetpointStates_of_mapped hmapped]
  exact List.mem_cons_self ..

private theorem unmapped_of_method (hmethod : st.pool.sectionControlMethod ≠ .condensedSetpoint) :
    st.hasElementNumberForDdi (Ddi.setpointCondensedWorkState1_16 + block) = false := by
  rw [Bool.eq_false_iff, ne_eq, h.has_condensed hsent hblock]
  exact Pool.not_lists_of_method hmethod hblock

private theorem carriesCondensed_actual_iff
    (hmethod : st.pool.sectionControlMethod = .settableCondensedActual)
    (hlists : st.pool.Lists (Ddi.actualCondensedWorkState1_16 + block)) :
    st.CarriesCondensed block (Ddi.actualCondensedWorkState1_16 + block) ↔
      st.pool.isDdiSettable (Ddi.actualCondensedWorkState1_16 + block) = true := by
  have hunmapped := unmapped_of_method h hsent hblock (by rw [hmethod]; simp)
  have hsend := sendSectionSetpointStates_of_legacy hunmapped
    ((h.has_legacy hsent hblock).mpr hlists)
  rw [CarriesCondensed, hsend]
  cases st.pool.isDdiSettable (Ddi.actualCondensedWorkState1_16 + block) with
  | false => simp
  | true =>
      refine iff_of_true ?_ rfl
      exact ⟨_, _, List.mem_singleton_self _, fun i hi => readField_condensedValue hblock hi⟩

private theorem carriesPerElement_iff
    (hmethod : st.pool.sectionControlMethod = .settableActualWorkState) :
    st.CarriesPerElement block ↔
      ¬ st.pool.Lists (Ddi.actualCondensedWorkState1_16 + block) ∧
        ∃ sect, sect / 16 = block ∧ st.getElementNumberForSection sect ≠ 0 := by
  have hunmapped := unmapped_of_method h hsent hblock (by rw [hmethod]; simp)
  have hper : st.usesPerElementControl = true := by
    rw [h.method, hmethod]
    rfl
  by_cases hlists : st.pool.Lists (Ddi.actualCondensedWorkState1_16 + block)
  · -- the legacy branch is taken for an object that cannot be set
    have hnothing : (st.sendSectionSetpointStates block).2 = [] := by
      rw [sendSectionSetpointStates_of_legacy hunmapped ((h.has_legacy hsent hblock).mpr hlists),
        Pool.isDdiSettable_of_method hmethod hblock]
      rfl
    refine iff_of_false ?_ fun hchooses => hchooses.1 hlists
    intro hcarries
    obtain ⟨⟨sect, hsect, helement⟩, hall⟩ := hcarries
    have hmem := hall sect hsect helement
    rw [hnothing] at hmem
    cases hmem
  · have hlegacy : st.hasElementNumberForDdi (Ddi.actualCondensedWorkState1_16 + block) = false := by
      rw [Bool.eq_false_iff, ne_eq, h.has_legacy hsent hblock]
      exact hlists
    have hall (sect : Nat) (hsect : sect / 16 = block)
        (helement : st.getElementNumberForSection sect ≠ 0) :
        .setValue Ddi.actualWorkState (st.getElementNumberForSection sect)
          (if st.getSectionSetpointState sect = .on then 1 else 0) ∈
            (st.sendSectionSetpointStates block).2 := by
      rw [sendSectionSetpointStates_of_perElement hunmapped hlegacy hper, ← h.perElementDdi hper]
      exact List.mem_append_left _ (setValue_mem_sendElementSetpoints hblock hsect helement)
    exact ⟨fun hcarries => ⟨hlists, hcarries.1⟩, fun hchooses => ⟨hchooses.2, hall⟩⟩

private theorem carriesByMethod_iff {stack : IsobusStack}
    (hdeclared : stack.DeclaresMethod st.pool block) :
    st.CarriesByMethod block ↔ st.ChoosesMethod block := by
  rw [IsobusStack.DeclaresMethod] at hdeclared
  rw [CarriesByMethod, ChoosesMethod]
  cases hmethod : st.pool.sectionControlMethod with
  | condensedSetpoint =>
      rw [hmethod] at hdeclared
      exact iff_of_true (carriesCondensed_setpoint h hsent hblock hdeclared) trivial
  | settableCondensedActual =>
      rw [hmethod] at hdeclared
      obtain ⟨object, hobject, hddi, _, hlisted⟩ := hdeclared
      exact carriesCondensed_actual_iff h hsent hblock hmethod ⟨object, hobject, hddi, hlisted⟩
  | settableActualWorkState => exact carriesPerElement_iff h hsent hblock hmethod
  | unsupported => exact Iff.rfl

end SetUp

end ClientState

/-- In every state that the server can reach, with any setpoints, a client that has been asked for
its measurements is sent a declared block by the method that activation chose if and only if the
choice for the block finds this method. -/
theorem sendSectionSetpointStates_carries_iff (stack : IsobusStack) {s : Server}
    (hs : (serverMachine stack).Reachable s) {partner : ControlFunction} {st : ClientState}
    (hst : s.clients[partner]? = some st) (hsent : st.areMeasurementCommandsSent = true)
    (states : Vector SectionState st.numberOfSections) (workState : Bool) {block : Nat}
    (hdeclared : stack.DeclaresMethod st.pool block) (hblock : 16 * block < st.numberOfSections) :
    ((st.setSetpoints states).setSetpointWorkState workState).CarriesByMethod block ↔
      st.ChoosesMethod block := by
  have h := server_client_invariant (setUp_invariant stack) hs hst
  have hcall : ((st.setSetpoints states).setSetpointWorkState workState).SetUp :=
    ⟨h.elements, h.method, h.perElementDdi⟩
  have hlt := st.numberOfSections_lt
  exact ClientState.carriesByMethod_iff hcall hsent (by omega) hdeclared

def subscription : List Event :=
  [.storeDeviceDescriptorObjectPool 7 [0], .activateObjectPool 7 .working, .requestMeasurementCommands]

def subscribedClient (stack : IsobusStack) : ClientState :=
  ((serverMachine stack).after subscription).clients[7]?.getD default

private theorem clients_subscription {stack : IsobusStack}
    (h : ((serverMachine stack).after subscription).clients[7]?.isSome = true) :
    ((serverMachine stack).after subscription).clients[7]? = some (subscribedClient stack) := by
  obtain ⟨st, hst⟩ := Option.isSome_iff_exists.mp h
  rw [subscribedClient, hst, Option.getD_some]

/-- The only section comes on. -/
theorem condensedPool_carries :
    (((subscribedClient (.ofPool condensedPool [1])).setSetpoints
      (Vector.replicate _ .on)).setSetpointWorkState false).CarriesByMethod 0 := by
  have hmethod : (subscribedClient (.ofPool condensedPool [1])).pool.sectionControlMethod =
      .condensedSetpoint := by
    decide +kernel
  apply (sendSectionSetpointStates_carries_iff (.ofPool condensedPool [1])
    (Machine.reachable_after _ subscription) (clients_subscription (by decide +kernel))
    (by decide +kernel) _ _ ?_ (by decide +kernel)).mpr
  · rw [ClientState.ChoosesMethod, hmethod]
    trivial
  · rw [IsobusStack.DeclaresMethod, hmethod]
    show Pool.Lists _ _
    decide +kernel

/-- A settable DDI 141 next to a DDI 161 that cannot be set, on the element of the only section. -/
def readOnlyCondensedPool : Pool :=
  [.device ⟨0, []⟩, .deviceElement ⟨1, 1, 0, [2, 3]⟩, .deviceProcessData ⟨2, 141, true, true, false⟩,
    .deviceProcessData ⟨3, 161, false, true, false⟩]

/-- The per-element method is chosen for this pool, and nothing is ever sent to its section. -/
theorem readOnlyCondensedPool_sends_nothing :
    ¬ ∀ stack s, (serverMachine stack).Reachable s → ∀ (partner : ControlFunction) (st : ClientState),
      s.clients[partner]? = some st → st.areMeasurementCommandsSent = true →
      ∀ block, 16 * block < st.numberOfSections → stack.DeclaresMethod st.pool block →
        st.CarriesByMethod block := by
  intro h
  have hmethod : (subscribedClient (.ofPool readOnlyCondensedPool [1])).pool.sectionControlMethod =
      .settableActualWorkState := by
    decide +kernel
  have hnothing : ((subscribedClient (.ofPool readOnlyCondensedPool
      [1])).sendSectionSetpointStates 0).2 = [] := by
    decide +kernel
  have hcarries := h (.ofPool readOnlyCondensedPool [1]) _ (Machine.reachable_after _ subscription) 7 _
    (clients_subscription (by decide +kernel)) (by decide +kernel) 0 (by decide +kernel)
  rw [IsobusStack.DeclaresMethod, ClientState.CarriesByMethod, hmethod] at hcarries
  obtain ⟨⟨sect, hsect, helement⟩, hall⟩ := hcarries ⟨0, rfl, by decide +kernel⟩
  have hmem := hall sect hsect helement
  rw [hnothing] at hmem
  cases hmem

end AogTaskController.TaskController
