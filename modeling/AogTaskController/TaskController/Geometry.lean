import AogTaskController.TaskController.ActualStates

/-!
# Section geometry

What activation makes of the implement's geometry: a number of sections, which is counted in
8 bits, and the element number of each of them.
-/

namespace AogTaskController.TaskController

open Framework

namespace ClientState

theorem tryGetSectionForElement_setElementNumberForSection (st : ClientState)
    (i elementNumber e : Nat) :
    (st.setElementNumberForSection i elementNumber).tryGetSectionForElement e =
      if i < st.numberOfSections ∧ elementNumber = e then some i
      else st.tryGetSectionForElement e := by
  rw [setElementNumberForSection]
  by_cases hi : i < st.numberOfSections
  · rw [if_pos hi, tryGetSectionForElement, Std.ExtTreeMap.getElem?_insert]
    simp [hi, Std.LawfulEqCmp.compare_eq_iff_eq, tryGetSectionForElement]
  · rw [if_neg hi, if_neg fun h => hi h.1]

def setSectionMaps (st : ClientState) (sectionToElementNumber : Vector Nat st.numberOfSections)
    (elementToSection : Std.ExtTreeMap Nat Nat) : ClientState :=
  { st with
    sectionToElementNumber := sectionToElementNumber
    elementToSection := elementToSection }

section MapSections

variable (st : ClientState) (sectionElementNumbers : List Nat)

def mapFirstSections (count : Nat) : ClientState :=
  (List.range count).foldl (fun st i =>
    match sectionElementNumbers[i]? with
    | some elementNumber => st.setElementNumberForSection i elementNumber
    | none => st) st

theorem mapFirstSections_succ (count : Nat) :
    st.mapFirstSections sectionElementNumbers (count + 1) =
      match sectionElementNumbers[count]? with
      | some elementNumber => (st.mapFirstSections sectionElementNumbers
          count).setElementNumberForSection count elementNumber
      | none => st.mapFirstSections sectionElementNumbers count := by
  rw [mapFirstSections, List.range_succ, List.foldl_append]
  rfl

private theorem mapFirstSections_frame (count : Nat) :
    ∃ elements sections, st.mapFirstSections sectionElementNumbers count =
      st.setSectionMaps elements sections := by
  induction count with
  | zero => exact ⟨st.sectionToElementNumber, st.elementToSection, rfl⟩
  | succ count ih =>
      obtain ⟨elements, sections, heq⟩ := ih
      rw [mapFirstSections_succ, heq]
      cases sectionElementNumbers[count]? with
      | none => exact ⟨elements, sections, rfl⟩
      | some elementNumber =>
          simp only [setElementNumberForSection]
          split
          · exact ⟨_, _, rfl⟩
          · exact ⟨elements, sections, rfl⟩

theorem numberOfSections_mapFirstSections (count : Nat) :
    (st.mapFirstSections sectionElementNumbers count).numberOfSections = st.numberOfSections := by
  obtain ⟨elements, sections, heq⟩ := st.mapFirstSections_frame sectionElementNumbers count
  rw [heq]
  rfl

variable {st sectionElementNumbers}

private theorem getElementNumberForSection_mapFirstSections {count : Nat}
    (hcount : count ≤ st.numberOfSections)
    (hlength : sectionElementNumbers.length = st.numberOfSections) {i : Nat} (hi : i < count) :
    sectionElementNumbers[i]? = some
      ((st.mapFirstSections sectionElementNumbers count).getElementNumberForSection i) := by
  induction count with
  | zero => cases hi
  | succ count ih =>
      have hlast : count < sectionElementNumbers.length := by omega
      rw [mapFirstSections_succ, List.getElem?_eq_getElem hlast]
      simp only [getElementNumberForSection_setElementNumberForSection,
        numberOfSections_mapFirstSections]
      by_cases heq : count = i
      · subst heq
        rw [if_pos ⟨rfl, hcount⟩, List.getElem?_eq_getElem hlast]
      · rw [if_neg fun h => heq h.1]
        exact ih (by omega) (by omega)

theorem tryGetSectionForElement_mapFirstSections {count : Nat} (hcount : count ≤ st.numberOfSections)
    (hlength : sectionElementNumbers.length = st.numberOfSections) (hempty : st.elementToSection = ∅)
    (hdistinct : sectionElementNumbers.Nodup) {elementNumber sect : Nat} :
    (st.mapFirstSections sectionElementNumbers count).tryGetSectionForElement elementNumber =
        some sect ↔ sect < count ∧ sectionElementNumbers[sect]? = some elementNumber := by
  induction count with
  | zero => simp [mapFirstSections, tryGetSectionForElement, hempty]
  | succ count ih =>
      have hlast : count < sectionElementNumbers.length := by omega
      rw [mapFirstSections_succ, List.getElem?_eq_getElem hlast]
      simp only [tryGetSectionForElement_setElementNumberForSection,
        numberOfSections_mapFirstSections]
      by_cases heq : sectionElementNumbers[count] = elementNumber
      · rw [if_pos ⟨hcount, heq⟩, Option.some.injEq, ← heq]
        constructor
        · intro h
          subst h
          exact ⟨Nat.lt_succ_self count, List.getElem?_eq_getElem hlast⟩
        · intro h
          rw [← List.getElem?_eq_getElem hlast] at h
          exact (List.getElem?_inj hlast hdistinct).mp h.2.symm
      · rw [if_neg fun h => heq h.2, ih (by omega)]
        constructor
        · intro h
          exact ⟨by omega, h.2⟩
        · intro h
          refine ⟨?_, h.2⟩
          have hne : sect ≠ count := by
            rintro rfl
            rw [List.getElem?_eq_getElem hlast] at h
            exact heq (Option.some.inj h.2)
          omega

end MapSections

/-- The client has the sections with these element numbers, in this order. -/
def HasSections (st : ClientState) (sectionElementNumbers : List Nat) : Prop :=
  st.numberOfSections = sectionElementNumbers.length ∧
    ∀ sect < sectionElementNumbers.length,
      sectionElementNumbers[sect]? = some (st.getElementNumberForSection sect)

end ClientState

section Activation

variable (stack : IsobusStack) (pool : Pool)

def IsobusStack.geometrySections : List Nat := (stack.getImplementGeometry pool).sectionElementNumbers

/-- Whatever depends neither on the two maps nor on the section control method is as it was before
the sections got their element numbers. -/
theorem newClientState_field {α : Type*} (field : ClientState → α)
    (hmaps : ∀ (st : ClientState) elements sections,
      field (st.setSectionMaps elements sections) = field st)
    (hmethod : ∀ (st : ClientState) uses ddi,
      field ((st.setUsesPerElementControl uses).setPerElementSetpointDdi ddi) = field st) :
    field (stack.newClientState pool) = field (stack.poolState pool) := by
  obtain ⟨elements, sections, heq⟩ := (stack.poolState pool).mapFirstSections_frame
    (stack.geometrySections pool) (stack.poolState pool).numberOfSections
  have hmapped : field ((stack.poolState pool).mapSections (stack.geometrySections pool)) =
      field (stack.poolState pool) := (congrArg field heq).trans (hmaps _ elements sections)
  rw [IsobusStack.newClientState]
  cases pool.sectionControlMethod with
  | settableActualWorkState => exact (hmethod _ _ _).trans hmapped
  | _ => exact hmapped

private theorem newClientState_getElementNumberForSection (sect : Nat) :
    (stack.newClientState pool).getElementNumberForSection sect =
      ((stack.poolState pool).mapFirstSections (stack.geometrySections pool)
        (stack.poolState pool).numberOfSections).getElementNumberForSection sect := by
  rw [IsobusStack.newClientState]
  cases pool.sectionControlMethod <;> rfl

theorem newClientState_tryGetSectionForElement (elementNumber : Nat) :
    (stack.newClientState pool).tryGetSectionForElement elementNumber =
      ((stack.poolState pool).mapFirstSections (stack.geometrySections pool)
        (stack.poolState pool).numberOfSections).tryGetSectionForElement elementNumber := by
  rw [IsobusStack.newClientState]
  cases pool.sectionControlMethod <;> rfl

theorem newClientState_numberOfSections :
    (stack.newClientState pool).numberOfSections = (stack.geometrySections pool).length % 256 := by
  have hmapped := (stack.poolState pool).numberOfSections_mapFirstSections
    (stack.geometrySections pool) (stack.poolState pool).numberOfSections
  have hcounted : (stack.poolState pool).numberOfSections =
      (stack.geometrySections pool).length % 256 := UInt8.toNat_ofNat'
  rw [IsobusStack.newClientState]
  cases pool.sectionControlMethod <;> exact hmapped.trans hcounted

theorem newClientState_hasSections_iff :
    (stack.newClientState pool).HasSections (stack.geometrySections pool) ↔
      (stack.geometrySections pool).length < 256 := by
  rw [ClientState.HasSections, newClientState_numberOfSections]
  constructor
  · intro h
    omega
  · intro hlt
    have hlength : (stack.geometrySections pool).length =
        (stack.poolState pool).numberOfSections :=
      (Nat.mod_eq_of_lt hlt).symm.trans UInt8.toNat_ofNat'.symm
    refine ⟨Nat.mod_eq_of_lt hlt, fun sect hsect => ?_⟩
    rw [newClientState_getElementNumberForSection]
    exact ClientState.getElementNumberForSection_mapFirstSections (Nat.le_refl _) hlength
      (hlength ▸ hsect)

end Activation

/-- What the chunks that wait for activation deserialize to. -/
def IsobusStack.uploadedPool (stack : IsobusStack) (s : Server) (partner : ControlFunction) : Pool :=
  (stack.deserializeChunks (stack.getName partner) (s.uploadedPools[partner]?.getD [])).2

private theorem clients_of_activated {stack : IsobusStack} {s : Server} {partner : ControlFunction}
    {fs : FileSystem} {chunks : List (List UInt8)} {errors : ActivationErrors}
    (h : (Server.activateObjectPool stack s partner fs).2 =
      [.activation partner chunks (.returned true errors)]) :
    (Server.activateObjectPool stack s partner fs).1.clients =
      s.clients.insert partner (stack.newClientState (stack.uploadedPool s partner)) := by
  rw [IsobusStack.uploadedPool]
  rw [Server.activateObjectPool] at h ⊢
  cases huploaded : s.uploadedPools[partner]? with
  | none =>
      rw [huploaded] at h
      simp at h
  | some uploaded =>
      rw [huploaded] at h
      simp only [List.cons.injEq, Observation.activation.injEq, and_true, true_and] at h
      rcases activateUploaded_cases stack fs (stack.getName partner) uploaded with
        ⟨_, hnot⟩ | ⟨pool, hpool, hregistered, _⟩
      · exact absurd h.2 (hnot errors)
      · simp only [hregistered, Option.getD_some, hpool]

/-- A successful activation registers the sections of the geometry, all of them and in their
order, if and only if there are at most 255. -/
theorem activation_hasSections_iff (stack : IsobusStack) (s : Server) (partner : ControlFunction)
    (fs : FileSystem) {chunks : List (List UInt8)} {errors : ActivationErrors}
    (h : (Server.activateObjectPool stack s partner fs).2 =
      [.activation partner chunks (.returned true errors)]) :
    (∃ st, (Server.activateObjectPool stack s partner fs).1.clients[partner]? = some st ∧
      st.HasSections (stack.geometrySections (stack.uploadedPool s partner))) ↔
      (stack.geometrySections (stack.uploadedPool s partner)).length ≤ 255 := by
  rw [clients_of_activated h, Std.ExtTreeMap.getElem?_insert_self, Nat.le_iff_lt_add_one,
    ← newClientState_hasSections_iff]
  simp

def uploadedServer : Server := ({} : Server).storeDeviceDescriptorObjectPool 7 [0]

theorem condensedPool_hasSections :
    ∃ st, (Server.activateObjectPool (.ofPool condensedPool [1, 2, 3]) uploadedServer 7
      .working).1.clients[7]? = some st ∧ st.HasSections [1, 2, 3] :=
  (activation_hasSections_iff (.ofPool condensedPool [1, 2, 3]) uploadedServer 7 .working rfl).mpr
    (by decide)

/-- With 256 sections the count wraps around to none. -/
theorem sections_lost : ¬ ∀ stack s partner fs chunks errors,
    (Server.activateObjectPool stack s partner fs).2 =
      [.activation partner chunks (.returned true errors)] →
    ∃ st, (Server.activateObjectPool stack s partner fs).1.clients[partner]? = some st ∧
      st.HasSections (stack.geometrySections (stack.uploadedPool s partner)) := by
  intro h
  obtain ⟨st, hst, hsections⟩ :=
    h (.ofPool condensedPool (List.range 256)) uploadedServer 7 .working [[0]] {} rfl
  rw [clients_of_activated rfl, Std.ExtTreeMap.getElem?_insert_self, Option.some.injEq] at hst
  subst hst
  have hlength : ((IsobusStack.ofPool condensedPool (List.range 256)).geometrySections
      ((IsobusStack.ofPool condensedPool (List.range 256)).uploadedPool uploadedServer 7)).length =
        256 := by
    decide +kernel
  have hcount := (newClientState_hasSections_iff _ _).mp hsections
  rw [hlength] at hcount
  exact Nat.lt_irrefl 256 hcount

end AogTaskController.TaskController
