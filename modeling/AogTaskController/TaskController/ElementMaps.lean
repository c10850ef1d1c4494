import AogTaskController.TaskController.Geometry

/-!
# Section and element maps

The map from the sections to their elements, and the reverse map. Activation fills them as inverses
of each other. A condensed message writes its sender as the element of sixteen sections, and does not
take back the elements they had.
-/

namespace AogTaskController.TaskController

open Framework

namespace ClientState

/-- Each of the two maps finds exactly what the other one has. -/
def MapsInverse (st : ClientState) : Prop :=
  ∀ elementNumber sect, st.tryGetSectionForElement elementNumber = some sect ↔
    sect < st.numberOfSections ∧ st.getElementNumberForSection sect = elementNumber

/-- A condensed message of the partner comes from the element that its sections have already. -/
def ReportsOwnSections (partner : ControlFunction) (st : ClientState) : Event → Prop
  | .onValueCommand q ddi elementNumber _ => q = partner →
      ∀ sect < st.numberOfSections, ddi = Ddi.actualCondensedWorkState1_16 + sect / 16 →
        st.getElementNumberForSection sect = elementNumber
  | _ => True

structure SameMaps (st st' : ClientState) : Prop where
  numberOfSections : st'.numberOfSections = st.numberOfSections
  element : ∀ sect, st'.getElementNumberForSection sect = st.getElementNumberForSection sect
  reverse : ∀ elementNumber,
    st'.tryGetSectionForElement elementNumber = st.tryGetSectionForElement elementNumber

theorem SameMaps.refl (st : ClientState) : SameMaps st st := ⟨rfl, fun _ => rfl, fun _ => rfl⟩

theorem SameMaps.trans {st st' st'' : ClientState} (h : SameMaps st st') (h' : SameMaps st' st'') :
    SameMaps st st'' where
  numberOfSections := h'.numberOfSections.trans h.numberOfSections
  element sect := (h'.element sect).trans (h.element sect)
  reverse elementNumber := (h'.reverse elementNumber).trans (h.reverse elementNumber)

theorem MapsInverse.of_same {st st' : ClientState} (h : st.MapsInverse) (hsame : SameMaps st st') :
    st'.MapsInverse := by
  intro elementNumber sect
  rw [hsame.reverse, hsame.numberOfSections, hsame.element]
  exact h elementNumber sect

private theorem sameMaps_setSectionActualState (st : ClientState) (sect : Nat)
    (state : SectionState) :
    SameMaps st (st.setSectionActualState sect state) :=
  ⟨rfl, fun _ => rfl, fun _ => rfl⟩

private theorem sameMaps_setElementNumberForSection {st : ClientState} (h : st.MapsInverse)
    {i elementNumber : Nat}
    (hown : i < st.numberOfSections → st.getElementNumberForSection i = elementNumber) :
    SameMaps st (st.setElementNumberForSection i elementNumber) where
  numberOfSections := (reportOnly_setElementNumberForSection st i elementNumber).numberOfSections
  element sect := by
    rw [getElementNumberForSection_setElementNumberForSection]
    by_cases hi : i = sect ∧ sect < st.numberOfSections
    · obtain ⟨rfl, hlt⟩ := hi
      rw [if_pos ⟨rfl, hlt⟩, hown hlt]
    · rw [if_neg hi]
  reverse e := by
    rw [tryGetSectionForElement_setElementNumberForSection]
    by_cases hi : i < st.numberOfSections ∧ elementNumber = e
    · obtain ⟨hlt, rfl⟩ := hi
      rw [if_pos ⟨hlt, rfl⟩]
      exact ((h elementNumber i).mpr ⟨hlt, hown hlt⟩).symm
    · rw [if_neg hi]

private theorem sameMaps_onActualCondensed_prefix {st : ClientState} (h : st.MapsInverse)
    {block : Nat} (hblock : block < 16) {elementNumber : Nat} (value : BitVec 32)
    (hown : ∀ sect < st.numberOfSections, sect / 16 = block →
      st.getElementNumberForSection sect = elementNumber) {count : Nat} (hcount : count ≤ 16) :
    SameMaps st ((List.range count).foldl (fun st i =>
      (st.setSectionActualState (reportedSection (Ddi.actualCondensedWorkState1_16 + block) i)
        (SectionState.ofBits (readField 2 value i))).setElementNumberForSection
          (reportedSection (Ddi.actualCondensedWorkState1_16 + block) i) elementNumber) st) := by
  induction count with
  | zero => exact .refl st
  | succ count ih =>
      rw [List.range_succ, List.foldl_append, List.foldl_cons, List.foldl_nil,
        reportedSection_add hblock hcount]
      have hsame := (ih (Nat.le_of_succ_le hcount)).trans (sameMaps_setSectionActualState _
        (16 * block + count) (SectionState.ofBits (readField 2 value count)))
      apply hsame.trans
      apply sameMaps_setElementNumberForSection (h.of_same hsame)
      intro hlt
      rw [hsame.numberOfSections] at hlt
      rw [hsame.element]
      exact hown _ hlt (by omega)

private theorem sameMaps_onActualCondensed {st : ClientState} (h : st.MapsInverse) {ddi : Ddi}
    (hddi : ddi.isActualCondensed = true) {elementNumber : Nat} (value : BitVec 32)
    (hown : ∀ sect < st.numberOfSections, ddi = Ddi.actualCondensedWorkState1_16 + sect / 16 →
      st.getElementNumberForSection sect = elementNumber) :
    SameMaps st (st.onActualCondensed ddi elementNumber value) := by
  obtain ⟨block, hblock, rfl⟩ := Ddi.exists_of_isActualCondensed hddi
  apply sameMaps_onActualCondensed_prefix h hblock value _ (Nat.le_refl 16)
  intro sect hsect hcovers
  exact hown sect hsect (congrArg (Ddi.actualCondensedWorkState1_16 + ·) hcovers.symm)

private theorem tryGetSectionForElement_onActualCondensed (st : ClientState) (ddi : Ddi)
    {elementNumber e : Nat} (hne : elementNumber ≠ e) (value : BitVec 32) :
    (st.onActualCondensed ddi elementNumber value).tryGetSectionForElement e =
      st.tryGetSectionForElement e := by
  rw [onActualCondensed]
  generalize List.range 16 = fields
  induction fields generalizing st with
  | nil => rfl
  | cons i fields ih =>
      rw [List.foldl_cons, ih, tryGetSectionForElement_setElementNumberForSection,
        if_neg fun hand => hne hand.2]
      rfl

private theorem mapsInverse_onActualCondensed_iff {st : ClientState} (h : st.MapsInverse)
    {ddi : Ddi}
    (hddi : ddi.isActualCondensed = true) (elementNumber : Nat) (value : BitVec 32) :
    (st.onActualCondensed ddi elementNumber value).MapsInverse ↔
      ∀ sect < st.numberOfSections, ddi = Ddi.actualCondensedWorkState1_16 + sect / 16 →
        st.getElementNumberForSection sect = elementNumber := by
  constructor
  · intro hafter sect hsect hcovers
    by_contra hne
    -- the reverse map still leads from the element that the section had to the section
    have hstale := (h _ sect).mpr ⟨hsect, rfl⟩
    rw [← tryGetSectionForElement_onActualCondensed st ddi (Ne.symm hne) value] at hstale
    have hkept := ((hafter _ sect).mp hstale).2
    rw [(st.onActualCondensed_spec hddi elementNumber value).2 sect hsect, if_pos hcovers] at hkept
    exact hne hkept.symm
  · intro hown
    exact h.of_same (sameMaps_onActualCondensed h hddi value hown)

private theorem sameMaps_onValueCommand (st : ClientState) {ddi : Ddi}
    (hddi : ddi.isActualCondensed = false) (elementNumber : Nat) (value : BitVec 32) :
    SameMaps st (st.onValueCommand ddi elementNumber value) := by
  rw [onValueCommand, hddi, if_neg Bool.false_ne_true]
  split
  · exact ⟨rfl, fun _ => rfl, fun _ => rfl⟩
  · split
    · simp only [onActualWorkState]
      split
      · split
        · exact ⟨rfl, fun _ => rfl, fun _ => rfl⟩
        · exact ⟨rfl, fun _ => rfl, fun _ => rfl⟩
      · exact ⟨rfl, fun _ => rfl, fun _ => rfl⟩
    · exact .refl st

/-- An event leaves the maps inverse to each other if and only if it is no condensed message from a
new element. -/
private theorem mapsInverse_onEvent_iff {st : ClientState} (h : st.MapsInverse)
    (partner : ControlFunction)
    (e : Event) : (st.onEvent partner e).MapsInverse ↔ st.ReportsOwnSections partner e := by
  have hkept {st' : ClientState} (hsame : SameMaps st st') : st'.MapsInverse ↔ True :=
    iff_of_true (h.of_same hsame) trivial
  cases e with
  | onValueCommand q ddi elementNumber value =>
      rw [onEvent, ReportsOwnSections]
      by_cases hq : q = partner
      · rw [if_pos hq, forall_prop_of_true hq]
        cases hddi : ddi.isActualCondensed with
        | true =>
            rw [onValueCommand, if_pos hddi]
            exact mapsInverse_onActualCondensed_iff h hddi elementNumber value
        | false =>
            refine iff_of_true (h.of_same (st.sameMaps_onValueCommand hddi elementNumber value)) ?_
            intro sect hsect hcovers
            exact absurd hcovers (not_covers hddi st hsect)
      · rw [if_neg hq]
        exact iff_of_true h fun hpartner => absurd hpartner hq
  | requestMeasurementCommands =>
      obtain ⟨m, sent, heq⟩ := st.requestMeasurementCommands_frame.1
      rw [onEvent, heq]
      exact hkept ⟨rfl, fun _ => rfl, fun _ => rfl⟩
  | updateSectionStates sectionStates =>
      obtain ⟨states, workState, heq⟩ := st.updateSectionStates_fst sectionStates
      rw [onEvent, heq]
      exact hkept ⟨rfl, fun _ => rfl, fun _ => rfl⟩
  | updateSectionControlEnabled enabled => exact hkept ⟨rfl, fun _ => rfl, fun _ => rfl⟩
  | _ => exact hkept (.refl st)

end ClientState

private theorem newClientState_mapsInverse {stack : IsobusStack} {pool : Pool}
    (hdistinct : (stack.geometrySections pool).Nodup)
    (hlength : (stack.geometrySections pool).length ≤ 255) :
    (stack.newClientState pool).MapsInverse := by
  intro elementNumber sect
  have hlt := Nat.lt_succ_of_le hlength
  obtain ⟨hsections, helements⟩ := (newClientState_hasSections_iff stack pool).mpr hlt
  have hcount : (stack.geometrySections pool).length = (stack.poolState pool).numberOfSections :=
    (Nat.mod_eq_of_lt hlt).symm.trans UInt8.toNat_ofNat'.symm
  have hempty : (stack.poolState pool).elementToSection = ∅ := rfl
  rw [newClientState_tryGetSectionForElement,
    ClientState.tryGetSectionForElement_mapFirstSections (Nat.le_refl _) hcount hempty hdistinct,
    hsections, ← hcount]
  constructor
  · intro h
    refine ⟨h.1, ?_⟩
    rw [helements sect h.1] at h
    exact Option.some.inj h.2
  · intro h
    refine ⟨h.1, ?_⟩
    rw [helements sect h.1, h.2]

/-- Behind the activation of a client with distinct section elements, and until its state is
replaced, the maps are inverse to each other throughout a run if and only if every condensed message
of the client comes from the element that its sections have already. -/
theorem mapsInverse_iff (stack : IsobusStack) {partner : ControlFunction} {pool : Pool}
    (hdistinct : (stack.geometrySections pool).Nodup)
    (hlength : (stack.geometrySections pool).length ≤ 255) {pre post : List Event}
    (hactivated : ((serverMachine stack).after pre).clients[partner]? =
      some (stack.newClientState pool))
    (hstays : ∀ e ∈ post, e.replaces partner = false) :
    ((serverMachine stack).resume pre).Always
        (fun _ s => ∃ st, s.clients[partner]? = some st ∧ st.MapsInverse) post ↔
      ((serverMachine stack).resume pre).Guarded
        (fun s e => ∃ st, s.clients[partner]? = some st ∧ st.ReportsOwnSections partner e) post := by
  apply Machine.always_iff_guarded_of (fun e => e.replaces partner = false) _ _ hstays
  · exact ⟨_, hactivated, newClientState_mapsInverse hdistinct hlength⟩
  · intro es e he h
    obtain ⟨st, hst, hinverse⟩ := h
    have hview := ((server_projection stack partner).step
      (((serverMachine stack).resume pre).after es) e)
    have hnext : (((serverMachine stack).resume pre).after (es ++ [e])).clients[partner]? =
        some (st.onEvent partner e) := by
      rw [Machine.after_snoc]
      have hclient := @Session.client_step stack partner
        ((((serverMachine stack).resume pre).after es).session partner) st hst e he
      rw [← hclient]
      exact (congrArg (fun x => x.1.client) hview).symm
    rw [hnext, hst]
    simp only [Option.some.injEq, exists_eq_left']
    exact ClientState.mapsInverse_onEvent_iff hinverse partner e

def twoSectionStack : IsobusStack := .ofPool condensedPool [1, 2]

def twoSectionActivation : List Event :=
  [.storeDeviceDescriptorObjectPool 7 [0], .activateObjectPool 7 .working]

def oneSectionStack : IsobusStack := .ofPool condensedPool [1]

/-- A work state, then a condensed report of the only section, both from its own element. -/
theorem oneSection_mapsInverse :
    ((serverMachine oneSectionStack).resume twoSectionActivation).Always
      (fun _ s => ∃ st, s.clients[7]? = some st ∧ st.MapsInverse)
      ([.onValueCommand 7 141 1 1] ++ [.onValueCommand 7 161 1 1]) := by
  refine (@mapsInverse_iff oneSectionStack 7 condensedPool (by decide) (by decide)
    twoSectionActivation _ rfl (by decide)).mpr (Machine.guarded_snoc.mpr ⟨?_, ?_⟩)
  · refine Machine.guarded_singleton.mpr ⟨_, rfl, fun _ sect hsect hcovers => ?_⟩
    exact absurd hcovers (ClientState.not_covers rfl _ hsect)
  · refine ⟨_, rfl, fun _ sect hsect _ => ?_⟩
    obtain rfl : sect = 0 := Nat.lt_one_iff.mp hsect
    decide +kernel

/-- The boom reports both sections, and the reverse map still finds them by their own elements. -/
theorem boom_report_leaves_stale_entries :
    ¬ ∀ (stack : IsobusStack) (partner : ControlFunction) (pool : Pool),
      (stack.geometrySections pool).Nodup → (stack.geometrySections pool).length ≤ 255 →
      ∀ pre post, ((serverMachine stack).after pre).clients[partner]? =
          some (stack.newClientState pool) →
        (∀ e ∈ post, e.replaces partner = false) →
        ((serverMachine stack).resume pre).Always
          (fun _ s => ∃ st, s.clients[partner]? = some st ∧ st.MapsInverse) post := by
  intro h
  obtain ⟨st, hst, hinverse⟩ := h twoSectionStack 7 condensedPool (by decide) (by decide)
    twoSectionActivation [.onValueCommand 7 161 0 5] rfl (by decide) _ List.prefix_rfl
  have hmaps : (((serverMachine twoSectionStack).resume twoSectionActivation).after
      [.onValueCommand 7 161 0 5]).clients[7]?.map (fun st =>
        (st.tryGetSectionForElement 1, st.getElementNumberForSection 0)) = some (some 0, 0) := by
    decide +kernel
  rw [hst, Option.map_some, Option.some.injEq, Prod.mk.injEq] at hmaps
  have hkept := ((hinverse 1 0).mp hmaps.1).2
  rw [hmaps.2] at hkept
  cases hkept

end AogTaskController.TaskController
