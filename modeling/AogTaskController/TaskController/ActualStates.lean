import AogTaskController.TaskController.Setup

/-!
# Actual section states

What the value commands of a client make of its section states. A condensed message reports its
sections and binds them to the element that sends it; a section counts as off while this element or
one of its ancestors has last reported that it does not work.
-/

namespace AogTaskController.TaskController

open Framework

structure ValueCommand where
  ddi : Ddi
  elementNumber : Nat
  value : BitVec 32

def valueCommands (partner : ControlFunction) (es : List Event) : List ValueCommand :=
  es.filterMap fun
    | .onValueCommand q ddi elementNumber value =>
        if q = partner then some ⟨ddi, elementNumber, value⟩ else none
    | _ => none

def Event.replaces (partner : ControlFunction) : Event → Bool
  | .activateObjectPool q _ => q == partner
  | .deactivateObjectPool q => q == partner
  | .deleteDeviceDescriptorObjectPool q => q == partner
  | .onClientTimeout q => q == partner
  | _ => false

def latest (select : ValueCommand → Bool) (messages : List ValueCommand) : Option ValueCommand :=
  (messages.filter select).getLast?

def lastWorkState (messages : List ValueCommand) (element : Nat) : Option (BitVec 32) :=
  (latest (fun m => m.ddi == Ddi.actualWorkState && m.elementNumber == element) messages).map (·.value)

/-- The element that has sent the latest condensed message with the section, or the one the section
has from the geometry. -/
def boundElement (messages : List ValueCommand) (geometryElement sect : Nat) : Nat :=
  ((latest (fun m => m.ddi == Ddi.actualCondensedWorkState1_16 + sect / 16) messages).map
    (·.elementNumber)).getD geometryElement

private theorem latest_snoc (select : ValueCommand → Bool) (messages : List ValueCommand)
    (m : ValueCommand) :
    latest select (messages ++ [m]) = if select m then some m else latest select messages := by
  rw [latest, List.filter_append, List.getLast?_append]
  cases hselect : select m with
  | false => simp [hselect, latest]
  | true => simp [hselect]

private theorem boundElement_snoc (messages : List ValueCommand) (m : ValueCommand)
    (geometryElement sect : Nat) :
    boundElement (messages ++ [m]) geometryElement sect =
      if m.ddi = Ddi.actualCondensedWorkState1_16 + sect / 16 then m.elementNumber
      else boundElement messages geometryElement sect := by
  rw [boundElement, latest_snoc, boundElement]
  by_cases hddi : m.ddi = Ddi.actualCondensedWorkState1_16 + sect / 16
  · simp [hddi]
  · simp [hddi]

private theorem lastWorkState_snoc (messages : List ValueCommand) (m : ValueCommand)
    (element : Nat) :
    lastWorkState (messages ++ [m]) element =
      if m.ddi = Ddi.actualWorkState ∧ m.elementNumber = element then some m.value
      else lastWorkState messages element := by
  rw [lastWorkState, latest_snoc, lastWorkState]
  by_cases hselect : m.ddi = Ddi.actualWorkState ∧ m.elementNumber = element
  · simp [hselect]
  · simp [hselect]

namespace ClientState

theorem getElementNumberForSection_setElementNumberForSection (st : ClientState)
    (i elementNumber sect : Nat) :
    (st.setElementNumberForSection i elementNumber).getElementNumberForSection sect =
      if i = sect ∧ sect < st.numberOfSections then elementNumber
      else st.getElementNumberForSection sect := by
  rw [setElementNumberForSection]
  by_cases hi : i < st.numberOfSections
  · rw [if_pos hi, getElementNumberForSection, Vector.getElem?_setIfInBounds]
    by_cases heq : i = sect
    · subst heq
      simp [hi]
    · simp [heq, getElementNumberForSection]
  · have hnot : ¬ (i = sect ∧ sect < st.numberOfSections) := fun h => hi (h.1 ▸ h.2)
    rw [if_neg hi, if_neg hnot]

structure SameWorkStates (st st' : ClientState) : Prop where
  numberOfSections : st'.numberOfSections = st.numberOfSections
  usesPerElementControl : st'.usesPerElementControl = st.usesPerElementControl
  elementParents : st'.elementParents = st.elementParents
  elementWorkStates : st'.elementWorkStates = st.elementWorkStates

theorem SameWorkStates.refl (st : ClientState) : SameWorkStates st st := ⟨rfl, rfl, rfl, rfl⟩

theorem SameWorkStates.trans {st st' st'' : ClientState} (h : SameWorkStates st st')
    (h' : SameWorkStates st' st'') : SameWorkStates st st'' where
  numberOfSections := h'.numberOfSections.trans h.numberOfSections
  usesPerElementControl := h'.usesPerElementControl.trans h.usesPerElementControl
  elementParents := h'.elementParents.trans h.elementParents
  elementWorkStates := h'.elementWorkStates.trans h.elementWorkStates

private theorem sameWorkStates_setElementNumberForSection (st : ClientState)
    (sect elementNumber : Nat) :
    SameWorkStates st (st.setElementNumberForSection sect elementNumber) := by
  rw [setElementNumberForSection]
  split
  · exact ⟨rfl, rfl, rfl, rfl⟩
  · exact .refl st

theorem reportedSection_add {block i : Nat} (hblock : block < 16) (hi : i < 16) :
    reportedSection (Ddi.actualCondensedWorkState1_16 + block) i = 16 * block + i := by
  have hoffset : (Ddi.actualCondensedWorkState1_16 + block) - Ddi.actualCondensedWorkState1_16 =
      block := Nat.add_sub_cancel_left ..
  rw [reportedSection, hoffset]
  omega

private theorem sameWorkStates_mapSections (st : ClientState) (sectionElementNumbers : List Nat) :
    SameWorkStates st (st.mapSections sectionElementNumbers) := by
  rw [mapSections]
  generalize List.range st.numberOfSections = indices
  induction indices generalizing st with
  | nil => exact .refl st
  | cons i indices ih =>
      rw [List.foldl_cons]
      apply SameWorkStates.trans _ (ih _)
      cases sectionElementNumbers[i]? with
      | none => exact .refl st
      | some elementNumber => exact st.sameWorkStates_setElementNumberForSection i elementNumber

theorem onActualCondensed_prefix (st : ClientState) {block : Nat} (hblock : block < 16)
    (elementNumber : Nat) (value : BitVec 32) {count : Nat} (hcount : count ≤ 16) :
    let st' := (List.range count).foldl (fun st i =>
      (st.setSectionActualState (reportedSection (Ddi.actualCondensedWorkState1_16 + block) i)
        (SectionState.ofBits (readField 2 value i))).setElementNumberForSection
          (reportedSection (Ddi.actualCondensedWorkState1_16 + block) i) elementNumber) st
    SameWorkStates st st' ∧ ∀ sect < st.numberOfSections,
      st'.getElementNumberForSection sect =
        if sect / 16 = block ∧ sect % 16 < count then elementNumber
        else st.getElementNumberForSection sect := by
  induction count with
  | zero => exact ⟨.refl st, fun sect _ => by simp⟩
  | succ count ih =>
      obtain ⟨hsame, helement⟩ := ih (Nat.le_of_succ_le hcount)
      rw [List.range_succ, List.foldl_append]
      generalize (List.range count).foldl _ st = st' at hsame helement ⊢
      simp only [List.foldl_cons, List.foldl_nil, reportedSection_add hblock hcount]
      constructor
      · refine hsame.trans (SameWorkStates.trans ?_ (sameWorkStates_setElementNumberForSection _ _ _))
        exact ⟨rfl, rfl, rfl, rfl⟩
      · intro sect hsect
        have hsections : (st'.setSectionActualState (16 * block + count) (SectionState.ofBits
            (readField 2 value count))).numberOfSections = st.numberOfSections := hsame.numberOfSections
        have hold : (st'.setSectionActualState (16 * block + count) (SectionState.ofBits
            (readField 2 value count))).getElementNumberForSection sect =
              st'.getElementNumberForSection sect := rfl
        rw [getElementNumberForSection_setElementNumberForSection, hsections, hold,
          helement sect hsect]
        by_cases hlast : sect / 16 = block ∧ sect % 16 = count
        · rw [if_pos (by omega), if_pos (by omega)]
        · have hiff : (sect / 16 = block ∧ sect % 16 < count) ↔
              (sect / 16 = block ∧ sect % 16 < count + 1) := by omega
          rw [if_neg (by omega)]
          simp only [hiff]

theorem onActualCondensed_spec (st : ClientState) {ddi : Ddi} (hddi : ddi.isActualCondensed = true)
    (elementNumber : Nat) (value : BitVec 32) :
    SameWorkStates st (st.onActualCondensed ddi elementNumber value) ∧
      ∀ sect < st.numberOfSections,
        (st.onActualCondensed ddi elementNumber value).getElementNumberForSection sect =
          if ddi = Ddi.actualCondensedWorkState1_16 + sect / 16 then elementNumber
          else st.getElementNumberForSection sect := by
  obtain ⟨block, hblock, rfl⟩ := Ddi.exists_of_isActualCondensed hddi
  obtain ⟨hsame, helement⟩ := st.onActualCondensed_prefix hblock elementNumber value (le_refl 16)
  refine ⟨hsame, ?_⟩
  intro sect hsect
  have hiff : (sect / 16 = block ∧ sect % 16 < 16) ↔
      Ddi.actualCondensedWorkState1_16 + block = Ddi.actualCondensedWorkState1_16 + sect / 16 := by
    rw [Nat.add_left_cancel_iff]
    omega
  refine (helement sect hsect).trans ?_
  simp only [hiff]

theorem not_covers {ddi : Ddi} (hddi : ddi.isActualCondensed = false) (st : ClientState) {sect : Nat}
    (hsect : sect < st.numberOfSections) : ddi ≠ Ddi.actualCondensedWorkState1_16 + sect / 16 := by
  have hlt := st.numberOfSections_lt
  exact Ddi.ne_actualCondensed hddi (by omega)

/-- The state of a client as its value commands determine it, from a given start on. -/
structure Tracks (start st : ClientState) (messages : List ValueCommand) : Prop where
  numberOfSections : st.numberOfSections = start.numberOfSections
  usesPerElementControl : st.usesPerElementControl = start.usesPerElementControl
  elementParents : st.elementParents = start.elementParents
  element : ∀ sect < start.numberOfSections, st.getElementNumberForSection sect =
    boundElement messages (start.getElementNumberForSection sect) sect
  workState : ∀ element, st.elementWorkStates[element]? =
    (lastWorkState messages element).map (· == 1)

theorem Tracks.of_same {start st st' : ClientState} {messages : List ValueCommand}
    (h : Tracks start st messages) (hsame : SameWorkStates st st')
    (helement : ∀ sect, st'.getElementNumberForSection sect = st.getElementNumberForSection sect) :
    Tracks start st' messages where
  numberOfSections := hsame.numberOfSections.trans h.numberOfSections
  usesPerElementControl := hsame.usesPerElementControl.trans h.usesPerElementControl
  elementParents := hsame.elementParents.trans h.elementParents
  element sect hsect := (helement sect).trans (h.element sect hsect)
  workState element := by rw [hsame.elementWorkStates, h.workState]

private theorem Tracks.snoc_other {start st : ClientState} {messages : List ValueCommand}
    (h : Tracks start st messages) {m : ValueCommand} (hcondensed : m.ddi.isActualCondensed = false)
    (hwork : m.ddi ≠ Ddi.actualWorkState) : Tracks start st (messages ++ [m]) where
  numberOfSections := h.numberOfSections
  usesPerElementControl := h.usesPerElementControl
  elementParents := h.elementParents
  element sect hsect := by
    rw [boundElement_snoc, if_neg (not_covers hcondensed start hsect), h.element sect hsect]
  workState element := by
    rw [lastWorkState_snoc, if_neg fun hm => hwork hm.1, h.workState]

theorem Tracks.onActualCondensed {start st : ClientState} {messages : List ValueCommand}
    (h : Tracks start st messages) {ddi : Ddi} (hddi : ddi.isActualCondensed = true)
    (elementNumber : Nat) (value : BitVec 32) :
    Tracks start (st.onActualCondensed ddi elementNumber value)
      (messages ++ [⟨ddi, elementNumber, value⟩]) := by
  obtain ⟨hsame, helement⟩ := st.onActualCondensed_spec hddi elementNumber value
  have hwork : ddi ≠ Ddi.actualWorkState := by
    intro heq
    rw [heq] at hddi
    cases hddi
  constructor
  case numberOfSections => exact hsame.numberOfSections.trans h.numberOfSections
  case usesPerElementControl => exact hsame.usesPerElementControl.trans h.usesPerElementControl
  case elementParents => exact hsame.elementParents.trans h.elementParents
  case element =>
    intro sect hsect
    rw [helement sect (h.numberOfSections.symm ▸ hsect), boundElement_snoc, h.element sect hsect]
  case workState =>
    intro element
    rw [hsame.elementWorkStates, lastWorkState_snoc, if_neg fun hm => hwork hm.1, h.workState]

theorem Tracks.onActualWorkState {start st : ClientState} {messages : List ValueCommand}
    (h : Tracks start st messages) (elementNumber : Nat) (value : BitVec 32) :
    Tracks start (st.onActualWorkState elementNumber value)
      (messages ++ [⟨Ddi.actualWorkState, elementNumber, value⟩]) := by
  have hstored : Tracks start (st.setElementWorkState elementNumber (value == 1))
      (messages ++ [⟨Ddi.actualWorkState, elementNumber, value⟩]) := by
    constructor
    case numberOfSections => exact h.numberOfSections
    case usesPerElementControl => exact h.usesPerElementControl
    case elementParents => exact h.elementParents
    case element =>
      intro sect hsect
      rw [boundElement_snoc, if_neg (not_covers rfl start hsect)]
      exact h.element sect hsect
    case workState =>
      intro element
      rw [lastWorkState_snoc, setElementWorkState, Std.ExtTreeMap.getElem?_insert]
      by_cases helement : elementNumber = element
      · simp [helement]
      · simp [helement, h.workState]
  rw [ClientState.onActualWorkState]
  split
  · split
    · exact hstored.of_same ⟨rfl, rfl, rfl, rfl⟩ fun _ => rfl
    · exact hstored
  · exact hstored

theorem Tracks.onValueCommand {start st : ClientState} {messages : List ValueCommand}
    (h : Tracks start st messages) (ddi : Ddi) (elementNumber : Nat) (value : BitVec 32) :
    Tracks start (st.onValueCommand ddi elementNumber value)
      (messages ++ [⟨ddi, elementNumber, value⟩]) := by
  rw [ClientState.onValueCommand]
  cases hcondensed : ddi.isActualCondensed with
  | true => exact h.onActualCondensed hcondensed elementNumber value
  | false =>
      rw [if_neg Bool.false_ne_true]
      by_cases hcontrol : ddi = Ddi.sectionControlState
      · subst hcontrol
        have hset : Tracks start (st.setSectionControlEnabled (value == 1)) messages :=
          h.of_same ⟨rfl, rfl, rfl, rfl⟩ fun _ => rfl
        exact hset.snoc_other rfl (show Ddi.sectionControlState ≠ Ddi.actualWorkState by decide)
      · rw [if_neg hcontrol]
        by_cases hwork : ddi = Ddi.actualWorkState
        · subst hwork
          exact h.onActualWorkState elementNumber value
        · rw [if_neg hwork]
          exact h.snoc_other hcondensed hwork

private theorem onValueCommand_of_not_handled (st : ClientState) {ddi : Ddi}
    (hddi : handlesValueCommand ddi = false) (elementNumber : Nat) (value : BitVec 32) :
    st.onValueCommand ddi elementNumber value = st := by
  rw [handlesValueCommand, Bool.or_eq_false_iff, Bool.or_eq_false_iff, beq_eq_false_iff_ne,
    beq_eq_false_iff_ne] at hddi
  simp [ClientState.onValueCommand, hddi]

theorem Tracks.requestMeasurementCommands {start st : ClientState} {messages : List ValueCommand}
    (h : Tracks start st messages) : Tracks start st.requestMeasurementCommands.1 messages := by
  obtain ⟨m, sent, heq⟩ := st.requestMeasurementCommands_frame.1
  rw [heq]
  exact h.of_same ⟨rfl, rfl, rfl, rfl⟩ fun _ => rfl

theorem Tracks.updateSectionStates {start st : ClientState} {messages : List ValueCommand}
    (h : Tracks start st messages) (sectionStates : List Bool) :
    Tracks start (st.updateSectionStates sectionStates).1 messages := by
  obtain ⟨states, workState, heq⟩ := st.updateSectionStates_fst sectionStates
  rw [heq]
  exact h.of_same ⟨rfl, rfl, rfl, rfl⟩ fun _ => rfl

/-- Off by its element: a section whose element, or an ancestor of it, has last reported that it
does not work. -/
theorem Tracks.getSectionActualState_ne_on {start st : ClientState} {messages : List ValueCommand}
    (h : Tracks start st messages) (hper : start.usesPerElementControl = false) {sect element : Nat}
    (hreaches : Relation.ReflTransGen (Follows fun element => start.elementParents[element]?)
      (boundElement messages (start.getElementNumberForSection sect) sect) element)
    {value : BitVec 32} (hreport : lastWorkState messages element = some value) (hvalue : value ≠ 1) :
    st.getSectionActualState sect ≠ .on := by
  rw [getSectionActualState]
  by_cases hsect : sect < st.numberOfSections
  · have hstate : st.elementWorkStates[element]? = some false := by
      rw [h.workState, hreport, Option.map_some, beq_eq_false_iff_ne.mpr hvalue]
    have hoff : st.isElementOrParentOff (st.getElementNumberForSection sect) = true := by
      rw [isElementOrParentOff_iff, h.element sect (h.numberOfSections ▸ hsect), h.elementParents]
      exact ⟨element, hreaches, hstate⟩
    rw [if_pos hsect, h.usesPerElementControl, hper, hoff, if_neg Bool.false_ne_true, if_pos rfl]
    intro heq
    cases heq
  · rw [if_neg hsect]
    intro heq
    cases heq

end ClientState

section Activation

variable (stack : IsobusStack) (pool : Pool)

theorem newClientState_hierarchy :
    (stack.newClientState pool).elementParents = pool.buildParentMap ∧
      (stack.newClientState pool).elementWorkStates = ∅ := by
  have hsame := (stack.poolState pool).sameWorkStates_mapSections
    (stack.getImplementGeometry pool).sectionElementNumbers
  rw [IsobusStack.newClientState]
  cases pool.sectionControlMethod <;> exact ⟨hsame.elementParents, hsame.elementWorkStates⟩

theorem newClientState_tracks :
    ClientState.Tracks (stack.newClientState pool) (stack.newClientState pool) [] where
  numberOfSections := rfl
  usesPerElementControl := rfl
  elementParents := rfl
  element _ _ := rfl
  workState element := by
    rw [(newClientState_hierarchy stack pool).2]
    exact Std.ExtTreeMap.getElem?_empty

end Activation

def ClientState.onEvent (partner : ControlFunction) (st : ClientState) : Event → ClientState
  | .onValueCommand q ddi elementNumber value =>
      if q = partner then st.onValueCommand ddi elementNumber value else st
  | .requestMeasurementCommands => st.requestMeasurementCommands.1
  | .updateSectionStates sectionStates => (st.updateSectionStates sectionStates).1
  | .updateSectionControlEnabled enabled => (st.updateSectionControlEnabled enabled).1
  | _ => st

namespace Session

variable {stack : IsobusStack} {partner : ControlFunction} {start : ClientState}

theorem client_step {s : Session} {st : ClientState} (hst : s.client = some st) {e : Event}
    (hstays : e.replaces partner = false) :
    (s.step stack partner e).1.client = some (st.onEvent partner e) := by
  have hforClient (f : ClientState → ClientState × List Command) :
      (s.forClient partner f).1.client = some (f st).1 := by rw [forClient, hst]
  cases e with
  | storeDeviceDescriptorObjectPool q binaryPool =>
      simp only [step]
      split <;> exact hst
  | activateObjectPool _ _ | deactivateObjectPool _ | deleteDeviceDescriptorObjectPool _
  | onClientTimeout _ =>
      rw [step, if_neg (beq_eq_false_iff_ne.mp hstays)]
      exact hst
  | onValueCommand q ddi elementNumber value =>
      rw [ClientState.onEvent]
      by_cases hq : q = partner
      · cases hddi : ClientState.handlesValueCommand ddi with
        | true => simp [step, hq, hddi, hst]
        | false => simp [step, hq, hddi, hst, st.onValueCommand_of_not_handled hddi]
      · simp [step, hq, hst]
  | requestMeasurementCommands | updateSectionStates _ | updateSectionControlEnabled _
  | sendGnssQuality _ => exact hforClient _
  | other => exact hst

private theorem step_tracks {s : Session} {st : ClientState} (hst : s.client = some st)
    {messages : List ValueCommand} (h : ClientState.Tracks start st messages) {e : Event}
    (hstays : e.replaces partner = false) :
    ∃ st', (s.step stack partner e).1.client = some st' ∧
      ClientState.Tracks start st' (messages ++ valueCommands partner [e]) := by
  refine ⟨_, client_step hst hstays, ?_⟩
  cases e with
  | onValueCommand q ddi elementNumber value =>
      by_cases hq : q = partner
      · have hmessages : valueCommands partner [.onValueCommand q ddi elementNumber value] =
            [⟨ddi, elementNumber, value⟩] := by simp [valueCommands, hq]
        rw [hmessages, ClientState.onEvent, if_pos hq]
        exact h.onValueCommand ddi elementNumber value
      · have hmessages : valueCommands partner [.onValueCommand q ddi elementNumber value] = [] := by
          simp [valueCommands, hq]
        rw [hmessages, ClientState.onEvent, if_neg hq, List.append_nil]
        exact h
  | requestMeasurementCommands =>
      simpa [valueCommands, ClientState.onEvent] using h.requestMeasurementCommands
  | updateSectionStates sectionStates =>
      simpa [valueCommands, ClientState.onEvent] using h.updateSectionStates sectionStates
  | updateSectionControlEnabled enabled =>
      have hkept : ClientState.Tracks start (st.updateSectionControlEnabled enabled).1 messages :=
        h.of_same ⟨rfl, rfl, rfl, rfl⟩ fun _ => rfl
      simpa [valueCommands, ClientState.onEvent] using hkept
  | _ => simpa [valueCommands, ClientState.onEvent] using h

theorem run_tracks {pre post : List Event}
    (hstart : ((sessionMachine stack partner).after pre).client = some start)
    (hfresh : ClientState.Tracks start start [])
    (hstays : ∀ e ∈ post, e.replaces partner = false) :
    ∃ st, ((sessionMachine stack partner).after (pre ++ post)).client = some st ∧
      ClientState.Tracks start st (valueCommands partner post) := by
  induction post using List.reverseRecOn with
  | nil => exact ⟨start, by rw [List.append_nil, hstart], hfresh⟩
  | append_singleton post e ih =>
      obtain ⟨st, hst, htracks⟩ := ih fun e he => hstays e (List.mem_append_left _ he)
      rw [← List.append_assoc, Machine.after_snoc, valueCommands, List.filterMap_append]
      exact step_tracks hst htracks (hstays e (List.mem_append_right _ (List.mem_singleton_self e)))

end Session

end AogTaskController.TaskController
