import AogTaskController.TaskController.ActivationEffects
import AogTaskController.TaskController.Addressing

/-!
# Subscriptions

The measurement commands that a client is sent between two activations. The code looks every process
data object up in the child lists of the elements; what comes out is one command for each place where
a child list names an object, and it comes out once.
-/

namespace AogTaskController.TaskController

open Framework ClientState

private theorem isWorkStateDdi_iff {ddi : Nat} : isWorkStateDdi ddi = true ↔
    ddi = 141 ∨ (161 ≤ ddi ∧ ddi ≤ 176) ∨ (367 ≤ ddi ∧ ddi ≤ 382) := by
  simp only [isWorkStateDdi, Ddi.isActualCondensed, Ddi.isCondensedSectionOverride, Bool.or_eq_true,
    beq_iff_eq, Bool.and_eq_true, decide_eq_true_eq]
  tauto

private theorem isSectionControlDdi_iff {ddi : Nat} : isSectionControlDdi ddi = true ↔
    ddi = 160 ∨ ddi = 289 ∨ (290 ≤ ddi ∧ ddi ≤ 305) := by
  simp only [isSectionControlDdi, Ddi.isSetpointCondensed, Bool.or_eq_true, beq_iff_eq,
    Bool.and_eq_true, decide_eq_true_eq]
  tauto

private theorem not_isSectionControlDdi {ddi : Nat} (h : isWorkStateDdi ddi = true) :
    isSectionControlDdi ddi = false := by
  rw [isWorkStateDdi_iff] at h
  rw [← Bool.not_eq_true, isSectionControlDdi_iff]
  omega

namespace Command

def isChangeThreshold : Command → Bool
  | .changeThreshold _ _ _ => true
  | _ => false

def isTimeInterval : Command → Bool
  | .timeInterval _ _ _ => true
  | _ => false

def isMeasurement (command : Command) : Bool := command.isChangeThreshold || command.isTimeInterval

end Command

namespace Pool

/-- The places where the child list of an element names a process data object, element by element. -/
def occurrences (pool : Pool) : List (DeviceProcessDataObject × DeviceElementObject) :=
  pool.deviceElements.flatMap fun element =>
    element.childObjectIds.flatMap fun child =>
      (pool.processData.filter (·.objectId == child)).map fun object => (object, element)

/-- An element with this number lists an object with the DDI. -/
def ListedBy (pool : Pool) (ddi : Ddi) (elementNumber : Nat) : Prop :=
  ∃ occurrence ∈ pool.occurrences, occurrence.1.ddi = ddi ∧
    occurrence.2.elementNumber = elementNumber

def changeThresholds (pool : Pool) : List Command :=
  (pool.occurrences.filter fun occurrence => occurrence.1.onChange &&
    (isWorkStateDdi occurrence.1.ddi || isSectionControlDdi occurrence.1.ddi)).map fun occurrence =>
      .changeThreshold occurrence.1.ddi occurrence.2.elementNumber 1

def timeIntervals (pool : Pool) : List Command :=
  (pool.occurrences.filter fun occurrence => occurrence.1.timeInterval &&
    isWorkStateDdi occurrence.1.ddi).map fun occurrence =>
      .timeInterval occurrence.1.ddi occurrence.2.elementNumber 1000

end Pool

section Lists

variable {α β γ : Type*}

private theorem flatMap_flatMap_perm (l : List α) (k : List β) (f : α → β → List γ) :
    (l.flatMap fun a => k.flatMap (f a)).Perm (k.flatMap fun b => l.flatMap fun a => f a b) := by
  induction l with
  | nil => simp
  | cons a l ih =>
      simp only [List.flatMap_cons]
      exact (ih.append_left _).trans (List.flatMap_append_perm k _ _)

private theorem flatMap_filter_eq (l : List α) (p : α → Bool) (f : α → List β) :
    (l.filter p).flatMap f = l.flatMap fun a => if p a then f a else [] := by
  induction l with
  | nil => rfl
  | cons a l ih =>
      cases hp : p a with
      | false => simp [hp, ih]
      | true => simp [hp, ih]

private theorem flatMap_if_singleton (l : List α) (p : α → Bool) (f : α → β) :
    (l.flatMap fun a => if p a then [f a] else []) = (l.filter p).map f := by
  rw [← flatMap_filter_eq, List.map_eq_flatMap]

end Lists

namespace Pool

variable (pool : Pool)

/-- What a pass over the objects does, as a pass over the occurrences. -/
private theorem flatMap_listings_perm (select : Ddi → Bool)
    (g : DeviceProcessDataObject → Nat → List Command) :
    ((pool.listings select).flatMap fun listing => g listing.1 listing.2).Perm
      (pool.occurrences.flatMap fun occurrence =>
        if select occurrence.1.ddi then g occurrence.1 occurrence.2.elementNumber else []) := by
  let visit (object : DeviceProcessDataObject) (element : DeviceElementObject) (child : Nat) :=
    if object.objectId == child then
      if select object.ddi then g object element.elementNumber else [] else []
  have hobjects : (pool.listings select).flatMap (fun listing => g listing.1 listing.2) =
      pool.processData.flatMap fun object => pool.deviceElements.flatMap fun element =>
        element.childObjectIds.flatMap fun child => visit object element child := by
    rw [listings, List.flatMap_assoc, flatMap_filter_eq]
    apply List.flatMap_congr
    intro object _
    rw [listingElements, List.flatMap_map, List.flatMap_assoc]
    cases hselect : select object.ddi with
    | false => simp [visit, hselect]
    | true =>
        apply List.flatMap_congr
        intro element _
        rw [List.flatMap_map, flatMap_filter_eq]
        apply List.flatMap_congr
        intro child _
        simp only [visit, hselect, if_true, BEq.comm (a := child)]
  have helements : pool.occurrences.flatMap (fun occurrence =>
        if select occurrence.1.ddi then g occurrence.1 occurrence.2.elementNumber else []) =
      pool.deviceElements.flatMap fun element => element.childObjectIds.flatMap fun child =>
        pool.processData.flatMap fun object => visit object element child := by
    rw [occurrences, List.flatMap_assoc]
    apply List.flatMap_congr
    intro element _
    rw [List.flatMap_assoc]
    apply List.flatMap_congr
    intro child _
    rw [List.flatMap_map, flatMap_filter_eq]
  rw [hobjects, helements]
  refine (flatMap_flatMap_perm _ _ _).trans (List.Perm.flatMap_left _ fun element _ => ?_)
  exact flatMap_flatMap_perm _ _ _

private theorem changeThresholds_perm :
    ((subscriptions pool).filter Command.isChangeThreshold).Perm pool.changeThresholds := by
  have hchange (object : DeviceProcessDataObject) (element : Nat) :
      (subscribeOnChange object element).filter Command.isChangeThreshold =
        subscribeOnChange object element := by
    rw [subscribeOnChange]
    split <;> rfl
  have hinterval (object : DeviceProcessDataObject) (element : Nat) :
      (subscribeTimeInterval object element).filter Command.isChangeThreshold = [] := by
    rw [subscribeTimeInterval]
    split <;> rfl
  have hfilter : (subscriptions pool).filter Command.isChangeThreshold =
      (pool.listings isWorkStateDdi).flatMap (fun listing => subscribeOnChange listing.1 listing.2) ++
        (pool.listings isSectionControlDdi).flatMap fun listing =>
          subscribeOnChange listing.1 listing.2 := by
    simp only [subscriptions, List.filter_append, List.filter_flatMap, hchange, hinterval,
      List.append_nil]
  rw [hfilter, changeThresholds, ← flatMap_if_singleton]
  refine ((pool.flatMap_listings_perm _ subscribeOnChange).append
    (pool.flatMap_listings_perm _ subscribeOnChange)).trans ?_
  refine (List.flatMap_append_perm _ _ _).trans (List.Perm.of_eq (List.flatMap_congr ?_))
  intro occurrence _
  rw [subscribeOnChange]
  cases hwork : isWorkStateDdi occurrence.1.ddi with
  | true =>
      rw [not_isSectionControlDdi hwork]
      cases occurrence.1.onChange <;> rfl
  | false => cases isSectionControlDdi occurrence.1.ddi <;> cases occurrence.1.onChange <;> rfl

private theorem timeIntervals_perm :
    ((subscriptions pool).filter Command.isTimeInterval).Perm pool.timeIntervals := by
  have hchange (object : DeviceProcessDataObject) (element : Nat) :
      (subscribeOnChange object element).filter Command.isTimeInterval = [] := by
    rw [subscribeOnChange]
    split <;> rfl
  have hinterval (object : DeviceProcessDataObject) (element : Nat) :
      (subscribeTimeInterval object element).filter Command.isTimeInterval =
        subscribeTimeInterval object element := by
    rw [subscribeTimeInterval]
    split <;> rfl
  have hfilter : (subscriptions pool).filter Command.isTimeInterval =
      (pool.listings isWorkStateDdi).flatMap fun listing =>
        subscribeTimeInterval listing.1 listing.2 := by
    simp [subscriptions, List.filter_append, List.filter_flatMap, hchange, hinterval]
  rw [hfilter, timeIntervals, ← flatMap_if_singleton]
  refine (pool.flatMap_listings_perm _ subscribeTimeInterval).trans
    (List.Perm.of_eq (List.flatMap_congr ?_))
  intro occurrence _
  rw [subscribeTimeInterval]
  cases isWorkStateDdi occurrence.1.ddi <;> cases occurrence.1.timeInterval <;> rfl

variable {pool}

private theorem mem_occurrences {occurrence : DeviceProcessDataObject × DeviceElementObject} :
    occurrence ∈ pool.occurrences ↔ occurrence.2 ∈ pool.deviceElements ∧
      occurrence.1 ∈ pool.processData ∧ occurrence.1.objectId ∈ occurrence.2.childObjectIds := by
  obtain ⟨object, element⟩ := occurrence
  simp only [occurrences, List.mem_flatMap, List.mem_map, List.mem_filter, beq_iff_eq, Prod.mk.injEq]
  constructor
  · intro h
    obtain ⟨_, helement, child, hchild, _, ⟨hobject, rfl⟩, rfl, rfl⟩ := h
    exact ⟨helement, hobject, hchild⟩
  · intro h
    exact ⟨element, h.1, object.objectId, h.2.2, object, ⟨h.2.1, rfl⟩, rfl, rfl⟩

private theorem mem_listings_iff {select : Ddi → Bool} {object : DeviceProcessDataObject}
    {elementNumber : Nat} :
    (object, elementNumber) ∈ pool.listings select ↔ select object.ddi = true ∧
      ∃ element, (object, element) ∈ pool.occurrences ∧ element.elementNumber = elementNumber := by
  simp only [mem_occurrences, listings, listingElements, List.mem_flatMap, List.mem_filter,
    List.mem_map, beq_iff_eq, Prod.mk.injEq]
  constructor
  · intro h
    obtain ⟨_, ⟨hobject, hselect⟩, _, ⟨element, helement, child, ⟨hchild, hid⟩, hnumber⟩, rfl, rfl⟩ := h
    exact ⟨hselect, element, ⟨helement, hobject, hid ▸ hchild⟩, hnumber⟩
  · intro h
    obtain ⟨hselect, element, ⟨helement, hobject, hchild⟩, rfl⟩ := h
    exact ⟨object, ⟨hobject, hselect⟩, _, ⟨element, helement, _, ⟨hchild, rfl⟩, rfl⟩, rfl, rfl⟩

private theorem lists_iff_listedBy {ddi : Ddi} :
    pool.Lists ddi ↔ ∃ elementNumber, pool.ListedBy ddi elementNumber := by
  have hlistings := @exists_mem_listings pool (fun _ => true) ddi
  rw [eq_self, true_and] at hlistings
  rw [← hlistings]
  constructor
  · intro h
    obtain ⟨⟨object, elementNumber⟩, hlisting, hddi⟩ := h
    obtain ⟨_, element, hmem, hnumber⟩ := mem_listings_iff.mp hlisting
    exact ⟨elementNumber, (object, element), hmem, hddi, hnumber⟩
  · intro h
    obtain ⟨_, ⟨object, element⟩, hmem, hddi, rfl⟩ := h
    exact ⟨(object, element.elementNumber), mem_listings_iff.mpr ⟨rfl, element, hmem, rfl⟩, hddi⟩

private theorem listedBy_of_lastLister {ddi : Ddi} {elementNumber : Nat}
    (h : pool.lastLister ddi = some elementNumber) : pool.ListedBy ddi elementNumber := by
  rw [lastLister, Option.map_eq_some_iff] at h
  obtain ⟨⟨object, _⟩, hlast, rfl⟩ := h
  obtain ⟨hddi, element, hmem, hnumber⟩ := mem_listings_iff.mp (List.mem_of_getLast? hlast)
  exact ⟨(object, element), hmem, beq_iff_eq.mp hddi, hnumber⟩

end Pool

def Event.requests : Event → Bool
  | .requestMeasurementCommands => true
  | _ => false

/-- A successful activation of the partner, or the end of its session. -/
def Observation.renews (partner : ControlFunction) : Observation → Bool
  | .activation q _ (.returned accepted _) => accepted && q == partner
  | .closed q => q == partner
  | _ => false

def measurementsTo (partner : ControlFunction) (log : List Observation) : List Command :=
  (sentTo partner log).filter Command.isMeasurement

private theorem measurementsTo_append (partner : ControlFunction) (log log' : List Observation) :
    measurementsTo partner (log ++ log') =
      measurementsTo partner log ++ measurementsTo partner log' := by
  rw [measurementsTo, sentTo, List.filterMap_append, List.filter_append]
  rfl

private theorem sentTo_map_sent (partner : ControlFunction) (commands : List Command) :
    sentTo partner (commands.map (.sent partner)) = commands := by
  simp [sentTo, List.filterMap_map]

namespace ClientState

/-- What became of a fresh client, by whether its measurement commands have been requested. -/
structure RequestedSince (start st : ClientState) (requested : Bool) : Prop where
  pool : st.pool = start.pool
  numberOfSections : st.numberOfSections = start.numberOfSections
  sent : st.areMeasurementCommandsSent = (requested && decide (0 < start.numberOfSections))

private theorem not_isMeasurement_sendSetpointWorkState (st : ClientState) :
    ∀ command ∈ st.sendSetpointWorkState.2, command.isMeasurement = false := by
  intro command hcommand
  rw [sendSetpointWorkState] at hcommand
  split at hcommand
  · obtain rfl := List.mem_singleton.mp hcommand
    rfl
  · cases hcommand

private theorem not_isMeasurement_sendSectionSetpointStates (st : ClientState) (ddiOffset : Nat) :
    ∀ command ∈ (st.sendSectionSetpointStates ddiOffset).2, command.isMeasurement = false := by
  intro command hcommand
  rw [sendSectionSetpointStates] at hcommand
  split at hcommand
  · rcases List.mem_cons.mp hcommand with rfl | hcommand
    · rfl
    · exact st.not_isMeasurement_sendSetpointWorkState command hcommand
  · split at hcommand
    · split at hcommand
      · obtain rfl := List.mem_singleton.mp hcommand
        rfl
      · cases hcommand
    · split at hcommand
      · rcases List.mem_append.mp hcommand with hcommand | hcommand
        · obtain ⟨sect, _, hsent⟩ := List.mem_filterMap.mp hcommand
          split at hsent
          · obtain rfl := Option.some.inj hsent
            rfl
          · cases hsent
        · exact st.not_isMeasurement_sendSetpointWorkState command hcommand
      · cases hcommand

private theorem not_isMeasurement_updateSectionStates (st : ClientState)
    (sectionStates : List Bool) :
    ∀ command ∈ (st.updateSectionStates sectionStates).2, command.isMeasurement = false := by
  intro command hcommand
  by_cases hactive : st.isSectionControlEnabled = true ∧ st.numberOfSections ≠ 0
  · rw [updateSectionStates_eq hactive.1 hactive.2] at hcommand
    obtain ⟨block, _, hcommand⟩ := List.mem_flatMap.mp hcommand
    rw [blockCommands] at hcommand
    split at hcommand
    · exact not_isMeasurement_sendSectionSetpointStates _ block command hcommand
    · cases hcommand
  · rw [updateSectionStates_of_idle hactive] at hcommand
    cases hcommand

private theorem isMeasurement_subscriptions (pool : Pool) :
    ∀ command ∈ subscriptions pool, command.isMeasurement = true := by
  intro command hcommand
  cases command with
  | setValue ddi element value => exact absurd hcommand not_setValue_mem_subscriptions
  | _ => rfl

theorem RequestedSince.requestMeasurementCommands {start st : ClientState} {requested : Bool}
    (h : RequestedSince start st requested) :
    RequestedSince start st.requestMeasurementCommands.1 true ∧
      st.requestMeasurementCommands.2 =
        if !requested && 0 < start.numberOfSections then subscriptions start.pool else [] := by
  have hsent := h.sent
  rcases Nat.eq_zero_or_pos start.numberOfSections with hzero | hpos
  · rw [requestMeasurementCommands_of_sent (.inr (h.numberOfSections.trans hzero))]
    refine ⟨⟨h.pool, h.numberOfSections, ?_⟩, ?_⟩
    · rw [hsent, hzero]
      simp
    · simp [hzero]
  · cases requested with
    | true =>
        have hsent' : st.areMeasurementCommandsSent = true := by simpa [hpos] using hsent
        rw [requestMeasurementCommands_of_sent (.inl hsent')]
        exact ⟨h, rfl⟩
    | false =>
        have hunsent : st.areMeasurementCommandsSent = false := by simpa using hsent
        rw [requestMeasurementCommands_of_unsent hunsent (h.numberOfSections ▸ hpos)]
        refine ⟨⟨h.pool, h.numberOfSections, ?_⟩, ?_⟩
        · simp [hpos]
        · simp [hpos, h.pool]

end ClientState

namespace Session

variable {stack : IsobusStack} {partner : ControlFunction} {start : ClientState}

private theorem forClient_quiet {s : Session} {st : ClientState} (hst : s.client = some st)
    {requested : Bool} {f : ClientState → ClientState × List Command}
    (hf : RequestedSince start (f st).1 requested)
    (hquiet : ∀ command ∈ (f st).2, command.isMeasurement = false) :
    ∃ st', (s.forClient partner f).1.client = some st' ∧ RequestedSince start st' requested ∧
      measurementsTo partner (s.forClient partner f).2 = [] := by
  rw [forClient, hst]
  refine ⟨_, rfl, hf, ?_⟩
  rw [measurementsTo, sentTo_map_sent, List.filter_eq_nil_iff]
  intro command hcommand
  simp [hquiet command hcommand]

private theorem step_of_not_requests {s : Session} {st : ClientState} (hst : s.client = some st)
    {requested : Bool} (h : RequestedSince start st requested) {e : Event}
    (hkept : ∀ observation ∈ (s.step stack partner e).2, observation.renews partner = false)
    (hrequests : e.requests = false) :
    ∃ st', (s.step stack partner e).1.client = some st' ∧ RequestedSince start st' requested ∧
      measurementsTo partner (s.step stack partner e).2 = [] := by
  cases e with
  | requestMeasurementCommands => cases hrequests
  | activateObjectPool q fs =>
      simp only [step] at hkept ⊢
      by_cases hq : q = partner
      · rw [if_pos hq] at hkept ⊢
        simp only [activate] at hkept ⊢
        cases huploaded : s.uploaded with
        | none => exact ⟨st, hst, h, rfl⟩
        | some chunks =>
            simp only [huploaded, List.mem_singleton, forall_eq] at hkept
            rcases activateUploaded_cases stack fs (stack.getName partner) chunks with
              ⟨hnone, _⟩ | ⟨pool, _, _, houtcome⟩
            · exact ⟨st, by simp [hnone, hst], h, rfl⟩
            · rw [houtcome] at hkept
              simp [Observation.renews] at hkept
      · rw [if_neg hq]
        exact ⟨st, hst, h, rfl⟩
  | deactivateObjectPool q | deleteDeviceDescriptorObjectPool q | onClientTimeout q =>
      simp only [step] at hkept ⊢
      by_cases hq : q = partner
      · rw [if_pos hq] at hkept
        simp [Observation.renews] at hkept
      · rw [if_neg hq]
        exact ⟨st, hst, h, rfl⟩
  | storeDeviceDescriptorObjectPool q binaryPool =>
      refine ⟨st, ?_, h, rfl⟩
      simp only [step]
      split <;> exact hst
  | onValueCommand q ddi elementNumber value =>
      have hreport := reportOnly_onValueCommand st ddi elementNumber value
      simp only [step, hst, Option.getD_some]
      split
      · exact ⟨_, rfl, ⟨hreport.pool.trans h.pool, hreport.numberOfSections.trans h.numberOfSections,
          hreport.areMeasurementCommandsSent.trans h.sent⟩, rfl⟩
      · exact ⟨st, hst, h, rfl⟩
  | updateSectionStates sectionStates =>
      obtain ⟨states, workState, heq⟩ := st.updateSectionStates_fst sectionStates
      have hnext : RequestedSince start (st.updateSectionStates sectionStates).1 requested := by
        rw [heq]
        exact ⟨h.pool, h.numberOfSections, h.sent⟩
      exact forClient_quiet hst hnext (st.not_isMeasurement_updateSectionStates sectionStates)
  | updateSectionControlEnabled enabled =>
      apply forClient_quiet hst ⟨h.pool, h.numberOfSections, h.sent⟩
      intro command hcommand
      rw [eq_of_mem_updateSectionControlEnabled hcommand]
      rfl
  | sendGnssQuality quality =>
      apply forClient_quiet hst h
      intro command hcommand
      rw [eq_of_mem_sendGnssQuality hcommand]
      rfl
  | other => exact ⟨st, hst, h, rfl⟩

private theorem step_requestedSince {s : Session} {st : ClientState} (hst : s.client = some st)
    {requested : Bool} (h : RequestedSince start st requested) {e : Event}
    (hkept : ∀ observation ∈ (s.step stack partner e).2, observation.renews partner = false) :
    ∃ st', (s.step stack partner e).1.client = some st' ∧
      RequestedSince start st' (requested || e.requests) ∧
      measurementsTo partner (s.step stack partner e).2 =
        if !requested && e.requests && 0 < start.numberOfSections then subscriptions start.pool
        else [] := by
  cases hrequests : e.requests with
  | false =>
      obtain ⟨st', hst', h', hnone⟩ := step_of_not_requests hst h hkept hrequests
      exact ⟨st', hst', by simpa using h', by simpa using hnone⟩
  | true =>
      obtain rfl : e = .requestMeasurementCommands := by
        cases e with
        | requestMeasurementCommands => rfl
        | _ => cases hrequests
      obtain ⟨hnext, hsent⟩ := h.requestMeasurementCommands
      simp only [step, forClient, hst]
      refine ⟨_, rfl, by simpa using hnext, ?_⟩
      rw [measurementsTo, sentTo_map_sent, hsent, Bool.and_true]
      split
      · exact List.filter_eq_self.mpr (isMeasurement_subscriptions start.pool)
      · rfl

/-- A run that does not renew the session: the subscriptions go out once, when they are first
requested. -/
private theorem run_requestedSince {pre post : List Event}
    (hstart : ((sessionMachine stack partner).after pre).client = some start)
    (hfresh : start.areMeasurementCommandsSent = false)
    (hkept : ∀ observation ∈ ((sessionMachine stack partner).resume pre).trace post,
      observation.renews partner = false) :
    ∃ st, ((sessionMachine stack partner).after (pre ++ post)).client = some st ∧
      RequestedSince start st (post.any Event.requests) ∧
      measurementsTo partner (((sessionMachine stack partner).resume pre).trace post) =
        if post.any Event.requests && 0 < start.numberOfSections then subscriptions start.pool
        else [] := by
  induction post using List.reverseRecOn with
  | nil =>
      rw [List.append_nil]
      exact ⟨start, hstart, ⟨rfl, rfl, hfresh⟩, rfl⟩
  | append_singleton post e ih =>
      rw [Machine.trace_snoc, Machine.after_resume] at hkept ⊢
      obtain ⟨st, hst, h, hbefore⟩ := ih fun o ho => hkept o (List.mem_append_left _ ho)
      obtain ⟨st', hst', h', hlast⟩ :=
        step_requestedSince hst h fun o ho => hkept o (List.mem_append_right _ ho)
      rw [← List.append_assoc, Machine.after_snoc, measurementsTo_append, hbefore, List.any_append,
        List.any_cons, List.any_nil, Bool.or_false]
      refine ⟨st', hst', h', ?_⟩
      have hstep : measurementsTo partner (((sessionMachine stack partner).resume pre).step
          ((sessionMachine stack partner).after (pre ++ post)) e).2 = _ := hlast
      rw [hstep]
      cases post.any Event.requests <;> simp

end Session

section Activation

variable (stack : IsobusStack) (pool : Pool)

theorem newClientState_pool : (stack.newClientState pool).pool = pool :=
  newClientState_field stack pool (·.pool) (fun _ _ _ => rfl) fun _ _ _ => rfl

variable {stack pool} {partner : ControlFunction} {pre post : List Event}

theorem server_requestedSince
    (hactivated : ((serverMachine stack).after pre).clients[partner]? =
      some (stack.newClientState pool))
    (hkept : ∀ observation ∈ ((serverMachine stack).resume pre).trace post,
      observation.renews partner = false) :
    ∃ st, ((serverMachine stack).after (pre ++ post)).clients[partner]? = some st ∧
      RequestedSince (stack.newClientState pool) st (post.any Event.requests) ∧
      measurementsTo partner (((serverMachine stack).resume pre).trace post) =
        if post.any Event.requests && 0 < (stack.newClientState pool).numberOfSections then
          subscriptions pool
        else [] := by
  have hprojection := server_projection stack partner
  have htrace := (hprojection.resume pre).trace post
  have hstart : ((sessionMachine stack partner).after pre).client =
      some (stack.newClientState pool) := by
    rw [← hprojection.after]
    exact hactivated
  have hkept' : ∀ observation ∈ ((sessionMachine stack partner).resume pre).trace post,
      observation.renews partner = false := by
    intro observation hobservation
    rw [← htrace] at hobservation
    exact hkept observation (List.mem_filter.mp hobservation).1
  obtain ⟨st, hst, hsince, hsent⟩ :=
    Session.run_requestedSince hstart (newClientState_fresh stack pool).unsent hkept'
  rw [← hprojection.after] at hst
  rw [← htrace, measurementsTo, Server.sentTo_filter, newClientState_pool] at hsent
  exact ⟨st, hst, hsince, hsent⟩

/-- In every run behind the activation of a client with sections, as long as its session lasts: it is
sent exactly one command for each occurrence that is subscribed to, once in all, and from the first
request on a DDI that is looked for is mapped if and only if an element lists it, to an element that
does. A session ends with the next activation, and when the client is deactivated, deleted or timed
out: then its state, which the statement speaks of, is gone. -/
theorem subscriptions_once
    (hactivated : ((serverMachine stack).after pre).clients[partner]? =
      some (stack.newClientState pool))
    (hsections : 0 < (stack.newClientState pool).numberOfSections)
    (hkept : ∀ observation ∈ ((serverMachine stack).resume pre).trace post,
      observation.renews partner = false) :
    ((sentTo partner (((serverMachine stack).resume pre).trace post)).filter
      Command.isChangeThreshold).Perm
        (if post.any Event.requests then pool.changeThresholds else []) ∧
    ((sentTo partner (((serverMachine stack).resume pre).trace post)).filter
      Command.isTimeInterval).Perm
        (if post.any Event.requests then pool.timeIntervals else []) ∧
    ∃ st, ((serverMachine stack).after (pre ++ post)).clients[partner]? = some st ∧
      (post.any Event.requests = true → ∀ ddi,
        isWorkStateDdi ddi = true ∨ isSectionControlDdi ddi = true →
        (st.hasElementNumberForDdi ddi = true ↔ ∃ element, pool.ListedBy ddi element) ∧
        (st.hasElementNumberForDdi ddi = true →
          pool.ListedBy ddi (st.getElementNumberForDdi ddi))) := by
  obtain ⟨st, hst, hsince, hsent⟩ := server_requestedSince hactivated hkept
  have hmeasurements (keep : Command → Bool)
      (hkeep : ∀ command, keep command = true → command.isMeasurement = true) :
      (sentTo partner (((serverMachine stack).resume pre).trace post)).filter keep =
        if post.any Event.requests then (subscriptions pool).filter keep else [] := by
    have hboth : (fun command => keep command && command.isMeasurement) = keep := by
      funext command
      cases hcommand : keep command with
      | false => rfl
      | true => exact hkeep command hcommand
    rw [← hboth, ← List.filter_filter]
    have hsent' := congrArg (List.filter keep) hsent
    rw [measurementsTo] at hsent'
    rw [hsent', hboth]
    cases post.any Event.requests <;> simp [hsections]
  refine ⟨?_, ?_, st, hst, ?_⟩
  · rw [hmeasurements _ fun command h => by simp [Command.isMeasurement, h]]
    split
    · exact pool.changeThresholds_perm
    · exact .nil
  · rw [hmeasurements _ fun command h => by simp [Command.isMeasurement, h]]
    split
    · exact pool.timeIntervals_perm
    · exact .nil
  · intro hrequested ddi hselect
    have hsetUp := server_client_invariant (setUp_invariant stack)
      (Machine.reachable_after _ (pre ++ post)) hst
    have hpool : st.pool = pool := hsince.pool.trans (newClientState_pool stack pool)
    have hcommands : st.areMeasurementCommandsSent = true := by
      rw [hsince.sent, hrequested]
      simp [hsections]
    have hddi : ddi ≠ Ddi.gnssQuality := by
      intro heq
      subst heq
      revert hselect
      decide
    have hmap : st.ddiToElementNumber[ddi]? = pool.lastLister ddi := by
      rw [hsetUp.elements, hcommands, if_pos rfl, hpool,
        Pool.getElem?_declaredElements hddi hselect]
    have hhas : st.hasElementNumberForDdi ddi = true ↔ pool.Lists ddi := by
      rw [hsetUp.has_of_sent hcommands hddi, hpool]
      exact and_iff_right hselect
    refine ⟨hhas.trans Pool.lists_iff_listedBy, fun h => ?_⟩
    have hsome : st.ddiToElementNumber[ddi]?.isSome = true := by
      rw [← Std.ExtTreeMap.contains_eq_isSome_getElem?]
      exact h
    obtain ⟨element, helement⟩ := Option.isSome_iff_exists.mp hsome
    rw [getElementNumberForDdi, helement, Option.getD_some]
    exact Pool.listedBy_of_lastLister (hmap.symm.trans helement)

end Activation

/-- Two requests for a client with two booms. -/
theorem subscriptions_once_twoBoomPool :
    ((sentTo 7 (((serverMachine (.ofPool twoBoomPool [1])).resume
        [.storeDeviceDescriptorObjectPool 7 [0], .activateObjectPool 7 .working]).trace
          [.requestMeasurementCommands, .requestMeasurementCommands])).filter
        Command.isChangeThreshold).Perm [.changeThreshold 161 1 1, .changeThreshold 161 2 1] :=
  (@subscriptions_once (.ofPool twoBoomPool [1]) twoBoomPool 7
    [.storeDeviceDescriptorObjectPool 7 [0], .activateObjectPool 7 .working]
    [.requestMeasurementCommands, .requestMeasurementCommands] rfl (by decide) (by decide +kernel)).1

end AogTaskController.TaskController
