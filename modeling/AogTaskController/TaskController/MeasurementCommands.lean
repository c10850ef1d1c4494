import AogTaskController.TaskController.ClientState

/-!
# Measurement commands

Subscribing to a client's process data, and the mapping from DDIs to elements that this builds.
-/

namespace AogTaskController.TaskController

/-- The process data objects with a selected DDI, each with every element that lists it. -/
def Pool.listings (pool : Pool) (select : Ddi → Bool) : List (DeviceProcessDataObject × Nat) :=
  (pool.processData.filter fun object => select object.ddi).flatMap fun object =>
    (pool.listingElements object).map fun element => (object, element)

namespace ClientState

/-- One pass over the pool: a selected object is mapped to each element that lists it, the last
one staying, and subscribed to there. -/
def mappingPass (select : Ddi → Bool) (subscribe : DeviceProcessDataObject → Nat → List Command)
    (x : ClientState × List Command) : ClientState × List Command :=
  (x.1.pool.listings select).foldl (fun x listing =>
    (x.1.setElementNumberForDdi listing.1.ddi listing.2, x.2 ++ subscribe listing.1 listing.2)) x

def subscribeOnChange (object : DeviceProcessDataObject) (element : Nat) : List Command :=
  if object.onChange then [.changeThreshold object.ddi element 1] else []

def subscribeTimeInterval (object : DeviceProcessDataObject) (element : Nat) : List Command :=
  if object.timeInterval then [.timeInterval object.ddi element 1000] else []

def isWorkStateDdi (ddi : Ddi) : Bool :=
  ddi == Ddi.actualWorkState || ddi.isActualCondensed || ddi.isCondensedSectionOverride

def isSectionControlDdi (ddi : Ddi) : Bool :=
  ddi == Ddi.sectionControlState || ddi == Ddi.setpointWorkState || ddi.isSetpointCondensed

/-- GNSS quality is sent, not subscribed to: only a settable object is mapped, to its first
owner. -/
def mapGnssQuality (st : ClientState) : ClientState :=
  (st.pool.processData.filter fun object => object.ddi == Ddi.gnssQuality && object.settable).foldl
    (fun st' object =>
      match st.pool.findOwningElementNumber object with
      | some element => st'.setElementNumberForDdi Ddi.gnssQuality element
      | none => st') st

def requestMeasurementCommands (st : ClientState) : ClientState × List Command :=
  if !st.areMeasurementCommandsSent && 0 < st.numberOfSections then
    let x := mappingPass isWorkStateDdi (fun object element =>
      subscribeOnChange object element ++ subscribeTimeInterval object element) (st, [])
    let x := mappingPass isSectionControlDdi subscribeOnChange x
    (x.1.mapGnssQuality.markMeasurementCommandsSent, x.2)
  else (st, [])

end ClientState

abbrev ElementMap := Std.ExtTreeMap Ddi Nat

namespace Pool

theorem exists_mem_listings {pool : Pool} {select : Ddi → Bool} {ddi : Ddi} :
    (∃ listing ∈ pool.listings select, listing.1.ddi = ddi) ↔ select ddi = true ∧ pool.Lists ddi := by
  constructor
  · intro h
    obtain ⟨⟨object, element⟩, hlisting, hddi⟩ := h
    obtain ⟨object', hobject, hmem⟩ := List.mem_flatMap.mp hlisting
    obtain ⟨element', helement, heq⟩ := List.mem_map.mp hmem
    cases heq
    obtain ⟨hobject, hselect⟩ := List.mem_filter.mp hobject
    exact ⟨hddi ▸ hselect, object, hobject, hddi, List.ne_nil_of_mem helement⟩
  · intro h
    obtain ⟨hselect, object, hobject, hddi, hlisted⟩ := h
    obtain ⟨element, helement⟩ := List.exists_mem_of_ne_nil _ hlisted
    have hfilter : object ∈ pool.processData.filter fun object => select object.ddi :=
      List.mem_filter.mpr ⟨hobject, hddi.symm ▸ hselect⟩
    exact ⟨(object, element), List.mem_flatMap.mpr ⟨object, hfilter,
      List.mem_map.mpr ⟨element, helement, rfl⟩⟩, hddi⟩

def mapListings (pool : Pool) (select : Ddi → Bool) (m : ElementMap) : ElementMap :=
  (pool.listings select).foldl (fun m listing => m.insert listing.1.ddi listing.2) m

def mapGnss (pool : Pool) (m : ElementMap) : ElementMap :=
  (pool.processData.filter fun object => object.ddi == Ddi.gnssQuality && object.settable).foldl
    (fun m object =>
      match pool.findOwningElementNumber object with
      | some element => m.insert Ddi.gnssQuality element
      | none => m) m

def declaredElements (pool : Pool) : ElementMap :=
  pool.mapGnss (pool.mapListings ClientState.isSectionControlDdi
    (pool.mapListings ClientState.isWorkStateDdi ∅))

private theorem contains_mapListings {pool : Pool} {select : Ddi → Bool} {m : ElementMap}
    {ddi : Ddi} :
    (pool.mapListings select m).contains ddi = true ↔
      m.contains ddi = true ∨ select ddi = true ∧ pool.Lists ddi := by
  have hfold (l : List (DeviceProcessDataObject × Nat)) (m : ElementMap) :
      (l.foldl (fun m listing => m.insert listing.1.ddi listing.2) m).contains ddi = true ↔
        m.contains ddi = true ∨ ∃ listing ∈ l, listing.1.ddi = ddi := by
    induction l generalizing m with
    | nil => simp
    | cons listing l ih =>
        rw [List.foldl_cons, ih, List.exists_mem_cons_iff, ← or_assoc,
          Std.ExtTreeMap.contains_insert, Bool.or_eq_true, beq_iff_eq,
          Std.LawfulEqCmp.compare_eq_iff_eq, or_comm (a := listing.1.ddi = ddi)]
  rw [mapListings, hfold, exists_mem_listings]

theorem getElem?_mapGnss {pool : Pool} {m : ElementMap} {ddi : Ddi} (hddi : ddi ≠ Ddi.gnssQuality) :
    (pool.mapGnss m)[ddi]? = m[ddi]? := by
  rw [mapGnss]
  induction pool.processData.filter fun object =>
    object.ddi == Ddi.gnssQuality && object.settable generalizing m with
  | nil => rfl
  | cons object l ih =>
      rw [List.foldl_cons, ih]
      cases pool.findOwningElementNumber object with
      | none => rfl
      | some element =>
          have hne : compare Ddi.gnssQuality ddi ≠ .eq := by
            rw [ne_eq, Std.LawfulEqCmp.compare_eq_iff_eq]
            exact hddi.symm
          simp only [Std.ExtTreeMap.getElem?_insert, if_neg hne]

private theorem contains_mapGnss {pool : Pool} {m : ElementMap} {ddi : Ddi}
    (hddi : ddi ≠ Ddi.gnssQuality) :
    (pool.mapGnss m).contains ddi = m.contains ddi := by
  rw [Std.ExtTreeMap.contains_eq_isSome_getElem?, Std.ExtTreeMap.contains_eq_isSome_getElem?,
    getElem?_mapGnss hddi]

theorem contains_declaredElements {pool : Pool} {ddi : Ddi} (hddi : ddi ≠ Ddi.gnssQuality) :
    pool.declaredElements.contains ddi = true ↔
      (ClientState.isWorkStateDdi ddi = true ∨ ClientState.isSectionControlDdi ddi = true) ∧
        pool.Lists ddi := by
  rw [declaredElements, contains_mapGnss hddi, contains_mapListings, contains_mapListings, or_and_right]
  simp

end Pool

namespace ClientState

private theorem mappingPass_eq (select : Ddi → Bool)
    (subscribe : DeviceProcessDataObject → Nat → List Command) (x : ClientState × List Command) :
    mappingPass select subscribe x =
      ({ x.1 with ddiToElementNumber := x.1.pool.mapListings select x.1.ddiToElementNumber },
        x.2 ++ (x.1.pool.listings select).flatMap fun listing => subscribe listing.1 listing.2) := by
  rw [mappingPass, Pool.mapListings]
  generalize x.1.pool.listings select = l
  induction l generalizing x with
  | nil => simp
  | cons listing l ih =>
      rw [List.foldl_cons, ih]
      simp [setElementNumberForDdi]

private theorem mapGnssQuality_eq (st : ClientState) :
    st.mapGnssQuality =
      { st with ddiToElementNumber := st.pool.mapGnss st.ddiToElementNumber } := by
  have hfold (l : List DeviceProcessDataObject) (st' : ClientState) :
      l.foldl (fun st' object =>
        match st.pool.findOwningElementNumber object with
        | some element => st'.setElementNumberForDdi Ddi.gnssQuality element
        | none => st') st' =
      { st' with
        ddiToElementNumber := l.foldl (fun m object =>
          match st.pool.findOwningElementNumber object with
          | some element => m.insert Ddi.gnssQuality element
          | none => m) st'.ddiToElementNumber } := by
    induction l generalizing st' with
    | nil => rfl
    | cons object l ih =>
        rw [List.foldl_cons, List.foldl_cons, ih]
        cases st.pool.findOwningElementNumber object <;> rfl
  exact hfold _ st

def subscriptions (pool : Pool) : List Command :=
  (pool.listings isWorkStateDdi).flatMap (fun listing =>
    subscribeOnChange listing.1 listing.2 ++ subscribeTimeInterval listing.1 listing.2) ++
  (pool.listings isSectionControlDdi).flatMap fun listing => subscribeOnChange listing.1 listing.2

theorem requestMeasurementCommands_of_unsent {st : ClientState}
    (hunsent : st.areMeasurementCommandsSent = false) (hsections : 0 < st.numberOfSections) :
    st.requestMeasurementCommands =
      ({ st with
          areMeasurementCommandsSent := true
          ddiToElementNumber := st.pool.mapGnss (st.pool.mapListings isSectionControlDdi
            (st.pool.mapListings isWorkStateDdi st.ddiToElementNumber)) },
        subscriptions st.pool) := by
  simp only [requestMeasurementCommands, hunsent, hsections, mappingPass_eq, mapGnssQuality_eq,
    Bool.not_false, decide_true, Bool.and_self, if_true, List.nil_append]
  rfl

theorem requestMeasurementCommands_of_sent {st : ClientState}
    (hsent : st.areMeasurementCommandsSent = true ∨ st.numberOfSections = 0) :
    st.requestMeasurementCommands = (st, []) := by
  rcases hsent with hsent | hsections
  · simp [requestMeasurementCommands, hsent]
  · simp [requestMeasurementCommands, hsections]

theorem not_setValue_mem_subscriptions {pool : Pool} {ddi : Ddi} {element : Nat} {value : BitVec 32} :
    Command.setValue ddi element value ∉ subscriptions pool := by
  intro h
  have hsubscribe (object : DeviceProcessDataObject) (element' : Nat) :
      Command.setValue ddi element value ∉ subscribeOnChange object element' ∧
        Command.setValue ddi element value ∉ subscribeTimeInterval object element' := by
    constructor
    · rw [subscribeOnChange]
      split <;> simp
    · rw [subscribeTimeInterval]
      split <;> simp
  rcases List.mem_append.mp h with h | h
  · obtain ⟨listing, _, hmem⟩ := List.mem_flatMap.mp h
    rcases List.mem_append.mp hmem with hmem | hmem
    · exact (hsubscribe _ _).1 hmem
    · exact (hsubscribe _ _).2 hmem
  · obtain ⟨listing, _, hmem⟩ := List.mem_flatMap.mp h
    exact (hsubscribe _ _).1 hmem

theorem requestMeasurementCommands_frame (st : ClientState) :
    (∃ m sent, st.requestMeasurementCommands.1 =
        { st with ddiToElementNumber := m, areMeasurementCommandsSent := sent }) ∧
      ∀ ddi element value, Command.setValue ddi element value ∉ st.requestMeasurementCommands.2 := by
  by_cases hsent : st.areMeasurementCommandsSent = true ∨ st.numberOfSections = 0
  · rw [requestMeasurementCommands_of_sent hsent]
    exact ⟨⟨st.ddiToElementNumber, st.areMeasurementCommandsSent, rfl⟩,
      fun _ _ _ => List.not_mem_nil⟩
  · rw [not_or, Bool.not_eq_true] at hsent
    rw [requestMeasurementCommands_of_unsent hsent.1 (Nat.pos_of_ne_zero hsent.2)]
    exact ⟨⟨_, _, rfl⟩, fun _ _ _ => not_setValue_mem_subscriptions⟩

end ClientState

end AogTaskController.TaskController
