import AogTaskController.TaskController.Subscriptions

/-!
# GNSS quality

Whom the GNSS quality is sent to. The element to address is looked up among the measurement commands,
which clients without sections do not get, so that these are left out however they ask for it.
-/

namespace AogTaskController.TaskController

open Framework ClientState

namespace Pool

/-- The first owners of the settable GNSS quality objects that have one. -/
def gnssOwners (pool : Pool) : List Nat :=
  (pool.processData.filter fun object => object.ddi == Ddi.gnssQuality && object.settable).filterMap
    pool.findOwningElementNumber

private theorem getElem?_mapGnss_gnssQuality {pool : Pool} {m : ElementMap} :
    (pool.mapGnss m)[Ddi.gnssQuality]? = pool.gnssOwners.getLast?.or m[Ddi.gnssQuality]? := by
  rw [mapGnss, gnssOwners]
  induction pool.processData.filter fun object =>
    object.ddi == Ddi.gnssQuality && object.settable using List.reverseRecOn with
  | nil => rfl
  | append_singleton l object ih =>
      rw [List.foldl_append, List.foldl_cons, List.foldl_nil, List.filterMap_append]
      cases howner : pool.findOwningElementNumber object with
      | none => simpa [howner] using ih
      | some element => simp [howner]

private theorem getElem?_declaredElements_gnssQuality {pool : Pool} :
    pool.declaredElements[Ddi.gnssQuality]? = pool.gnssOwners.getLast? := by
  have hempty : (∅ : ElementMap)[Ddi.gnssQuality]? = none := Std.ExtTreeMap.getElem?_empty
  have hwork : isWorkStateDdi Ddi.gnssQuality = false := rfl
  have hcontrol : isSectionControlDdi Ddi.gnssQuality = false := rfl
  rw [declaredElements, getElem?_mapGnss_gnssQuality, getElem?_mapListings, getElem?_mapListings,
    hwork, hcontrol, if_neg Bool.false_ne_true, if_neg Bool.false_ne_true, hempty, Option.or_none]

private theorem findOwningElementNumber_eq_some {pool : Pool} {object : DeviceProcessDataObject}
    {elementNumber : Nat} (h : pool.findOwningElementNumber object = some elementNumber) :
    ∃ element ∈ pool.deviceElements, element.elementNumber = elementNumber ∧
      object.objectId ∈ element.childObjectIds := by
  rw [findOwningElementNumber, Option.map_eq_some_iff] at h
  obtain ⟨element, hfound, hnumber⟩ := h
  have hlists := List.find?_some hfound
  rw [List.any_eq_true] at hlists
  obtain ⟨child, hchild, hid⟩ := hlists
  exact ⟨element, List.mem_of_find?_eq_some hfound, hnumber, beq_iff_eq.mp hid ▸ hchild⟩

private theorem findOwningElementNumber_isSome {pool : Pool} {object : DeviceProcessDataObject}
    {element : DeviceElementObject} (helement : element ∈ pool.deviceElements)
    (hchild : object.objectId ∈ element.childObjectIds) :
    (pool.findOwningElementNumber object).isSome = true := by
  rw [findOwningElementNumber, Option.isSome_map, List.find?_isSome]
  exact ⟨element, helement, List.any_eq_true.mpr ⟨_, hchild, beq_self_eq_true _⟩⟩

private theorem listsSettable_of_mem_gnssOwners {pool : Pool} {elementNumber : Nat}
    (h : elementNumber ∈ pool.gnssOwners) : pool.ListsSettable Ddi.gnssQuality elementNumber := by
  obtain ⟨object, hobject, howner⟩ := List.mem_filterMap.mp h
  obtain ⟨hmem, hselect⟩ := List.mem_filter.mp hobject
  rw [Bool.and_eq_true, beq_iff_eq] at hselect
  obtain ⟨element, helement, hnumber, hchild⟩ := findOwningElementNumber_eq_some howner
  exact ⟨element, helement, hnumber, object, hmem, hchild, hselect⟩

private theorem gnssOwners_ne_nil_iff {pool : Pool} :
    pool.gnssOwners ≠ [] ↔ ∃ element, pool.ListsSettable Ddi.gnssQuality element := by
  constructor
  · intro h
    obtain ⟨element, helement⟩ := List.exists_mem_of_ne_nil _ h
    exact ⟨element, listsSettable_of_mem_gnssOwners helement⟩
  · intro h
    obtain ⟨_, element, helement, _, object, hobject, hchild, hddi, hsettable⟩ := h
    obtain ⟨owner, howner⟩ :=
      Option.isSome_iff_exists.mp (findOwningElementNumber_isSome helement hchild)
    have hselect : (object.ddi == Ddi.gnssQuality && object.settable) = true := by
      rw [hddi, hsettable]
      rfl
    exact List.ne_nil_of_mem
      (List.mem_filterMap.mpr ⟨object, List.mem_filter.mpr ⟨hobject, hselect⟩, howner⟩)

end Pool

/-- A client is sent the GNSS quality if its pool asks for it, at an element that does, and else not. -/
structure GnssQualityServed (pool : Pool) (sent : List Command) : Prop where
  sent_iff : (∃ element value, .setValue Ddi.gnssQuality element value ∈ sent) ↔
    ∃ element, pool.ListsSettable Ddi.gnssQuality element
  addressed : ∀ element value, .setValue Ddi.gnssQuality element value ∈ sent →
    pool.ListsSettable Ddi.gnssQuality element

private theorem gnssQualityServed_nil_iff {pool : Pool} :
    GnssQualityServed pool [] ↔ ∀ element, ¬ pool.ListsSettable Ddi.gnssQuality element := by
  constructor
  · intro h element hlists
    obtain ⟨_, _, hmem⟩ := h.sent_iff.mpr ⟨element, hlists⟩
    cases hmem
  · intro h
    constructor
    · constructor
      · intro hsent
        obtain ⟨_, _, hmem⟩ := hsent
        cases hmem
      · intro hlists
        obtain ⟨element, hlists⟩ := hlists
        exact absurd hlists (h element)
    · intro element value hmem
      cases hmem

namespace ClientState

private theorem SetUp.gnssQualityServed {st : ClientState} (h : st.SetUp)
    (hsent : st.areMeasurementCommandsSent = true) (quality : UInt8) :
    GnssQualityServed st.pool (st.sendGnssQuality quality) := by
  have hmap : st.ddiToElementNumber[Ddi.gnssQuality]? = st.pool.gnssOwners.getLast? := by
    rw [h.elements, hsent, if_pos rfl, Pool.getElem?_declaredElements_gnssQuality]
  have hhas : st.hasElementNumberForDdi Ddi.gnssQuality = st.pool.gnssOwners.getLast?.isSome := by
    rw [hasElementNumberForDdi, Std.ExtTreeMap.contains_eq_isSome_getElem?, hmap]
  rw [sendGnssQuality, hhas, getElementNumberForDdi, hmap]
  cases hlast : st.pool.gnssOwners.getLast? with
  | none =>
      apply gnssQualityServed_nil_iff.mpr
      intro element hlists
      exact Pool.gnssOwners_ne_nil_iff.mpr ⟨element, hlists⟩ (List.getLast?_eq_none_iff.mp hlast)
  | some owner =>
      have hlists := Pool.listsSettable_of_mem_gnssOwners (List.mem_of_getLast? hlast)
      constructor
      · exact iff_of_true ⟨owner, _, List.mem_singleton_self _⟩ ⟨owner, hlists⟩
      · intro element value hmem
        cases List.mem_singleton.mp hmem
        exact hlists

end ClientState

section Run

variable {stack : IsobusStack} {pool : Pool} {partner : ControlFunction} {pre post : List Event}

/-- In every run behind the activation of a client that does not renew its session, once the
measurement commands have been requested: the client is served as its pool asks for if and only if it
has sections or does not ask. -/
theorem gnssQuality_served_iff
    (hactivated : ((serverMachine stack).after pre).clients[partner]? =
      some (stack.newClientState pool))
    (hkept : ∀ observation ∈ ((serverMachine stack).resume pre).trace post,
      observation.renews partner = false)
    (hrequested : post.any Event.requests = true) (quality : UInt8) :
    GnssQualityServed pool (sentTo partner
      ((serverMachine stack).step ((serverMachine stack).after (pre ++ post))
        (.sendGnssQuality quality)).2) ↔
    0 < (stack.newClientState pool).numberOfSections ∨
      ∀ element, ¬ pool.ListsSettable Ddi.gnssQuality element := by
  obtain ⟨st, hst, hsince, _⟩ := server_requestedSince hactivated hkept
  have hsetUp := server_client_invariant (setUp_invariant stack)
    (Machine.reachable_after _ (pre ++ post)) hst
  have hpool : st.pool = pool := hsince.pool.trans (newClientState_pool stack pool)
  have hstep : (serverMachine stack).step ((serverMachine stack).after (pre ++ post))
      (.sendGnssQuality quality) = ((serverMachine stack).after (pre ++ post)).forEachClient
        fun st => (st, st.sendGnssQuality quality) := rfl
  have hsent : sentTo partner ((serverMachine stack).step
      ((serverMachine stack).after (pre ++ post)) (.sendGnssQuality quality)).2 =
        st.sendGnssQuality quality := by
    rw [hstep, Server.sentTo_forEachClient, hst]
  rw [hsent]
  rcases Nat.eq_zero_or_pos (stack.newClientState pool).numberOfSections with hzero | hpos
  · have hunsent : st.areMeasurementCommandsSent = false := by
      rw [hsince.sent, hzero]
      simp
    rw [sendGnssQuality, hsetUp.has_of_unsent hunsent, if_neg Bool.false_ne_true,
      gnssQualityServed_nil_iff, hzero]
    simp
  · have hcommands : st.areMeasurementCommandsSent = true := by
      rw [hsince.sent, hrequested]
      simp [hpos]
    have hserved := hsetUp.gnssQualityServed hcommands quality
    rw [hpool] at hserved
    exact iff_of_true hserved (.inl hpos)

end Run

def gnssPool : Pool :=
  [.device ⟨0, []⟩, .deviceElement ⟨1, 1, 0, [2]⟩, .deviceProcessData ⟨2, 514, true, false, false⟩]

theorem gnssQuality_served_gnssPool :
    GnssQualityServed gnssPool (sentTo 7
      ((serverMachine (.ofPool gnssPool [1])).step ((serverMachine (.ofPool gnssPool [1])).after
        ([.storeDeviceDescriptorObjectPool 7 [0], .activateObjectPool 7 .working] ++
          [.requestMeasurementCommands])) (.sendGnssQuality 4)).2) :=
  (@gnssQuality_served_iff (.ofPool gnssPool [1]) gnssPool 7
    [.storeDeviceDescriptorObjectPool 7 [0], .activateObjectPool 7 .working]
    [.requestMeasurementCommands] rfl (by decide +kernel) rfl 4).mpr (.inl (by decide))

/-- The same implement without sections is sent nothing. -/
theorem gnssQuality_withheld : ¬ ∀ stack pool partner pre post quality,
    ((serverMachine stack).after pre).clients[partner]? = some (stack.newClientState pool) →
    (∀ observation ∈ ((serverMachine stack).resume pre).trace post,
      observation.renews partner = false) →
    post.any Event.requests = true →
    GnssQualityServed pool (sentTo partner
      ((serverMachine stack).step ((serverMachine stack).after (pre ++ post))
        (.sendGnssQuality quality)).2) := by
  intro h
  have hserved := h (.ofPool gnssPool []) gnssPool 7
    [.storeDeviceDescriptorObjectPool 7 [0], .activateObjectPool 7 .working]
    [.requestMeasurementCommands] 4 rfl (by decide +kernel) rfl
  have hnone : sentTo 7
      ((serverMachine (.ofPool gnssPool [])).step ((serverMachine (.ofPool gnssPool [])).after
        ([.storeDeviceDescriptorObjectPool 7 [0], .activateObjectPool 7 .working] ++
          [.requestMeasurementCommands])) (.sendGnssQuality 4)).2 = [] := by
    decide +kernel
  rw [hnone, gnssQualityServed_nil_iff] at hserved
  exact hserved 1 (by decide)

end AogTaskController.TaskController
