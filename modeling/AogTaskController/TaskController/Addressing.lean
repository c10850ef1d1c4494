import AogTaskController.TaskController.SectionControl
import AogTaskController.TaskController.Uploads

/-!
# Addressing of setpoint commands

Where the section setpoints go. A condensed setpoint goes to the element that came last when the
measurement commands were requested, a per-element setpoint to the element that the section is bound
to. Whether this element has a settable object with the DDI is another matter.
-/

namespace AogTaskController.TaskController

open Framework

/-- A device element with this number has a child with the DDI that can be set. -/
def Pool.ListsSettable (pool : Pool) (ddi : Ddi) (elementNumber : Nat) : Prop :=
  ∃ element ∈ pool.deviceElements, element.elementNumber = elementNumber ∧
    ∃ object ∈ pool.processData, object.objectId ∈ element.childObjectIds ∧
      object.ddi = ddi ∧ object.settable = true

instance (pool : Pool) (ddi : Ddi) (elementNumber : Nat) :
    Decidable (pool.ListsSettable ddi elementNumber) :=
  inferInstanceAs (Decidable (∃ element ∈ pool.deviceElements, _ ∧ _))

/-- The last of the elements that list an object with the DDI. -/
def Pool.lastLister (pool : Pool) (ddi : Ddi) : Option Nat :=
  (pool.listings (· == ddi)).getLast?.map (·.2)

namespace Pool

private theorem getElem?_foldl_insert_listings (l : List (DeviceProcessDataObject × Nat))
    (m : ElementMap) (ddi : Ddi) :
    (l.foldl (fun m listing => m.insert listing.1.ddi listing.2) m)[ddi]? =
      ((l.filter fun listing => listing.1.ddi == ddi).getLast?.map (·.2)).or m[ddi]? := by
  induction l using List.reverseRecOn with
  | nil => rfl
  | append_singleton l listing ih =>
      rw [List.foldl_append, List.foldl_cons, List.foldl_nil, Std.ExtTreeMap.getElem?_insert, ih,
        List.filter_append]
      by_cases hddi : listing.1.ddi = ddi
      · simp [hddi]
      · simp [hddi, Std.LawfulEqCmp.compare_eq_iff_eq]

private theorem filter_listings (pool : Pool) (select : Ddi → Bool) {ddi : Ddi}
    (hselect : select ddi = true) :
    (pool.listings select).filter (fun listing => listing.1.ddi == ddi) =
      pool.listings (· == ddi) := by
  rw [listings, listings]
  induction pool.processData with
  | nil => rfl
  | cons object objects ih =>
      have hown : (((pool.listingElements object).map fun element => (object, element)).filter
          fun listing => listing.1.ddi == ddi) =
            if object.ddi == ddi then (pool.listingElements object).map fun element => (object, element)
            else [] := by
        cases hddi : object.ddi == ddi <;> simp [List.filter_map, Function.comp_def, hddi]
      rw [List.filter_cons, List.filter_cons]
      by_cases hddi : object.ddi = ddi
      · simp only [hddi, hselect, if_true, beq_self_eq_true, List.flatMap_cons, List.filter_append, ih]
        rw [hown, hddi]
        simp
      · have hne : (object.ddi == ddi) = false := beq_eq_false_iff_ne.mpr hddi
        rw [hne] at hown ⊢
        cases hobject : select object.ddi with
        | false => simpa using ih
        | true =>
            simp only [if_true, List.flatMap_cons, List.filter_append, ih, hown]
            simp

theorem getElem?_mapListings {pool : Pool} {select : Ddi → Bool} {m : ElementMap} {ddi : Ddi} :
    (pool.mapListings select m)[ddi]? =
      if select ddi then (pool.lastLister ddi).or m[ddi]? else m[ddi]? := by
  rw [mapListings, getElem?_foldl_insert_listings]
  cases hselect : select ddi with
  | true =>
      rw [filter_listings pool select hselect]
      rfl
  | false =>
      have hnone : (pool.listings select).filter (fun listing => listing.1.ddi == ddi) = [] := by
        rw [List.filter_eq_nil_iff]
        intro listing hlisting hddi
        have hselected := exists_mem_listings.mp ⟨listing, hlisting, beq_iff_eq.mp hddi⟩
        rw [hselect] at hselected
        cases hselected.1
      rw [hnone]
      rfl

theorem getElem?_declaredElements {pool : Pool} {ddi : Ddi} (hddi : ddi ≠ Ddi.gnssQuality)
    (hselect : ClientState.isWorkStateDdi ddi = true ∨ ClientState.isSectionControlDdi ddi = true) :
    pool.declaredElements[ddi]? = pool.lastLister ddi := by
  have hempty : (∅ : ElementMap)[ddi]? = none := Std.ExtTreeMap.getElem?_empty
  rw [declaredElements, getElem?_mapGnss hddi, getElem?_mapListings, getElem?_mapListings, hempty]
  rcases hselect with hwork | hcontrol
  · rw [hwork]
    cases ClientState.isSectionControlDdi ddi <;> simp
  · rw [hcontrol]
    cases ClientState.isWorkStateDdi ddi <;> simp

end Pool

section Addressed

variable {pool : Pool}

end Addressed

namespace ClientState

variable {st : ClientState} {block : Nat}

end ClientState

section Step

variable {stack : IsobusStack} {s : Server}

end Step

def twoBoomPool : Pool :=
  [.device ⟨0, []⟩, .deviceElement ⟨1, 1, 0, [3]⟩, .deviceElement ⟨2, 2, 0, [4]⟩,
    .deviceProcessData ⟨3, 161, true, true, false⟩, .deviceProcessData ⟨4, 161, false, true, false⟩]

end AogTaskController.TaskController
