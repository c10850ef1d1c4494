import AogTaskController.Application.PacketHandler
import AogTaskController.TaskController.ActualStates

/-!
# The section control heartbeat

What AgOpenGPS is told about a client every 100 ms: whether section control is enabled, the number
of sections, and one bit for each section that is on.
-/

namespace AogTaskController.Application

open Framework TaskController

/-- One byte for up to eight sections from `sectionIndex` on, and the index behind them. -/
def heartbeatByte (st : ClientState) (sectionIndex : Nat) : BitVec 8 × Nat :=
  (List.range 8).foldl (fun x i =>
    if x.2 < st.numberOfSections then
      (x.1 ||| (BitVec.ofBool (st.getSectionActualState x.2 == .on)).setWidth 8 <<< i, x.2 + 1)
    else x) (0, sectionIndex)

private theorem heartbeatByte_prefix (st : ClientState) {start : Nat}
    (hstart : start ≤ st.numberOfSections) (count : Nat) :
    (List.range count).foldl (fun x i =>
      if x.2 < st.numberOfSections then
        (x.1 ||| (BitVec.ofBool (st.getSectionActualState x.2 == .on)).setWidth 8 <<< i, x.2 + 1)
      else x) ((0 : BitVec 8), start) =
    (packFields 8 (fun i => BitVec.ofBool (st.getSectionActualState (start + i) == .on)) count,
      min (start + count) st.numberOfSections) := by
  induction count with
  | zero => simp [packFields, hstart]
  | succ count ih =>
      rw [List.range_succ, List.foldl_append, ih, packFields_succ, List.foldl_cons, List.foldl_nil]
      by_cases hcount : start + count < st.numberOfSections
      · have hindex : min (start + count) st.numberOfSections = start + count := by omega
        have hnext : min (start + (count + 1)) st.numberOfSections = start + count + 1 := by omega
        rw [hindex, hnext, if_pos hcount, Nat.one_mul]
      · have hindex : min (start + count) st.numberOfSections = st.numberOfSections := by omega
        have hnext : min (start + (count + 1)) st.numberOfSections = st.numberOfSections := by omega
        have hnone : st.getSectionActualState (start + count) = .notInstalled := by
          rw [ClientState.getSectionActualState, if_neg hcount]
        have hoff : (SectionState.notInstalled == .on) = false := rfl
        rw [hindex, hnext, if_neg (Nat.lt_irrefl _), hnone, hoff]
        simp

private theorem heartbeatByte_eq (st : ClientState) {start : Nat}
    (hstart : start ≤ st.numberOfSections) :
    heartbeatByte st start =
      (packFields 8 (fun i => BitVec.ofBool (st.getSectionActualState (start + i) == .on)) 8,
        min (start + 8) st.numberOfSections) :=
  heartbeatByte_prefix st hstart 8

def heartbeatBytes (st : ClientState) (sectionIndex : Nat) : List UInt8 :=
  if sectionIndex < st.numberOfSections then
    .ofBitVec (heartbeatByte st sectionIndex).1 :: heartbeatBytes st (heartbeatByte st sectionIndex).2
  else []
termination_by st.numberOfSections - sectionIndex
decreasing_by
  rw [heartbeatByte_eq st (Nat.le_of_lt ‹_›)]
  omega

def heartbeatPayload (st : ClientState) : List UInt8 :=
  (if st.isSectionControlEnabled then 1 else 0) :: .ofNat st.numberOfSections :: heartbeatBytes st 0

theorem heartbeatBytes_eq (st : ClientState) {start : Nat} (hstart : start ≤ st.numberOfSections) :
    heartbeatBytes st start =
      (List.range ((st.numberOfSections - start + 7) / 8)).map fun j =>
        .ofBitVec (packFields 8
          (fun i => BitVec.ofBool (st.getSectionActualState (start + 8 * j + i) == .on)) 8) := by
  induction start using heartbeatBytes.induct st with
  | case1 start hlt ih =>
      rw [heartbeatByte_eq st hstart] at ih
      have hnext : min (start + 8) st.numberOfSections ≤ st.numberOfSections := Nat.min_le_right ..
      rw [heartbeatBytes, if_pos hlt, heartbeatByte_eq st hstart, ih hnext]
      obtain ⟨count, hcount⟩ : ∃ count, (st.numberOfSections - start + 7) / 8 = count + 1 :=
        ⟨(st.numberOfSections - start - 1) / 8, by omega⟩
      rw [hcount, List.range_succ_eq_map, List.map_cons, List.map_map]
      have hrest : (st.numberOfSections - min (start + 8) st.numberOfSections + 7) / 8 = count := by
        omega
      rw [hrest]
      refine List.cons_eq_cons.mpr ⟨rfl, ?_⟩
      apply List.map_congr_left
      intro j hj
      have hj := List.mem_range.mp hj
      have hmin : min (start + 8) st.numberOfSections = start + 8 := by omega
      have hindex (i : Nat) : start + 8 + 8 * j + i = start + 8 * (j + 1) + i := by omega
      simp only [Function.comp, hmin, Nat.succ_eq_add_one, hindex]
  | case2 start hge =>
      have hzero : (st.numberOfSections - start + 7) / 8 = 0 := by omega
      rw [heartbeatBytes, if_neg hge, hzero]
      rfl

theorem sectionBit_heartbeatPayload (st : ClientState) (sect : Nat) :
    sectionBit ((heartbeatPayload st).drop 2) sect = (st.getSectionActualState sect == .on) := by
  have hbytes := heartbeatBytes_eq st (Nat.zero_le st.numberOfSections)
  rw [heartbeatPayload, List.drop_succ_cons, List.drop_succ_cons, List.drop_zero, hbytes, sectionBit,
    List.getD_eq_getElem?_getD, List.getElem?_map]
  by_cases hbyte : sect / 8 < (st.numberOfSections - 0 + 7) / 8
  · have hbit : sect % 8 < 8 := Nat.mod_lt _ (by decide)
    rw [List.getElem?_range hbyte, Option.map_some, Option.getD_some, UInt8.toNat_ofBitVec,
      BitVec.testBit_toNat, getLsbD_packFields Nat.one_pos]
    simp [hbit, Nat.mod_one, Nat.div_add_mod]
  · have hnone : st.getSectionActualState sect = .notInstalled := by
      rw [ClientState.getSectionActualState, if_neg (by omega)]
    rw [List.getElem?_eq_none (by simpa using hbyte), hnone]
    simp

/-- Along every run behind an activation, a section is not reported on while the element it is bound
to has last reported that it does not work, or, in a pool with distinct element numbers, an ancestor
of this element has. -/
theorem reportedOff_not_on (stack : IsobusStack) (pool : Pool) {partner : ControlFunction}
    {pre post : List Event}
    (hactivated : ((serverMachine stack).after pre).clients[partner]? =
      some (stack.newClientState pool))
    (hper : (stack.newClientState pool).usesPerElementControl = false)
    (hstays : ∀ e ∈ post, e.replaces partner = false) :
    ∃ st, ((serverMachine stack).after (pre ++ post)).clients[partner]? = some st ∧
      ∀ sect element value,
        element = boundElement (valueCommands partner post)
            ((stack.newClientState pool).getElementNumberForSection sect) sect ∨
          pool.DistinctElementNumbers ∧
            Relation.ReflTransGen pool.ParentElement
              (boundElement (valueCommands partner post)
                ((stack.newClientState pool).getElementNumberForSection sect) sect) element →
        lastWorkState (valueCommands partner post) element = some value → value ≠ 1 →
        st.getSectionActualState sect ≠ .on ∧
          sectionBit ((heartbeatPayload st).drop 2) sect = false := by
  have hprojection := server_projection stack partner
  have hstart : ((sessionMachine stack partner).after pre).client =
      some (stack.newClientState pool) := by
    rw [← hprojection.after]
    exact hactivated
  obtain ⟨st, hst, htracks⟩ :=
    Session.run_tracks hstart (newClientState_tracks stack pool) hstays
  rw [← hprojection.after] at hst
  refine ⟨st, hst, ?_⟩
  intro sect element value helement hreport hvalue
  have hreaches : Relation.ReflTransGen
      (Follows fun element => (stack.newClientState pool).elementParents[element]?)
      (boundElement (valueCommands partner post)
        ((stack.newClientState pool).getElementNumberForSection sect) sect) element := by
    rcases helement with rfl | ⟨hdistinct, hancestor⟩
    · exact .refl
    · rw [(newClientState_hierarchy stack pool).1]
      exact (Pool.reaches_buildParentMap_iff hdistinct).mpr hancestor
  have hnot := htracks.getSectionActualState_ne_on hper hreaches hreport hvalue
  refine ⟨hnot, ?_⟩
  rw [sectionBit_heartbeatPayload, beq_eq_false_iff_ne]
  exact hnot

def activation : List Event :=
  [.storeDeviceDescriptorObjectPool 7 [0], .activateObjectPool 7 .working]

/-- A boom with element number 1, which lists DDI 161, and its only section with number 2. -/
def boomPool : Pool :=
  [.device ⟨0, []⟩, .deviceElement ⟨1, 1, 0, [3]⟩, .deviceElement ⟨2, 2, 1, []⟩,
    .deviceProcessData ⟨3, 161, false, true, false⟩]

theorem boomPool_off_by_ancestor :
    ∃ st, ((serverMachine (.ofPool boomPool [2])).after (activation ++
        [.onValueCommand 7 161 2 1, .onValueCommand 7 141 1 0])).clients[7]? = some st ∧
      st.getSectionActualState 0 ≠ .on := by
  obtain ⟨st, hst, hoff⟩ := @reportedOff_not_on (.ofPool boomPool [2]) boomPool 7 activation
    [.onValueCommand 7 161 2 1, .onValueCommand 7 141 1 0] rfl rfl (by decide)
  refine ⟨st, hst, (hoff 0 1 0 (.inr ⟨by decide, ?_⟩) rfl (by decide)).1⟩
  apply Relation.ReflTransGen.single
  exact ⟨⟨2, 2, 1, []⟩, by decide, rfl, ⟨1, 1, 0, [3]⟩, rfl, rfl⟩

/-- The section is off whenever its geometry element or an ancestor of it has last reported that it
does not work. -/
def OffByGeometry (stack : IsobusStack) (pool : Pool) (messages : List ValueCommand)
    (st : ClientState) (sect : Nat) : Prop :=
  ∀ element value,
    Relation.ReflTransGen pool.ParentElement
      ((stack.newClientState pool).getElementNumberForSection sect) element →
    lastWorkState messages element = some value → value ≠ 1 → st.getSectionActualState sect ≠ .on

def sharedNumberPool : Pool :=
  [.device ⟨0, []⟩, .deviceElement ⟨1, 1, 0, []⟩, .deviceElement ⟨2, 2, 1, []⟩,
    .deviceElement ⟨3, 3, 0, []⟩, .deviceElement ⟨4, 2, 3, []⟩]

/-- A condensed message of the boom binds the section to the boom, and its own element no longer
counts. With shared element numbers, an ancestor can be missed even where the binding stays. -/
theorem reportedOff_on :
    (¬ ∀ stack pool partner pre post,
      ((serverMachine stack).after pre).clients[partner]? = some (stack.newClientState pool) →
      (stack.newClientState pool).usesPerElementControl = false →
      (∀ e ∈ post, e.replaces partner = false) → pool.DistinctElementNumbers → ∀ st,
      ((serverMachine stack).after (pre ++ post)).clients[partner]? = some st →
        ∀ sect, OffByGeometry stack pool (valueCommands partner post) st sect) ∧
    ¬ ∀ stack pool partner pre post,
      ((serverMachine stack).after pre).clients[partner]? = some (stack.newClientState pool) →
      (stack.newClientState pool).usesPerElementControl = false →
      (∀ e ∈ post, e.replaces partner = false) → ∀ st,
      ((serverMachine stack).after (pre ++ post)).clients[partner]? = some st →
        ∀ sect, boundElement (valueCommands partner post)
            ((stack.newClientState pool).getElementNumberForSection sect) sect =
          (stack.newClientState pool).getElementNumberForSection sect →
        OffByGeometry stack pool (valueCommands partner post) st sect := by
  constructor
  · intro h
    apply h (.ofPool boomPool [2]) boomPool 7 activation
      [.onValueCommand 7 141 2 0, .onValueCommand 7 161 1 1] rfl rfl (by decide) (by decide)
      (Option.get _ (by decide +kernel)) (Option.some_get (by decide +kernel)).symm 0 2 0
      .refl rfl (by decide)
    decide +kernel
  · intro h
    have hparent : sharedNumberPool.ParentElement 2 1 :=
      ⟨⟨2, 2, 1, []⟩, by decide, rfl, ⟨1, 1, 0, []⟩, rfl, rfl⟩
    apply h (.ofPool sharedNumberPool [2]) sharedNumberPool 7 activation
      [.onValueCommand 7 141 1 0, .onValueCommand 7 161 2 1] rfl rfl (by decide)
      (Option.get _ (by decide +kernel)) (Option.some_get (by decide +kernel)).symm 0 rfl 1 0
      (.single hparent) rfl (by decide)
    decide +kernel

end AogTaskController.Application
