import AogTaskController.Application.Heartbeat

/-!
# The format of the heartbeat

The loop that fills the payload runs on an 8-bit section counter, which the inner loop stops at the
number of sections. It ends for every number of sections, and what it builds is what the protocol
description tells the other side to read.
-/

namespace AogTaskController.Application

open Framework TaskController

/-- The inner loop, with the section counter as it is. -/
def heartbeatBits (st : ClientState) (sectionIndex : UInt8) : BitVec 8 × UInt8 :=
  (List.range 8).foldl (fun x i =>
    if x.2 < .ofNat st.numberOfSections then
      (x.1 ||| (BitVec.ofBool (st.getSectionActualState x.2.toNat == .on)).setWidth 8 <<< i, x.2 + 1)
    else x) (0, sectionIndex)

/-- `while (sectionIndex < state.get_number_of_sections())` -/
def heartbeatLoop (st : ClientState) : WhileLoop (UInt8 × List UInt8) where
  guard x := x.1 < .ofNat st.numberOfSections
  body x := ((heartbeatBits st x.1).2, x.2 ++ [.ofBitVec (heartbeatBits st x.1).1])

def heartbeatStart (st : ClientState) : UInt8 × List UInt8 :=
  (0, [if st.isSectionControlEnabled then 1 else 0, .ofNat st.numberOfSections])

private theorem lt_ofNat_numberOfSections (st : ClientState) (i : UInt8) :
    i < .ofNat st.numberOfSections ↔ i.toNat < st.numberOfSections := by
  rw [UInt8.lt_iff_toNat_lt, UInt8.toNat_ofNat_of_lt' st.numberOfSections_lt]

private theorem heartbeatBits_prefix (st : ClientState) (word : BitVec 8) (i : UInt8)
    (positions : List Nat) :
    let x := positions.foldl (fun x i =>
      if x.2 < .ofNat st.numberOfSections then
        (x.1 ||| (BitVec.ofBool (st.getSectionActualState x.2.toNat == .on)).setWidth 8 <<< i,
          x.2 + 1)
      else x) (word, i)
    positions.foldl (fun x i =>
      if x.2 < st.numberOfSections then
        (x.1 ||| (BitVec.ofBool (st.getSectionActualState x.2 == .on)).setWidth 8 <<< i, x.2 + 1)
      else x) (word, i.toNat) = (x.1, x.2.toNat) := by
  induction positions generalizing word i with
  | nil => rfl
  | cons position positions ih =>
      simp only [List.foldl_cons, lt_ofNat_numberOfSections]
      split
      next hlt =>
        have hnext : (i + 1).toNat = i.toNat + 1 := by
          have hsections := st.numberOfSections_lt
          rw [UInt8.toNat_add, UInt8.toNat_one, Nat.mod_eq_of_lt (by omega)]
        rw [← hnext]
        simpa only [lt_ofNat_numberOfSections] using ih _ (i + 1)
      next => simpa only [lt_ofNat_numberOfSections] using ih word i

private theorem heartbeatByte_toNat (st : ClientState) (i : UInt8) :
    heartbeatByte st i.toNat = ((heartbeatBits st i).1, (heartbeatBits st i).2.toNat) :=
  heartbeatBits_prefix st 0 i (List.range 8)

private theorem heartbeatLoop_exits_from (st : ClientState) (start : Nat) :
    ∀ (i : UInt8) (data : List UInt8), i.toNat = start →
      ∃ i', (heartbeatLoop st).Exits (i, data) (i', data ++ heartbeatBytes st start) := by
  induction start using heartbeatBytes.induct st with
  | case1 start hlt ih =>
      intro i data hi
      subst hi
      rw [heartbeatByte_toNat] at ih
      obtain ⟨i', hexits⟩ := ih (heartbeatBits st i).2 (data ++ [.ofBitVec (heartbeatBits st i).1]) rfl
      have hguard : (heartbeatLoop st).guard (i, data) = true :=
        decide_eq_true ((lt_ofNat_numberOfSections st i).mpr hlt)
      rw [heartbeatBytes, if_pos hlt, heartbeatByte_toNat, List.append_cons]
      exact ⟨i', .next hguard hexits⟩
  | case2 start hge =>
      intro i data hi
      subst hi
      have hguard : (heartbeatLoop st).guard (i, data) = false :=
        decide_eq_false fun hlt => hge ((lt_ofNat_numberOfSections st i).mp hlt)
      rw [heartbeatBytes, if_neg hge, List.append_nil]
      exact ⟨i, .stop hguard⟩

private theorem heartbeatLoop_exits (st : ClientState) :
    ∃ i, (heartbeatLoop st).Exits (heartbeatStart st) (i, heartbeatPayload st) :=
  heartbeatLoop_exits_from st 0 0 _ rfl

private theorem length_heartbeatPayload (st : ClientState) :
    (heartbeatPayload st).length = 2 + (st.numberOfSections + 7) / 8 := by
  rw [heartbeatPayload, heartbeatBytes_eq st (Nat.zero_le _)]
  simp only [List.length_cons, List.length_map, List.length_range]
  omega

/-- For every client state the loop ends, and its payload has two bytes and one more for every eight
sections or part of them: whether section control is enabled, the number of sections, and the bits
of the sections, those behind the last section being 0. -/
theorem heartbeatLoop_format (st : ClientState) :
    ∃ i payload, (heartbeatLoop st).Exits (heartbeatStart st) (i, payload) ∧
      payload.length = 2 + (st.numberOfSections + 7) / 8 ∧
      payload[0]? = some (if st.isSectionControlEnabled then 1 else 0) ∧
      payload[1]?.map UInt8.toNat = some st.numberOfSections ∧
      (∀ sect < st.numberOfSections, (payload.getD (2 + sect / 8) 0).toNat.testBit (sect % 8) =
        (st.getSectionActualState sect == .on)) ∧
      ∀ sect, st.numberOfSections ≤ sect →
        (payload.getD (2 + sect / 8) 0).toNat.testBit (sect % 8) = false := by
  obtain ⟨i, hexits⟩ := heartbeatLoop_exits st
  have hbit (sect : Nat) : ((heartbeatPayload st).getD (2 + sect / 8) 0).toNat.testBit (sect % 8) =
      (st.getSectionActualState sect == .on) := by
    rw [← sectionBit_heartbeatPayload, sectionBit, List.getD_eq_getElem?_getD,
      List.getD_eq_getElem?_getD, List.getElem?_drop]
  refine ⟨i, heartbeatPayload st, hexits, length_heartbeatPayload st, rfl, ?_, ?_, ?_⟩
  · exact congrArg some (UInt8.toNat_ofNat_of_lt' st.numberOfSections_lt)
  · exact fun sect _ => hbit sect
  · intro sect hsect
    rw [hbit, ClientState.getSectionActualState, if_neg (Nat.not_lt_of_le hsect)]
    rfl

end AogTaskController.Application
