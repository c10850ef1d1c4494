import Mathlib.Data.List.GetD
import AogTaskController.Framework.FrontMoves
import AogTaskController.Udp.Termination

/-!
# What the buffer shows

The cursor is not reset when the bytes behind a frame move to the front. Where the next frame is
looked for, and which of the received bytes are found there, follow from the sizes of the frames
before it alone: the cursor is their sum modulo 256, and each of these sums in turn is taken away
from the front.
-/

namespace AogTaskController.Udp

open Framework

/-- The cursor when `j` frames of these sizes have been read. -/
def cursorAfter (frameSize : ℕ → ℕ) (j : ℕ) : UInt8 :=
  UInt8.ofNat (∑ i ∈ Finset.range j, frameSize i)

def droppedWith (frameSize : ℕ → ℕ) (j : ℕ) : ℕ := (cursorAfter frameSize (j + 1)).toNat

def droppedAfter (frameSize : ℕ → ℕ) (j : ℕ) : ℕ := FrontMoves.dropped (droppedWith frameSize) j

/-- The byte at the place `i` of the buffer when `j` frames of `bytes` have been read. -/
def shownByte (bytes : List UInt8) (frameSize : ℕ → ℕ) (j i : ℕ) : UInt8 :=
  bytes.getD (FrontMoves.origin bytes.length (droppedWith frameSize) j i) 0

def shownHeader (bytes : List UInt8) (frameSize : ℕ → ℕ) (j : ℕ) (k : UInt8) : UInt8 :=
  shownByte bytes frameSize j (cursorAfter frameSize j + k).toNat

/-- After `j` frames at least 8 bytes count as left, and the start word is found at the cursor. -/
def ShowsStart (bytes : List UInt8) (frameSize : ℕ → ℕ) (j : ℕ) : Prop :=
  droppedAfter frameSize j + 8 ≤ bytes.length ∧
    shownHeader bytes frameSize j 0 = 0x80 ∧ shownHeader bytes frameSize j 1 = 0x81

instance (bytes : List UInt8) (frameSize : ℕ → ℕ) (j : ℕ) :
    Decidable (ShowsStart bytes frameSize j) := inferInstanceAs (Decidable (_ ∧ _ ∧ _))

section Sums

variable {frameSize : ℕ → ℕ}

theorem cursorAfter_succ (j : ℕ) :
    cursorAfter frameSize (j + 1) = cursorAfter frameSize j + UInt8.ofNat (frameSize j) := by
  rw [cursorAfter, Finset.sum_range_succ, UInt8.ofNat_add, cursorAfter]

theorem droppedAfter_succ (j : ℕ) :
    droppedAfter frameSize (j + 1) =
      droppedAfter frameSize j + (cursorAfter frameSize (j + 1)).toNat :=
  FrontMoves.dropped_succ _ j

private theorem cursorAfter_le_droppedAfter (j : ℕ) :
    (cursorAfter frameSize j).toNat ≤ droppedAfter frameSize j := by
  cases j with
  | zero => simp [cursorAfter]
  | succ j =>
      rw [droppedAfter_succ]
      omega

@[simp] theorem droppedAfter_zero : droppedAfter frameSize 0 = 0 := rfl

theorem shownByte_of_lt {bytes : List UInt8} {j i : ℕ}
    (h : i + droppedAfter frameSize j < bytes.length) :
    shownByte bytes frameSize j i = bytes.getD (i + droppedAfter frameSize j) 0 := by
  rw [shownByte, FrontMoves.origin_of_lt h, droppedAfter]

theorem shownByte_succ_of_le {bytes : List UInt8} {j i : ℕ}
    (h : bytes.length ≤ i + droppedAfter frameSize (j + 1)) :
    shownByte bytes frameSize (j + 1) i = shownByte bytes frameSize j i := by
  rw [shownByte, FrontMoves.origin_succ_of_le h, shownByte]

/-- One more move to the front. -/
theorem shownByte_succ (bytes : List UInt8) (j i : ℕ) :
    shownByte bytes frameSize (j + 1) i =
      if i < bytes.length - droppedAfter frameSize (j + 1) then
        shownByte bytes frameSize j (i + (cursorAfter frameSize (j + 1)).toNat)
      else shownByte bytes frameSize j i := by
  have hcontent (k place : ℕ) : shownByte bytes frameSize k place =
      FrontMoves.contentAfter (bytes.getD · 0) bytes.length (droppedWith frameSize) k place := by
    rw [FrontMoves.contentAfter_eq, shownByte]
  rw [hcontent, FrontMoves.contentAfter_succ, ← hcontent, ← hcontent]
  rfl

@[simp] theorem shownByte_zero (bytes : List UInt8) (i : ℕ) :
    shownByte bytes frameSize 0 i = bytes.getD i 0 := by
  rw [shownByte, FrontMoves.origin_zero]

end Sums

structure HasRead {ω : Type} (bytes : List UInt8) (frameSize : ℕ → ℕ) (j : ℕ) (s : RxLoop ω) :
    Prop where
  rxIndex : s.rxIndex = bytes.length - droppedAfter frameSize j
  index : s.index = cursorAfter frameSize j
  byte : ∀ i < bytes.length, rxByte s.rxBuffer i = shownByte bytes frameSize j i

namespace HasRead

variable {ω : Type} {bytes : List UInt8} {frameSize : ℕ → ℕ} {j : ℕ} {s : RxLoop ω}

private theorem headerByte_inside (h : HasRead bytes frameSize j s) (hr : 8 ≤ s.rxIndex) {k : UInt8}
    (hk : k.toNat ≤ 5) : (s.index + k).toNat + 3 ≤ bytes.length := by
  have hcursor : (cursorAfter frameSize j).toNat ≤ droppedAfter frameSize j :=
    cursorAfter_le_droppedAfter j
  have hrx := h.rxIndex
  rw [h.index, UInt8.toNat_add]
  omega

theorem headerByte (h : HasRead bytes frameSize j s) (hr : 8 ≤ s.rxIndex) {k : UInt8}
    (hk : k.toNat ≤ 4) : s.headerByte k = shownHeader bytes frameSize j k := by
  have hinside := h.headerByte_inside hr (k := k) (by omega)
  rw [RxLoop.headerByte, h.byte _ (by omega), h.index]
  rfl

theorem showsStart_iff (h : HasRead bytes frameSize j s) :
    ShowsStart bytes frameSize j ↔ 8 ≤ s.rxIndex ∧ s.AtFrame := by
  have hrx := h.rxIndex
  have hleft : droppedAfter frameSize j + 8 ≤ bytes.length ↔ 8 ≤ s.rxIndex := by omega
  rw [ShowsStart, hleft]
  refine and_congr_right fun hr => ?_
  rw [← h.headerByte hr (by decide), ← h.headerByte hr (by decide)]
  rfl

/-- The cursor moves on by one more frame, and the bytes behind it to the front. -/
theorem compact (h : HasRead bytes frameSize j s) (emitted : List ω) :
    HasRead bytes frameSize (j + 1)
      (RxLoop.compact ⟨s.rxBuffer, s.rxIndex, cursorAfter frameSize (j + 1), emitted⟩) where
  rxIndex := by
    have hrx := h.rxIndex
    rw [RxLoop.compact_rxIndex, droppedAfter_succ]
    change s.rxIndex - (cursorAfter frameSize (j + 1)).toNat = _
    omega
  index := RxLoop.compact_index _
  byte i hi := by
    have hrx := h.rxIndex
    have hdropped : droppedAfter frameSize (j + 1) =
        droppedAfter frameSize j + (cursorAfter frameSize (j + 1)).toNat := droppedAfter_succ j
    have hmoved : rxByte (RxLoop.compact ⟨s.rxBuffer, s.rxIndex, cursorAfter frameSize (j + 1),
        emitted⟩).rxBuffer i =
        if i < bytes.length - droppedAfter frameSize (j + 1) then
          rxByte s.rxBuffer (i + (cursorAfter frameSize (j + 1)).toNat)
        else rxByte s.rxBuffer i := by
      rw [RxLoop.compact]
      split
      · have hleft : s.rxIndex - (cursorAfter frameSize (j + 1)).toNat =
            bytes.length - droppedAfter frameSize (j + 1) := by omega
        by_cases hin : i < 512
        · rw [rxByte_memmove hin, hleft]
        · rw [rxByte_of_le _ (by omega), rxByte_of_le _ (by omega), rxByte_of_le _ (by omega),
            ite_self]
      · rw [if_neg (by simp only at *; omega)]
    rw [hmoved, shownByte_succ]
    split
    · exact h.byte _ (by omega)
    · exact h.byte i hi

end HasRead

/-- What is in the buffer when the loop starts: the bytes carried over, then those received. -/
def RxStatics.pending (s : RxStatics) (bytes : List UInt8) : List UInt8 :=
  rxSpan s.rxBuffer 0 s.rxIndex ++ bytes.take (512 - s.rxIndex)

theorem hasRead_receive {ω : Type} (s : RxStatics) (bytes : List UInt8) (frameSize : ℕ → ℕ) :
    HasRead (s.pending bytes) frameSize 0 (s.receive bytes : RxLoop ω) where
  rxIndex := by simp [RxStatics.receive, RxStatics.pending, droppedAfter]
  index := by simp [RxStatics.receive, cursorAfter]
  byte i hi := by
    have htake := List.length_take (i := 512 - s.rxIndex) (l := bytes)
    rw [RxStatics.pending, List.length_append, rxSpan_length] at hi
    rw [shownByte_zero, RxStatics.pending]
    by_cases hcarried : i < s.rxIndex
    · rw [List.getD_append _ _ _ _ (by rwa [rxSpan_length]),
        List.getD_eq_getElem _ _ (by rwa [rxSpan_length])]
      simp only [rxSpan, List.getElem_map, List.getElem_range, Nat.zero_add, RxStatics.receive]
      by_cases hin : i < 512
      · rw [rxByte_fill hin, if_neg (by omega)]
      · rw [rxByte_of_le _ (by omega), rxByte_of_le _ (by omega)]
    · rw [List.getD_append_right _ _ _ _ (by rw [rxSpan_length]; omega), rxSpan_length]
      simp only [RxStatics.receive]
      rw [rxByte_fill (by omega), if_pos (by omega)]

end AogTaskController.Udp
