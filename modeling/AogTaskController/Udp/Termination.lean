import AogTaskController.Udp.ReceiveLoop

/-!
# Termination of the receive loops

The only iteration that makes no progress from the front of the buffer is the one on a frame
with length byte 250: header, payload and checksum take 256 bytes there, and the 8-bit cursor
comes back to 0. Both loops stop exactly when no iteration starts in such a state.
-/

namespace AogTaskController.Udp

open Framework

namespace RxLoop

variable {ω : Type}

/-- The cursor is at the front, on a frame header whose length byte is 250. -/
def Stalled (s : RxLoop ω) : Prop :=
  s.index = 0 ∧ 8 ≤ s.rxIndex ∧ s.AtFrame ∧ s.headerLen = 250

private theorem headerByte_congr {s t : RxLoop ω} (hb : s.rxBuffer = t.rxBuffer)
    (hi : s.index = t.index) :
    s.headerByte = t.headerByte := by
  funext k
  simp [headerByte, hb, hi]

theorem Stalled.congr {s t : RxLoop ω} (h : s.Stalled) (hb : t.rxBuffer = s.rxBuffer)
    (hr : t.rxIndex = s.rxIndex) (hi : t.index = s.index) : t.Stalled := by
  have hbytes := headerByte_congr hb hi
  simpa only [Stalled, AtFrame, headerLen, hbytes, hr, hi] using h

@[simp] theorem compact_index (s : RxLoop ω) : s.compact.index = s.index := by
  unfold compact
  split <;> rfl

@[simp] theorem compact_emitted (s : RxLoop ω) : s.compact.emitted = s.emitted := by
  unfold compact
  split <;> rfl

@[simp] theorem compact_rxIndex (s : RxLoop ω) : s.compact.rxIndex = s.rxIndex - s.index.toNat := by
  unfold compact
  split
  · rfl
  · simp only
    omega

private theorem compact_of_index_zero {s : RxLoop ω} (h : s.index = 0) (hr : 0 < s.rxIndex) :
    s.compact = s := by
  obtain ⟨rxBuffer, rxIndex, index, emitted⟩ := s
  subst h
  simp [compact, hr, rxMemmove_zero]

end RxLoop

/-- What both loops do to the cursor at a frame: past payload and checksum, and up to two places
further when the length byte is 5. -/
def StepsOver {ω : Type} (onFrame : RxLoop ω → UInt8 → UInt8 → UInt8 → RxLoop ω) : Prop :=
  ∀ s src pgn len,
    (onFrame s src pgn len).rxBuffer = s.rxBuffer ∧
    (onFrame s src pgn len).rxIndex = s.rxIndex ∧
    ∃ extra : UInt8, (onFrame s src pgn len).index = s.index + (len + 1) + extra ∧
      (extra = 0 ∨ len = 5 ∧ extra ≤ 2)

private theorem deliver_stepsOver : StepsOver deliver := by
  intro s src pgn len
  exact ⟨rfl, rfl, 0, by simp [deliver], .inl rfl⟩

theorem detectAddress_stepsOver : StepsOver detectAddress := by
  intro s src pgn len
  by_cases hhead : src = 0x7F ∧ pgn = 0xC9 ∧ len = 5
  · obtain ⟨rfl, rfl, rfl⟩ := hhead
    by_cases hfirst : s.current = 0xC9
    · by_cases hsecond : s.advance.current = 0xC9
      · refine ⟨?_, ?_, 0, ?_, .inl rfl⟩ <;>
          simp [detectAddress, subnetMagic, hfirst, hsecond, UInt8.add_assoc]
      · refine ⟨?_, ?_, 2, ?_, .inr ⟨rfl, by decide⟩⟩ <;>
          simp [detectAddress, subnetMagic, hfirst, hsecond, UInt8.add_assoc]
    · refine ⟨?_, ?_, 1, ?_, .inr ⟨rfl, by decide⟩⟩ <;>
        simp [detectAddress, subnetMagic, hfirst, UInt8.add_assoc]
  · refine ⟨?_, ?_, 0, ?_, .inl rfl⟩ <;> simp [detectAddress, subnetMagic, hhead]

/-- From the front, only the length byte 250 brings the cursor back to the front. -/
private theorem wraps_to_front_iff {len extra : UInt8} (h : extra = 0 ∨ len = 5 ∧ extra ≤ 2) :
    0 + 5 + (len + 1) + extra = 0 ↔ len = 250 := by
  rw [← UInt8.toNat_inj, ← UInt8.toNat_inj]
  have hlt := len.toNat_lt
  obtain rfl | ⟨rfl, hle⟩ := h
  · simp
    omega
  · rw [UInt8.le_iff_toNat_le] at hle
    simp at hle ⊢
    omega

section Progress

variable {ω : Type} {onFrame : RxLoop ω → UInt8 → UInt8 → UInt8 → RxLoop ω}

private theorem stalled_iteration (hstep : StepsOver onFrame) {s : RxLoop ω} (h : s.Stalled) :
    (RxLoop.iteration onFrame s).Stalled := by
  obtain ⟨hindex, hrx, hframe, hlen⟩ := h
  obtain ⟨hb, hr, extra, hi, hextra⟩ :=
    hstep s.behindHeader s.headerSrc s.headerPgn s.headerLen
  have hback : (onFrame s.behindHeader s.headerSrc s.headerPgn s.headerLen).index = 0 := by
    rw [hi, RxLoop.behindHeader_index, hindex]
    exact (wraps_to_front_iff hextra).mpr hlen
  have hpos : 0 < (onFrame s.behindHeader s.headerSrc s.headerPgn s.headerLen).rxIndex := by
    rw [hr, RxLoop.behindHeader_rxIndex]
    omega
  rw [RxLoop.iteration_of_atFrame hframe, RxLoop.compact_of_index_zero hback hpos]
  exact RxLoop.Stalled.congr ⟨hindex, hrx, hframe, hlen⟩ hb hr (hback.trans hindex.symm)

/-- Unless it is stalled, an iteration drops bytes from the buffer or takes the cursor to the
front, from where the next one drops bytes. -/
private theorem iteration_decreases (hstep : StepsOver onFrame) {s : RxLoop ω} (hrx : 8 ≤ s.rxIndex)
    (h : ¬ s.Stalled) :
    2 * (RxLoop.iteration onFrame s).rxIndex +
        (if (RxLoop.iteration onFrame s).index = 0 then 0 else 1) <
      2 * s.rxIndex + (if s.index = 0 then 0 else 1) := by
  by_cases hframe : s.AtFrame
  · obtain ⟨hb, hr, extra, hi, hextra⟩ :=
      hstep s.behindHeader s.headerSrc s.headerPgn s.headerLen
    rw [RxLoop.iteration_of_atFrame hframe, RxLoop.compact_index, RxLoop.compact_rxIndex, hr, hi,
      RxLoop.behindHeader_index, RxLoop.behindHeader_rxIndex]
    by_cases hfront : s.index + 5 + (s.headerLen + 1) + extra = 0
    · have hindex : s.index ≠ 0 := by
        intro hindex
        rw [hindex, wraps_to_front_iff hextra] at hfront
        exact h ⟨hindex, hrx, hframe, hfront⟩
      simp [hfront, hindex]
    · have hpos : 0 < (s.index + 5 + (s.headerLen + 1) + extra).toNat := by
        rw [Nat.pos_iff_ne_zero]
        exact fun hz => hfront (UInt8.toNat_inj.mp hz)
      simp only [hfront, if_false]
      split <;> omega
  · rw [RxLoop.iteration_of_not_atFrame hframe]
    simp only
    split <;> split <;> omega

private theorem receiveLoop_terminates_iff (hstep : StepsOver onFrame) (s : RxLoop ω) :
    (receiveLoop onFrame).Terminates s ↔ ∀ t, (receiveLoop onFrame).Reaches s t → ¬ t.Stalled := by
  constructor
  · intro hs t ht hstalled
    refine ht.not_terminates ?_ hs
    apply WhileLoop.not_terminates_of_forever RxLoop.Stalled _ hstalled
    intro u hu
    exact ⟨by simpa using hu.2.1, stalled_iteration hstep hu⟩
  · intro hs
    refine WhileLoop.terminates_of_measure
      (fun t => ∀ u, (receiveLoop onFrame).Reaches t u → ¬ u.Stalled)
      (fun t => 2 * t.rxIndex + if t.index = 0 then 0 else 1) ?_ hs
    intro t ht hguard
    refine ⟨fun u hu => ht u (hu.head hguard), ?_⟩
    exact iteration_decreases hstep (by simpa using hguard) (ht t (.refl t))

end Progress

/-- The locals at the first test of the guard. -/
def loopStart {ω : Type} (rxBuffer : RxBuffer) (rxIndex : Nat) : RxLoop ω :=
  ⟨rxBuffer, rxIndex, 0, []⟩

/-- From every buffer content, each of the two loops stops if and only if none of its iterations
starts with the cursor at the front on a frame header with length byte 250. -/
theorem receiveLoops_terminate_iff (rxBuffer : RxBuffer) (rxIndex : Nat) :
    (incomingLoop.Terminates (loopStart rxBuffer rxIndex) ↔
      ∀ s, incomingLoop.Reaches (loopStart rxBuffer rxIndex) s → ¬ s.Stalled) ∧
    (addressLoop.Terminates (loopStart rxBuffer rxIndex) ↔
      ∀ s, addressLoop.Reaches (loopStart rxBuffer rxIndex) s → ¬ s.Stalled) :=
  ⟨receiveLoop_terminates_iff deliver_stepsOver _,
    receiveLoop_terminates_iff detectAddress_stepsOver _⟩

/-- A frame with the documented maximum of 250 payload bytes: both loops run forever. -/
theorem receiveLoops_hang_on_250_bytes :
    let rxBuffer := rxFill (Vector.replicate 512 0) 0 [0x80, 0x81, 0x7F, 0xE5, 250]
    ¬ incomingLoop.Terminates (loopStart rxBuffer 256) ∧
      ¬ addressLoop.Terminates (loopStart rxBuffer 256) := by
  intro rxBuffer
  have hstalled : ∀ ω, (loopStart rxBuffer 256 : RxLoop ω).Stalled := by
    intro ω
    refine ⟨rfl, by simp [loopStart], ⟨?_, ?_⟩, ?_⟩ <;>
      simp [RxLoop.headerLen, RxLoop.headerByte, loopStart, rxBuffer, rxByte_fill]
  exact ⟨fun h => (receiveLoop_terminates_iff deliver_stepsOver _).mp h _ (.refl _) (hstalled _),
    fun h => (receiveLoop_terminates_iff detectAddress_stepsOver _).mp h _ (.refl _) (hstalled _)⟩

end AogTaskController.Udp
