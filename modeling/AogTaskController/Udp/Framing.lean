import AogTaskController.Udp.Termination

/-!
# Framing

Where the two receive loops cut the bytes into frames. The loop for addresses has a condition that
moves the cursor while it is evaluated, and does not take that back when the condition fails. Both
take away as many bytes as the cursor says, and the cursor is not reset between two frames.
-/

namespace AogTaskController.Udp

open Framework

variable {ω : Type}

/-- A recognised frame header, its place as the loop counts it (the bytes taken out before it, and the
cursor), and how many bytes are gone from the buffer after the iteration. -/
structure CutFrame where
  offset : Nat
  src : UInt8
  pgn : UInt8
  len : UInt8
  consumed : Nat
  deriving DecidableEq

section Loops

variable (onFrame : RxLoop ω → UInt8 → UInt8 → UInt8 → RxLoop ω)

/-- The bytes that an iteration takes out of the buffer. -/
def taken (s : RxLoop ω) : Nat := s.rxIndex - (RxLoop.iteration onFrame s).rxIndex

def countingLoop : WhileLoop (RxLoop ω × Nat) where
  guard x := (receiveLoop onFrame).guard x.1
  body x := (RxLoop.iteration onFrame x.1, x.2 + taken onFrame x.1)

def cutFrame (x : RxLoop ω × Nat) : CutFrame where
  offset := x.2 + x.1.index.toNat
  src := x.1.headerSrc
  pgn := x.1.headerPgn
  len := x.1.headerLen
  consumed := taken onFrame x.1

def cutFrames (x : RxLoop ω × Nat) : List CutFrame :=
  if x.1.AtFrame then [cutFrame onFrame x] else []

def CutsInto (rxBuffer : RxBuffer) (rxIndex : Nat) (frames : List CutFrame) : Prop :=
  (countingLoop onFrame).Observes (cutFrames onFrame) (loopStart rxBuffer rxIndex, 0) frames

variable {onFrame}

private theorem observes_of_not_guard {x : RxLoop ω × Nat} (h : x.1.rxIndex < 8)
    (frames : List CutFrame) :
    (countingLoop onFrame).Observes (cutFrames onFrame) x frames ↔ frames = [] :=
  WhileLoop.observes_iff_of_not_guard (decide_eq_false (Nat.not_le_of_lt h))

private theorem observes_of_not_atFrame {x : RxLoop ω × Nat} (hr : 8 ≤ x.1.rxIndex)
    (h : ¬ x.1.AtFrame) (frames : List CutFrame) :
    (countingLoop onFrame).Observes (cutFrames onFrame) x frames ↔ frames = [] := by
  have hempty : ((countingLoop onFrame).body x).1.rxIndex < 8 := by
    show (RxLoop.iteration onFrame x.1).rxIndex < 8
    rw [RxLoop.iteration_of_not_atFrame h]
    exact Nat.zero_lt_succ 7
  rw [WhileLoop.observes_iff_body (decide_eq_true hr)]
  simp only [cutFrames, if_neg h, List.nil_append, observes_of_not_guard hempty]
  simp

private theorem observes_of_atFrame {x : RxLoop ω × Nat} (hr : 8 ≤ x.1.rxIndex) (h : x.1.AtFrame)
    (frames : List CutFrame) :
    (countingLoop onFrame).Observes (cutFrames onFrame) x frames ↔
      ∃ rest, frames = cutFrame onFrame x :: rest ∧
        (countingLoop onFrame).Observes (cutFrames onFrame) ((countingLoop onFrame).body x) rest := by
  rw [WhileLoop.observes_iff_body (decide_eq_true hr), cutFrames, if_pos h]
  rfl

end Loops

/-- How many bytes behind the frame the cursor of the loop for addresses comes to stand: the two
magic bytes of a subnet message are stepped over as far as they are read. -/
def overshoot (header : UInt8 → UInt8) : Nat :=
  if header 2 = 0x7F ∧ header 3 = 0xC9 ∧ header 4 = 5 then
    if header 5 = 0xC9 then if header 6 = 0xC9 then 0 else 2 else 1
  else 0

private theorem overshoot_le (header : UInt8 → UInt8) : overshoot header ≤ 2 := by
  unfold overshoot
  split
  · split
    · split <;> omega
    · omega
  · omega

private theorem overshoot_eq_zero {header : UInt8 → UInt8} (h : header 4 ≠ 5) :
    overshoot header = 0 :=
  if_neg fun hhead => h hhead.2.2

namespace RxLoop

def SameBytes {ω' : Type} (s : RxLoop ω) (t : RxLoop ω') : Prop :=
  s.rxBuffer = t.rxBuffer ∧ s.rxIndex = t.rxIndex ∧ s.index = t.index

theorem SameBytes.headerByte {ω' : Type} {s : RxLoop ω} {t : RxLoop ω'} (h : s.SameBytes t) :
    s.headerByte = t.headerByte := by
  obtain ⟨hbuffer, _, hindex⟩ := h
  funext k
  rw [RxLoop.headerByte, RxLoop.headerByte, hbuffer, hindex]

private theorem SameBytes.atFrame_iff {ω' : Type} {s : RxLoop ω} {t : RxLoop ω'}
    (h : s.SameBytes t) :
    s.AtFrame ↔ t.AtFrame := by
  rw [RxLoop.AtFrame, RxLoop.AtFrame, h.headerByte]

theorem SameBytes.compact {ω' : Type} {s : RxLoop ω} {t : RxLoop ω'} (h : s.SameBytes t) :
    s.compact.SameBytes t.compact := by
  obtain ⟨rxBuffer, rxIndex, index, _⟩ := s
  obtain ⟨rxBuffer', rxIndex', index', _⟩ := t
  obtain ⟨hbuffer, hrx, hindex⟩ := h
  simp only at hbuffer hrx hindex
  subst hbuffer hrx hindex
  unfold RxLoop.compact
  split
  · exact ⟨rfl, rfl, rfl⟩
  · exact ⟨rfl, rfl, rfl⟩

def nextIndex (s : RxLoop ω) (beyond : Nat) : UInt8 :=
  s.index + (s.headerLen + 6) + UInt8.ofNat beyond

end RxLoop

private theorem iteration_deliver {s : RxLoop Packet} (h : s.AtFrame) :
    RxLoop.iteration deliver s = RxLoop.compact
      ⟨s.rxBuffer, s.rxIndex, s.nextIndex 0, (deliver s.behindHeader s.headerSrc s.headerPgn
        s.headerLen).emitted⟩ := by
  have hindex : s.index + 5 + (s.headerLen + 1) = s.nextIndex 0 := by
    rw [RxLoop.nextIndex, UInt8.add_assoc, UInt8.add_comm 5, UInt8.add_assoc]
    simp
  rw [RxLoop.iteration_of_atFrame h, ← hindex]
  rfl

private theorem iteration_detectAddress {s : RxLoop Subnet} (h : s.AtFrame) :
    RxLoop.iteration detectAddress s = RxLoop.compact
      ⟨s.rxBuffer, s.rxIndex, s.nextIndex (overshoot s.headerByte),
        (detectAddress s.behindHeader s.headerSrc s.headerPgn s.headerLen).emitted⟩ := by
  obtain ⟨hbuffer, hrx, _⟩ :=
    detectAddress_stepsOver s.behindHeader s.headerSrc s.headerPgn s.headerLen
  have hindex : (detectAddress s.behindHeader s.headerSrc s.headerPgn s.headerLen).index =
      s.nextIndex (overshoot s.headerByte) := by
    have hfirst : s.behindHeader.current = s.headerByte 5 := rfl
    have hsecond : s.behindHeader.advance.current = s.headerByte 6 := by
      rw [RxLoop.current, RxLoop.headerByte, RxLoop.advance_index, RxLoop.behindHeader_index,
        UInt8.add_assoc]
      rfl
    have hplain : s.index + 5 + (s.headerLen + 1) = s.index + (s.headerLen + 6) := by
      rw [UInt8.add_assoc, UInt8.add_comm 5, UInt8.add_assoc]
      rfl
    by_cases hhead : s.headerSrc = 0x7F ∧ s.headerPgn = 0xC9 ∧ s.headerLen = 5
    · have hhead' : s.headerByte 2 = 0x7F ∧ s.headerByte 3 = 0xC9 ∧ s.headerByte 4 = 5 := hhead
      rw [RxLoop.nextIndex, overshoot, if_pos hhead', ← hfirst, ← hsecond]
      by_cases h5 : s.behindHeader.current = 0xC9
      · by_cases h6 : s.behindHeader.advance.current = 0xC9
        · simp [detectAddress, subnetMagic, hhead, h5, h6, UInt8.add_assoc]
        · simp [detectAddress, subnetMagic, hhead, h5, h6, UInt8.add_assoc]
      · simp [detectAddress, subnetMagic, hhead, h5, UInt8.add_assoc]
    · have hhead' : ¬ (s.headerByte 2 = 0x7F ∧ s.headerByte 3 = 0xC9 ∧ s.headerByte 4 = 5) := hhead
      rw [RxLoop.nextIndex, overshoot, if_neg hhead', ← hplain]
      simp [detectAddress, subnetMagic, hhead]
  have hbuffer' : s.rxBuffer = _ := hbuffer.symm
  have hrx' : s.rxIndex = _ := hrx.symm
  rw [RxLoop.iteration_of_atFrame h, ← hindex, hbuffer', hrx']

private theorem nextIndex_toNat (s : RxLoop ω) (beyond : Nat) :
    (s.nextIndex beyond).toNat = (s.index.toNat + (s.headerLen.toNat + 6) + beyond) % 256 := by
  simp [RxLoop.nextIndex]

private theorem deliver_rxIndex {s : RxLoop Packet} (h : s.AtFrame) :
    (RxLoop.iteration deliver s).rxIndex = s.rxIndex - (s.nextIndex 0).toNat := by
  rw [iteration_deliver h, RxLoop.compact_rxIndex]

private theorem detectAddress_rxIndex {s : RxLoop Subnet} (h : s.AtFrame) :
    (RxLoop.iteration detectAddress s).rxIndex =
      s.rxIndex - (s.nextIndex (overshoot s.headerByte)).toNat := by
  rw [iteration_detectAddress h, RxLoop.compact_rxIndex]

private theorem taken_deliver {s : RxLoop Packet} (h : s.AtFrame) :
    taken deliver s = min (s.nextIndex 0).toNat s.rxIndex := by
  rw [taken, deliver_rxIndex h]
  omega

private theorem taken_detectAddress {s : RxLoop Subnet} (h : s.AtFrame) :
    taken detectAddress s = min (s.nextIndex (overshoot s.headerByte)).toNat s.rxIndex := by
  rw [taken, detectAddress_rxIndex h]
  omega

def CutAlike (x : RxLoop Packet × Nat) (y : RxLoop Subnet × Nat) : Prop :=
  ∃ frames, (countingLoop deliver).Observes (cutFrames deliver) x frames ∧
    (countingLoop detectAddress).Observes (cutFrames detectAddress) y frames ∧
    ∀ frame ∈ frames, frame.consumed = frame.len.toNat + 6

section Alike

variable {x : RxLoop Packet × Nat} {y : RxLoop Subnet × Nat}

private theorem cutAlike_of_few (h : x.1.rxIndex < 8) (h' : y.1.rxIndex < 8) : CutAlike x y :=
  ⟨[], (observes_of_not_guard h _).mpr rfl, (observes_of_not_guard h' _).mpr rfl,
    fun _ hframe => absurd hframe List.not_mem_nil⟩

private theorem cutAlike_of_no_frame (hsame : x.1.SameBytes y.1)
    (h : ¬ (8 ≤ x.1.rxIndex ∧ x.1.AtFrame)) :
    CutAlike x y := by
  refine ⟨[], ?_, ?_, fun frame hframe => absurd hframe List.not_mem_nil⟩
  · by_cases hr : 8 ≤ x.1.rxIndex
    · exact (observes_of_not_atFrame hr (fun hframe => h ⟨hr, hframe⟩) _).mpr rfl
    · exact (observes_of_not_guard (Nat.lt_of_not_le hr) _).mpr rfl
  · rw [hsame.atFrame_iff, hsame.2.1] at h
    by_cases hr : 8 ≤ y.1.rxIndex
    · exact (observes_of_not_atFrame hr (fun hframe => h ⟨hr, hframe⟩) _).mpr rfl
    · exact (observes_of_not_guard (Nat.lt_of_not_le hr) _).mpr rfl

private theorem cutAlike_iff_of_frame (hsame : x.1.SameBytes y.1) (hoffset : x.2 = y.2)
    (hr : 8 ≤ x.1.rxIndex) (hframe : x.1.AtFrame) :
    CutAlike x y ↔
      (taken deliver x.1 = x.1.headerLen.toNat + 6 ∧
        taken detectAddress y.1 = x.1.headerLen.toNat + 6) ∧
      CutAlike ((countingLoop deliver).body x) ((countingLoop detectAddress).body y) := by
  have hr' : 8 ≤ y.1.rxIndex := hsame.2.1 ▸ hr
  have hframe' : y.1.AtFrame := hsame.atFrame_iff.mp hframe
  have hlen : y.1.headerLen = x.1.headerLen := congrFun hsame.headerByte.symm 4
  simp only [CutAlike, observes_of_atFrame hr hframe, observes_of_atFrame hr' hframe']
  constructor
  · intro h
    obtain ⟨_, ⟨rest, rfl, hrest⟩, ⟨rest', heq, hrest'⟩, hall⟩ := h
    obtain ⟨hcut, rfl⟩ := List.cons.inj heq
    have hfirst := hall _ List.mem_cons_self
    have hsecond := hfirst
    rw [hcut] at hsecond
    exact ⟨⟨hfirst, hlen ▸ hsecond⟩, rest, hrest, hrest',
      fun frame hmem => hall frame (List.mem_cons_of_mem _ hmem)⟩
  · intro h
    obtain ⟨⟨hfirst, hsecond⟩, rest, hrest, hrest', hall⟩ := h
    have hcut : cutFrame deliver x = cutFrame detectAddress y := by
      simp only [cutFrame, hfirst, hsecond, hoffset, hsame.2.2, RxLoop.headerSrc, RxLoop.headerPgn,
        RxLoop.headerLen, hsame.headerByte]
    refine ⟨_, ⟨rest, rfl, hrest⟩, ⟨rest, congrArg (· :: rest) hcut, hrest'⟩, ?_⟩
    exact List.forall_mem_cons.mpr ⟨hfirst, hall⟩

end Alike

def firstHeader (rxBuffer : RxBuffer) (k : UInt8) : UInt8 := rxByte rxBuffer k.toNat

/-- The header byte `k` at the cursor behind a first frame, once the bytes behind that frame have
moved to the front. -/
def secondHeader (rxBuffer : RxBuffer) (rxIndex : Nat) (k : UInt8) : UInt8 :=
  let cursor := firstHeader rxBuffer 4 + 6
  let place := (cursor + k).toNat
  if place < rxIndex - cursor.toNat then rxByte rxBuffer (place + cursor.toNat)
  else rxByte rxBuffer place

/-- A frame at the front is shorter than 256 bytes and whole, and has nothing behind it where the
loop for addresses goes too far; a frame found next ends where the bytes end, before the 8-bit
cursor wraps. -/
def CutsCleanly (rxBuffer : RxBuffer) (rxIndex : Nat) : Prop :=
  let first := firstHeader rxBuffer
  let second := secondHeader rxBuffer rxIndex
  let size := (first 4).toNat + 6
  8 ≤ rxIndex → first 0 = 0x80 ∧ first 1 = 0x81 →
    (size < 256 ∧ size ≤ rxIndex ∧ (overshoot first = 0 ∨ rxIndex = size)) ∧
    (8 ≤ rxIndex - size → second 0 = 0x80 ∧ second 1 = 0x81 →
      rxIndex = size + ((second 4).toNat + 6) ∧ rxIndex + overshoot second < 256)

private theorem loopStart_headerByte (rxBuffer : RxBuffer) (rxIndex : Nat) :
    (loopStart rxBuffer rxIndex : RxLoop ω).headerByte = firstHeader rxBuffer := by
  funext k
  simp [RxLoop.headerByte, loopStart, firstHeader]

private theorem compact_headerByte {rxBuffer : RxBuffer} {rxIndex : Nat} {cursor : UInt8}
    (hcursor : cursor = firstHeader rxBuffer 4 + 6) (emitted : List ω) :
    (RxLoop.compact ⟨rxBuffer, rxIndex, cursor, emitted⟩).headerByte =
      secondHeader rxBuffer rxIndex := by
  funext k
  rw [RxLoop.headerByte, RxLoop.compact_index, secondHeader, ← hcursor]
  have hplace : (cursor + k).toNat < 512 := by
    have hlt := (cursor + k).toNat_lt
    omega
  unfold RxLoop.compact
  split
  · rw [rxByte_memmove hplace]
  · rw [if_neg (by simp only at *; omega)]

private theorem first_taken_iff (size : Nat) {beyond rxIndex : Nat} (hrx : 8 ≤ rxIndex)
    (hsize : 6 ≤ size ∧ size < 262) (hbeyond : beyond ≤ 2) (hfive : beyond ≠ 0 → size = 11) :
    (min ((0 + size + 0) % 256) rxIndex = size ∧ min ((0 + size + beyond) % 256) rxIndex = size) ↔
      size < 256 ∧ size ≤ rxIndex ∧ (beyond = 0 ∨ rxIndex = size) := by
  omega

private theorem second_taken_iff (size : Nat) {cursor beyond left : Nat} (hcursor : 6 ≤ cursor)
    (hwrap : cursor < 256) (hleft : 8 ≤ left) (hsize : 6 ≤ size ∧ size < 262)
    (hbeyond : beyond ≤ 2) :
    (min ((cursor + size + 0) % 256) left = size ∧
      min ((cursor + size + beyond) % 256) left = size) ↔
      left = size ∧ cursor + left + beyond < 256 := by
  omega

private theorem cutAlike_iff_behind {x : RxLoop Packet × Nat} {y : RxLoop Subnet × Nat}
    (hsame : x.1.SameBytes y.1) (hoffset : x.2 = y.2) (hcursor : 6 ≤ x.1.index.toNat) :
    CutAlike x y ↔ (8 ≤ x.1.rxIndex → x.1.AtFrame →
      x.1.rxIndex = x.1.headerLen.toNat + 6 ∧
        x.1.index.toNat + x.1.rxIndex + overshoot x.1.headerByte < 256) := by
  by_cases hframe : 8 ≤ x.1.rxIndex ∧ x.1.AtFrame
  · obtain ⟨hr, hat⟩ := hframe
    have hat' : y.1.AtFrame := hsame.atFrame_iff.mp hat
    have hlen := x.1.headerLen.toNat_lt
    have hlen' : y.1.headerLen = x.1.headerLen := congrFun hsame.headerByte.symm 4
    have hindex := x.1.index.toNat_lt
    have htaken := second_taken_iff (x.1.headerLen.toNat + 6) hcursor hindex hr
      (by omega) (overshoot_le x.1.headerByte)
    rw [cutAlike_iff_of_frame hsame hoffset hr hat, taken_deliver hat, taken_detectAddress hat',
      nextIndex_toNat, nextIndex_toNat, hlen', ← hsame.2.1, ← hsame.2.2, ← hsame.headerByte, htaken]
    constructor
    · intro h _ _
      exact h.1
    · intro h
      obtain ⟨hleft, hwrap⟩ := h hr hat
      refine ⟨⟨hleft, hwrap⟩, cutAlike_of_few ?_ ?_⟩
      · show (RxLoop.iteration deliver x.1).rxIndex < 8
        rw [deliver_rxIndex hat, nextIndex_toNat]
        omega
      · show (RxLoop.iteration detectAddress y.1).rxIndex < 8
        rw [detectAddress_rxIndex hat', nextIndex_toNat, hlen', ← hsame.2.1, ← hsame.2.2,
          ← hsame.headerByte]
        omega
  · exact iff_of_true (cutAlike_of_no_frame hsame hframe) fun hr hat => absurd ⟨hr, hat⟩ hframe

section FromFront

variable {rxBuffer : RxBuffer} {rxIndex : Nat}

private theorem size_of_overshoot {header : UInt8 → UInt8} (h : overshoot header ≠ 0) :
    (header 4).toNat + 6 = 11 := by
  have h5 : header 4 = 5 := Decidable.byContradiction fun h5 => h (overshoot_eq_zero h5)
  rw [h5]
  rfl

/-- The first frame is all there is. -/
private theorem cutAlike_of_exact (hat : (loopStart rxBuffer rxIndex : RxLoop Packet).AtFrame)
    (hat' : (loopStart rxBuffer rxIndex : RxLoop Subnet).AtFrame)
    (hsmall : (firstHeader rxBuffer 4).toNat + 6 < 256)
    (hexact : rxIndex = (firstHeader rxBuffer 4).toNat + 6) :
    CutAlike ((countingLoop deliver).body (loopStart rxBuffer rxIndex, 0))
      ((countingLoop detectAddress).body (loopStart rxBuffer rxIndex, 0)) := by
  have hfive := @size_of_overshoot (firstHeader rxBuffer)
  have hbeyond := overshoot_le (firstHeader rxBuffer)
  apply cutAlike_of_few
  · show (RxLoop.iteration deliver _).rxIndex < 8
    rw [deliver_rxIndex hat, nextIndex_toNat, RxLoop.headerLen, loopStart_headerByte]
    simp only [loopStart, UInt8.toNat_zero]
    omega
  · show (RxLoop.iteration detectAddress _).rxIndex < 8
    rw [detectAddress_rxIndex hat', nextIndex_toNat, RxLoop.headerLen, loopStart_headerByte]
    simp only [loopStart, UInt8.toNat_zero]
    omega

/-- Behind a first frame that both loops step over alike. -/
private theorem cutAlike_behind_first (hat : (loopStart rxBuffer rxIndex : RxLoop Packet).AtFrame)
    (hat' : (loopStart rxBuffer rxIndex : RxLoop Subnet).AtFrame)
    (hsmall : (firstHeader rxBuffer 4).toNat + 6 < 256)
    (hinside : (firstHeader rxBuffer 4).toNat + 6 ≤ rxIndex)
    (hzero : overshoot (firstHeader rxBuffer) = 0) :
    CutAlike ((countingLoop deliver).body (loopStart rxBuffer rxIndex, 0))
        ((countingLoop detectAddress).body (loopStart rxBuffer rxIndex, 0)) ↔
      (8 ≤ rxIndex - ((firstHeader rxBuffer 4).toNat + 6) →
        secondHeader rxBuffer rxIndex 0 = 0x80 ∧ secondHeader rxBuffer rxIndex 1 = 0x81 →
        rxIndex = (firstHeader rxBuffer 4).toNat + 6 +
            ((secondHeader rxBuffer rxIndex 4).toNat + 6) ∧
          rxIndex + overshoot (secondHeader rxBuffer rxIndex) < 256) := by
  have hcursor : (firstHeader rxBuffer 4 + 6).toNat = (firstHeader rxBuffer 4).toNat + 6 := by
    rw [UInt8.toNat_add]
    exact Nat.mod_eq_of_lt hsmall
  have hnext : (loopStart rxBuffer rxIndex : RxLoop Packet).nextIndex 0 =
      firstHeader rxBuffer 4 + 6 := by
    rw [RxLoop.nextIndex, RxLoop.headerLen, loopStart_headerByte]
    simp [loopStart]
  have hsame : (RxLoop.iteration deliver (loopStart rxBuffer rxIndex)).SameBytes
      (RxLoop.iteration detectAddress (loopStart rxBuffer rxIndex)) := by
    rw [iteration_deliver hat, iteration_detectAddress hat', loopStart_headerByte, hzero]
    exact RxLoop.SameBytes.compact ⟨rfl, rfl, rfl⟩
  have hoffset : taken deliver (loopStart rxBuffer rxIndex) =
      taken detectAddress (loopStart rxBuffer rxIndex) := by
    rw [taken, taken, hsame.2.1]
    rfl
  have hindex : (RxLoop.iteration deliver (loopStart rxBuffer rxIndex)).index =
      firstHeader rxBuffer 4 + 6 := by
    rw [iteration_deliver hat, RxLoop.compact_index, hnext]
  have hsecond : (RxLoop.iteration deliver (loopStart rxBuffer rxIndex)).headerByte =
      secondHeader rxBuffer rxIndex := by
    rw [iteration_deliver hat]
    exact compact_headerByte hnext _
  have hleft : (RxLoop.iteration deliver (loopStart rxBuffer rxIndex)).rxIndex =
      rxIndex - ((firstHeader rxBuffer 4).toNat + 6) := by
    rw [deliver_rxIndex hat, hnext, hcursor]
    rfl
  have hcut := cutAlike_iff_behind
    (x := (RxLoop.iteration deliver (loopStart rxBuffer rxIndex), 0 + taken deliver _))
    (y := (RxLoop.iteration detectAddress (loopStart rxBuffer rxIndex), 0 + taken _ _))
    hsame (congrArg (0 + ·) hoffset) (by simp only [hindex]; omega)
  simp only [RxLoop.AtFrame, RxLoop.headerLen, hsecond, hleft, hindex, hcursor] at hcut
  refine hcut.trans (forall₂_congr fun _ _ => ?_)
  omega

/-- For every buffer content: both loops stop, recognise the same headers and take the same number of
bytes for each frame, as its header says, if and only if the bytes at the front and those that come
to stand at the cursor behind them are cut cleanly. -/
theorem receiveLoops_cutAlike_iff (rxBuffer : RxBuffer) (rxIndex : Nat) :
    (∃ frames, CutsInto deliver rxBuffer rxIndex frames ∧
      CutsInto detectAddress rxBuffer rxIndex frames ∧
      ∀ frame ∈ frames, frame.consumed = frame.len.toNat + 6) ↔ CutsCleanly rxBuffer rxIndex := by
  change CutAlike (loopStart rxBuffer rxIndex, 0) (loopStart rxBuffer rxIndex, 0) ↔ _
  have hheader := loopStart_headerByte (ω := Packet) rxBuffer rxIndex
  have hheader' := loopStart_headerByte (ω := Subnet) rxBuffer rxIndex
  by_cases hframe : 8 ≤ rxIndex ∧ (loopStart rxBuffer rxIndex : RxLoop Packet).AtFrame
  · obtain ⟨hr, hat⟩ := hframe
    have hstart : firstHeader rxBuffer 0 = 0x80 ∧ firstHeader rxBuffer 1 = 0x81 := by
      rwa [RxLoop.AtFrame, hheader] at hat
    have hat' : (loopStart rxBuffer rxIndex : RxLoop Subnet).AtFrame := by
      rwa [RxLoop.AtFrame, hheader']
    have hlen := (firstHeader rxBuffer 4).toNat_lt
    have htaken := first_taken_iff ((firstHeader rxBuffer 4).toNat + 6) hr (by omega)
      (overshoot_le (firstHeader rxBuffer)) size_of_overshoot
    have hfirst := cutAlike_iff_of_frame (x := (loopStart rxBuffer rxIndex, 0))
      (y := (loopStart rxBuffer rxIndex, 0)) ⟨rfl, rfl, rfl⟩ rfl hr hat
    rw [taken_deliver hat, taken_detectAddress hat', nextIndex_toNat, nextIndex_toNat,
      RxLoop.headerLen, RxLoop.headerLen, hheader, hheader'] at hfirst
    rw [hfirst]
    constructor
    · intro h _ _
      refine ⟨htaken.mp h.1, ?_⟩
      obtain ⟨hsmall, hinside, hover⟩ := htaken.mp h.1
      cases hover with
      | inl hzero => exact (cutAlike_behind_first hat hat' hsmall hinside hzero).mp h.2
      | inr hexact => exact fun hmore => absurd hmore (by omega)
    · intro h
      obtain ⟨⟨hsmall, hinside, hover⟩, hrest⟩ := h hr hstart
      refine ⟨htaken.mpr ⟨hsmall, hinside, hover⟩, ?_⟩
      cases hover with
      | inl hzero => exact (cutAlike_behind_first hat hat' hsmall hinside hzero).mpr hrest
      | inr hexact => exact cutAlike_of_exact hat hat' hsmall hexact
  · refine iff_of_true (cutAlike_of_no_frame ⟨rfl, rfl, rfl⟩ hframe) fun hr hstart => ?_
    rw [RxLoop.AtFrame, hheader] at hframe
    exact absurd ⟨hr, hstart⟩ hframe

end FromFront

def bufferOf (bytes : List UInt8) : RxBuffer := rxFill (Vector.replicate 512 0) 0 bytes

/-- A subnet message with a wrong first magic byte, and a hello behind it. -/
def spoiltSubnet : List UInt8 :=
  [0x80, 0x81, 0x7F, 0xC9, 5, 0, 0xC9, 192, 168, 1, 0,
    0x80, 0x81, 0x7F, 0xC8, 3, 0x56, 0, 0, 0xA0]

/-- The loop for addresses takes a byte of the hello along, the other loop cuts both frames. -/
theorem spoiltSubnet_cut_differently : ¬ ∀ rxBuffer rxIndex,
    incomingLoop.Terminates (loopStart rxBuffer rxIndex) →
    addressLoop.Terminates (loopStart rxBuffer rxIndex) →
    ∃ frames, CutsInto deliver rxBuffer rxIndex frames ∧
      CutsInto detectAddress rxBuffer rxIndex frames ∧
      ∀ frame ∈ frames, frame.consumed = frame.len.toNat + 6 := by
  intro h
  have hstop : incomingLoop.Terminates (loopStart (bufferOf spoiltSubnet) 20) :=
    ⟨_, .next rfl (.next (by decide +kernel) (.stop (by decide +kernel)))⟩
  have hstop' : addressLoop.Terminates (loopStart (bufferOf spoiltSubnet) 20) :=
    ⟨_, .next rfl (.next (by decide +kernel) (.stop (by decide +kernel)))⟩
  obtain ⟨frames, _, hframes, hlength⟩ := h _ _ hstop hstop'
  have hat : (loopStart (bufferOf spoiltSubnet) 20 : RxLoop Subnet).AtFrame := by decide +kernel
  obtain ⟨_, rfl, _⟩ := (observes_of_atFrame (x := (loopStart (bufferOf spoiltSubnet) 20, 0))
    (by decide) hat frames).mp hframes
  have hconsumed := hlength _ List.mem_cons_self
  revert hconsumed
  decide +kernel

end AogTaskController.Udp
