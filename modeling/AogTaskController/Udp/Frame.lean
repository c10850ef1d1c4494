import Mathlib
import AogTaskController.Udp.ReceiveLoop

/-!
# Frames built by `send`

The checksum loop counts with an 8-bit index; up to 252 payload bytes it stops and `send` hands
the socket one frame of payload length plus six bytes. The receive loops leave the checksum alone;
the test that is commented out there would find it right.
-/

namespace AogTaskController.Udp

open Framework

/-- `for (uint8_t i = 0; i < data.size(); i++) result += data[i];` -/
def crcLoop (data : List UInt8) : WhileLoop (UInt8 × Nat) where
  guard s := s.1.toNat < data.length
  body s := (s.1 + 1, s.2 + (data.getD s.1.toNat 0).toNat)

def calculateCrc (fuel : Nat) (data : List UInt8) : Option UInt8 :=
  ((crcLoop data).run fuel (0, 0)).map fun s => UInt8.ofNat (s.2 &&& 0xFF)

/-- The bytes that `send` hands to `send_to`; `none` while the checksum loop is still running. -/
def send (fuel : Nat) (src pgn : UInt8) (data : List UInt8) : Option (List UInt8) :=
  let txBuffer := [UInt8.ofNat (packetStart >>> 8), UInt8.ofNat (packetStart &&& 0xFF), src, pgn,
    UInt8.ofNat data.length] ++ data
  (calculateCrc fuel (txBuffer.drop 2)).map fun crc => txBuffer ++ [crc]

def Sends (src pgn : UInt8) (data frame : List UInt8) : Prop :=
  ∃ fuel, send fuel src pgn data = some frame

def byteSum (data : List UInt8) : Nat := (data.map UInt8.toNat).sum

/-- The documented frame: start word, source, PGN, length, payload, checksum. -/
def wireFrame (packet : Packet) : List UInt8 :=
  [0x80, 0x81, packet.src, packet.pgn, UInt8.ofNat packet.data.length] ++ packet.data ++
    [UInt8.ofNat (byteSum
      ([packet.src, packet.pgn, UInt8.ofNat packet.data.length] ++ packet.data) % 256)]

@[simp] theorem wireFrame_length (packet : Packet) :
    (wireFrame packet).length = packet.data.length + 6 := by
  simp [wireFrame]

private theorem byteSum_take_succ (data : List UInt8) {i : Nat} (hi : i < data.length) :
    byteSum (data.take (i + 1)) = byteSum (data.take i) + (data.getD i 0).toNat := by
  rw [List.getD_eq_getElem _ _ hi, ← List.take_append_getElem hi]
  simp only [byteSum, List.map_append, List.map_cons, List.map_nil, List.sum_append,
    List.sum_cons, List.sum_nil, Nat.add_zero]

private theorem crcLoop_exits_from (data : List UInt8) (hlen : data.length < 256) (i : Nat)
    (hi : i ≤ data.length) :
    (crcLoop data).Exits (UInt8.ofNat i, byteSum (data.take i))
      (UInt8.ofNat data.length, byteSum data) := by
  induction hrest : data.length - i generalizing i with
  | zero =>
      have heq : i = data.length := by omega
      subst heq
      rw [List.take_length]
      exact .stop (by simp [crcLoop, Nat.mod_eq_of_lt hlen])
  | succ rest ih =>
      have hlt : i < data.length := by omega
      have hmod : i % 256 = i := Nat.mod_eq_of_lt (by omega)
      have hnext := ih (i + 1) (by omega) (by omega)
      rw [byteSum_take_succ data hlt] at hnext
      refine .next (by simp [crcLoop, hmod, hlt]) ?_
      simpa [crcLoop, hmod] using hnext

private theorem crcLoop_exits (data : List UInt8) (hlen : data.length < 256) :
    (crcLoop data).Exits (0, 0) (UInt8.ofNat data.length, byteSum data) := by
  simpa [byteSum] using crcLoop_exits_from data hlen 0 (Nat.zero_le _)

private theorem calculateCrc_eq_some_iff (data : List UInt8) (hlen : data.length < 256)
    (crc : UInt8) :
    (∃ fuel, calculateCrc fuel data = some crc) ↔ crc = UInt8.ofNat (byteSum data % 256) := by
  have hexits := crcLoop_exits data hlen
  have hmask (n : Nat) : n &&& 0xFF = n % 256 := Nat.and_two_pow_sub_one_eq_mod n 8
  simp only [calculateCrc, Option.map_eq_some_iff, hmask]
  constructor
  · intro h
    obtain ⟨fuel, s, hrun, rfl⟩ := h
    rw [(WhileLoop.exits_iff_run.mpr ⟨fuel, hrun⟩).unique hexits]
  · rintro rfl
    obtain ⟨fuel, hrun⟩ := WhileLoop.exits_iff_run.mp hexits
    exact ⟨fuel, _, hrun, rfl⟩

theorem sends_iff (packet : Packet) (hlen : packet.data.length ≤ 252) (frame : List UInt8) :
    Sends packet.src packet.pgn packet.data frame ↔ frame = wireFrame packet := by
  have hcrc := calculateCrc_eq_some_iff
    ([packet.src, packet.pgn, UInt8.ofNat packet.data.length] ++ packet.data)
    (by simp only [List.length_append, List.length_cons, List.length_nil]; omega)
  simp only [Sends, send, Option.map_eq_some_iff]
  constructor
  · intro h
    obtain ⟨fuel, crc, hrun, rfl⟩ := h
    rw [(hcrc crc).mp ⟨fuel, hrun⟩]
    rfl
  · rintro rfl
    obtain ⟨fuel, hrun⟩ := (hcrc _).mpr rfl
    exact ⟨fuel, _, hrun, rfl⟩

private theorem rxSpan_eq_of_forall {rxBuffer : RxBuffer} {start : Nat} {bytes : List UInt8}
    (h : ∀ t < bytes.length, rxByte rxBuffer (start + t) = bytes.getD t 0) :
    rxSpan rxBuffer start bytes.length = bytes := by
  apply List.ext_getElem (rxSpan_length ..)
  intro t _ ht
  rw [← List.getD_eq_getElem bytes 0 ht, ← h t ht]
  simp [rxSpan]

namespace RxLoop

variable {ω : Type} {s : RxLoop ω} {frame : List UInt8}

structure Reads (s : RxLoop ω) (frame : List UInt8) : Prop where
  bytes : ∀ i < frame.length, rxByte s.rxBuffer (s.index.toNat + i) = frame.getD i 0
  header : s.index.toNat + 5 < 256

/-- The test of the checksum that is commented out in both loops; `none` while `calculate_crc` is
still running. -/
def checkCrc (fuel : Nat) (s : RxLoop ω) : Option Bool :=
  let index := s.behindHeader.index.toNat
  let len := s.headerLen.toNat
  let crc := rxByte s.rxBuffer (index + len)
  (calculateCrc fuel (rxSpan s.rxBuffer (index - 3) (len + 3))).map fun crcCalc => crc == crcCalc

/-- The test lets the frame at the cursor pass. -/
def CrcAccepted (s : RxLoop ω) : Prop := ∃ fuel, s.checkCrc fuel = some true

namespace Reads

theorem headerByte (h : s.Reads frame) {k : UInt8} (hk : k.toNat ≤ 5)
    (hframe : k.toNat < frame.length) : s.headerByte k = frame.getD k.toNat 0 := by
  have hwrap := h.header
  rw [← h.bytes _ hframe, RxLoop.headerByte, UInt8.toNat_add, Nat.mod_eq_of_lt (by omega)]

theorem behindHeader (h : s.Reads frame) : s.behindHeader.index.toNat = s.index.toNat + 5 := by
  rw [behindHeader_index, UInt8.toNat_add]
  exact Nat.mod_eq_of_lt h.header

theorem span (h : s.Reads frame) (start : Nat) {bytes : List UInt8}
    (hbytes : bytes <+: frame.drop start) :
    rxSpan s.rxBuffer (s.index.toNat + start) bytes.length = bytes := by
  obtain ⟨rest, hrest⟩ := hbytes
  have hlength := congrArg List.length hrest
  rw [List.length_append, List.length_drop] at hlength
  apply rxSpan_eq_of_forall
  intro t ht
  rw [Nat.add_assoc, h.bytes _ (by omega), List.getD_eq_getElem?_getD, ← List.getElem?_drop, ← hrest,
    List.getElem?_append_left ht, List.getD_eq_getElem?_getD]

end Reads

private theorem Reads.crcAccepted {packet : Packet} (h : s.Reads (wireFrame packet))
    (hlen : packet.data.length ≤ 252) : s.AtFrame ∧ s.CrcAccepted := by
  have hbyte {k : UInt8} (hk : k.toNat ≤ 5) : s.headerByte k = (wireFrame packet).getD k.toNat 0 :=
    h.headerByte hk (by rw [wireFrame_length]; omega)
  have hheaderLen : s.headerLen.toNat = packet.data.length := by
    have hfield : s.headerLen = UInt8.ofNat packet.data.length := hbyte (by decide)
    rw [hfield, UInt8.toNat_ofNat']
    exact Nat.mod_eq_of_lt (by omega)
  refine ⟨⟨hbyte (by decide), hbyte (by decide)⟩, ?_⟩
  obtain ⟨summed, hsummed⟩ : ∃ summed, summed =
      [packet.src, packet.pgn, UInt8.ofNat packet.data.length] ++ packet.data := ⟨_, rfl⟩
  have hlength : summed.length = packet.data.length + 3 := by
    rw [hsummed, List.length_append, List.length_cons, List.length_cons, List.length_singleton]
    omega
  have hframe : wireFrame packet =
      [0x80, 0x81] ++ (summed ++ [UInt8.ofNat (byteSum summed % 256)]) := by
    rw [hsummed, wireFrame]
    simp only [List.cons_append, List.nil_append]
  -- the receiver's span starts at the source and ends before the checksum, as the sender's does
  have hsummed : summed <+: (wireFrame packet).drop 2 := by
    rw [hframe]
    exact List.prefix_append ..
  have hspan := h.span 2 hsummed
  have hcrc := h.bytes (2 + summed.length) (by rw [wireFrame_length]; omega)
  obtain ⟨fuel, hrun⟩ := (calculateCrc_eq_some_iff summed (by omega) _).mpr rfl
  refine ⟨fuel, ?_⟩
  rw [checkCrc, h.behindHeader, hheaderLen, ← hlength,
    show s.index.toNat + 5 - 3 = s.index.toNat + 2 by omega, hspan, hrun, Option.map_some,
    show s.index.toNat + 5 + packet.data.length = s.index.toNat + (2 + summed.length) by omega, hcrc,
    hframe, List.getD_append_right _ _ _ _ (by simp)]
  simp

theorem reads_receive (rxBuffer : RxBuffer) (hframe : frame.length ≤ 512) :
    (RxStatics.receive ⟨rxBuffer, 0⟩ frame : RxLoop ω).Reads frame where
  bytes i hi := by
    rw [RxStatics.receive, Nat.sub_zero, List.take_of_length_le hframe]
    simp only [UInt8.toNat_zero, Nat.zero_add]
    rw [rxByte_fill (by omega), if_pos (by omega), Nat.sub_zero]
  header := by simp [RxStatics.receive]

end RxLoop

/-- Up to the documented maximum of payload bytes `send` stops and transmits the documented frame,
and a receive loop that reads this frame would find its checksum right. -/
theorem send_conforms (src pgn : UInt8) (data : List UInt8) (hlen : data.length ≤ 250) :
    (∀ frame, Sends src pgn data frame ↔
      frame = [0x80, 0x81, src, pgn, UInt8.ofNat data.length] ++ data ++
        [UInt8.ofNat (byteSum ([src, pgn, UInt8.ofNat data.length] ++ data) % 256)]) ∧
      (UInt8.ofNat data.length).toNat = data.length ∧
      ∀ frame, Sends src pgn data frame →
        frame.length = data.length + 6 ∧
        (∀ rxBuffer, (RxStatics.receive ⟨rxBuffer, 0⟩ frame : RxLoop Packet).Reads frame) ∧
        ∀ s : RxLoop Packet, s.Reads frame → s.AtFrame ∧ s.CrcAccepted := by
  have hshort : data.length ≤ 252 := by omega
  have hsends := sends_iff ⟨src, pgn, data⟩ hshort
  refine ⟨hsends, ?_, fun frame hframe => ?_⟩
  · rw [UInt8.toNat_ofNat']
    exact Nat.mod_eq_of_lt (by omega)
  · obtain rfl := (hsends frame).mp hframe
    have hlength := wireFrame_length ⟨src, pgn, data⟩
    simp only at hlength
    exact ⟨hlength, fun rxBuffer => RxLoop.reads_receive rxBuffer (by omega),
      fun s hs => hs.crcAccepted hshort⟩

/-- A hardware message without text. -/
theorem send_conforms_hardware_message :
    Sends 0x80 0xDD [5, 1] [0x80, 0x81, 0x80, 0xDD, 2, 5, 1, 101] := by
  have hsend := (send_conforms 0x80 0xDD [5, 1] (by decide)).1
  exact (hsend _).mpr (by decide)

end AogTaskController.Udp
