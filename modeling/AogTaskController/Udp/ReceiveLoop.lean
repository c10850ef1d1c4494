import AogTaskController.Framework.Loop

/-!
# The UDP receive loops

`handle_incoming_packets` and `handle_address_detection` append one datagram to a static buffer
and cut it into frames with an 8-bit cursor. The two loops differ only in what they do with a
recognised frame. The start word is read left to right.
-/

namespace AogTaskController.Udp

open Framework

/-- `std::array<std::uint8_t, 512> rxBuffer` -/
abbrev RxBuffer := Vector UInt8 512

def rxByte (rxBuffer : RxBuffer) (i : Nat) : UInt8 := rxBuffer[i]?.getD 0

def rxFill (rxBuffer : RxBuffer) (offset : Nat) (bytes : List UInt8) : RxBuffer :=
  Vector.ofFn fun j =>
    if offset ≤ j.val ∧ j.val < offset + bytes.length then bytes.getD (j.val - offset) 0
    else rxBuffer[j]

/-- `std::memmove(rxBuffer.data(), rxBuffer.data() + source, count)` -/
def rxMemmove (rxBuffer : RxBuffer) (source count : Nat) : RxBuffer :=
  Vector.ofFn fun j => if j.val < count then rxByte rxBuffer (j.val + source) else rxBuffer[j]

/-- `{ rxBuffer.data() + start, len }` -/
def rxSpan (rxBuffer : RxBuffer) (start len : Nat) : List UInt8 :=
  (List.range len).map fun t => rxByte rxBuffer (start + t)

theorem rxByte_fill {rxBuffer : RxBuffer} {offset : Nat} {bytes : List UInt8} {i : Nat}
    (hi : i < 512) :
    rxByte (rxFill rxBuffer offset bytes) i =
      if offset ≤ i ∧ i < offset + bytes.length then bytes.getD (i - offset) 0
      else rxByte rxBuffer i := by
  simp [rxByte, rxFill, hi]

theorem rxByte_memmove {rxBuffer : RxBuffer} {source count i : Nat} (hi : i < 512) :
    rxByte (rxMemmove rxBuffer source count) i =
      if i < count then rxByte rxBuffer (i + source) else rxByte rxBuffer i := by
  simp [rxByte, rxMemmove, hi]

theorem rxByte_of_le (rxBuffer : RxBuffer) {i : Nat} (hi : 512 ≤ i) : rxByte rxBuffer i = 0 := by
  simp [rxByte, hi]

private theorem rxByte_ext {b b' : RxBuffer} (h : ∀ i < 512, rxByte b i = rxByte b' i) :
    b = b' := by
  apply Vector.ext
  intro i hi
  simpa [rxByte, hi] using h i hi

theorem rxMemmove_zero (rxBuffer : RxBuffer) (count : Nat) :
    rxMemmove rxBuffer 0 count = rxBuffer :=
  rxByte_ext fun i hi => by simp [rxByte_memmove hi]

@[simp] theorem rxSpan_length (rxBuffer : RxBuffer) (start len : Nat) :
    (rxSpan rxBuffer start len).length = len := by
  simp [rxSpan]

theorem rxSpan_congr {b b' : RxBuffer} {start len : Nat}
    (h : ∀ t < len, rxByte b (start + t) = rxByte b' (start + t)) :
    rxSpan b start len = rxSpan b' start len := by
  apply List.map_congr_left
  intro t ht
  exact h t (List.mem_range.mp ht)

def packetStart : Nat := 0x8081

/-- The locals of a receive loop; `emitted` lists what it handed on, oldest first. -/
structure RxLoop (ω : Type) where
  rxBuffer : RxBuffer
  rxIndex : Nat
  index : UInt8
  emitted : List ω

namespace RxLoop

variable {ω : Type}

def current (s : RxLoop ω) : UInt8 := rxByte s.rxBuffer s.index.toNat

def advance (s : RxLoop ω) : RxLoop ω := { s with index := s.index + 1 }

@[simp] theorem advance_rxBuffer (s : RxLoop ω) : s.advance.rxBuffer = s.rxBuffer := rfl
@[simp] theorem advance_rxIndex (s : RxLoop ω) : s.advance.rxIndex = s.rxIndex := rfl
@[simp] theorem advance_index (s : RxLoop ω) : s.advance.index = s.index + 1 := rfl

/-- Move any remaining data to the front of the buffer. The cursor keeps its value. -/
def compact (s : RxLoop ω) : RxLoop ω :=
  if s.index.toNat < s.rxIndex then
    { s with
      rxBuffer := rxMemmove s.rxBuffer s.index.toNat (s.rxIndex - s.index.toNat)
      rxIndex := s.rxIndex - s.index.toNat }
  else { s with rxIndex := 0 }

/-- The body of both loops; `onFrame` receives the state behind the five header bytes. -/
def iteration (onFrame : RxLoop ω → UInt8 → UInt8 → UInt8 → RxLoop ω) (s : RxLoop ω) :
    RxLoop ω :=
  let high := s.current
  let s := s.advance
  let low := s.current
  let s := s.advance
  let s :=
    if high.toNat <<< 8 ||| low.toNat = packetStart then
      let src := s.current
      let s := s.advance
      let pgn := s.current
      let s := s.advance
      let len := s.current
      let s := s.advance
      -- the checksum byte is read from rxBuffer[index + len] and not compared
      onFrame s src pgn len
    else
      -- unknown start of message, reset buffer
      { s with rxIndex := 0 }
  s.compact

def headerByte (s : RxLoop ω) (k : UInt8) : UInt8 := rxByte s.rxBuffer (s.index + k).toNat

def AtFrame (s : RxLoop ω) : Prop := s.headerByte 0 = 0x80 ∧ s.headerByte 1 = 0x81

instance (s : RxLoop ω) : Decidable s.AtFrame := inferInstanceAs (Decidable (_ ∧ _))

def headerSrc (s : RxLoop ω) : UInt8 := s.headerByte 2
def headerPgn (s : RxLoop ω) : UInt8 := s.headerByte 3
def headerLen (s : RxLoop ω) : UInt8 := s.headerByte 4

def behindHeader (s : RxLoop ω) : RxLoop ω := { s with index := s.index + 5 }

@[simp] theorem behindHeader_rxBuffer (s : RxLoop ω) : s.behindHeader.rxBuffer = s.rxBuffer := rfl
@[simp] theorem behindHeader_rxIndex (s : RxLoop ω) : s.behindHeader.rxIndex = s.rxIndex := rfl
@[simp] theorem behindHeader_index (s : RxLoop ω) : s.behindHeader.index = s.index + 5 := rfl

private theorem start_eq_packetStart (high low : UInt8) :
    high.toNat <<< 8 ||| low.toNat = packetStart ↔ high = 0x80 ∧ low = 0x81 := by
  have hl := low.toNat_lt
  rw [← Nat.shiftLeft_add_eq_or_of_lt (by simpa using hl), Nat.shiftLeft_eq, packetStart,
    ← UInt8.toNat_inj, ← UInt8.toNat_inj]
  simp only [UInt8.reduceToNat]
  omega

theorem iteration_of_atFrame {onFrame : RxLoop ω → UInt8 → UInt8 → UInt8 → RxLoop ω}
    {s : RxLoop ω} (h : s.AtFrame) :
    iteration onFrame s =
      (onFrame s.behindHeader s.headerSrc s.headerPgn s.headerLen).compact := by
  have hstart : s.current.toNat <<< 8 ||| s.advance.current.toNat = packetStart := by
    rw [start_eq_packetStart]
    simpa [AtFrame, headerByte, current, advance] using h
  unfold iteration
  simp only [hstart, if_true]
  simp only [advance, current, UInt8.add_assoc]
  rfl

theorem iteration_of_not_atFrame {onFrame : RxLoop ω → UInt8 → UInt8 → UInt8 → RxLoop ω}
    {s : RxLoop ω} (h : ¬ s.AtFrame) :
    iteration onFrame s = { s with index := s.index + 2, rxIndex := 0 } := by
  have hstart : ¬ (s.current.toNat <<< 8 ||| s.advance.current.toNat = packetStart) := by
    rw [start_eq_packetStart]
    simpa [AtFrame, headerByte, current, advance] using h
  unfold iteration
  simp only [hstart, if_false, compact, Nat.not_lt_zero]
  simp only [advance, UInt8.add_assoc]
  rfl

end RxLoop

/-- One invocation of the packet callback, which `setup_udp_connections` installs before the
sockets are opened. -/
structure Packet where
  src : UInt8
  pgn : UInt8
  data : List UInt8
  deriving DecidableEq, Repr

/-- Hand the payload to the packet callback and step over payload and checksum. -/
def deliver (s : RxLoop Packet) (src pgn len : UInt8) : RxLoop Packet :=
  { s with
    emitted := s.emitted ++ [⟨src, pgn, rxSpan s.rxBuffer s.index.toNat len.toNat⟩]
    index := s.index + (len + 1) }

/-- The three octets that `set_subnet` receives before the connection is rebound. -/
structure Subnet where
  ip0 : UInt8
  ip1 : UInt8
  ip2 : UInt8
  deriving DecidableEq, Repr

/-- The condition of the subnet branch. Its last two conjuncts move the cursor, each only when
it is evaluated. -/
def subnetMagic (s : RxLoop Subnet) (src pgn len : UInt8) : Bool × RxLoop Subnet :=
  if src = 0x7F ∧ pgn = 0xC9 ∧ len = 5 then
    if s.current = 0xC9 then (s.advance.current == 0xC9, s.advance.advance)
    else (false, s.advance)
  else (false, s)

/-- Take over the subnet, or step over payload and checksum. -/
def detectAddress (s : RxLoop Subnet) (src pgn len : UInt8) : RxLoop Subnet :=
  let (isSubnet, s) := subnetMagic s src pgn len
  if isSubnet then
    let ip0 := s.current
    let s := s.advance
    let ip1 := s.current
    let s := s.advance
    let ip2 := s.current
    let s := s.advance
    { s with emitted := s.emitted ++ [⟨ip0, ip1, ip2⟩], index := s.index + (len - 4) }
  else { s with index := s.index + (len + 1) }

/-- `while (rxIndex >= 8)` -/
def receiveLoop {ω : Type} (onFrame : RxLoop ω → UInt8 → UInt8 → UInt8 → RxLoop ω) :
    WhileLoop (RxLoop ω) where
  guard s := 8 ≤ s.rxIndex
  body := RxLoop.iteration onFrame

def incomingLoop : WhileLoop (RxLoop Packet) := receiveLoop deliver

def addressLoop : WhileLoop (RxLoop Subnet) := receiveLoop detectAddress

@[simp] theorem receiveLoop_guard {ω : Type}
    {onFrame : RxLoop ω → UInt8 → UInt8 → UInt8 → RxLoop ω} {s : RxLoop ω} :
    (receiveLoop onFrame).guard s = decide (8 ≤ s.rxIndex) := rfl

@[simp] theorem receiveLoop_body {ω : Type}
    {onFrame : RxLoop ω → UInt8 → UInt8 → UInt8 → RxLoop ω} :
    (receiveLoop onFrame).body = RxLoop.iteration onFrame := rfl

/-- The two static variables that survive a call. -/
structure RxStatics where
  rxBuffer : RxBuffer
  rxIndex : Nat

inductive Received where
  | wouldBlock
  | error
  | datagram (bytes : List UInt8)

/-- The loop's first state: what fits of the datagram is appended to the residue. -/
def RxStatics.receive {ω : Type} (s : RxStatics) (bytes : List UInt8) : RxLoop ω where
  rxBuffer := rxFill s.rxBuffer s.rxIndex (bytes.take (512 - s.rxIndex))
  rxIndex := s.rxIndex + (bytes.take (512 - s.rxIndex)).length
  index := 0
  emitted := []

def RxLoop.statics {ω : Type} (s : RxLoop ω) : RxStatics := ⟨s.rxBuffer, s.rxIndex⟩

/-- One call around `loop`; `none` when the loop has not stopped after `fuel` iterations. -/
def handleCall {ω : Type} (loop : WhileLoop (RxLoop ω)) (fuel : Nat) (s : RxStatics) :
    Received → Option (RxStatics × List ω)
  | .wouldBlock => some (s, [])
  | .error => some (s, [])
  | .datagram bytes => (loop.run fuel (s.receive bytes)).map fun t => (t.statics, t.emitted)

def handleIncomingPackets := handleCall incomingLoop
def handleAddressDetection := handleCall addressLoop

/-- `handle_incoming_packets` returns, having invoked the packet callback for `packets`. -/
def IncomingReturns (s : RxStatics) (r : Received) (packets : List Packet) (s' : RxStatics) :
    Prop :=
  ∃ fuel, handleIncomingPackets fuel s r = some (s', packets)

theorem incomingReturns_datagram {s s' : RxStatics} {bytes : List UInt8} {packets : List Packet} :
    IncomingReturns s (.datagram bytes) packets s' ↔
      ∃ t, incomingLoop.Exits (s.receive bytes) t ∧ t.emitted = packets ∧ t.statics = s' := by
  simp only [IncomingReturns, handleIncomingPackets, handleCall, Option.map_eq_some_iff,
    WhileLoop.exits_iff_run, Prod.mk.injEq]
  constructor
  · intro h
    obtain ⟨fuel, t, hrun, hstatics, hemitted⟩ := h
    exact ⟨t, ⟨fuel, hrun⟩, hemitted, hstatics⟩
  · intro h
    obtain ⟨t, ⟨fuel, hrun⟩, hemitted, hstatics⟩ := h
    exact ⟨fuel, t, hrun, hstatics, hemitted⟩

end AogTaskController.Udp
