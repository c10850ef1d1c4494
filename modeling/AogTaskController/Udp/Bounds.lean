import AogTaskController.Udp.Termination

/-!
# Bounds of the receive buffer

The bodies of both receive loops once more, with a note of every use of the 512-byte buffer. The
cursor is a byte and is carried from one iteration to the next; whatever it and the length byte are,
nothing is used outside the buffer.
-/

namespace AogTaskController.Udp

open Framework

/-- A use of the buffer, or the subtraction that takes consumed bytes off `rxIndex`. -/
inductive Access
  | read (i : Nat)
  | span (start len : Nat)
  | memmove (source count : Nat)
  | subtract (rxIndex index : Nat)

def Access.Inside : Access → Prop
  | .read i => i < 512
  | .span start len => start + len ≤ 512
  | .memmove source count => source + count ≤ 512
  | .subtract rxIndex index => index ≤ rxIndex

/-- A loop state and the uses that the current iteration has made. -/
structure Traced (ω : Type) where
  state : RxLoop ω
  accesses : List Access := []

namespace Traced

variable {ω : Type}

def use (x : Traced ω) (access : Access) : Traced ω :=
  { x with accesses := x.accesses ++ [access] }

def next (x : Traced ω) : Traced ω :=
  { x.use (.read x.state.index.toNat) with state := x.state.advance }

def compact (x : Traced ω) : Traced ω :=
  let index := x.state.index.toNat
  let rxIndex := x.state.rxIndex
  let x' := if index < rxIndex then
      (x.use (.memmove index (rxIndex - index))).use (.subtract rxIndex index)
    else x
  { x' with state := x.state.compact }

@[simp] theorem use_state (x : Traced ω) (access : Access) : (x.use access).state = x.state := rfl
@[simp] theorem next_state (x : Traced ω) : x.next.state = x.state.advance := rfl
@[simp] theorem compact_state (x : Traced ω) : x.compact.state = x.state.compact := rfl

def iteration (onFrame : Traced ω → UInt8 → UInt8 → UInt8 → Traced ω) (s : RxLoop ω) : Traced ω :=
  let x : Traced ω := { state := s }
  let high := x.state.current
  let x := x.next
  let low := x.state.current
  let x := x.next
  let x :=
    if high.toNat <<< 8 ||| low.toNat = packetStart then
      let src := x.state.current
      let x := x.next
      let pgn := x.state.current
      let x := x.next
      let len := x.state.current
      let x := x.next
      -- `std::uint8_t crc = rxBuffer[index + len];`
      let x := x.use (.read (x.state.index.toNat + len.toNat))
      onFrame x src pgn len
    else
      { x with state := { x.state with rxIndex := 0 } }
  x.compact

end Traced

def deliverTraced (x : Traced Packet) (src pgn len : UInt8) : Traced Packet :=
  { x.use (.span x.state.index.toNat len.toNat) with state := deliver x.state src pgn len }

def subnetMagicTraced (x : Traced Subnet) (src pgn len : UInt8) : Bool × Traced Subnet :=
  if src = 0x7F ∧ pgn = 0xC9 ∧ len = 5 then
    if x.state.current = 0xC9 then (x.next.state.current == 0xC9, x.next.next)
    else (false, x.next)
  else (false, x)

def detectAddressTraced (x : Traced Subnet) (src pgn len : UInt8) : Traced Subnet :=
  let (isSubnet, x) := subnetMagicTraced x src pgn len
  if isSubnet then
    let ip0 := x.state.current
    let x := x.next
    let ip1 := x.state.current
    let x := x.next
    let ip2 := x.state.current
    let x := x.next
    { x with
      state :=
        { x.state with
          emitted := x.state.emitted ++ [⟨ip0, ip1, ip2⟩]
          index := x.state.index + (len - 4) } }
  else { x with state := { x.state with index := x.state.index + (len + 1) } }

section Erasure

variable {ω : Type} {traced : Traced ω → UInt8 → UInt8 → UInt8 → Traced ω}
    {onFrame : RxLoop ω → UInt8 → UInt8 → UInt8 → RxLoop ω}

def Erases (traced : Traced ω → UInt8 → UInt8 → UInt8 → Traced ω)
    (onFrame : RxLoop ω → UInt8 → UInt8 → UInt8 → RxLoop ω) : Prop :=
  ∀ x src pgn len, (traced x src pgn len).state = onFrame x.state src pgn len

private theorem deliverTraced_erases : Erases deliverTraced deliver := fun _ _ _ _ => rfl

private theorem subnetMagicTraced_erases (x : Traced Subnet) (src pgn len : UInt8) :
    (subnetMagicTraced x src pgn len).1 = (subnetMagic x.state src pgn len).1 ∧
      (subnetMagicTraced x src pgn len).2.state = (subnetMagic x.state src pgn len).2 := by
  unfold subnetMagicTraced subnetMagic
  by_cases hhead : src = 0x7F ∧ pgn = 0xC9 ∧ len = 5
  · by_cases hfirst : x.state.current = 0xC9 <;> simp [hhead, hfirst]
  · simp [hhead]

private theorem detectAddressTraced_erases : Erases detectAddressTraced detectAddress := by
  intro x src pgn len
  obtain ⟨hsubnet, hstate⟩ := subnetMagicTraced_erases x src pgn len
  unfold detectAddressTraced detectAddress
  generalize subnetMagicTraced x src pgn len = y at hsubnet hstate
  generalize subnetMagic x.state src pgn len = s at hsubnet hstate
  obtain ⟨isSubnet, y⟩ := y
  obtain ⟨isSubnet', s⟩ := s
  simp only at hsubnet hstate
  subst hsubnet hstate
  cases isSubnet <;> simp

private theorem iteration_state (h : Erases traced onFrame) (s : RxLoop ω) :
    (Traced.iteration traced s).state = RxLoop.iteration onFrame s := by
  unfold Traced.iteration RxLoop.iteration
  by_cases hstart : s.current.toNat <<< 8 ||| s.advance.current.toNat = packetStart
  · simp [hstart, h _]
  · simp [hstart]

end Erasure

/-- `rxIndex` and all uses so far are within the buffer. -/
structure Traced.Inside {ω : Type} (x : Traced ω) : Prop where
  rxIndex : x.state.rxIndex ≤ 512
  accesses : ∀ access ∈ x.accesses, access.Inside

private theorem bytes_add_lt (a b : UInt8) : a.toNat + b.toNat < 512 := by
  have ha := a.toNat_lt
  have hb := b.toNat_lt
  omega

namespace Traced.Inside

variable {ω : Type} {x : Traced ω}

theorem start {s : RxLoop ω} (h : s.rxIndex ≤ 512) : ({ state := s } : Traced ω).Inside where
  rxIndex := h
  accesses := by simp

theorem use (h : x.Inside) {access : Access} (haccess : access.Inside) : (x.use access).Inside where
  rxIndex := h.rxIndex
  accesses a ha := by
    rcases List.mem_append.mp ha with hbefore | hnow
    · exact h.accesses a hbefore
    · rwa [List.mem_singleton.mp hnow]

theorem congr (h : x.Inside) {s : RxLoop ω} (hs : s.rxIndex = x.state.rxIndex) :
    ({ x with state := s } : Traced ω).Inside where
  rxIndex := hs ▸ h.rxIndex
  accesses := h.accesses

theorem next (h : x.Inside) : x.next.Inside := by
  have hread : (Access.read x.state.index.toNat).Inside := bytes_add_lt x.state.index 0
  exact (h.use hread).congr rfl

theorem compact (h : x.Inside) : x.compact.Inside := by
  have hrx := h.rxIndex
  have hcompact : x.state.compact.rxIndex ≤ 512 := by
    rw [RxLoop.compact_rxIndex]
    omega
  unfold Traced.compact
  by_cases hlt : x.state.index.toNat < x.state.rxIndex
  · have hmove : (Access.memmove x.state.index.toNat
        (x.state.rxIndex - x.state.index.toNat)).Inside := by
      simp only [Access.Inside]
      omega
    have hsubtract : (Access.subtract x.state.rxIndex x.state.index.toNat).Inside := by
      simp only [Access.Inside]
      omega
    simp only [hlt, if_true]
    exact ⟨hcompact, ((h.use hmove).use hsubtract).accesses⟩
  · simp only [hlt, if_false]
    exact ⟨hcompact, h.accesses⟩

theorem checksum (h : x.Inside) (len : UInt8) :
    (x.use (.read (x.state.index.toNat + len.toNat))).Inside :=
  h.use (bytes_add_lt x.state.index len)

theorem iteration {traced : Traced ω → UInt8 → UInt8 → UInt8 → Traced ω}
    (htraced : ∀ x src pgn len, x.Inside → (traced x src pgn len).Inside) {s : RxLoop ω}
    (h : s.rxIndex ≤ 512) : (Traced.iteration traced s).Inside := by
  have hstart : ({ state := s } : Traced ω).next.next.Inside := (start h).next.next
  unfold Traced.iteration
  apply compact
  split
  · exact htraced _ _ _ _ (hstart.next.next.next.checksum _)
  · exact ⟨Nat.zero_le _, hstart.accesses⟩

end Traced.Inside

private theorem deliverTraced_inside (x : Traced Packet) (src pgn len : UInt8) (h : x.Inside) :
    (deliverTraced x src pgn len).Inside := by
  have hspan : (Access.span x.state.index.toNat len.toNat).Inside :=
    Nat.le_of_lt (bytes_add_lt x.state.index len)
  exact (h.use hspan).congr rfl

private theorem subnetMagicTraced_inside (x : Traced Subnet) (src pgn len : UInt8) (h : x.Inside) :
    (subnetMagicTraced x src pgn len).2.Inside := by
  unfold subnetMagicTraced
  split
  · split
    · exact h.next.next
    · exact h.next
  · exact h

private theorem detectAddressTraced_inside (x : Traced Subnet) (src pgn len : UInt8)
    (h : x.Inside) :
    (detectAddressTraced x src pgn len).Inside := by
  have hmagic := subnetMagicTraced_inside x src pgn len h
  unfold detectAddressTraced
  generalize subnetMagicTraced x src pgn len = y at hmagic
  obtain ⟨isSubnet, y⟩ := y
  cases isSubnet with
  | true => exact hmagic.next.next.next.congr rfl
  | false => exact hmagic.congr rfl

section Runs

variable {ω : Type} (loop : WhileLoop (RxLoop ω))

def CallReturns (s : RxStatics) (r : Received) (s' : RxStatics) : Prop :=
  ∃ fuel emitted, handleCall loop fuel s r = some (s', emitted)

/-- The calls of a run: the statics that a call finds and what it receives. The last one may never
return. -/
inductive LoopCalls : RxStatics → List Received → RxStatics → Received → Prop
  | here (s : RxStatics) (r : Received) (rest : List Received) : LoopCalls s (r :: rest) s r
  | later {s s' t : RxStatics} {r r' : Received} {rest : List Received}
      (hcall : CallReturns loop s r s') (hrest : LoopCalls s' rest t r') :
      LoopCalls s (r :: rest) t r'

/-- A call that finds `s` and receives `r` has room for its datagram, leaves less than a frame when
it returns and, wherever the body of its loop runs, stays inside the buffer. -/
structure StaysInside (body : RxLoop ω → Traced ω) (s : RxStatics) (r : Received) : Prop where
  room : 505 ≤ 512 - s.rxIndex
  returned : ∀ s', CallReturns loop s r s' → s'.rxIndex < 8
  iterations : ∀ bytes, r = .datagram bytes → ∀ t, loop.Reaches (s.receive bytes) t →
    t.rxIndex ≤ 512 ∧
      (loop.guard t = true →
        (body t).state = loop.body t ∧ ∀ access ∈ (body t).accesses, access.Inside)

end Runs

section ReceiveLoop

variable {ω : Type} {onFrame : RxLoop ω → UInt8 → UInt8 → UInt8 → RxLoop ω}
    {traced : Traced ω → UInt8 → UInt8 → UInt8 → Traced ω}

private theorem receive_rxIndex_le {s : RxStatics} (hs : s.rxIndex ≤ 512) (bytes : List UInt8) :
    (s.receive bytes : RxLoop ω).rxIndex ≤ 512 := by
  simp only [RxStatics.receive, List.length_take]
  omega

private theorem receiveLoop_rxIndex_le (herases : Erases traced onFrame)
    (htraced : ∀ x src pgn len, x.Inside → (traced x src pgn len).Inside) {s t : RxLoop ω}
    (hs : s.rxIndex ≤ 512) (ht : (receiveLoop onFrame).Reaches s t) : t.rxIndex ≤ 512 := by
  refine ht.invariant (fun u => u.rxIndex ≤ 512) (fun u hu _ => ?_) hs
  have hinside := Traced.Inside.iteration htraced hu
  have hrx := hinside.rxIndex
  rwa [iteration_state herases] at hrx

private theorem callReturns_rxIndex_lt {s s' : RxStatics} {r : Received} (hs : s.rxIndex < 8)
    (h : CallReturns (receiveLoop onFrame) s r s') : s'.rxIndex < 8 := by
  obtain ⟨fuel, emitted, hcall⟩ := h
  cases r with
  | wouldBlock =>
      obtain rfl := (Prod.mk.inj (Option.some.inj hcall)).1
      exact hs
  | error =>
      obtain rfl := (Prod.mk.inj (Option.some.inj hcall)).1
      exact hs
  | datagram bytes =>
      obtain ⟨t, hrun, ht⟩ := Option.map_eq_some_iff.mp hcall
      obtain rfl := (Prod.mk.inj ht).1
      have hstop := (WhileLoop.exits_iff_run.mpr ⟨fuel, hrun⟩).not_guard
      have hlt : ¬ 8 ≤ t.rxIndex := by simpa using hstop
      exact Nat.lt_of_not_le hlt

private theorem staysInside_of_lt (herases : Erases traced onFrame)
    (htraced : ∀ x src pgn len, x.Inside → (traced x src pgn len).Inside) {s : RxStatics}
    (hs : s.rxIndex < 8) (r : Received) :
    StaysInside (receiveLoop onFrame) (Traced.iteration traced) s r where
  room := by omega
  returned _ := callReturns_rxIndex_lt hs
  iterations bytes _ t ht := by
    have hrx := receiveLoop_rxIndex_le herases htraced (receive_rxIndex_le (by omega) bytes) ht
    exact ⟨hrx, fun _ => ⟨iteration_state herases t, (Traced.Inside.iteration htraced hrx).accesses⟩⟩

private theorem loopCalls_rxIndex_lt {s t : RxStatics} {rs : List Received} {r : Received}
    (h : LoopCalls (receiveLoop onFrame) s rs t r) (hs : s.rxIndex < 8) : t.rxIndex < 8 := by
  induction h with
  | here s r rest => exact hs
  | later hcall _ ih => exact ih (callReturns_rxIndex_lt hs hcall)

end ReceiveLoop

/-- In every run of either function, each call stays inside its buffer. -/
theorem receive_stays_inside (rxBuffer : RxBuffer) (rs : List Received) :
    (∀ s r, LoopCalls incomingLoop ⟨rxBuffer, 0⟩ rs s r →
      StaysInside incomingLoop (Traced.iteration deliverTraced) s r) ∧
    (∀ s r, LoopCalls addressLoop ⟨rxBuffer, 0⟩ rs s r →
      StaysInside addressLoop (Traced.iteration detectAddressTraced) s r) := by
  refine ⟨fun s r h => ?_, fun s r h => ?_⟩
  · exact staysInside_of_lt deliverTraced_erases deliverTraced_inside
      (loopCalls_rxIndex_lt h (Nat.succ_pos 7)) r
  · exact staysInside_of_lt detectAddressTraced_erases detectAddressTraced_inside
      (loopCalls_rxIndex_lt h (Nat.succ_pos 7)) r

end AogTaskController.Udp
