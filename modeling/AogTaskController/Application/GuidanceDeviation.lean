import AogTaskController.Application.PeriodicTransmits

/-!
# The guidance line deviation

AgOpenGPS sends the deviation in mm with every frame of its own; NMEA 2000 gets it once a second, in
whole metres. The sequence identifier counts the deviations received, not the messages sent.
-/

namespace AogTaskController.Application

open Framework TaskController Udp

/-- `isobus::DataDescriptionIndex::GuidanceLineDeviation` -/
abbrev guidanceLineDeviation : Ddi := 513

def xteIntervalMs : Nat := 1000

/-- A packet arrives, some time after the one before. If its deviation is sent, it takes `workMs` until
the timestamp is set. -/
structure XteEvent where
  elapsedMs : Nat
  packet : Packet
  workMs : Nat := 0
  accepted : Bool := true

structure XteTransmit where
  openedMs : Nat
  closedMs : Nat
  data : List UInt8
  accepted : Bool

structure XteState where
  clockMs : Nat := 0
  lastXteValue : BitVec 32 := 0
  xteSid : UInt8 := 0
  lastXteTransmit : BitVec 32 := 0

def deviation? (packet : Packet) : Option (BitVec 32) :=
  match decodePacket packet with
  | some (.processData identifier value) =>
      if identifier = guidanceLineDeviation then some value else none
  | _ => none

/-- `xteMode`, the reserved bits and navigation not terminated. -/
def xteModeByte : UInt8 := 0b00000001 ||| 0b00110000 ||| 0b01000000

def xteData (xteSid : UInt8) (value : BitVec 32) : List UInt8 :=
  let xte := value.sdiv 1000
  [xteSid, xteModeByte, .ofBitVec (xte.setWidth 8), .ofBitVec ((xte.sshiftRight 8).setWidth 8),
    .ofBitVec ((xte.sshiftRight 16).setWidth 8), .ofBitVec ((xte.sshiftRight 24).setWidth 8), 0xFF, 0xFF]

/-- The branch of the packet handler for the deviation. -/
def XteState.onDeviation (s : XteState) (value : BitVec 32) (nowMs closedMs : Nat) (accepted : Bool) :
    XteState × List XteTransmit :=
  let xteSid := s.xteSid % 253 + 1
  let due := timeExpiredMs (timestampMs nowMs) s.lastXteTransmit xteIntervalMs
  ({ clockMs := closedMs
     lastXteValue := value
     xteSid
     lastXteTransmit := if due && accepted then timestampMs closedMs else s.lastXteTransmit },
    if due then [⟨nowMs, closedMs, xteData xteSid value, accepted⟩] else [])

def XteState.step (s : XteState) (event : XteEvent) : XteState × List XteTransmit :=
  let nowMs := s.clockMs + event.elapsedMs
  let closedMs := nowMs + event.workMs
  match deviation? event.packet with
  | none => ({ s with clockMs := closedMs }, [])
  | some value => s.onDeviation value nowMs closedMs event.accepted

def xteMachine : Machine XteState XteEvent XteTransmit where
  init := {}
  step := XteState.step

def XteEvent.looks (event : XteEvent) : List GateEvent :=
  look event.elapsedMs (deviation? event.packet).isSome event.workMs event.accepted 0

def XteTransmit.pass (transmit : XteTransmit) : Pass :=
  ⟨transmit.openedMs, transmit.closedMs, transmit.accepted⟩

private theorem xte_replay :
    Machine.Replay xteMachine (gate (2 ^ 32) xteIntervalMs)
      (fun s g => Stamped s.lastXteTransmit s.clockMs g) XteEvent.looks
      (fun transmit => some transmit.pass) where
  init := Stamped.init
  step s g event h := by
    obtain ⟨hstamped, htrace⟩ := h.look xteIntervalMs event.elapsedMs
      (deviation? event.packet).isSome event.workMs event.accepted 0
    simp only [xteMachine, XteState.step, XteEvent.looks]
    cases hdeviation : deviation? event.packet with
    | none =>
        rw [hdeviation] at hstamped htrace
        exact ⟨hstamped, htrace.symm⟩
    | some value =>
        rw [hdeviation] at hstamped htrace
        simp only [Option.isSome_some, Bool.true_and] at hstamped htrace ⊢
        refine ⟨hstamped, Eq.trans ?_ htrace.symm⟩
        simp only [XteState.onDeviation]
        cases timeExpiredMs (timestampMs (s.clockMs + event.elapsedMs)) s.lastXteTransmit
          xteIntervalMs <;> rfl

def deviationCount (events : List XteEvent) : Nat :=
  events.countP fun event => (deviation? event.packet).isSome

private theorem deviationCount_snoc (events : List XteEvent) (event : XteEvent) :
    deviationCount (events ++ [event]) =
      deviationCount events + if (deviation? event.packet).isSome then 1 else 0 := by
  rw [deviationCount, List.countP_append, List.countP_singleton, ← deviationCount]

private theorem toNat_nextSid (xteSid : UInt8) :
    (xteSid % 253 + 1).toNat = xteSid.toNat % 253 + 1 := by
  have hlt : xteSid.toNat % 253 < 253 := Nat.mod_lt _ (by decide)
  rw [UInt8.toNat_add, UInt8.toNat_mod]
  show (xteSid.toNat % 253 + 1) % 256 = xteSid.toNat % 253 + 1
  omega

/-- The identifier behind the `count`-th deviation: it runs through 1 to 253. -/
def sidOfCount (count : Nat) : Nat := if count = 0 then 0 else (count - 1) % 253 + 1

private theorem sidOfCount_succ (count : Nat) : sidOfCount count % 253 + 1 = sidOfCount
    (count + 1) := by
  rw [sidOfCount, sidOfCount, if_neg (Nat.succ_ne_zero count)]
  split <;> omega

private theorem xteSid_after (events : List XteEvent) :
    (xteMachine.after events).xteSid.toNat = sidOfCount (deviationCount events) := by
  induction events using List.reverseRecOn with
  | nil => rfl
  | append_singleton events event ih =>
      rw [Machine.after_snoc, deviationCount_snoc]
      generalize xteMachine.after events = s at ih ⊢
      simp only [xteMachine, XteState.step]
      cases hdeviation : deviation? event.packet with
      | none => exact ih
      | some value =>
          rw [Option.isSome_some, if_pos rfl, ← sidOfCount_succ, ← ih]
          exact toNat_nextSid s.xteSid

private theorem toNat_setWidth_sshiftRight (word : BitVec 32) {k : Nat} (hk : k + 8 ≤ 32) :
    ((word.sshiftRight k).setWidth 8).toNat = word.toNat / 2 ^ k % 256 := by
  have hshift : (word.sshiftRight k).setWidth 8 = (word >>> k).setWidth 8 := by
    ext i hi
    simp only [BitVec.getElem_setWidth, BitVec.getLsbD_sshiftRight, BitVec.getLsbD_ushiftRight]
    rw [if_pos (by omega)]
    simp
    omega
  rw [hshift, BitVec.toNat_setWidth, BitVec.toNat_ushiftRight, Nat.shiftRight_eq_div_pow]

private theorem toInt_xteData (xteSid : UInt8) (value : BitVec 32) :
    (BitVec.ofNat 32 (littleEndian (((xteData xteSid value).drop 2).take 4))).toInt =
      value.toInt.tdiv 1000 := by
  have hword : BitVec.ofNat 32 (littleEndian (((xteData xteSid value).drop 2).take 4)) =
      value.sdiv 1000 := by
    have hlt := (value.sdiv 1000).isLt
    have hlow : ((value.sdiv 1000).setWidth 8).toNat = (value.sdiv 1000).toNat % 256 :=
      BitVec.toNat_setWidth _ _
    apply BitVec.eq_of_toNat_eq
    simp only [xteData, List.drop_succ_cons, List.drop_zero, List.take_succ_cons, List.take_zero,
      littleEndian, List.foldr_cons, List.foldr_nil, UInt8.toNat_ofBitVec, BitVec.toNat_ofNat]
    rw [hlow, toNat_setWidth_sshiftRight _ (by decide), toNat_setWidth_sshiftRight _ (by decide),
      toNat_setWidth_sshiftRight _ (by decide)]
    omega
  rw [hword]
  exact BitVec.toInt_sdiv_of_ne_or_ne value 1000 (.inr (by decide))

/-- What a message with the deviation says: it is sent for the packet at hand, and its identifier tells
that packet's place among all deviations. -/
structure CarriesDeviation (pre : List XteEvent) (event : XteEvent) (data : List UInt8) : Prop where
  length : data.length = 8
  sid : (data.getD 0 0).toNat = deviationCount pre % 253 + 1
  metres : ∃ value, deviation? event.packet = some value ∧
    (BitVec.ofNat 32 (littleEndian ((data.drop 2).take 4))).toInt = value.toInt.tdiv 1000

private theorem carriesDeviation_of_mem {pre : List XteEvent} {event : XteEvent}
    {transmit : XteTransmit}
    (h : transmit ∈ (xteMachine.step (xteMachine.after pre) event).2) :
    CarriesDeviation pre event transmit.data := by
  have hsid := xteSid_after pre
  generalize xteMachine.after pre = s at h hsid
  simp only [xteMachine, XteState.step] at h
  cases hdeviation : deviation? event.packet with
  | none =>
      rw [hdeviation] at h
      cases h
  | some value =>
      rw [hdeviation] at h
      simp only [XteState.onDeviation] at h
      split at h
      · obtain rfl := List.mem_singleton.mp h
        refine ⟨rfl, ?_, value, hdeviation, toInt_xteData _ value⟩
        show (s.xteSid % 253 + 1).toNat = deviationCount pre % 253 + 1
        rw [toNat_nextSid, hsid, sidOfCount_succ, sidOfCount, if_neg (Nat.succ_ne_zero _),
          Nat.add_sub_cancel]
      · cases h

/-- In every run, the messages with the deviation keep their period of 1 s behind each one that was
accepted, and each carries the deviation of its packet and the number of that packet in 1 to 253. -/
theorem xte_transmits (events : List XteEvent) :
    KeepsPeriod (2 ^ 32) 1000 (events.flatMap XteEvent.looks)
        ((xteMachine.trace events).map XteTransmit.pass) ∧
      ∀ pre event, pre ++ [event] <+: events →
        ∀ transmit ∈ (xteMachine.step (xteMachine.after pre) event).2,
          CarriesDeviation pre event transmit.data := by
  constructor
  · have htrace := xte_replay.trace events
    rw [List.filterMap_eq_map'] at htrace
    rw [htrace]
    exact gate_keepsPeriod (by decide) _
  · exact fun pre event _ transmit htransmit => carriesDeviation_of_mem htransmit

end AogTaskController.Application
