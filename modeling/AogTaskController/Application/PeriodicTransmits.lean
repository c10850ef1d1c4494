import AogTaskController.Application.GnssFreshness
import AogTaskController.Application.Heartbeat
import AogTaskController.Application.Speed
import AogTaskController.Framework.PeriodicGate

/-!
# Periodic transmits

The heartbeat, the speed in PGN 65256 and the Task Controller Status message have no timer of their
own: `update` looks at the timestamp of each as often as it is called. The timestamps have 32 bits.
-/

namespace AogTaskController.Application

open Framework TaskController

structure Stamped (last : BitVec 32) (clockMs : Nat) (g : Gate) : Prop where
  clock : g.clock = clockMs
  stamp : last = timestampMs g.stamp
  past : g.stamp ≤ g.clock

namespace Stamped

variable {last : BitVec 32} {clockMs : Nat} {g : Gate}

theorem init : Stamped 0 0 {} := ⟨rfl, rfl, Nat.le_refl 0⟩

theorem isOpen_eq (h : Stamped last clockMs g) (periodMs : Nat) :
    g.isOpen (2 ^ 32) periodMs = timeExpiredMs (timestampMs clockMs) last periodMs := by
  rw [h.stamp, ← h.clock, timeExpiredMs, timestampMs, timestampMs, toNat_sub_timestamps h.past]
  rfl

theorem wait (h : Stamped last clockMs g) (elapsedMs : Nat) :
    Stamped last (clockMs + elapsedMs) { g with clock := g.clock + elapsedMs } where
  clock := by rw [h.clock]
  stamp := h.stamp
  past := h.past.trans (Nat.le_add_right _ _)

/-- What the code does at the gate: `workMs` later it sets the timestamp if it succeeds. -/
theorem poll (h : Stamped last clockMs g) (periodMs : Nat) (ready : Bool) (workMs : Nat)
    (succeeds : Bool) :
    let due := ready && timeExpiredMs (timestampMs clockMs) last periodMs
    let x := (gate (2 ^ 32) periodMs).step g (.poll ready workMs succeeds)
    Stamped (if due && succeeds then timestampMs (clockMs + workMs) else last) (clockMs + workMs) x.1 ∧
      x.2 = if due then [⟨clockMs, clockMs + workMs, succeeds⟩] else [] := by
  simp only [gate, Gate.step, h.isOpen_eq]
  cases ready && timeExpiredMs (timestampMs clockMs) last periodMs with
  | false => exact ⟨h.wait workMs, rfl⟩
  | true =>
      simp only [Bool.true_and, if_true, h.clock]
      refine ⟨⟨rfl, ?_, ?_⟩, trivial⟩
      · cases succeeds with
        | true => rfl
        | false => exact h.stamp
      · have hpast := h.past
        have hclock := h.clock
        cases succeeds with
        | true => exact Nat.le_refl _
        | false =>
            show g.stamp ≤ clockMs + workMs
            omega

theorem look (h : Stamped last clockMs g) (periodMs beforeMs : Nat) (ready : Bool) (workMs : Nat)
    (succeeds : Bool) (behindMs : Nat) :
    let nowMs := clockMs + beforeMs
    let due := ready && timeExpiredMs (timestampMs nowMs) last periodMs
    let k := (gate (2 ^ 32) periodMs).startAt g
    let looks := Framework.look beforeMs ready workMs succeeds behindMs
    Stamped (if due && succeeds then timestampMs (nowMs + workMs) else last)
        (nowMs + workMs + behindMs) (k.after looks) ∧
      k.trace looks = if due then [⟨nowMs, nowMs + workMs, succeeds⟩] else [] := by
  have hwait := h.wait beforeMs
  obtain ⟨hstamped, htrace⟩ := hwait.poll periodMs ready workMs succeeds
  refine ⟨hstamped.wait behindMs, ?_⟩
  simp only [Framework.look, Machine.trace_startAt_cons, Machine.trace_startAt_nil, List.append_nil]
  exact (List.append_nil _).trans htrace

end Stamped

/-- The passes so far have left this timestamp. -/
def PacedBy (periodMs : Nat) (passes : List Pass) (last : BitVec 32) (clockMs : Nat) : Prop :=
  ∃ g, Stamped last clockMs g ∧ Paced periodMs passes g

namespace PacedBy

variable {periodMs clockMs : Nat} {passes : List Pass} {last : BitVec 32}

theorem init (periodMs : Nat) : PacedBy periodMs [] 0 0 :=
  ⟨{}, Stamped.init, paced_init periodMs⟩

theorem wait (h : PacedBy periodMs passes last clockMs) {nowMs : Nat} (hnow : clockMs ≤ nowMs) :
    PacedBy periodMs passes last nowMs := by
  obtain ⟨g, hstamped, hpaced⟩ := h
  obtain ⟨elapsedMs, rfl⟩ := Nat.exists_eq_add_of_le hnow
  exact ⟨_, hstamped.wait elapsedMs, hpaced.wait elapsedMs⟩

theorem pass (h : PacedBy periodMs passes last clockMs)
    (hdue : timeExpiredMs (timestampMs clockMs) last periodMs = true) {closedMs : Nat}
    (hclosed : clockMs ≤ closedMs) :
    PacedBy periodMs (passes ++ [⟨clockMs, closedMs, true⟩]) (timestampMs closedMs) closedMs := by
  obtain ⟨g, hstamped, hpaced⟩ := h
  obtain ⟨workMs, rfl⟩ := Nat.exists_eq_add_of_le hclosed
  obtain ⟨hnext, _⟩ := hstamped.poll periodMs true workMs true
  rw [← hstamped.isOpen_eq] at hdue
  have hpass := hpaced.pass hdue workMs true
  rw [hstamped.clock] at hpass
  exact ⟨_, ⟨rfl, rfl, Nat.le_refl _⟩, hpass⟩

end PacedBy

def heartbeatIntervalMs : Nat := 100

def speedIntervalMs : Nat := 100

def statusIntervalMs : Nat := 2000

def statusLateMs : Nat := 2500

/-- One call of `update`, as far as these messages go: what it finds, and how long it takes from each
reading of the clock to the next. -/
structure Tick where
  clients : List ClientState
  aogHeartbeatEnabled : Bool
  speed : SpeedState
  tecuAddressValid : Bool
  speedAccepted : Bool
  tcAddressValid : Bool
  taskTotalsActive : Bool
  statusAccepted : Bool
  untilHeartbeatMs : Nat := 0
  heartbeatMs : Nat := 0
  untilSpeedMs : Nat := 0
  speedMs : Nat := 0
  untilLateMs : Nat := 0
  lateGateMs : Nat := 0
  lateLogMs : Nat := 0
  lateStampMs : Nat := 0
  untilStatusMs : Nat := 0
  statusMs : Nat := 0

inductive Transmit
  /-- The payloads of the frames 0xF0, and the times around them. -/
  | heartbeat (openedMs closedMs : Nat) (payloads : List (List UInt8))
  | speed (openedMs closedMs : Nat) (data : List UInt8) (accepted : Bool)
  /-- From the look at the timestamp of the last warning to its own. -/
  | statusLate (openedMs closedMs : Nat) (lateMs : BitVec 32)
  | status (openedMs closedMs : Nat) (data : List UInt8) (accepted : Bool)
  | firstStatus
  deriving DecidableEq

structure Transmitter where
  clockMs : Nat := 0
  lastHeartbeatTransmit : BitVec 32 := 0
  lastJ1939SpeedTransmit : BitVec 32 := 0
  lastTCStatusTransmit : BitVec 32 := 0
  lastLateWarningMs : BitVec 32 := 0
  firstStatusSent : Bool := false

/-- One frame for each client with sections; without any, one that says so, if it is enabled. -/
def heartbeatPayloads (clients : List ClientState) (aogHeartbeatEnabled : Bool) : List (List UInt8) :=
  let withSections := clients.filter (·.numberOfSections != 0)
  withSections.map heartbeatPayload ++
    if aogHeartbeatEnabled && withSections.isEmpty then [[0, 0]] else []

def tcStatusData (taskTotalsActive : Bool) : List UInt8 :=
  let statusByte := if taskTotalsActive then 0x01 else 0x00
  [0xFE, 0xFF, 0xFF, 0xFF, statusByte, 0x00, 0x00, 0xFF]

namespace Tick

/-! When the timestamps are looked at. -/

def heartbeatLookMs (tick : Tick) (clockMs : Nat) : Nat := clockMs + tick.untilHeartbeatMs

def speedLookMs (tick : Tick) (clockMs : Nat) : Nat :=
  tick.heartbeatLookMs clockMs + tick.heartbeatMs + tick.untilSpeedMs

def lateLookMs (tick : Tick) (clockMs : Nat) : Nat :=
  tick.speedLookMs clockMs + tick.speedMs + tick.untilLateMs

def lateStampedMs (tick : Tick) (clockMs : Nat) : Nat :=
  tick.lateLookMs clockMs + tick.lateGateMs + tick.lateLogMs + tick.lateStampMs

def statusLookMs (tick : Tick) (clockMs : Nat) : Nat := tick.lateStampedMs clockMs + tick.untilStatusMs

def endMs (tick : Tick) (clockMs : Nat) : Nat := tick.statusLookMs clockMs + tick.statusMs

end Tick

namespace Transmitter

/-! Each message, at its time: the new timestamp, and what is sent. -/

def sendHeartbeat (s : Transmitter) (tick : Tick) (nowMs : Nat) : BitVec 32 × List Transmit :=
  let closedMs := nowMs + tick.heartbeatMs
  if timeExpiredMs (timestampMs nowMs) s.lastHeartbeatTransmit heartbeatIntervalMs then
    (timestampMs closedMs,
      [.heartbeat nowMs closedMs (heartbeatPayloads tick.clients tick.aogHeartbeatEnabled)])
  else (s.lastHeartbeatTransmit, [])

def sendSpeed (s : Transmitter) (tick : Tick) (nowMs : Nat) : BitVec 32 × List Transmit :=
  let closedMs := nowMs + tick.speedMs
  if timeExpiredMs (timestampMs nowMs) s.lastJ1939SpeedTransmit speedIntervalMs &&
      tick.tecuAddressValid then
    (if tick.speedAccepted then timestampMs closedMs else s.lastJ1939SpeedTransmit,
      [.speed nowMs closedMs tick.speed.j1939SpeedData tick.speedAccepted])
  else (s.lastJ1939SpeedTransmit, [])

def warnStatusLate (s : Transmitter) (tick : Tick) (nowMs : Nat) : BitVec 32 × List Transmit :=
  let gateMs := nowMs + tick.lateGateMs
  let logMs := gateMs + tick.lateLogMs
  let stampMs := logMs + tick.lateStampMs
  if s.lastTCStatusTransmit != 0 && tick.tcAddressValid &&
      timeExpiredMs (timestampMs nowMs) s.lastTCStatusTransmit statusLateMs &&
      timeExpiredMs (timestampMs gateMs) s.lastLateWarningMs statusLateMs then
    (timestampMs stampMs,
      [.statusLate gateMs stampMs (timestampMs logMs - s.lastTCStatusTransmit - 2000)])
  else (s.lastLateWarningMs, [])

/-- The timestamp is taken for every attempt. -/
def sendTaskControllerStatus (s : Transmitter) (tick : Tick) (nowMs : Nat) :
    BitVec 32 × List Transmit :=
  let attemptMs := nowMs + tick.statusMs
  if timeExpiredMs (timestampMs nowMs) s.lastTCStatusTransmit statusIntervalMs &&
      tick.tcAddressValid then
    (timestampMs attemptMs,
      .status nowMs attemptMs (tcStatusData tick.taskTotalsActive) tick.statusAccepted ::
        if s.firstStatusSent then [] else [.firstStatus])
  else (s.lastTCStatusTransmit, [])

def step (s : Transmitter) (tick : Tick) : Transmitter × List Transmit :=
  let heartbeat := s.sendHeartbeat tick (tick.heartbeatLookMs s.clockMs)
  let speed := s.sendSpeed tick (tick.speedLookMs s.clockMs)
  let late := s.warnStatusLate tick (tick.lateLookMs s.clockMs)
  let status := s.sendTaskControllerStatus tick (tick.statusLookMs s.clockMs)
  ({ clockMs := tick.endMs s.clockMs
     lastHeartbeatTransmit := heartbeat.1
     lastJ1939SpeedTransmit := speed.1
     lastTCStatusTransmit := status.1
     lastLateWarningMs := late.1
     firstStatusSent := s.firstStatusSent || !status.2.isEmpty },
    heartbeat.2 ++ speed.2 ++ late.2 ++ status.2)

end Transmitter

def transmitter : Machine Transmitter Tick Transmit where
  init := {}
  step := Transmitter.step
/-! The passes of each message, and the looks at its timestamp. -/

def Transmit.heartbeatPass? : Transmit → Option Pass
  | .heartbeat openedMs closedMs _ => some ⟨openedMs, closedMs, true⟩
  | _ => none

def Transmit.speedPass? : Transmit → Option Pass
  | .speed openedMs closedMs _ accepted => some ⟨openedMs, closedMs, accepted⟩
  | _ => none

def Transmit.latePass? : Transmit → Option Pass
  | .statusLate openedMs closedMs _ => some ⟨openedMs, closedMs, true⟩
  | _ => none

def Transmit.statusPass? : Transmit → Option Pass
  | .status openedMs closedMs _ _ => some ⟨openedMs, closedMs, true⟩
  | _ => none

namespace Tick

def heartbeatLooks (tick : Tick) : List GateEvent :=
  look tick.untilHeartbeatMs true tick.heartbeatMs true
    (tick.endMs 0 - (tick.heartbeatLookMs 0 + tick.heartbeatMs))

def speedLooks (tick : Tick) : List GateEvent :=
  look (tick.speedLookMs 0) tick.tecuAddressValid tick.speedMs tick.speedAccepted
    (tick.endMs 0 - (tick.speedLookMs 0 + tick.speedMs))

def statusLooks (tick : Tick) : List GateEvent :=
  look (tick.statusLookMs 0) tick.tcAddressValid tick.statusMs true 0

end Tick

namespace Transmitter

variable (s : Transmitter) (tick : Tick) (nowMs : Nat)

private theorem sendHeartbeat_filterMap :
    (s.sendHeartbeat tick nowMs).2.filterMap Transmit.heartbeatPass? =
        (if timeExpiredMs (timestampMs nowMs) s.lastHeartbeatTransmit heartbeatIntervalMs then
          [⟨nowMs, nowMs + tick.heartbeatMs, true⟩] else []) ∧
      (s.sendHeartbeat tick nowMs).2.filterMap Transmit.speedPass? = [] ∧
      (s.sendHeartbeat tick nowMs).2.filterMap Transmit.statusPass? = [] ∧
      (s.sendHeartbeat tick nowMs).2.filterMap Transmit.latePass? = [] := by
  rw [sendHeartbeat]
  split <;> exact ⟨rfl, rfl, rfl, rfl⟩

private theorem sendSpeed_filterMap :
    (s.sendSpeed tick nowMs).2.filterMap Transmit.speedPass? =
        (if tick.tecuAddressValid &&
            timeExpiredMs (timestampMs nowMs) s.lastJ1939SpeedTransmit speedIntervalMs then
          [⟨nowMs, nowMs + tick.speedMs, tick.speedAccepted⟩] else []) ∧
      (s.sendSpeed tick nowMs).2.filterMap Transmit.heartbeatPass? = [] ∧
      (s.sendSpeed tick nowMs).2.filterMap Transmit.statusPass? = [] ∧
      (s.sendSpeed tick nowMs).2.filterMap Transmit.latePass? = [] := by
  rw [sendSpeed, Bool.and_comm]
  split <;> exact ⟨rfl, rfl, rfl, rfl⟩

private theorem warnStatusLate_filterMap :
    (s.warnStatusLate tick nowMs).2.filterMap Transmit.heartbeatPass? = [] ∧
      (s.warnStatusLate tick nowMs).2.filterMap Transmit.speedPass? = [] ∧
      (s.warnStatusLate tick nowMs).2.filterMap Transmit.statusPass? = [] := by
  rw [warnStatusLate]
  split <;> exact ⟨rfl, rfl, rfl⟩

private theorem sendTaskControllerStatus_filterMap :
    (s.sendTaskControllerStatus tick nowMs).2.filterMap Transmit.statusPass? =
        (if tick.tcAddressValid &&
            timeExpiredMs (timestampMs nowMs) s.lastTCStatusTransmit statusIntervalMs then
          [⟨nowMs, nowMs + tick.statusMs, true⟩] else []) ∧
      (s.sendTaskControllerStatus tick nowMs).2.filterMap Transmit.heartbeatPass? = [] ∧
      (s.sendTaskControllerStatus tick nowMs).2.filterMap Transmit.speedPass? = [] ∧
      (s.sendTaskControllerStatus tick nowMs).2.filterMap Transmit.latePass? = [] := by
  rw [sendTaskControllerStatus, Bool.and_comm]
  split
  · cases s.firstStatusSent <;> exact ⟨rfl, rfl, rfl, rfl⟩
  · exact ⟨rfl, rfl, rfl, rfl⟩

end Transmitter

namespace Tick

variable (tick : Tick) (clockMs : Nat)

private theorem heartbeat_times :
    clockMs + tick.untilHeartbeatMs = tick.heartbeatLookMs clockMs ∧
      tick.heartbeatLookMs clockMs + tick.heartbeatMs +
        (tick.endMs 0 - (tick.heartbeatLookMs 0 + tick.heartbeatMs)) = tick.endMs clockMs := by
  refine ⟨rfl, ?_⟩
  simp only [heartbeatLookMs, speedLookMs, lateLookMs, lateStampedMs, statusLookMs, endMs]
  omega

private theorem speed_times :
    clockMs + tick.speedLookMs 0 = tick.speedLookMs clockMs ∧
      tick.speedLookMs clockMs + tick.speedMs +
        (tick.endMs 0 - (tick.speedLookMs 0 + tick.speedMs)) = tick.endMs clockMs := by
  simp only [heartbeatLookMs, speedLookMs, lateLookMs, lateStampedMs, statusLookMs, endMs]
  omega

private theorem late_times :
    clockMs ≤ tick.lateLookMs clockMs + tick.lateGateMs ∧
      tick.lateLookMs clockMs + tick.lateGateMs ≤ tick.lateStampedMs clockMs ∧
      tick.lateStampedMs clockMs ≤ tick.endMs clockMs := by
  simp only [heartbeatLookMs, speedLookMs, lateLookMs, lateStampedMs, statusLookMs, endMs]
  omega

private theorem status_times : clockMs + tick.statusLookMs 0 = tick.statusLookMs clockMs := by
  simp only [heartbeatLookMs, speedLookMs, lateLookMs, lateStampedMs, statusLookMs]
  omega

end Tick

private theorem heartbeat_replay :
    Machine.Replay transmitter (gate (2 ^ 32) heartbeatIntervalMs)
      (fun s g => Stamped s.lastHeartbeatTransmit s.clockMs g) Tick.heartbeatLooks
      Transmit.heartbeatPass? where
  init := Stamped.init
  step s g tick h := by
    obtain ⟨hlook, hend⟩ := tick.heartbeat_times s.clockMs
    obtain ⟨hstamped, htrace⟩ := h.look heartbeatIntervalMs tick.untilHeartbeatMs true
      tick.heartbeatMs true (tick.endMs 0 - (tick.heartbeatLookMs 0 + tick.heartbeatMs))
    rw [hlook] at htrace
    rw [hlook, hend, Bool.true_and, Bool.and_true] at hstamped
    constructor
    · have hlast : (transmitter.step s tick).1.lastHeartbeatTransmit =
          if timeExpiredMs (timestampMs (tick.heartbeatLookMs s.clockMs)) s.lastHeartbeatTransmit
              heartbeatIntervalMs then
            timestampMs (tick.heartbeatLookMs s.clockMs + tick.heartbeatMs)
          else s.lastHeartbeatTransmit := by
        simp only [transmitter, Transmitter.step, Transmitter.sendHeartbeat]
        split <;> rfl
      rw [hlast]
      exact hstamped
    · refine Eq.trans ?_ htrace.symm
      simp only [transmitter, Transmitter.step, List.filterMap_append,
        (s.sendHeartbeat_filterMap tick _).1, (s.sendSpeed_filterMap tick _).2.1,
        (s.warnStatusLate_filterMap tick _).1, (s.sendTaskControllerStatus_filterMap tick _).2.1,
        List.append_nil, Bool.true_and]

private theorem speed_replay :
    Machine.Replay transmitter (gate (2 ^ 32) speedIntervalMs)
      (fun s g => Stamped s.lastJ1939SpeedTransmit s.clockMs g) Tick.speedLooks
      Transmit.speedPass? where
  init := Stamped.init
  step s g tick h := by
    obtain ⟨hlook, hend⟩ := tick.speed_times s.clockMs
    obtain ⟨hstamped, htrace⟩ := h.look speedIntervalMs (tick.speedLookMs 0) tick.tecuAddressValid
      tick.speedMs tick.speedAccepted (tick.endMs 0 - (tick.speedLookMs 0 + tick.speedMs))
    rw [hlook] at htrace
    rw [hlook, hend] at hstamped
    constructor
    · have hlast : (transmitter.step s tick).1.lastJ1939SpeedTransmit =
          if (tick.tecuAddressValid && timeExpiredMs (timestampMs (tick.speedLookMs s.clockMs))
              s.lastJ1939SpeedTransmit speedIntervalMs) && tick.speedAccepted then
            timestampMs (tick.speedLookMs s.clockMs + tick.speedMs)
          else s.lastJ1939SpeedTransmit := by
        simp only [transmitter, Transmitter.step, Transmitter.sendSpeed]
        rw [Bool.and_comm tick.tecuAddressValid]
        cases tick.speedAccepted <;> split <;> simp_all
      rw [hlast]
      exact hstamped
    · refine Eq.trans ?_ htrace.symm
      simp only [transmitter, Transmitter.step, List.filterMap_append,
        (s.sendHeartbeat_filterMap tick _).2.1, (s.sendSpeed_filterMap tick _).1,
        (s.warnStatusLate_filterMap tick _).2.1,
        (s.sendTaskControllerStatus_filterMap tick _).2.2.1, List.append_nil, List.nil_append]

private theorem status_replay :
    Machine.Replay transmitter (gate (2 ^ 32) statusIntervalMs)
      (fun s g => Stamped s.lastTCStatusTransmit s.clockMs g) Tick.statusLooks
      Transmit.statusPass? where
  init := Stamped.init
  step s g tick h := by
    have hlook := tick.status_times s.clockMs
    obtain ⟨hstamped, htrace⟩ := h.look statusIntervalMs (tick.statusLookMs 0) tick.tcAddressValid
      tick.statusMs true 0
    rw [hlook] at htrace
    rw [hlook, Bool.and_true] at hstamped
    constructor
    · have hlast : (transmitter.step s tick).1.lastTCStatusTransmit =
          if tick.tcAddressValid && timeExpiredMs (timestampMs (tick.statusLookMs s.clockMs))
              s.lastTCStatusTransmit statusIntervalMs then
            timestampMs (tick.statusLookMs s.clockMs + tick.statusMs)
          else s.lastTCStatusTransmit := by
        simp only [transmitter, Transmitter.step, Transmitter.sendTaskControllerStatus]
        rw [Bool.and_comm tick.tcAddressValid]
        split <;> rfl
      rw [hlast]
      exact hstamped
    · refine Eq.trans ?_ htrace.symm
      simp only [transmitter, Transmitter.step, List.filterMap_append,
        (s.sendHeartbeat_filterMap tick _).2.2.1, (s.sendSpeed_filterMap tick _).2.2.1,
        (s.warnStatusLate_filterMap tick _).2.2, (s.sendTaskControllerStatus_filterMap tick _).1,
        List.nil_append]

def lastStatusMs (ticks : List Tick) : Nat :=
  lastStamp 0 ((transmitter.trace ticks).filterMap Transmit.statusPass?)

private theorem lastTCStatusTransmit_after (ticks : List Tick) :
    ∃ g : Gate, Stamped (transmitter.after ticks).lastTCStatusTransmit
        (transmitter.after ticks).clockMs g ∧ g.stamp = lastStatusMs ticks := by
  refine ⟨_, status_replay.after ticks, ?_⟩
  rw [stamp_after, ← status_replay.trace]
  rfl

private theorem mem_step_statusLate {s : Transmitter} {tick : Tick} {openedMs closedMs : Nat}
    {lateMs : BitVec 32} (h : .statusLate openedMs closedMs lateMs ∈ (transmitter.step s tick).2) :
    s.lastTCStatusTransmit ≠ 0 ∧
      timeExpiredMs (timestampMs (tick.lateLookMs s.clockMs)) s.lastTCStatusTransmit statusLateMs =
        true ∧
      openedMs = tick.lateLookMs s.clockMs + tick.lateGateMs ∧
      lateMs = timestampMs (openedMs + tick.lateLogMs) - s.lastTCStatusTransmit - 2000 := by
  have hlate : .statusLate openedMs closedMs lateMs ∈
      (s.warnStatusLate tick (tick.lateLookMs s.clockMs)).2 := by
    simp only [transmitter, Transmitter.step, List.mem_append] at h
    rcases h with ((h | h) | h) | h
    · rw [Transmitter.sendHeartbeat] at h
      split at h <;> simp at h
    · rw [Transmitter.sendSpeed] at h
      split at h <;> simp at h
    · exact h
    · rw [Transmitter.sendTaskControllerStatus] at h
      split at h
      · simp only [List.mem_cons, reduceCtorEq, false_or] at h
        split at h <;> simp at h
      · cases h
  rw [Transmitter.warnStatusLate] at hlate
  split at hlate
  next hdue =>
    simp only [Bool.and_eq_true, bne_iff_ne] at hdue
    obtain ⟨rfl, rfl, rfl⟩ := Transmit.statusLate.inj (List.mem_singleton.mp hlate)
    exact ⟨hdue.1.1.1, hdue.1.2, rfl, rfl⟩
  next => cases hlate

/-- The warnings about a late status message. They tell how late it is, come at most every 2.5 s, and
do not come at all if `update` is called at least every 500 ms while the address is valid. -/
structure WarnsWhenLate (ticks : List Tick) : Prop where
  late : ∀ pre tick, pre ++ [tick] <+: ticks → ∀ openedMs closedMs lateMs,
    .statusLate openedMs closedMs lateMs ∈ (transmitter.step (transmitter.after pre) tick).2 →
      lastStatusMs pre ≠ 0 ∧ lastStatusMs pre + 2500 ≤ openedMs ∧
        lateMs.toNat = (openedMs + tick.lateLogMs - (lastStatusMs pre + 2000)) % 2 ^ 32
  apart : ((transmitter.trace ticks).filterMap Transmit.latePass?).Pairwise (Pass.Apart 2500)
  noFalseAlarm : ∀ gap ≤ 500, Steady gap 0 (ticks.flatMap Tick.statusLooks) →
    (transmitter.trace ticks).filterMap Transmit.latePass? = []

/-- In every run, the heartbeat, the speed of PGN 65256 and the status message keep their periods:
100 ms, 100 ms behind each message that was accepted, and 2 s behind each attempt. -/
theorem transmits_keepPeriod (ticks : List Tick) :
    KeepsPeriod (2 ^ 32) 100 (ticks.flatMap Tick.heartbeatLooks)
        ((transmitter.trace ticks).filterMap Transmit.heartbeatPass?) ∧
      KeepsPeriod (2 ^ 32) 100 (ticks.flatMap Tick.speedLooks)
        ((transmitter.trace ticks).filterMap Transmit.speedPass?) ∧
      KeepsPeriod (2 ^ 32) 2000 (ticks.flatMap Tick.statusLooks)
        ((transmitter.trace ticks).filterMap Transmit.statusPass?) := by
  rw [heartbeat_replay.trace, speed_replay.trace, status_replay.trace]
  exact ⟨gate_keepsPeriod (by decide) _, gate_keepsPeriod (by decide) _,
    gate_keepsPeriod (by decide) _⟩
private theorem late_of_mem {pre : List Tick} {tick : Tick} {openedMs closedMs : Nat}
    {lateMs : BitVec 32}
    (h : .statusLate openedMs closedMs lateMs ∈ (transmitter.step (transmitter.after pre) tick).2) :
    lastStatusMs pre ≠ 0 ∧
      lastStatusMs pre + 2500 ≤ tick.lateLookMs (transmitter.after pre).clockMs ∧
      openedMs = tick.lateLookMs (transmitter.after pre).clockMs + tick.lateGateMs ∧
      lateMs.toNat = (openedMs + tick.lateLogMs - (lastStatusMs pre + 2000)) % 2 ^ 32 := by
  obtain ⟨hsent, hexpired, hopened, hlate⟩ := mem_step_statusLate h
  obtain ⟨g, hstamped, hstamp⟩ := lastTCStatusTransmit_after pre
  have hpast := hstamped.past
  rw [hstamped.clock, hstamp] at hpast
  have hlast := hstamped.stamp
  rw [hstamp] at hlast
  have hlook : (transmitter.after pre).clockMs ≤ tick.lateLookMs (transmitter.after pre).clockMs := by
    simp only [Tick.lateLookMs, Tick.speedLookMs, Tick.heartbeatLookMs]
    omega
  have hold : 2500 ≤ (tick.lateLookMs (transmitter.after pre).clockMs - lastStatusMs pre) % 2 ^ 32 := by
    rw [hlast, timeExpiredMs, timestampMs, timestampMs,
      toNat_sub_timestamps (hpast.trans hlook)] at hexpired
    exact of_decide_eq_true hexpired
  have hage := Nat.mod_le (tick.lateLookMs (transmitter.after pre).clockMs - lastStatusMs pre) (2 ^ 32)
  refine ⟨fun hzero => hsent (hlast.trans (by rw [hzero]; rfl)), by omega, hopened, ?_⟩
  have hdifference : timestampMs (openedMs + tick.lateLogMs) - timestampMs (lastStatusMs pre) - 2000 =
      timestampMs (openedMs + tick.lateLogMs) - timestampMs (lastStatusMs pre + 2000) := by
    have hinterval : (2000 : BitVec 32).toNat = 2000 := rfl
    apply BitVec.eq_of_toNat_eq
    simp only [timestampMs, BitVec.toNat_sub, BitVec.toNat_ofNat, hinterval]
    omega
  rw [hlate, hlast, hdifference]
  exact toNat_sub_timestamps (by omega)

private theorem late_paced (ticks : List Tick) :
    PacedBy statusLateMs ((transmitter.trace ticks).filterMap Transmit.latePass?)
      (transmitter.after ticks).lastLateWarningMs (transmitter.after ticks).clockMs := by
  refine transmitter.trace_invariant (fun trace s => PacedBy statusLateMs
    (trace.filterMap Transmit.latePass?) s.lastLateWarningMs s.clockMs) ?_ ?_ ticks
  · exact PacedBy.init statusLateMs
  · intro trace s tick h
    have hwarned : (transmitter.step s tick).2.filterMap Transmit.latePass? =
        (s.warnStatusLate tick (tick.lateLookMs s.clockMs)).2.filterMap Transmit.latePass? := by
      simp only [transmitter, Transmitter.step, List.filterMap_append,
        (s.sendHeartbeat_filterMap tick _).2.2.2, (s.sendSpeed_filterMap tick _).2.2.2,
        (s.sendTaskControllerStatus_filterMap tick _).2.2.2, List.nil_append, List.append_nil]
    obtain ⟨hbefore, hwork, hbehind⟩ := tick.late_times s.clockMs
    have hlook := h.wait hbefore
    rw [List.filterMap_append, hwarned]
    simp only [transmitter, Transmitter.step, Transmitter.warnStatusLate]
    split
    next hdue => exact (hlook.pass (Bool.and_eq_true_iff.mp hdue).2 hwork).wait hbehind
    next => simpa only [List.filterMap_nil, List.append_nil] using hlook.wait (hwork.trans hbehind)

/-- No run warns of a late status message unless it is late. -/
theorem warnsWhenLate (ticks : List Tick) : WarnsWhenLate ticks where
  late pre tick _ openedMs closedMs lateMs hmem := by
    obtain ⟨hsent, hold, hopened, hlate⟩ := late_of_mem hmem
    exact ⟨hsent, by omega, hlate⟩
  apart := by
    obtain ⟨g, _, hpaced⟩ := late_paced ticks
    exact hpaced.apart
  noFalseAlarm gap hgap hsteady := by
    rw [List.filterMap_eq_nil_iff]
    intro transmit htransmit
    obtain ⟨pre, tick, hpre, hmem⟩ := transmitter.exists_of_mem_trace htransmit
    cases transmit with
    | statusLate openedMs closedMs lateMs =>
        obtain ⟨_, hold, _⟩ := late_of_mem hmem
        -- the look of this call comes too early for the message to be late
        obtain ⟨rest, rfl⟩ := hpre
        rw [List.flatMap_append, List.flatMap_append, List.flatMap_singleton, steady_append,
          steady_append] at hsteady
        obtain ⟨⟨hbefore, hlook⟩, _⟩ := hsteady
        have hgaps : sinceLook 0 (pre.flatMap Tick.statusLooks) + tick.statusLookMs 0 ≤ gap :=
          hlook.2.2.1
        obtain ⟨_, hprompt⟩ := @steady_after (2 ^ 32) statusIntervalMs (by decide) gap
          (by rw [statusIntervalMs]; omega) _ hbefore
        have hrecent := hprompt.recent
        have hclock := (status_replay.after pre).clock
        rw [stamp_after, ← status_replay.trace, hclock, statusIntervalMs] at hrecent
        have hlookMs : tick.lateLookMs (transmitter.after pre).clockMs ≤
            (transmitter.after pre).clockMs + tick.statusLookMs 0 := by
          simp only [Tick.lateLookMs, Tick.speedLookMs, Tick.heartbeatLookMs, Tick.statusLookMs,
            Tick.lateStampedMs]
          omega
        rw [lastStatusMs] at hold
        omega
    | _ => rfl

end AogTaskController.Application
