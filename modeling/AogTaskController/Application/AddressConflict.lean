import AogTaskController.Application.ImplementScan
import AogTaskController.Framework.Reminders

/-!
# The conflict over the preferred address

Every 15 s the application looks whether another task controller holds the address it would like to
have. The operator is told while it does, and once more when it is over; the log is warned at most
every 30 s. The function that looks and `update` each remember what the look before has found.
-/

namespace AogTaskController.Application

open Framework

/-- The numbers that the bus library fixes. -/
structure BusNumbers where
  taskControllerFunction : UInt8
  preferredTcAddress : UInt8

structure BusControlFunction where
  handle : Nat
  addressValid : Bool
  address : UInt8
  manufacturerCode : BitVec 11
  functionCode : UInt8
  identityNumber : BitVec 21
  ecuInstance : BitVec 3
  functionInstance : BitVec 5
  deriving DecidableEq

variable (bus : BusNumbers)

def BusControlFunction.holdsPreferred (cf : BusControlFunction) : Bool :=
  cf.addressValid && cf.address == bus.preferredTcAddress

def havePreferredAddress (ourTC : Option BusControlFunction) : Bool :=
  ourTC.any (·.holdsPreferred bus)

/-- The first task controller other than our own that holds the preferred address, if ours does not. -/
def conflictingTC (ourTC : Option BusControlFunction) (allCFs : List BusControlFunction) :
    Option BusControlFunction :=
  match ourTC with
  | none => none
  | some our =>
      if our.holdsPreferred bus then none
      else allCFs.find? fun cf => cf.holdsPreferred bus && cf.handle != our.handle &&
        cf.functionCode == bus.taskControllerFunction

def conflictCheckMs : Nat := 15000

def conflictWarnMs : Nat := 30000

def conflictMessage : HardwareText where
  text := ascii "TC address conflict: preferred address in use"
  duration := 20
  color := hwMsgAlert

def conflictResolvedMessage : HardwareText where
  text := ascii "TC address conflict resolved"
  duration := 5
  color := hwMsgInfo

/-- `update` comes to the check. The times are those before it, from its look at the clock to that at
the last warning, from there to the timestamp of the warning, and from there to its own timestamp. -/
structure ConflictTick where
  elapsedMs : Nat
  ourTC : Option BusControlFunction
  allCFs : List BusControlFunction
  warnGateMs : Nat := 0
  warnMs : Nat := 0
  restMs : Nat := 0

inductive ConflictOutput
  /-- The warning in the log: the other task controller and our own address. -/
  | warning (openedMs closedMs : Nat) (other : BusControlFunction) (ourAddress : UInt8)
  /-- The line in the log that says that it is over. -/
  | resolved (claimedPreferred : Bool)
  | message (text : HardwareText)
  | checked (openedMs closedMs : Nat) (conflictActive : Bool)
  deriving DecidableEq

structure ConflictMonitor where
  clockMs : Nat := 0
  lastConflictCheck : BitVec 32 := 0
  lastWarnTime : BitVec 32 := 0
  conflictDetected : Bool := false
  tcAddressConflictActive : Bool := false

def conflictWarning (other ourTC : Option BusControlFunction) (openedMs closedMs : Nat) :
    List ConflictOutput :=
  match other, ourTC with
  | some cf, some our => [.warning openedMs closedMs cf our.address]
  | _, _ => []

namespace ConflictMonitor

def checkTcAddressConflict (s : ConflictMonitor) (tick : ConflictTick) (nowMs : Nat) :
    ConflictMonitor × Bool × List ConflictOutput :=
  let other := conflictingTC bus tick.ourTC tick.allCFs
  let warnLookMs := nowMs + tick.warnGateMs
  let warnedMs := warnLookMs + tick.warnMs
  let warns := other.isSome && timeExpiredMs (timestampMs warnLookMs) s.lastWarnTime conflictWarnMs
  let warning := if warns then conflictWarning other tick.ourTC warnLookMs warnedMs else []
  let resolved :=
    if s.conflictDetected && !other.isSome then [.resolved (havePreferredAddress bus tick.ourTC)]
    else []
  ({ s with
      lastWarnTime := if warns then timestampMs warnedMs else s.lastWarnTime
      conflictDetected := other.isSome }, other.isSome, warning ++ resolved)

def step (s : ConflictMonitor) (tick : ConflictTick) : ConflictMonitor × List ConflictOutput :=
  let nowMs := s.clockMs + tick.elapsedMs
  let closedMs := nowMs + (tick.warnGateMs + tick.warnMs + tick.restMs)
  if timeExpiredMs (timestampMs nowMs) s.lastConflictCheck conflictCheckMs then
    let x := s.checkTcAddressConflict bus tick nowMs
    let conflictActive := x.2.1
    let message :=
      if conflictActive then [.message conflictMessage]
      else if s.tcAddressConflictActive then [.message conflictResolvedMessage]
      else []
    ({ x.1 with
        clockMs := closedMs
        tcAddressConflictActive := conflictActive
        lastConflictCheck := timestampMs closedMs },
      x.2.2 ++ message ++ [.checked nowMs closedMs conflictActive])
  else ({ s with clockMs := closedMs }, [])

end ConflictMonitor

def conflictMonitor : Machine ConflictMonitor ConflictTick ConflictOutput where
  init := {}
  step := ConflictMonitor.step bus

namespace ConflictOutput

def pass? : ConflictOutput → Option Pass
  | .checked openedMs closedMs _ => some ⟨openedMs, closedMs, true⟩
  | _ => none

def verdict? : ConflictOutput → Option Bool
  | .checked _ _ conflictActive => some conflictActive
  | _ => none

def message? : ConflictOutput → Option HardwareText
  | .message text => some text
  | _ => none

def warned? : ConflictOutput → Option Pass
  | .warning openedMs closedMs _ _ => some ⟨openedMs, closedMs, true⟩
  | _ => none

def isResolved : ConflictOutput → Bool
  | .resolved _ => true
  | _ => false

end ConflictOutput

def ConflictTick.looks (tick : ConflictTick) : List GateEvent :=
  look tick.elapsedMs true (tick.warnGateMs + tick.warnMs + tick.restMs) true 0

def verdicts (ticks : List ConflictTick) : List Bool :=
  ((conflictMonitor bus).trace ticks).filterMap ConflictOutput.verdict?

def conflictMessages (ticks : List ConflictTick) : List HardwareText :=
  ((conflictMonitor bus).trace ticks).filterMap ConflictOutput.message?

def verdictMessage (conflictActive : Bool) : HardwareText :=
  if conflictActive then conflictMessage else conflictResolvedMessage

/-- What is remembered between the checks, and what the checks so far have led to. -/
structure Remembers (trace : List ConflictOutput) (s : ConflictMonitor) : Prop where
  detected : s.conflictDetected = lastSent false (trace.filterMap ConflictOutput.verdict?)
  active : s.tcAddressConflictActive = lastSent false (trace.filterMap ConflictOutput.verdict?)
  messages : trace.filterMap ConflictOutput.message? =
    (reminders false (trace.filterMap ConflictOutput.verdict?)).map verdictMessage
  resolved : trace.countP ConflictOutput.isResolved =
    (reminders false (trace.filterMap ConflictOutput.verdict?)).count false

private theorem conflictWarning_filterMap (other ourTC : Option BusControlFunction)
    (openedMs closedMs : Nat) :
    (conflictWarning other ourTC openedMs closedMs).filterMap ConflictOutput.verdict? = [] ∧
      (conflictWarning other ourTC openedMs closedMs).filterMap ConflictOutput.message? = [] ∧
      (conflictWarning other ourTC openedMs closedMs).filterMap ConflictOutput.pass? = [] ∧
      (conflictWarning other ourTC openedMs closedMs).countP ConflictOutput.isResolved = 0 := by
  cases other <;> cases ourTC <;> exact ⟨rfl, rfl, rfl, rfl⟩

namespace ConflictMonitor

variable (s : ConflictMonitor) (tick : ConflictTick)

private theorem step_due {before : Bool} (hdetected : s.conflictDetected = before)
    (hactive : s.tcAddressConflictActive = before)
    (hdue : timeExpiredMs (timestampMs (s.clockMs + tick.elapsedMs)) s.lastConflictCheck
      conflictCheckMs = true) :
    let now := (conflictingTC bus tick.ourTC tick.allCFs).isSome
    let closedMs := s.clockMs + tick.elapsedMs + (tick.warnGateMs + tick.warnMs + tick.restMs)
    let x := s.step bus tick
    (x.1.conflictDetected = now ∧ x.1.tcAddressConflictActive = now ∧
        x.1.lastConflictCheck = timestampMs closedMs ∧ x.1.clockMs = closedMs) ∧
      x.2.filterMap ConflictOutput.verdict? = [now] ∧
      x.2.filterMap ConflictOutput.pass? = [⟨s.clockMs + tick.elapsedMs, closedMs, true⟩] ∧
      x.2.filterMap ConflictOutput.message? =
        (if now || before then [now] else []).map verdictMessage ∧
      x.2.countP ConflictOutput.isResolved = (if now || before then [now] else []).count false := by
  simp only [step, hdue, if_true, checkTcAddressConflict, hdetected, hactive]
  refine ⟨⟨trivial, trivial, trivial, trivial⟩, ?_⟩
  have hwarning := conflictWarning_filterMap (conflictingTC bus tick.ourTC tick.allCFs) tick.ourTC
  cases (conflictingTC bus tick.ourTC tick.allCFs).isSome && timeExpiredMs
      (timestampMs (s.clockMs + tick.elapsedMs + tick.warnGateMs)) s.lastWarnTime conflictWarnMs <;>
    cases (conflictingTC bus tick.ourTC tick.allCFs).isSome <;> cases before <;>
    simp [hwarning, List.filterMap_cons, List.countP_cons, ConflictOutput.verdict?,
      ConflictOutput.pass?, ConflictOutput.message?, ConflictOutput.isResolved, verdictMessage]

end ConflictMonitor

private theorem remembers_after (ticks : List ConflictTick) :
    Remembers ((conflictMonitor bus).trace ticks) ((conflictMonitor bus).after ticks) := by
  refine (conflictMonitor bus).trace_invariant Remembers ⟨rfl, rfl, rfl, rfl⟩ ?_ ticks
  intro trace s tick h
  show Remembers (trace ++ (s.step bus tick).2) (s.step bus tick).1
  by_cases hdue : timeExpiredMs (timestampMs (s.clockMs + tick.elapsedMs)) s.lastConflictCheck
      conflictCheckMs = true
  · obtain ⟨⟨hdetected, hactive, _⟩, hverdict, _, hmessage, hresolved⟩ :=
      s.step_due bus tick h.detected h.active hdue
    constructor
    · rw [List.filterMap_append, hverdict, lastSent_concat, hdetected]
    · rw [List.filterMap_append, hverdict, lastSent_concat, hactive]
    · rw [List.filterMap_append, List.filterMap_append, hverdict, reminders_concat, List.map_append,
        h.messages, hmessage]
    · rw [List.countP_append, List.filterMap_append, hverdict, reminders_concat, List.count_append,
        h.resolved, hresolved]
  · rw [ConflictMonitor.step, if_neg hdue, List.append_nil]
    exact ⟨h.detected, h.active, h.messages, h.resolved⟩

private theorem conflict_replay :
    Machine.Replay (conflictMonitor bus) (gate (2 ^ 32) conflictCheckMs)
      (fun s g => Stamped s.lastConflictCheck s.clockMs g ∧
        s.tcAddressConflictActive = s.conflictDetected) ConflictTick.looks ConflictOutput.pass? where
  init := ⟨Stamped.init, rfl⟩
  step s g tick h := by
    obtain ⟨hstamped, hsame⟩ := h
    obtain ⟨hnext, htrace⟩ := hstamped.look conflictCheckMs tick.elapsedMs true
      (tick.warnGateMs + tick.warnMs + tick.restMs) true 0
    simp only [Bool.true_and, Bool.and_true] at hnext htrace
    rw [ConflictTick.looks, htrace]
    show (Stamped (s.step bus tick).1.lastConflictCheck (s.step bus tick).1.clockMs _ ∧
        (s.step bus tick).1.tcAddressConflictActive = (s.step bus tick).1.conflictDetected) ∧
      (s.step bus tick).2.filterMap ConflictOutput.pass? = _
    by_cases hdue : timeExpiredMs (timestampMs (s.clockMs + tick.elapsedMs)) s.lastConflictCheck
        conflictCheckMs = true
    · obtain ⟨⟨hdetected, hactive, hstamp, hclock⟩, _, hpass, _⟩ :=
        s.step_due bus tick rfl hsame hdue
      rw [if_pos hdue] at hnext
      rw [if_pos hdue, hpass, hstamp, hclock]
      exact ⟨⟨hnext, hactive.trans hdetected.symm⟩, rfl⟩
    · rw [if_neg hdue] at hnext
      rw [if_neg hdue, ConflictMonitor.step, if_neg hdue]
      exact ⟨⟨hnext, hsame⟩, rfl⟩

private theorem filterMap_warned_conflictWarning {ourTC : Option BusControlFunction}
    {allCFs : List BusControlFunction} (h : (conflictingTC bus ourTC allCFs).isSome = true)
    (openedMs closedMs : Nat) :
    (conflictWarning (conflictingTC bus ourTC allCFs) ourTC openedMs closedMs).filterMap
      ConflictOutput.warned? = [⟨openedMs, closedMs, true⟩] := by
  obtain ⟨cf, hcf⟩ := Option.isSome_iff_exists.mp h
  cases ourTC with
  | none => cases hcf
  | some our =>
      rw [hcf]
      rfl

private theorem ConflictMonitor.step_warned (s : ConflictMonitor) (tick : ConflictTick)
    (hdue : timeExpiredMs (timestampMs (s.clockMs + tick.elapsedMs)) s.lastConflictCheck
      conflictCheckMs = true) :
    let openedMs := s.clockMs + tick.elapsedMs + tick.warnGateMs
    let warns := (conflictingTC bus tick.ourTC tick.allCFs).isSome &&
      timeExpiredMs (timestampMs openedMs) s.lastWarnTime conflictWarnMs
    let x := s.step bus tick
    x.2.filterMap ConflictOutput.warned? =
        (if warns then [⟨openedMs, openedMs + tick.warnMs, true⟩] else []) ∧
      x.1.lastWarnTime = (if warns then timestampMs (openedMs + tick.warnMs) else s.lastWarnTime) ∧
      x.1.clockMs = openedMs + tick.warnMs + tick.restMs := by
  simp only [step, hdue, if_true, checkTcAddressConflict]
  refine ⟨?_, trivial, by omega⟩
  by_cases hother : (conflictingTC bus tick.ourTC tick.allCFs).isSome = true
  · have hwarning := filterMap_warned_conflictWarning bus hother
    cases timeExpiredMs (timestampMs (s.clockMs + tick.elapsedMs + tick.warnGateMs)) s.lastWarnTime
        conflictWarnMs <;>
      simp [hother, hwarning, List.filterMap_cons, ConflictOutput.warned?]
  · cases s.conflictDetected <;> cases s.tcAddressConflictActive <;>
      simp [hother, List.filterMap_cons, ConflictOutput.warned?]

private theorem warned_paced (ticks : List ConflictTick) :
    PacedBy conflictWarnMs (((conflictMonitor bus).trace ticks).filterMap ConflictOutput.warned?)
      ((conflictMonitor bus).after ticks).lastWarnTime ((conflictMonitor bus).after ticks).clockMs := by
  refine (conflictMonitor bus).trace_invariant (fun trace s => PacedBy conflictWarnMs
    (trace.filterMap ConflictOutput.warned?) s.lastWarnTime s.clockMs) ?_ ?_ ticks
  · exact PacedBy.init conflictWarnMs
  · intro trace s tick h
    show PacedBy conflictWarnMs ((trace ++ (s.step bus tick).2).filterMap ConflictOutput.warned?)
      (s.step bus tick).1.lastWarnTime (s.step bus tick).1.clockMs
    rw [List.filterMap_append]
    have hlook : PacedBy conflictWarnMs (trace.filterMap ConflictOutput.warned?) s.lastWarnTime
        (s.clockMs + tick.elapsedMs + tick.warnGateMs) := h.wait (by omega)
    by_cases hdue : timeExpiredMs (timestampMs (s.clockMs + tick.elapsedMs)) s.lastConflictCheck
        conflictCheckMs = true
    · obtain ⟨hwarned, hlast, hclock⟩ := s.step_warned bus tick hdue
      rw [hwarned, hlast, hclock]
      split
      next hwarns =>
        exact (hlook.pass (Bool.and_eq_true_iff.mp hwarns).2 (Nat.le_add_right _ _)).wait (by omega)
      next =>
        rw [List.append_nil]
        exact hlook.wait (by omega)
    · rw [ConflictMonitor.step, if_neg hdue]
      simpa only [List.filterMap_nil, List.append_nil] using h.wait (by omega)

structure ConflictRule (ticks : List ConflictTick) : Prop where
  period : KeepsPeriod (2 ^ 32) conflictCheckMs (ticks.flatMap ConflictTick.looks)
    (((conflictMonitor bus).trace ticks).filterMap ConflictOutput.pass?)
  /-- A look that finds a conflict has found a task controller, not our own, where ours is not. -/
  sound : ∀ pre tick, pre ++ [tick] <+: ticks → ∀ openedMs closedMs conflictActive,
    .checked openedMs closedMs conflictActive ∈
        ((conflictMonitor bus).step ((conflictMonitor bus).after pre) tick).2 →
      (conflictActive = true ↔ ∃ our ∈ tick.ourTC, our.holdsPreferred bus = false ∧
        ∃ cf ∈ tick.allCFs, cf.holdsPreferred bus = true ∧ cf.handle ≠ our.handle ∧
          cf.functionCode = bus.taskControllerFunction)
  /-- The operator is reminded at each look that finds one, and told once that it is over. -/
  told : edges conflictResolvedMessage (conflictMessages bus ticks) =
    (edges false (verdicts bus ticks)).map verdictMessage
  reminded : (conflictMessages bus ticks).count conflictMessage = (verdicts bus ticks).count true
  toldOnce : (conflictMessages bus ticks).count conflictResolvedMessage =
    (edges false (verdicts bus ticks)).count false
  /-- The log says that it is over as often as the operator is told. -/
  logged : ((conflictMonitor bus).trace ticks).countP ConflictOutput.isResolved =
    (conflictMessages bus ticks).count conflictResolvedMessage
  warnedApart : (((conflictMonitor bus).trace ticks).filterMap ConflictOutput.warned?).Pairwise
    (Pass.Apart conflictWarnMs)

private theorem verdictMessage_injective : Function.Injective verdictMessage := by
  intro first second
  revert first second
  decide

private theorem conflictingTC_isSome_iff (ourTC : Option BusControlFunction)
    (allCFs : List BusControlFunction) :
    (conflictingTC bus ourTC allCFs).isSome = true ↔
      ∃ our ∈ ourTC, our.holdsPreferred bus = false ∧
        ∃ cf ∈ allCFs, cf.holdsPreferred bus = true ∧ cf.handle ≠ our.handle ∧
          cf.functionCode = bus.taskControllerFunction := by
  cases ourTC with
  | none => simp [conflictingTC]
  | some our =>
      simp only [conflictingTC]
      cases hpreferred : our.holdsPreferred bus with
      | true => simp [hpreferred]
      | false => simp [hpreferred, and_assoc]

theorem conflictRule (ticks : List ConflictTick) : ConflictRule bus ticks := by
  have hremembers := remembers_after bus ticks
  have hcount (verdict : Bool) : (conflictMessages bus ticks).count (verdictMessage verdict) =
      (reminders false (verdicts bus ticks)).count verdict := by
    rw [conflictMessages, hremembers.messages]
    exact List.count_map_of_injective _ _ verdictMessage_injective verdict
  constructor
  case period =>
    rw [(conflict_replay bus).trace]
    exact gate_keepsPeriod (by decide) _
  case sound =>
    intro pre tick _ openedMs closedMs conflictActive hmem
    rw [← conflictingTC_isSome_iff]
    have hbefore := remembers_after bus pre
    generalize (conflictMonitor bus).after pre = s at hbefore hmem
    by_cases hdue : timeExpiredMs (timestampMs (s.clockMs + tick.elapsedMs)) s.lastConflictCheck
        conflictCheckMs = true
    · obtain ⟨_, hverdict, _⟩ := s.step_due bus tick hbefore.detected hbefore.active hdue
      have hfound : conflictActive ∈ (s.step bus tick).2.filterMap ConflictOutput.verdict? :=
        List.mem_filterMap.mpr ⟨_, hmem, rfl⟩
      rw [hverdict] at hfound
      rw [List.mem_singleton.mp hfound]
    · simp only [conflictMonitor, ConflictMonitor.step, if_neg hdue] at hmem
      cases hmem
  case told =>
    rw [conflictMessages, hremembers.messages, ← edges_reminders]
    exact edges_map verdictMessage_injective false _
  case reminded => exact (hcount true).trans (count_true_reminders _ _)
  case toldOnce => exact (hcount false).trans (count_false_reminders _ _)
  case logged => exact hremembers.resolved.trans (hcount false).symm
  case warnedApart =>
    obtain ⟨g, _, hpaced⟩ := warned_paced bus ticks
    exact hpaced.apart

end AogTaskController.Application
