import AogTaskController.Application.DemandDescription
import AogTaskController.Application.PeriodicTransmits
import AogTaskController.Framework.Edges

/-!
# The log of the section demand

AgOpenGPS sends its section states with every frame. The log gets a line when they have changed, at
most every 200 ms, with the number of changes in between. A demand that has come back to what the log
says already gets none, and its changes are forgotten.
-/

namespace AogTaskController.Application

open Framework TaskController Udp

def sectionDemandLogIntervalMs : Nat := 200

/-- A packet arrives or `log_section_demand` is called, some time after the previous event. The line
takes `lineMs`. -/
inductive DemandLogEvent
  | packet (elapsedMs : Nat) (packet : Packet)
  | update (elapsedMs : Nat) (clients : List ClientState) (lineMs : Nat)

structure DemandPass where
  openedMs : Nat
  closedMs : Nat
  demand : List Bool
  /-- `sectionDemandChangesSinceLog` -/
  changes : BitVec 32
  numberOfSections : UInt8
  logged : Bool

structure DemandLog where
  clockMs : Nat := 0
  sectionDemand : List Bool := []
  loggedSectionDemand : List Bool := []
  sectionDemandChangesSinceLog : BitVec 32 := 0
  lastSectionDemandLogMs : BitVec 32 := 0

def DemandPass.line (pass : DemandPass) : Option String :=
  if pass.logged then
    some ("Section demand (PGN 229): " ++ describeSectionDemand pass.demand pass.numberOfSections ++
      if 1 < pass.changes then
        " (" ++ toString (pass.changes - 1).toNat ++ " intermediate changes not logged)"
      else "")
  else none

def maxNumberOfSections (clients : List ClientState) : UInt8 :=
  clients.foldl (fun numberOfSections st => max numberOfSections (.ofNat st.numberOfSections)) 0

namespace DemandLog

def sectionStates? : DemandLogEvent → Option (List Bool)
  | .packet _ packet =>
      match decodePacket packet with
      | some (.sectionStates states) => some states
      | _ => none
  | .update _ _ _ => none

/-- The branch of the packet handler for 0xE5. -/
def receive (s : DemandLog) (sectionStates : List Bool) : DemandLog :=
  if sectionStates ≠ s.sectionDemand then
    { s with
      sectionDemand := sectionStates
      sectionDemandChangesSinceLog := s.sectionDemandChangesSinceLog + 1 }
  else s

def logSectionDemand (s : DemandLog) (clients : List ClientState) (nowMs closedMs : Nat) :
    DemandLog × List DemandPass :=
  if s.sectionDemandChangesSinceLog = 0 ∨
      timeExpiredMs (timestampMs nowMs) s.lastSectionDemandLogMs sectionDemandLogIntervalMs = false then
    ({ s with clockMs := closedMs }, [])
  else
    ({ clockMs := closedMs
       sectionDemand := s.sectionDemand
       loggedSectionDemand := s.sectionDemand
       sectionDemandChangesSinceLog := 0
       lastSectionDemandLogMs := timestampMs closedMs },
      [{ openedMs := nowMs
         closedMs
         demand := s.sectionDemand
         changes := s.sectionDemandChangesSinceLog
         numberOfSections := maxNumberOfSections clients
         logged := s.sectionDemand != s.loggedSectionDemand }])

def step (s : DemandLog) (event : DemandLogEvent) : DemandLog × List DemandPass :=
  match event with
  | .packet elapsedMs _ =>
      let s := { s with clockMs := s.clockMs + elapsedMs }
      match sectionStates? event with
      | some states => (s.receive states, [])
      | none => (s, [])
  | .update elapsedMs clients lineMs =>
      s.logSectionDemand clients (s.clockMs + elapsedMs) (s.clockMs + elapsedMs + lineMs)

end DemandLog

def demandLog : Machine DemandLog DemandLogEvent DemandPass where
  init := {}
  step := DemandLog.step

/-! What AgOpenGPS has demanded, from the packets alone. -/

def demands (events : List DemandLogEvent) : List (List Bool) :=
  events.filterMap DemandLog.sectionStates?

def currentDemand (events : List DemandLogEvent) : List Bool := lastSent [] (demands events)

def changeCount (events : List DemandLogEvent) : Nat := (edges [] (demands events)).length

def DemandPass.pass (pass : DemandPass) : Pass := ⟨pass.openedMs, pass.closedMs, true⟩

structure LogsDemand (events : List DemandLogEvent) (passes : List DemandPass) (s : DemandLog) : Prop where
  current : s.sectionDemand = currentDemand events
  logged : s.loggedSectionDemand = lastSent [] (passes.map (·.demand))
  /-- Every change is pending or belongs to a pass. -/
  accounted : changeCount events =
    (passes.map (·.changes.toNat)).sum + s.sectionDemandChangesSinceLog.toNat
  settled : s.sectionDemandChangesSinceLog = 0 → s.loggedSectionDemand = s.sectionDemand
  lines : (passes.filter (·.logged)).map (·.demand) = edges [] (passes.map (·.demand))
  paced : PacedBy sectionDemandLogIntervalMs (passes.map DemandPass.pass) s.lastSectionDemandLogMs
    s.clockMs

private theorem changeCount_snoc_none (events : List DemandLogEvent) {event : DemandLogEvent}
    (h : DemandLog.sectionStates? event = none) :
    currentDemand (events ++ [event]) = currentDemand events ∧
      changeCount (events ++ [event]) = changeCount events := by
  have hdemands : demands (events ++ [event]) = demands events := by
    simp [demands, h]
  rw [currentDemand, changeCount, hdemands]
  exact ⟨rfl, rfl⟩

private theorem changeCount_snoc_some (events : List DemandLogEvent) {event : DemandLogEvent}
    {states : List Bool} (h : DemandLog.sectionStates? event = some states) :
    currentDemand (events ++ [event]) = states ∧
      changeCount (events ++ [event]) =
        changeCount events + if states = currentDemand events then 0 else 1 := by
  have hdemands : demands (events ++ [event]) = demands events ++ [states] := by
    simp [demands, h]
  rw [currentDemand, changeCount, hdemands, lastSent_concat, edges_concat, List.length_append,
    ← currentDemand, ← changeCount]
  refine ⟨rfl, ?_⟩
  split <;> rfl

theorem LogsDemand.wait {events : List DemandLogEvent} {passes : List DemandPass} {s : DemandLog}
    (h : LogsDemand events passes s) {event : DemandLogEvent}
    (hevent : DemandLog.sectionStates? event = none) {nowMs : Nat} (hnow : s.clockMs ≤ nowMs) :
    LogsDemand (events ++ [event]) passes { s with clockMs := nowMs } := by
  obtain ⟨hcurrent, hcount⟩ := changeCount_snoc_none events hevent
  exact ⟨hcurrent ▸ h.current, h.logged, hcount ▸ h.accounted, h.settled, h.lines,
    h.paced.wait hnow⟩

theorem LogsDemand.receive {events : List DemandLogEvent} {passes : List DemandPass} {s : DemandLog}
    (h : LogsDemand events passes s) {event : DemandLogEvent} {states : List Bool}
    (hevent : DemandLog.sectionStates? event = some states)
    (hcount : changeCount (events ++ [event]) < 2 ^ 32) (elapsedMs : Nat) :
    LogsDemand (events ++ [event]) passes
      ({ s with clockMs := s.clockMs + elapsedMs }.receive states) := by
  have hpaced := h.paced.wait (Nat.le_add_right s.clockMs elapsedMs)
  have haccounted := h.accounted
  obtain ⟨hcurrent, hchanges⟩ := changeCount_snoc_some events hevent
  rw [← h.current] at hchanges
  rw [DemandLog.receive]
  by_cases hsame : states = s.sectionDemand
  · rw [if_neg (not_not_intro hsame)]
    rw [if_pos hsame, Nat.add_zero] at hchanges
    exact ⟨hsame.symm.trans hcurrent.symm, h.logged, hchanges ▸ haccounted, h.settled, h.lines, hpaced⟩
  · rw [if_pos hsame]
    rw [if_neg hsame] at hchanges
    have hpending : (s.sectionDemandChangesSinceLog + 1).toNat =
        s.sectionDemandChangesSinceLog.toNat + 1 := by
      rw [BitVec.toNat_add]
      exact Nat.mod_eq_of_lt (by show _ + 1 < 2 ^ 32; omega)
    constructor
    case current => exact hcurrent.symm
    case logged => exact h.logged
    case accounted =>
      show _ = _ + (s.sectionDemandChangesSinceLog + 1).toNat
      omega
    case settled =>
      intro hzero
      rw [show s.sectionDemandChangesSinceLog + 1 = 0 from hzero] at hpending
      cases hpending
    case lines => exact h.lines
    case paced => exact hpaced

theorem LogsDemand.update {events : List DemandLogEvent} {passes : List DemandPass} {s : DemandLog}
    (h : LogsDemand events passes s) (elapsedMs : Nat) (clients : List ClientState) (lineMs : Nat) :
    let x := s.step (.update elapsedMs clients lineMs)
    LogsDemand (events ++ [.update elapsedMs clients lineMs]) (passes ++ x.2) x.1 := by
  have hupdate : DemandLog.sectionStates? (.update elapsedMs clients lineMs) = none := rfl
  simp only [DemandLog.step, DemandLog.logSectionDemand]
  split
  next =>
    rw [List.append_nil]
    exact h.wait hupdate (by omega)
  next hdue =>
    obtain ⟨hcurrent, hcount⟩ := changeCount_snoc_none events hupdate
    obtain ⟨_, hexpired⟩ := not_or.mp hdue
    have haccounted := h.accounted
    constructor
    case current => exact hcurrent ▸ h.current
    case logged => rw [List.map_append, List.map_singleton, lastSent_concat]
    case accounted =>
      rw [hcount, List.map_append, List.sum_append, haccounted]
      simp
    case settled => exact fun _ => rfl
    case lines =>
      rw [List.map_append, List.map_singleton, edges_concat, ← h.lines, ← h.logged,
        List.filter_append, List.map_append]
      by_cases hsame : s.sectionDemand = s.loggedSectionDemand <;> simp [hsame]
    case paced =>
      rw [List.map_append, List.map_singleton]
      have hlook := h.paced.wait (Nat.le_add_right s.clockMs elapsedMs)
      exact hlook.pass (Bool.eq_true_of_not_eq_false hexpired) (Nat.le_add_right _ _)

theorem LogsDemand.step {events : List DemandLogEvent} {passes : List DemandPass} {s : DemandLog}
    (h : LogsDemand events passes s) (event : DemandLogEvent)
    (hcount : changeCount (events ++ [event]) < 2 ^ 32) :
    LogsDemand (events ++ [event]) (passes ++ (s.step event).2) (s.step event).1 := by
  cases event with
  | update elapsedMs clients lineMs => exact h.update elapsedMs clients lineMs
  | packet elapsedMs packet =>
      rw [DemandLog.step]
      cases hevent : DemandLog.sectionStates? (.packet elapsedMs packet) with
      | none =>
          simp only [List.append_nil]
          exact h.wait hevent (Nat.le_add_right _ _)
      | some states =>
          simp only [List.append_nil]
          exact h.receive hevent hcount elapsedMs

private theorem changeCount_mono {pre events : List DemandLogEvent} (h : pre <+: events) :
    changeCount pre ≤ changeCount events := by
  obtain ⟨rest, rfl⟩ := h
  induction rest using List.reverseRecOn with
  | nil => rw [List.append_nil]
  | append_singleton rest event ih =>
      rw [← List.append_assoc]
      refine ih.trans ?_
      cases hevent : DemandLog.sectionStates? event with
      | none => rw [(changeCount_snoc_none _ hevent).2]
      | some states =>
          rw [(changeCount_snoc_some _ hevent).2]
          exact Nat.le_add_right _ _

private theorem logsDemand_after {events : List DemandLogEvent}
    (hcount : changeCount events < 2 ^ 32) :
    LogsDemand events (demandLog.trace events) (demandLog.after events) := by
  induction events using List.reverseRecOn with
  | nil => exact ⟨rfl, rfl, rfl, fun _ => rfl, rfl, PacedBy.init sectionDemandLogIntervalMs⟩
  | append_singleton events event ih =>
      have hbefore := changeCount_mono (List.prefix_append events [event])
      rw [Machine.after_snoc, Machine.trace_snoc]
      exact (ih (Nat.lt_of_le_of_lt hbefore hcount)).step event hcount

def lastLogged (events : List DemandLogEvent) : List Bool :=
  lastSent [] (((demandLog.trace events).filter (·.logged)).map (·.demand))

structure LogRule (events : List DemandLogEvent) : Prop where
  apart : ((demandLog.trace events).map DemandPass.pass).Pairwise
    (Pass.Apart sectionDemandLogIntervalMs)
  /-- A pass is about the demand at hand and tells the changes since the pass before it. It leads to
  a line if and only if the last line is about another demand. -/
  pass : ∀ pre event, pre ++ [event] <+: events →
    ∀ pass ∈ (demandLog.step (demandLog.after pre) event).2,
      pass.demand = currentDemand pre ∧
      pass.changes.toNat + ((demandLog.trace pre).map (·.changes.toNat)).sum = changeCount pre ∧
      pass.changes ≠ 0 ∧ (pass.logged = true ↔ pass.demand ≠ lastLogged pre)
  /-- Every change is pending or told by one pass, with a line or without. -/
  accounted : ∀ pre, pre <+: events →
    changeCount pre = ((demandLog.trace pre).map (·.changes.toNat)).sum +
      (demandLog.after pre).sectionDemandChangesSinceLog.toNat
  settled : ∀ pre, pre <+: events →
    (demandLog.after pre).sectionDemandChangesSinceLog = 0 → lastLogged pre = currentDemand pre
  /-- Behind every call, the last line is about the demand at hand, unless the last pass looks less
  than 200 ms old. -/
  upToDate : ∀ pre elapsedMs clients lineMs,
    pre ++ [.update elapsedMs clients lineMs] <+: events →
      lastLogged (pre ++ [.update elapsedMs clients lineMs]) = currentDemand pre ∨
        ((demandLog.after pre).clockMs + elapsedMs -
            lastStamp 0 ((demandLog.trace pre).map DemandPass.pass)) % 2 ^ 32 <
          sectionDemandLogIntervalMs

private theorem LogsDemand.lastLogged_eq {events : List DemandLogEvent}
    (h : LogsDemand events (demandLog.trace events) (demandLog.after events)) :
    lastLogged events = (demandLog.after events).loggedSectionDemand := by
  rw [lastLogged, h.lines, lastSent_edges, h.logged]

private theorem mem_logSectionDemand {s : DemandLog} {event : DemandLogEvent} {pass : DemandPass}
    (h : pass ∈ (demandLog.step s event).2) :
    pass.demand = s.sectionDemand ∧ pass.changes = s.sectionDemandChangesSinceLog ∧
      s.sectionDemandChangesSinceLog ≠ 0 ∧
      (pass.logged = true ↔ s.sectionDemand ≠ s.loggedSectionDemand) := by
  cases event with
  | packet elapsedMs packet =>
      simp only [demandLog, DemandLog.step] at h
      split at h <;> cases h
  | update elapsedMs clients lineMs =>
      simp only [demandLog, DemandLog.step, DemandLog.logSectionDemand] at h
      split at h
      next => cases h
      next hdue =>
        obtain rfl := List.mem_singleton.mp h
        exact ⟨rfl, rfl, (not_or.mp hdue).1, bne_iff_ne⟩

private theorem LogsDemand.upToDate {events : List DemandLogEvent} {passes : List DemandPass}
    {s : DemandLog}
    (h : LogsDemand events passes s) (elapsedMs : Nat) (clients : List ClientState) (lineMs : Nat) :
    (s.step (.update elapsedMs clients lineMs)).1.loggedSectionDemand = s.sectionDemand ∨
      (s.clockMs + elapsedMs - lastStamp 0 (passes.map DemandPass.pass)) % 2 ^ 32 <
        sectionDemandLogIntervalMs := by
  simp only [DemandLog.step, DemandLog.logSectionDemand]
  split
  next hidle =>
    rcases hidle with hzero | hyoung
    · exact .inl (h.settled hzero)
    · right
      obtain ⟨g, hstamped, hpaced⟩ := h.paced
      have hlook := hstamped.wait elapsedMs
      rw [← hlook.isOpen_eq, Gate.isOpen, decide_eq_false_iff_not, Nat.not_le] at hyoung
      rwa [← hpaced.last, ← hstamped.clock]
  next => exact .inl rfl

/-- In every run with fewer than 2^32 changes of the demand, the log follows its rule. -/
theorem sectionDemand_logRule (events : List DemandLogEvent) (hcount : changeCount events < 2 ^ 32) :
    LogRule events := by
  have hbefore {pre : List DemandLogEvent} (hpre : pre <+: events) :
      LogsDemand pre (demandLog.trace pre) (demandLog.after pre) :=
    logsDemand_after (Nat.lt_of_le_of_lt (changeCount_mono hpre) hcount)
  have hall := hbefore List.prefix_rfl
  constructor
  case apart =>
    obtain ⟨g, _, hpaced⟩ := hall.paced
    exact hpaced.apart
  case pass =>
    intro pre event hpre pass hpass
    have hstart := hbefore ((List.prefix_append pre [event]).trans hpre)
    obtain ⟨hdemand, hchanges, hpending, hlogged⟩ := mem_logSectionDemand hpass
    have haccounted := hstart.accounted
    rw [hdemand, hchanges, hlogged, hstart.lastLogged_eq, ← hstart.current]
    exact ⟨rfl, by omega, hpending, Iff.rfl⟩
  case accounted =>
    intro pre hpre
    exact (hbefore hpre).accounted
  case settled =>
    intro pre hpre hzero
    have hstart := hbefore hpre
    rw [hstart.lastLogged_eq, ← hstart.current]
    exact hstart.settled hzero
  case upToDate =>
    intro pre elapsedMs clients lineMs hpre
    have hstart := hbefore ((List.prefix_append pre _).trans hpre)
    rw [(hbefore hpre).lastLogged_eq, ← hstart.current, Machine.after_snoc]
    exact hstart.upToDate elapsedMs clients lineMs

/-- Two changes and a line, then two that lead back to the demand of that line. -/
def thereAndBack : List DemandLogEvent :=
  [.packet 300 ⟨0x7F, 0xE5, [1, 0, 0, 0, 0, 0, 0, 0]⟩, .packet 50 ⟨0x7F, 0xE5, [3, 0, 0, 0, 0, 0, 0, 0]⟩,
    .update 10 [] 1,
    .packet 300 ⟨0x7F, 0xE5, [1, 0, 0, 0, 0, 0, 0, 0]⟩, .packet 50 ⟨0x7F, 0xE5, [3, 0, 0, 0, 0, 0, 0, 0]⟩,
    .update 10 [] 1]

theorem thereAndBack_logRule :
    LogRule thereAndBack ∧ (demandLog.trace thereAndBack).map DemandPass.line =
      [some "Section demand (PGN 229): 2 on: 1-2 (1 intermediate changes not logged)", none] :=
  ⟨sectionDemand_logRule thereAndBack (by decide +kernel), by decide +kernel⟩

end AogTaskController.Application
