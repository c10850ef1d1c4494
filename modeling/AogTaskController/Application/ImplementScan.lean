import AogTaskController.Application.HardwareMessage
import AogTaskController.Application.ImplementDetails
import AogTaskController.Application.PeriodicTransmits
import AogTaskController.Framework.Announcements

/-!
# The scan for implements

Once a second the clients with sections are compared with those of the scan before, by their NAMEs.
The operator is told who is new, and who is gone, by the name it was known by.
-/

namespace AogTaskController.Application

open Framework TaskController

structure ImplementSnapshot where
  displayName : Bytes
  sections : UInt8 := 0
  widthText : Bytes
  deriving DecidableEq

def ImplementDetails.snapshot (details : ImplementDetails) : ImplementSnapshot where
  displayName := details.displayName
  sections := details.sections
  widthText := details.widthText

abbrev Implements := Std.ExtTreeMap Nat ImplementSnapshot

def implementScanIntervalMs : Nat := 1000

structure HardwareText where
  text : Bytes
  duration : UInt8
  color : UInt8
  deriving DecidableEq

def hwMsgAlert : UInt8 := 0

def hwMsgInfo : UInt8 := 1

def implementMessage : Announcement Nat ImplementSnapshot → HardwareText
  | .appeared _ implement =>
      { text := ascii "Implement: " ++ implement.displayName ++ ascii " (" ++
          number implement.sections.toNat ++ ascii " sections" ++
          (if implement.widthText.isEmpty then [] else ascii ", " ++ implement.widthText ++ ascii " m") ++
          ascii ")"
        duration := 5
        color := hwMsgInfo }
  | .disappeared _ implement =>
      { text := ascii "Implement lost: " ++ implement.displayName
        duration := 10
        color := hwMsgAlert }

/-- `update` comes to the scan. The clients are given by their NAMEs and what is shown of them. -/
structure ScanEvent where
  elapsedMs : Nat
  clients : List (Nat × ImplementDetails)
  workMs : Nat := 0

structure ImplementScan where
  openedMs : Nat
  closedMs : Nat
  found : Implements
  announced : List (Announcement Nat ImplementSnapshot)

structure ImplementScanner where
  clockMs : Nat := 0
  lastImplementScanMs : BitVec 32 := 0
  implementSnapshots : Implements := ∅

/-- `currentImplementSnapshots`: of clients with the same NAME the last one counts. -/
def currentImplementSnapshots (clients : List (Nat × ImplementDetails)) : Implements :=
  clients.foldl (fun found client =>
    if 0 < client.2.sections then found.insert client.1 client.2.snapshot else found) ∅

def ImplementScanner.step (s : ImplementScanner) (event : ScanEvent) :
    ImplementScanner × List ImplementScan :=
  let nowMs := s.clockMs + event.elapsedMs
  let closedMs := nowMs + event.workMs
  if timeExpiredMs (timestampMs nowMs) s.lastImplementScanMs implementScanIntervalMs then
    let current := currentImplementSnapshots event.clients
    ({ clockMs := closedMs
       lastImplementScanMs := timestampMs closedMs
       implementSnapshots := current },
      [⟨nowMs, closedMs, current, announce s.implementSnapshots current⟩])
  else ({ s with clockMs := closedMs }, [])

def implementScanner : Machine ImplementScanner ScanEvent ImplementScan where
  init := {}
  step := ImplementScanner.step

def ScanEvent.looks (event : ScanEvent) : List GateEvent :=
  look event.elapsedMs true event.workMs true 0

def ImplementScan.pass (scan : ImplementScan) : Pass := ⟨scan.openedMs, scan.closedMs, true⟩

def implementMessages (events : List ScanEvent) : List HardwareText :=
  ((implementScanner.trace events).flatMap (·.announced)).map implementMessage

private theorem contains_currentImplementSnapshots (clients : List (Nat × ImplementDetails))
    (name : Nat) :
    (currentImplementSnapshots clients).contains name =
      clients.any fun client => client.1 == name && decide (0 < client.2.sections) := by
  induction clients using List.reverseRecOn with
  | nil => exact Std.ExtTreeMap.contains_empty
  | append_singleton clients client ih =>
      rw [currentImplementSnapshots, List.foldl_append, ← currentImplementSnapshots, List.any_append]
      simp only [List.foldl_cons, List.foldl_nil, List.any_cons, List.any_nil, Bool.or_false]
      split
      next hsections =>
        rw [Std.ExtTreeMap.contains_insert, ih, Bool.or_comm, decide_eq_true hsections, Bool.and_true]
        congr 1
        rw [Bool.eq_iff_iff, beq_iff_eq, beq_iff_eq, compare_eq_iff_eq]
      next hsections => rw [ih, decide_eq_false hsections, Bool.and_false, Bool.or_false]

private theorem scan_replay :
    Machine.Replay implementScanner (gate (2 ^ 32) implementScanIntervalMs)
      (fun s g => Stamped s.lastImplementScanMs s.clockMs g) ScanEvent.looks
      (fun scan => some scan.pass) where
  init := Stamped.init
  step s g event h := by
    obtain ⟨hstamped, htrace⟩ := h.look implementScanIntervalMs event.elapsedMs true event.workMs true 0
    simp only [Bool.true_and, Bool.and_true] at hstamped htrace
    simp only [implementScanner, ImplementScanner.step, ScanEvent.looks]
    rw [htrace]
    split
    next hdue => exact ⟨by rwa [if_pos hdue] at hstamped, rfl⟩
    next hdue => exact ⟨by rwa [if_neg hdue] at hstamped, rfl⟩

/-- The scans announce the differences between what they find. -/
private theorem announced_eq (events : List ScanEvent) :
    (implementScanner.trace events).flatMap (·.announced) =
        announcements ∅ ((implementScanner.trace events).map (·.found)) ∧
      (implementScanner.after events).implementSnapshots =
        lastSent ∅ ((implementScanner.trace events).map (·.found)) := by
  refine implementScanner.trace_invariant (fun scans s =>
    scans.flatMap (·.announced) = announcements ∅ (scans.map (·.found)) ∧
      s.implementSnapshots = lastSent ∅ (scans.map (·.found))) ⟨rfl, rfl⟩ ?_ events
  intro scans s event h
  obtain ⟨hannounced, hsnapshots⟩ := h
  simp only [implementScanner, ImplementScanner.step]
  split
  · rw [List.map_append, List.map_singleton, List.flatMap_append, List.flatMap_singleton,
      announcements_concat, hannounced, hsnapshots, lastSent_concat]
    exact ⟨rfl, rfl⟩
  · rw [List.append_nil]
    exact ⟨hannounced, hsnapshots⟩

structure ScanRule (events : List ScanEvent) : Prop where
  /-- About each NAME, the operator is told whenever it comes or goes between two scans: that it is
  there, then that it is gone, and so on in turn. -/
  edges : ∀ name : Nat,
    ((implementScanner.trace events).flatMap (·.announced)).filterMap (·.about name) =
      edges false ((implementScanner.trace events).map (·.found.contains name))
  /-- A scan finds the NAMEs of the clients that have sections. -/
  found : ∀ pre event, pre ++ [event] <+: events →
    ∀ scan ∈ (implementScanner.step (implementScanner.after pre) event).2, ∀ name : Nat,
      scan.found.contains name = event.clients.any fun client =>
        client.1 == name && decide (0 < client.2.sections)
  /-- Who is gone is called what the scan before has found. -/
  known : ∀ pre event, pre ++ [event] <+: events →
    ∀ scan ∈ (implementScanner.step (implementScanner.after pre) event).2, ∀ name implement,
      .disappeared name implement ∈ scan.announced →
        (lastSent ∅ ((implementScanner.trace pre).map (·.found)))[name]? = some implement
  period : KeepsPeriod (2 ^ 32) implementScanIntervalMs (events.flatMap ScanEvent.looks)
    ((implementScanner.trace events).map ImplementScan.pass)

private theorem mem_implementScanner_step {s : ImplementScanner} {event : ScanEvent}
    {scan : ImplementScan}
    (h : scan ∈ (implementScanner.step s event).2) :
    scan.found = currentImplementSnapshots event.clients ∧
      scan.announced = announce s.implementSnapshots (currentImplementSnapshots event.clients) := by
  simp only [implementScanner, ImplementScanner.step] at h
  split at h
  · obtain rfl := List.mem_singleton.mp h
    exact ⟨rfl, rfl⟩
  · cases h

/-- Every run follows the rule. -/
theorem implementScan_rule (events : List ScanEvent) : ScanRule events where
  edges name := by
    rw [(announced_eq events).1, filterMap_about_announcements, List.map_map]
    rw [Std.ExtTreeMap.contains_empty]
    rfl
  found pre event _ scan hscan name := by
    rw [(mem_implementScanner_step hscan).1, contains_currentImplementSnapshots]
  known pre event _ scan hscan name implement hgone := by
    rw [(mem_implementScanner_step hscan).2] at hgone
    rw [← (announced_eq pre).2]
    exact (getElem?_of_mem_announce.2 hgone).1
  period := by
    have htrace := scan_replay.trace events
    rw [List.filterMap_eq_map'] at htrace
    rw [htrace]
    exact gate_keepsPeriod (by decide) _

example : (implementMessages
    [⟨5000, [(7, { displayName := ascii "Sprayer", sections := 3, widthText := ascii "3.75" })], 0⟩,
      ⟨1000, [], 0⟩]).map (·.text) =
      [ascii "Implement: Sprayer (3 sections, 3.75 m)", ascii "Implement lost: Sprayer"] := by
  decide +kernel

end AogTaskController.Application
