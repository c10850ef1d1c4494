import AogTaskController.Framework.Episodes
import AogTaskController.Framework.Machine
import AogTaskController.TaskController.Geometry

/-!
# Working without demand

The check of every client against the section demand from AgOpenGPS: a client in automatic that works
for 10 s while no section is demanded is warned about. What the check remembers of a client is kept
under its NAME, also when the client is gone.
-/

namespace AogTaskController.Application

open Framework TaskController

structure WorkingWithoutDemand where
  sinceMs : BitVec 32 := 0
  warned : Bool := false

def workingWithoutDemandWarningMs : Nat := 10000

def WorkingWithoutDemand.isDue (tracked : WorkingWithoutDemand) (nowMs : BitVec 32) : Bool :=
  !tracked.warned && workingWithoutDemandWarningMs ≤ (nowMs - tracked.sinceMs).toNat

abbrev Tracked := Std.ExtTreeMap Nat WorkingWithoutDemand

inductive Alert
  | demandStarted
  | demandStopped
  | followsAgain (name : Nat)
  | warning (name : Nat) (message : String)

def Alert.isWarning (name : Nat) : Alert → Bool
  | .warning q _ => q == name
  | _ => false

def warnings (name : Nat) (alerts : List Alert) : Nat := alerts.countP (·.isWarning name)

def sectionDemandTimeoutMs : Nat := 2000

theorem toNat_sub_timestamps {earlier now : Nat} (h : earlier ≤ now) :
    (BitVec.ofNat 32 now - BitVec.ofNat 32 earlier).toNat = (now - earlier) % 2 ^ 32 := by
  rw [BitVec.toNat_sub, BitVec.toNat_ofNat, BitVec.toNat_ofNat]
  omega

/-- `SystemTiming::time_expired_ms` of the stack, assumed to compare the difference of the two 32-bit
timestamps with the timeout. -/
def timeExpiredMs (nowMs timestampMs : BitVec 32) (timeoutMs : Nat) : Bool :=
  timeoutMs ≤ (nowMs - timestampMs).toNat

/-- What one check finds: the time since the previous one, up to the first and between the two
readings of the clock, the demand received last, and the clients by their NAMEs. -/
structure DemandCheck where
  elapsedMs : Nat
  delayMs : Nat := 0
  lastSectionDemandMs : BitVec 32
  sectionDemand : List Bool
  clients : List (Nat × ClientState)

structure DemandMonitor where
  clockMs : Nat := 0
  sectionDemandArriving : Bool := false
  workingWithoutDemand : Tracked := ∅

namespace DemandCheck

def arriving (check : DemandCheck) (clockMs : Nat) : Bool :=
  check.lastSectionDemandMs != 0 &&
    !timeExpiredMs (BitVec.ofNat 32 (clockMs + check.elapsedMs)) check.lastSectionDemandMs
      sectionDemandTimeoutMs

def nowMs (check : DemandCheck) (clockMs : Nat) : Nat :=
  clockMs + check.elapsedMs + check.delayMs

/-- In automatic, with some section working and none demanded. -/
def worksWithoutDemand (check : DemandCheck) (clockMs : Nat) (st : ClientState) : Bool :=
  let working := (List.range st.numberOfSections).any fun i => st.getSectionActualState i == .on
  let demanded := (List.range st.numberOfSections).any fun i =>
    check.arriving clockMs && check.sectionDemand[i]?.getD false
  st.isSectionControlEnabled && working && !demanded

def warningMessage (check : DemandCheck) (clockMs : Nat) : String :=
  if check.arriving clockMs then "Implement working, AOG sections off: turn on section Auto"
  else "Implement working but no field is open in AOG"

/-- The loop body of `check_section_demand`. -/
def checkClient (check : DemandCheck) (clockMs : Nat) (x : Tracked × List Alert)
    (client : Nat × ClientState) : Tracked × List Alert :=
  if check.worksWithoutDemand clockMs client.2 then
    let now := BitVec.ofNat 32 (check.nowMs clockMs)
    let tracked := x.1[client.1]?.getD { sinceMs := now }
    if tracked.isDue now then
      (x.1.insert client.1 { tracked with warned := true },
        x.2 ++ [.warning client.1 (check.warningMessage clockMs)])
    else (x.1.insert client.1 tracked, x.2)
  else
    (x.1.erase client.1,
      x.2 ++ if (x.1[client.1]?.map (·.warned)).getD false then [.followsAgain client.1] else [])

def checkSectionDemand (m : DemandMonitor) (check : DemandCheck) : DemandMonitor × List Alert :=
  let arriving := check.arriving m.clockMs
  let changed : List Alert :=
    if arriving ≠ m.sectionDemandArriving then [if arriving then .demandStarted else .demandStopped]
    else []
  let x := check.clients.foldl (check.checkClient m.clockMs) (m.workingWithoutDemand, [])
  ({ clockMs := check.nowMs m.clockMs
     sectionDemandArriving := arriving
     workingWithoutDemand := x.1 }, changed ++ x.2)

def sample (check : DemandCheck) (clockMs name : Nat) : Sample where
  time := check.nowMs clockMs
  holds := check.clients.any fun client =>
    client.1 == name && check.worksWithoutDemand clockMs client.2

end DemandCheck

def demandMonitor : Machine DemandMonitor DemandCheck Alert where
  init := {}
  step := DemandCheck.checkSectionDemand

def demandSamples (name : Nat) : Machine Nat DemandCheck Sample where
  init := 0
  step clockMs check := (check.nowMs clockMs, [check.sample clockMs name])

def history (name : Nat) (checks : List DemandCheck) : List Sample := (demandSamples name).trace checks

def historySince (name : Nat) (pre checks : List DemandCheck) : List Sample :=
  ((demandSamples name).resume pre).trace checks

/-- How often a NAME is warned about at the check that follows a run. -/
def warningsAt (name : Nat) (checks : List DemandCheck) (check : DemandCheck) : Nat :=
  warnings name (demandMonitor.step (demandMonitor.after checks) check).2

private theorem clockMs_after (name : Nat) (checks : List DemandCheck) :
    (demandMonitor.after checks).clockMs = (demandSamples name).after checks := by
  induction checks using List.reverseRecOn with
  | nil => rfl
  | append_singleton checks check ih =>
      rw [Machine.after_snoc, Machine.after_snoc, ← ih]
      rfl

private theorem history_snoc (name : Nat) (checks : List DemandCheck) (check : DemandCheck) :
    history name (checks ++ [check]) =
      history name checks ++ [check.sample (demandMonitor.after checks).clockMs name] := by
  rw [history, Machine.trace_snoc, clockMs_after name]
  rfl

private theorem history_sorted (name : Nat) (checks : List DemandCheck) :
    (history name checks).Pairwise (fun s t => s.time ≤ t.time) ∧
      ∀ s ∈ history name checks, s.time ≤ (demandMonitor.after checks).clockMs := by
  induction checks using List.reverseRecOn with
  | nil => exact ⟨List.Pairwise.nil, fun _ hs => by cases hs⟩
  | append_singleton checks check ih =>
      have hclock : (demandMonitor.after checks).clockMs ≤
          check.nowMs (demandMonitor.after checks).clockMs := by
        rw [DemandCheck.nowMs]
        omega
      rw [history_snoc, Machine.after_snoc]
      constructor
      · rw [List.pairwise_append]
        refine ⟨ih.1, List.pairwise_singleton _ _, ?_⟩
        intro s hs t ht
        rw [List.mem_singleton.mp ht]
        exact (ih.2 s hs).trans hclock
      · intro s hs
        rcases List.mem_append.mp hs with hs | hs
        · exact (ih.2 s hs).trans hclock
        · rw [List.mem_singleton.mp hs]
          exact Nat.le_refl _

/-- What one client does to the entry of its NAME, and whether it is warned about. -/
def trackEntry (now : BitVec 32) (works : Bool) (entry : Option WorkingWithoutDemand) :
    Option WorkingWithoutDemand × Nat :=
  if works then
    let tracked := entry.getD { sinceMs := now }
    if tracked.isDue now then
      (some { tracked with warned := true }, 1)
    else (some tracked, 0)
  else (none, 0)

private theorem trackEntry_trackEntry (now : BitVec 32) (works : Bool)
    (entry : Option WorkingWithoutDemand) :
    trackEntry now works (trackEntry now works entry).1 = ((trackEntry now works entry).1, 0) := by
  cases works with
  | false => rfl
  | true =>
      simp only [trackEntry, if_true]
      generalize entry.getD { sinceMs := now } = tracked
      cases hdue : tracked.isDue now with
      | true => simp [WorkingWithoutDemand.isDue]
      | false => simp [hdue]

namespace DemandCheck

variable (check : DemandCheck) (clockMs name : Nat)

private theorem checkClient_other (x : Tracked × List Alert) {client : Nat × ClientState}
    (hne : client.1 ≠ name) :
    (check.checkClient clockMs x client).1[name]? = x.1[name]? ∧
      warnings name (check.checkClient clockMs x client).2 = warnings name x.2 := by
  have hkey : compare client.1 name ≠ .eq := by
    rw [ne_eq, Std.LawfulEqCmp.compare_eq_iff_eq]
    exact hne
  simp only [checkClient]
  split
  · split
    · simp [Std.ExtTreeMap.getElem?_insert, hne, warnings, Alert.isWarning]
    · simp [Std.ExtTreeMap.getElem?_insert, hne]
  · constructor
    · rw [Std.ExtTreeMap.getElem?_erase, if_neg hkey]
    · split <;> simp [warnings, Alert.isWarning]

private theorem checkClient_own (x : Tracked × List Alert) (st : ClientState) :
    (check.checkClient clockMs x (name, st)).1[name]? =
        (trackEntry (BitVec.ofNat 32 (check.nowMs clockMs)) (check.worksWithoutDemand clockMs st)
          x.1[name]?).1 ∧
      warnings name (check.checkClient clockMs x (name, st)).2 = warnings name x.2 +
        (trackEntry (BitVec.ofNat 32 (check.nowMs clockMs)) (check.worksWithoutDemand clockMs st)
          x.1[name]?).2 := by
  simp only [checkClient, trackEntry]
  cases check.worksWithoutDemand clockMs st with
  | false =>
      simp only [Bool.false_eq_true, if_false]
      constructor
      · exact Std.ExtTreeMap.getElem?_erase_self
      · split <;> simp [warnings, Alert.isWarning]
  | true =>
      simp only [if_true]
      split
      · simp [warnings, Alert.isWarning]
      · simp

private theorem foldl_checkClient_absent {clients : List (Nat × ClientState)}
    (habsent : ∀ client ∈ clients, client.1 ≠ name) (x : Tracked × List Alert) :
    (clients.foldl (check.checkClient clockMs) x).1[name]? = x.1[name]? ∧
      warnings name (clients.foldl (check.checkClient clockMs) x).2 = warnings name x.2 := by
  induction clients generalizing x with
  | nil => exact ⟨rfl, rfl⟩
  | cons client clients ih =>
      have hrest := ih (fun c hc => habsent c (List.mem_cons_of_mem client hc))
        (check.checkClient clockMs x client)
      have hfirst := check.checkClient_other clockMs name x (habsent client (List.mem_cons_self ..))
      exact ⟨hrest.1.trans hfirst.1, hrest.2.trans hfirst.2⟩

/-- The loop over clients of which those with the NAME agree: the first of them decides. -/
private theorem foldl_checkClient_agreeing {works : Bool} {clients : List (Nat × ClientState)}
    (hagree : ∀ st, (name, st) ∈ clients → check.worksWithoutDemand clockMs st = works)
    (hpresent : ∃ st, (name, st) ∈ clients) (x : Tracked × List Alert) :
    (clients.foldl (check.checkClient clockMs) x).1[name]? =
        (trackEntry (BitVec.ofNat 32 (check.nowMs clockMs)) works x.1[name]?).1 ∧
      warnings name (clients.foldl (check.checkClient clockMs) x).2 = warnings name x.2 +
        (trackEntry (BitVec.ofNat 32 (check.nowMs clockMs)) works x.1[name]?).2 := by
  induction clients generalizing x with
  | nil =>
      obtain ⟨_, hmem⟩ := hpresent
      cases hmem
  | cons client clients ih =>
      have hrest (st : ClientState) (hst : (name, st) ∈ clients) :
          check.worksWithoutDemand clockMs st = works := hagree st (List.mem_cons_of_mem client hst)
      rw [List.foldl_cons]
      by_cases hname : client.1 = name
      · obtain ⟨q, st⟩ := client
        obtain rfl : q = name := hname
        obtain ⟨hentry, hwarned⟩ := check.checkClient_own clockMs q x st
        rw [hagree st (List.mem_cons_self ..)] at hentry hwarned
        by_cases hmore : ∃ st, (q, st) ∈ clients
        · have hlast := ih hrest hmore (check.checkClient clockMs x (q, st))
          rw [hentry, trackEntry_trackEntry, hwarned] at hlast
          exact hlast
        · have hlast := check.foldl_checkClient_absent clockMs q
            (fun c hc heq => hmore ⟨c.2, heq ▸ hc⟩) (check.checkClient clockMs x (q, st))
          rw [hentry, hwarned] at hlast
          exact hlast
      · have hmore : ∃ st, (name, st) ∈ clients := by
          obtain ⟨st, hst⟩ := hpresent
          rcases List.mem_cons.mp hst with heq | hst
          · exact absurd (congrArg Prod.fst heq).symm hname
          · exact ⟨st, hst⟩
        have hlast := ih hrest hmore (check.checkClient clockMs x client)
        obtain ⟨hentry, hwarned⟩ := check.checkClient_other clockMs name x hname
        rw [hentry, hwarned] at hlast
        exact hlast

end DemandCheck

/-- What a check relies on: the NAMEs it has entries of are present, clients with one NAME agree on
working without demand, and no entry that has not led to a warning is about to be 2^32 ms old. -/
structure KeepsEpisodes (m : DemandMonitor) (check : DemandCheck) : Prop where
  present : ∀ name : Nat, m.workingWithoutDemand[name]? ≠ none → ∃ st, (name, st) ∈ check.clients
  agree : ∀ name st st', (name, st) ∈ check.clients → (name, st') ∈ check.clients →
    check.worksWithoutDemand m.clockMs st = check.worksWithoutDemand m.clockMs st'
  gap : ∀ (name : Nat) (tracked : WorkingWithoutDemand),
    m.workingWithoutDemand[name]? = some tracked → tracked.warned = false →
    check.elapsedMs + check.delayMs + workingWithoutDemandWarningMs ≤ 2 ^ 32

private theorem warnings_checkSectionDemand (m : DemandMonitor) (check : DemandCheck) (name : Nat) :
    warnings name (check.checkSectionDemand m).2 = warnings name
      (check.clients.foldl (check.checkClient m.clockMs) (m.workingWithoutDemand, [])).2 := by
  rw [DemandCheck.checkSectionDemand, warnings, List.countP_append]
  split
  · cases check.arriving m.clockMs <;> simp [warnings, Alert.isWarning]
  · simp [warnings]

private theorem KeepsEpisodes.works_eq {m : DemandMonitor} {check : DemandCheck}
    (h : KeepsEpisodes m check)
    {name : Nat} {st : ClientState} (hst : (name, st) ∈ check.clients) :
    check.worksWithoutDemand m.clockMs st = (check.sample m.clockMs name).holds := by
  rw [DemandCheck.sample, Bool.eq_iff_iff, List.any_eq_true]
  constructor
  · intro hworks
    exact ⟨(name, st), hst, by simp [hworks]⟩
  · intro hany
    obtain ⟨⟨q, st'⟩, hst', hworks⟩ := hany
    simp only [Bool.and_eq_true, beq_iff_eq] at hworks
    obtain ⟨rfl, hworks⟩ := hworks
    rw [h.agree q st st' hst hst', hworks]

private theorem sample_absent {check : DemandCheck} {name : Nat}
    (habsent : ∀ client ∈ check.clients, client.1 ≠ name) (clockMs : Nat) :
    (check.sample clockMs name).holds = false := by
  rw [DemandCheck.sample, List.any_eq_false]
  intro client hclient
  simp [habsent client hclient]

/-- One check does to each NAME what a single client with its sample does. -/
private theorem checkSectionDemand_track {m : DemandMonitor} {check : DemandCheck}
    (h : KeepsEpisodes m check)
    (name : Nat) :
    (check.checkSectionDemand m).1.workingWithoutDemand[name]? =
        (trackEntry (BitVec.ofNat 32 (check.sample m.clockMs name).time)
          (check.sample m.clockMs name).holds m.workingWithoutDemand[name]?).1 ∧
      warnings name (check.checkSectionDemand m).2 =
        (trackEntry (BitVec.ofNat 32 (check.sample m.clockMs name).time)
          (check.sample m.clockMs name).holds m.workingWithoutDemand[name]?).2 := by
  have hcalm : warnings name [] = 0 := rfl
  rw [warnings_checkSectionDemand, DemandCheck.checkSectionDemand]
  by_cases hpresent : ∃ st, (name, st) ∈ check.clients
  · have hloop := check.foldl_checkClient_agreeing m.clockMs name (fun st hst => h.works_eq hst)
      hpresent (m.workingWithoutDemand, [])
    rw [hcalm, Nat.zero_add] at hloop
    exact hloop
  · have habsent : ∀ client ∈ check.clients, client.1 ≠ name :=
      fun client hclient heq => hpresent ⟨client.2, heq ▸ hclient⟩
    have hnone : m.workingWithoutDemand[name]? = none := by
      by_contra hsome
      exact hpresent (h.present name hsome)
    have hloop := check.foldl_checkClient_absent m.clockMs name habsent (m.workingWithoutDemand, [])
    rw [hnone, hcalm] at hloop
    rw [hnone, sample_absent habsent]
    exact hloop

private theorem present_of_tracked {m : DemandMonitor} {check : DemandCheck}
    (h : KeepsEpisodes m check)
    {name : Nat} (htracked : (check.checkSectionDemand m).1.workingWithoutDemand[name]? ≠ none) :
    ∃ st, (name, st) ∈ check.clients := by
  rw [(checkSectionDemand_track h name).1] at htracked
  cases hholds : (check.sample m.clockMs name).holds with
  | false =>
      rw [hholds] at htracked
      exact absurd rfl htracked
  | true =>
      rw [DemandCheck.sample, List.any_eq_true] at hholds
      obtain ⟨⟨q, st⟩, hclient, hworks⟩ := hholds
      rw [Bool.and_eq_true, beq_iff_eq] at hworks
      obtain rfl : q = name := hworks.1
      exact ⟨st, hclient⟩

structure Describes (entry : Option WorkingWithoutDemand) (samples : List Sample) : Prop where
  interrupted : episodeStart samples = none → entry = none
  episode : ∀ start, episodeStart samples = some start →
    ∃ warned, entry = some ⟨BitVec.ofNat 32 start, warned⟩ ∧
      (warned = true ↔ Due workingWithoutDemandWarningMs samples)

namespace Describes

variable {entry : Option WorkingWithoutDemand} {samples : List Sample} {sample : Sample}

private theorem of_interrupted (h : episodeStart samples = none) : Describes none samples where
  interrupted _ := rfl
  episode start hstart := by
    rw [h] at hstart
    cases hstart

private theorem of_episode {start : Nat} (hstart : episodeStart samples = some start)
    {warned : Bool}
    (hwarned : warned = true ↔ Due workingWithoutDemandWarningMs samples) :
    Describes (some ⟨BitVec.ofNat 32 start, warned⟩) samples where
  interrupted h := by
    rw [hstart] at h
    cases h
  episode start' hstart' := by
    obtain rfl : start = start' := Option.some.inj (hstart.symm.trans hstart')
    exact ⟨warned, rfl, hwarned⟩

/-- The entry describes the samples up to the new one, and it is warned about when the alarm rings. -/
def Follows (y : Option WorkingWithoutDemand × Nat) (samples : List Sample) : Prop :=
  Describes y.1 samples ∧ (y.2 = 1 ∧ Rings workingWithoutDemandWarningMs samples ∨
    y.2 = 0 ∧ ¬ Rings workingWithoutDemandWarningMs samples)

private theorem follows_interrupted (hholds : sample.holds = false) (now : BitVec 32) :
    Follows (trackEntry now false entry) (samples ++ [sample]) := by
  have hinterrupted : episodeStart (samples ++ [sample]) = none := by
    rw [episodeStart_snoc, hholds, if_neg Bool.false_ne_true]
  exact ⟨of_interrupted hinterrupted,
    .inr ⟨rfl, fun hrings => not_due_of_interrupted hinterrupted hrings.1⟩⟩

private theorem follows_begun (hholds : sample.holds = true) (hbegins : episodeStart samples = none) :
    Follows (trackEntry (BitVec.ofNat 32 sample.time) true none) (samples ++ [sample]) := by
  have hstart : episodeStart (samples ++ [sample]) = some sample.time := by
    rw [episodeStart_snoc, hholds, hbegins]
    rfl
  have hnew : ¬ Due workingWithoutDemandWarningMs (samples ++ [sample]) := by
    rw [due_snoc, hbegins, Option.getD_none, workingWithoutDemandWarningMs]
    omega
  have htrack : trackEntry (BitVec.ofNat 32 sample.time) true none =
      (some ⟨BitVec.ofNat 32 sample.time, false⟩, 0) := by
    simp [trackEntry, WorkingWithoutDemand.isDue, workingWithoutDemandWarningMs]
  rw [htrack]
  exact ⟨of_episode hstart (iff_of_false Bool.false_ne_true hnew),
    .inr ⟨rfl, fun hrings => hnew hrings.1⟩⟩

private theorem follows_warned (hholds : sample.holds = true) {start : Nat}
    (hepisode : episodeStart samples = some start)
    (hdue : Due workingWithoutDemandWarningMs samples)
    (htime : ∀ last, samples.getLast? = some last → last.time ≤ sample.time) (now : BitVec 32) :
    Follows (trackEntry now true (some ⟨BitVec.ofNat 32 start, true⟩)) (samples ++ [sample]) := by
  have hstart : episodeStart (samples ++ [sample]) = some start := by
    rw [episodeStart_snoc, hholds, hepisode]
    rfl
  exact ⟨of_episode hstart (iff_of_true rfl (hdue.snoc hholds htime)),
    .inr ⟨rfl, fun hrings => (rings_snoc.mp hrings).2 hdue⟩⟩

private theorem follows_unwarned (hholds : sample.holds = true) {start : Nat}
    (hepisode : episodeStart samples = some start)
    (hnot : ¬ Due workingWithoutDemandWarningMs samples) (hlow : start ≤ sample.time)
    (hhigh : sample.time < start + 2 ^ 32) :
    Follows (trackEntry (BitVec.ofNat 32 sample.time) true (some ⟨BitVec.ofNat 32 start, false⟩))
      (samples ++ [sample]) := by
  have hstart : episodeStart (samples ++ [sample]) = some start := by
    rw [episodeStart_snoc, hholds, hepisode]
    rfl
  have helapsed : (BitVec.ofNat 32 sample.time - BitVec.ofNat 32 start).toNat =
      sample.time - start := by
    rw [toNat_sub_timestamps hlow]
    exact Nat.mod_eq_of_lt (by omega)
  have hdue : Due workingWithoutDemandWarningMs (samples ++ [sample]) ↔
      workingWithoutDemandWarningMs ≤ sample.time - start := by
    rw [due_snoc, hholds, hepisode, Option.getD_some, and_iff_right rfl]
    omega
  by_cases hlasted : workingWithoutDemandWarningMs ≤ sample.time - start
  · have htrack : trackEntry (BitVec.ofNat 32 sample.time) true (some ⟨BitVec.ofNat 32 start, false⟩) =
        (some ⟨BitVec.ofNat 32 start, true⟩, 1) := by
      simp only [trackEntry, if_true, Option.getD_some, WorkingWithoutDemand.isDue, helapsed, hlasted]
      rfl
    rw [htrack]
    exact ⟨of_episode hstart (iff_of_true rfl (hdue.mpr hlasted)),
      .inl ⟨rfl, rings_snoc.mpr ⟨hdue.mpr hlasted, hnot⟩⟩⟩
  · have htrack : trackEntry (BitVec.ofNat 32 sample.time) true (some ⟨BitVec.ofNat 32 start, false⟩) =
        (some ⟨BitVec.ofNat 32 start, false⟩, 0) := by
      simp only [trackEntry, if_true, Option.getD_some, WorkingWithoutDemand.isDue, helapsed, hlasted]
      rfl
    rw [htrack]
    exact ⟨of_episode hstart (iff_of_false Bool.false_ne_true fun h => hlasted (hdue.mp h)),
      .inr ⟨rfl, fun hrings => hlasted (hdue.mp hrings.1)⟩⟩

theorem snoc (h : Describes entry samples)
    (htime : ∀ last, samples.getLast? = some last → last.time ≤ sample.time)
    (hstart : ∀ start, episodeStart samples = some start → start ≤ sample.time)
    (hgap : ∀ start, episodeStart samples = some start →
      ¬ Due workingWithoutDemandWarningMs samples → sample.time < start + 2 ^ 32) :
    Follows (trackEntry (BitVec.ofNat 32 sample.time) sample.holds entry) (samples ++ [sample]) := by
  cases hholds : sample.holds with
  | false => exact follows_interrupted hholds _
  | true =>
      cases hepisode : episodeStart samples with
      | none =>
          rw [h.interrupted hepisode]
          exact follows_begun hholds hepisode
      | some start =>
          obtain ⟨warned, rfl, hwarned⟩ := h.episode start hepisode
          cases warned with
          | true => exact follows_warned hholds hepisode (hwarned.mp rfl) htime _
          | false =>
              have hnot : ¬ Due workingWithoutDemandWarningMs samples :=
                fun hdue => Bool.false_ne_true (hwarned.mpr hdue)
              exact follows_unwarned hholds hepisode hnot (hstart start hepisode)
                (hgap start hepisode hnot)

end Describes

private theorem history_last {name : Nat} {checks : List DemandCheck} {last : Sample}
    (hlast : (history name checks).getLast? = some last) :
    last.time = (demandMonitor.after checks).clockMs := by
  induction checks using List.reverseRecOn with
  | nil => cases hlast
  | append_singleton checks check _ =>
      rw [history_snoc, List.getLast?_concat] at hlast
      obtain rfl := Option.some.inj hlast
      rw [Machine.after_snoc]
      rfl

private theorem demandMonitor_step {checks : List DemandCheck} {check : DemandCheck}
    (hkeeps : KeepsEpisodes (demandMonitor.after checks) check) {name : Nat}
    (h : Describes (demandMonitor.after checks).workingWithoutDemand[name]? (history name checks)) :
    Describes (demandMonitor.after (checks ++ [check])).workingWithoutDemand[name]?
        (history name (checks ++ [check])) ∧
      (warningsAt name checks check = 1 ∧
          Rings workingWithoutDemandWarningMs (history name (checks ++ [check])) ∨
        warningsAt name checks check = 0 ∧
          ¬ Rings workingWithoutDemandWarningMs (history name (checks ++ [check]))) := by
  obtain ⟨hentry, hwarnings⟩ := checkSectionDemand_track hkeeps name
  have hstep : (demandMonitor.after (checks ++ [check])).workingWithoutDemand =
      (check.checkSectionDemand (demandMonitor.after checks)).1.workingWithoutDemand := by
    rw [Machine.after_snoc]
    rfl
  have hclock : (demandMonitor.after checks).clockMs ≤
      (check.sample (demandMonitor.after checks).clockMs name).time :=
    Nat.le_trans (Nat.le_add_right _ _) (Nat.le_add_right _ _)
  have htime (last : Sample) (hlast : (history name checks).getLast? = some last) :
      last.time ≤ (check.sample (demandMonitor.after checks).clockMs name).time :=
    (history_last hlast).trans_le hclock
  have hbegun (start : Nat) (hstart : episodeStart (history name checks) = some start) :
      start ≤ (check.sample (demandMonitor.after checks).clockMs name).time := by
    obtain ⟨s, hs, rfl⟩ := mem_of_episodeStart hstart
    exact ((history_sorted name checks).2 s hs).trans hclock
  have hyoung (start : Nat) (hstart : episodeStart (history name checks) = some start)
      (hnot : ¬ Due workingWithoutDemandWarningMs (history name checks)) :
      (check.sample (demandMonitor.after checks).clockMs name).time < start + 2 ^ 32 := by
    obtain ⟨warned, htracked, hwarned⟩ := h.episode start hstart
    have hunwarned : warned = false := by
      rw [← Bool.not_eq_true, hwarned]
      exact hnot
    have hgap := hkeeps.gap name _ htracked hunwarned
    obtain ⟨last, hlast, hlasted⟩ := lt_of_not_due hstart hnot
    rw [history_last hlast] at hlasted
    simp only [DemandCheck.sample, DemandCheck.nowMs]
    omega
  have hfollows := h.snoc htime hbegun hyoung
  rw [Describes.Follows, ← history_snoc, ← hwarnings] at hfollows
  rw [hstep, hentry]
  exact hfollows

private theorem history_append (name : Nat) (pre checks : List DemandCheck) :
    history name (pre ++ checks) = history name pre ++ historySince name pre checks :=
  (demandSamples name).trace_append pre checks

private theorem historySince_prefix {name : Nat} {pre checks : List DemandCheck}
    {samples : List Sample}
    (h : samples <+: historySince name pre checks) :
    ∃ begun, begun <+: checks ∧ historySince name pre begun = samples := by
  induction checks using List.reverseRecOn with
  | nil => exact ⟨[], List.prefix_rfl, (List.prefix_nil.mp h).symm⟩
  | append_singleton checks check ih =>
      rw [historySince, Machine.trace_snoc] at h
      rcases List.prefix_concat_iff.mp h with hall | hbefore
      · refine ⟨checks ++ [check], List.prefix_rfl, ?_⟩
        rw [hall, historySince, Machine.trace_snoc]
        rfl
      · obtain ⟨begun, hbegun, hsamples⟩ := ih hbefore
        exact ⟨begun, hbegun.trans (List.prefix_append checks [check]), hsamples⟩

/-- The alarm as it is meant. A NAME is warned about only if the condition held at every check of the
last 10 s, once in an episode, and again in each new episode that lasts 10 s. -/
structure AlarmRule (name : Nat) (checks : List DemandCheck) : Prop where
  held : ∀ pre check, pre ++ [check] <+: checks → warningsAt name pre check ≠ 0 →
    ∀ s ∈ history name (pre ++ [check]),
      (check.sample (demandMonitor.after pre).clockMs name).time <
        s.time + workingWithoutDemandWarningMs → s.holds = true
  once : ∀ pre check, pre ++ [check] <+: checks → warningsAt name pre check ≤ 1
  notAgain : ∀ pre check later check', pre ++ [check] ++ (later ++ [check']) <+: checks →
    warningsAt name pre check ≠ 0 →
    (∀ s ∈ historySince name (pre ++ [check]) (later ++ [check']), s.holds = true) →
    warningsAt name (pre ++ [check] ++ later) check' = 0
  again : ∀ pre episode, pre ++ episode <+: checks →
    (∀ last, (history name pre).getLast? = some last → last.holds = false) →
    (∀ s ∈ historySince name pre episode, s.holds = true) →
    (∃ first last, (historySince name pre episode).head? = some first ∧
      (historySince name pre episode).getLast? = some last ∧
      first.time + workingWithoutDemandWarningMs ≤ last.time) →
    ∃ begun check, begun ++ [check] <+: episode ∧ warningsAt name (pre ++ begun) check ≠ 0

section Runs

variable {name : Nat} {checks : List DemandCheck}

private theorem describes_after (h : demandMonitor.Guarded KeepsEpisodes checks) :
    Describes (demandMonitor.after checks).workingWithoutDemand[name]? (history name checks) := by
  induction checks using List.reverseRecOn with
  | nil => exact Describes.of_interrupted rfl
  | append_singleton checks check ih =>
      obtain ⟨hbefore, hcheck⟩ := Machine.guarded_snoc.mp h
      exact (demandMonitor_step hcheck (ih hbefore)).1

private theorem warningsAt_eq (h : demandMonitor.Guarded KeepsEpisodes checks)
    {pre : List DemandCheck}
    {check : DemandCheck} (hpre : pre ++ [check] <+: checks) :
    warningsAt name pre check = 1 ∧
        Rings workingWithoutDemandWarningMs (history name (pre ++ [check])) ∨
      warningsAt name pre check = 0 ∧
        ¬ Rings workingWithoutDemandWarningMs (history name (pre ++ [check])) := by
  obtain ⟨hbefore, hcheck⟩ := Machine.guarded_snoc.mp (h.of_prefix hpre)
  exact (demandMonitor_step hcheck (describes_after hbefore)).2

/-- A NAME is warned about at a check exactly when the alarm rings. -/
private theorem rings_iff (h : demandMonitor.Guarded KeepsEpisodes checks) {pre : List DemandCheck}
    {check : DemandCheck} (hpre : pre ++ [check] <+: checks) :
    warningsAt name pre check ≠ 0 ↔
      Rings workingWithoutDemandWarningMs (history name (pre ++ [check])) := by
  rcases @warningsAt_eq name checks h pre check hpre with ⟨hone, hrings⟩ | ⟨hzero, hquiet⟩
  · exact iff_of_true (hone ▸ Nat.one_ne_zero) hrings
  · exact iff_of_false (fun hne => hne hzero) hquiet

section Rule

variable (h : demandMonitor.Guarded KeepsEpisodes checks)

include h

private theorem held_of_warned {pre : List DemandCheck} {check : DemandCheck}
    (hpre : pre ++ [check] <+: checks) (hwarned : warningsAt name pre check ≠ 0) :
    ∀ s ∈ history name (pre ++ [check]),
      (check.sample (demandMonitor.after pre).clockMs name).time <
        s.time + workingWithoutDemandWarningMs → s.holds = true := by
  have hrings := (rings_iff h hpre).mp hwarned
  have hlast : (history name (pre ++ [check])).getLast? =
      some (check.sample (demandMonitor.after pre).clockMs name) := by
    rw [history_snoc, List.getLast?_concat]
  exact hrings.held (history_sorted name (pre ++ [check])).1 hlast

private theorem quiet_after_warned {pre later : List DemandCheck} {check check' : DemandCheck}
    (hpre : pre ++ [check] ++ (later ++ [check']) <+: checks) (hwarned : warningsAt name pre check ≠ 0)
    (hholds : ∀ s ∈ historySince name (pre ++ [check]) (later ++ [check']), s.holds = true) :
    warningsAt name (pre ++ [check] ++ later) check' = 0 := by
  have hfirst : pre ++ [check] <+: checks := (List.prefix_append _ _).trans hpre
  have hrings := (rings_iff h hfirst).mp hwarned
  have hsorted := (history_sorted name (pre ++ [check] ++ (later ++ [check']))).1
  rw [history_append] at hsorted
  have hlater : historySince name (pre ++ [check]) (later ++ [check']) ≠ [] := by
    rw [historySince, Machine.trace_snoc]
    exact List.append_ne_nil_of_right_ne_nil _ (List.cons_ne_nil _ _)
  have hquiet := hrings.not_again hlater hholds hsorted
  by_contra hagain
  rw [← List.append_assoc] at hpre
  have hsecond := (rings_iff h hpre).mp hagain
  rw [List.append_assoc, history_append] at hsecond
  exact hquiet hsecond

private theorem exists_warned {pre episode : List DemandCheck} (hpre : pre ++ episode <+: checks)
    (hnew : ∀ last, (history name pre).getLast? = some last → last.holds = false)
    (hholds : ∀ s ∈ historySince name pre episode, s.holds = true) {first last : Sample}
    (hhead : (historySince name pre episode).head? = some first)
    (hlast : (historySince name pre episode).getLast? = some last)
    (hlong : first.time + workingWithoutDemandWarningMs ≤ last.time) :
    ∃ begun check, begun ++ [check] <+: episode ∧ warningsAt name (pre ++ begun) check ≠ 0 := by
  have hinterrupted := episodeStart_of_last hnew
  have hdue : Due workingWithoutDemandWarningMs
      (history name pre ++ historySince name pre episode) := by
    refine ⟨first.time, last, ?_, ?_, hlong⟩
    · rw [episodeStart_append hinterrupted hholds, hhead]
      rfl
    · rw [List.getLast?_append, hlast]
      rfl
  obtain ⟨begun, sample, hbegun, hrings⟩ := exists_rings hinterrupted hholds hdue
  obtain ⟨run, hrun, hsamples⟩ := historySince_prefix hbegun
  rcases List.eq_nil_or_concat' run with rfl | ⟨begun, check, rfl⟩
  · exact absurd hsamples.symm (List.concat_ne_nil _ _)
  · refine ⟨begun, check, hrun, ?_⟩
    have hall : pre ++ begun ++ [check] <+: checks := by
      rw [List.append_assoc]
      exact ((List.prefix_append_right_inj pre).mpr hrun).trans hpre
    rw [rings_iff h hall, List.append_assoc, history_append, hsamples]
    exact hrings

end Rule

theorem alarmRule_of_keepsEpisodes (h : demandMonitor.Guarded KeepsEpisodes checks) :
    AlarmRule name checks where
  held pre check hpre hwarned := held_of_warned h hpre hwarned
  once pre check hpre := by
    rcases @warningsAt_eq name checks h pre check hpre with ⟨hone, _⟩ | ⟨hzero, _⟩
    · exact hone.le
    · rw [hzero]
      exact Nat.zero_le 1
  notAgain pre check later check' hpre hwarned hholds := quiet_after_warned h hpre hwarned hholds
  again pre episode hpre hnew hholds hlasted := by
    obtain ⟨first, last, hhead, hlast, hlong⟩ := hlasted
    exact exists_warned h hpre hnew hholds hhead hlast hlong

end Runs

def workingClient : ClientState :=
  (((default : ClientState).setNumberOfSections 1).setSectionActualState 0 .on).setSectionControlEnabled
    true

def checkAfter (elapsedMs : Nat) (clients : List (Nat × ClientState)) : DemandCheck where
  elapsedMs := elapsedMs
  lastSectionDemandMs := 0
  sectionDemand := []
  clients := clients

theorem steadyClient_alarmRule :
    warningsAt 1 [checkAfter 1000 [(1, workingClient)]] (checkAfter 10000 [(1, workingClient)]) = 1 ∧
      AlarmRule 1
        [checkAfter 1000 [(1, workingClient)], checkAfter 10000 [(1, workingClient)]] := by
  have hagree (m : DemandMonitor) (elapsedMs : Nat) (name : Nat) (st st' : ClientState)
      (hst : (name, st) ∈ (checkAfter elapsedMs [(1, workingClient)]).clients)
      (hst' : (name, st') ∈ (checkAfter elapsedMs [(1, workingClient)]).clients) :
      (checkAfter elapsedMs [(1, workingClient)]).worksWithoutDemand m.clockMs st =
        (checkAfter elapsedMs [(1, workingClient)]).worksWithoutDemand m.clockMs st' := by
    rw [(Prod.mk.inj (List.mem_singleton.mp hst)).2, (Prod.mk.inj (List.mem_singleton.mp hst')).2]
  have hfirst : KeepsEpisodes demandMonitor.init (checkAfter 1000 [(1, workingClient)]) :=
    ⟨fun name hname => absurd Std.ExtTreeMap.getElem?_empty hname, hagree _ _,
      fun _ _ _ _ => by decide⟩
  have hsecond : KeepsEpisodes (demandMonitor.after [checkAfter 1000 [(1, workingClient)]])
      (checkAfter 10000 [(1, workingClient)]) :=
    ⟨fun name hname => present_of_tracked hfirst hname, hagree _ _, fun _ _ _ _ => by decide⟩
  have hkeeps : demandMonitor.Guarded KeepsEpisodes
      ([checkAfter 1000 [(1, workingClient)]] ++ [checkAfter 10000 [(1, workingClient)]]) :=
    Machine.guarded_snoc.mpr ⟨Machine.guarded_singleton.mpr hfirst, hsecond⟩
  exact ⟨by decide +kernel, alarmRule_of_keepsEpisodes hkeeps⟩

/-- A client that was gone a moment ago is warned about as soon as it is back. -/
theorem reconnect_breaks_alarmRule :
    ¬ AlarmRule 1 [checkAfter 1000 [(1, workingClient)], checkAfter 10500 [],
      checkAfter 500 [(1, workingClient)]] := by
  intro h
  have hwarned : warningsAt 1 [checkAfter 1000 [(1, workingClient)], checkAfter 10500 []]
      (checkAfter 500 [(1, workingClient)]) ≠ 0 := by
    decide +kernel
  have habsent := h.held [checkAfter 1000 [(1, workingClient)], checkAfter 10500 []]
    (checkAfter 500 [(1, workingClient)]) List.prefix_rfl hwarned ⟨11500, false⟩
  revert habsent
  decide +kernel

end AogTaskController.Application
