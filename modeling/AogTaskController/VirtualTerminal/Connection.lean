import AogTaskController.VirtualTerminal.Client

/-!
# The connection to the terminal

What is done once for each connection, and the warning that is given once for each stretch of time that
the client waits for one: when it has waited for 30 s since a terminal was found or the connection was
last seen to be lost.
-/

namespace AogTaskController.VirtualTerminal

open Framework Application TaskController

namespace VtOutput

def linked? : VtOutput → Option Bool
  | .linked connected _ _ => some connected
  | _ => none

def waits : VtOutput → List Sample
  | .initialized atMs _ => [⟨atMs, true⟩]
  | .linked false sinceMs lookMs => [⟨sinceMs, true⟩, ⟨lookMs, true⟩]
  | .linked true sinceMs _ => [⟨sinceMs, false⟩]
  | _ => []

def isCapabilities : VtOutput → Bool
  | .capabilities _ => true
  | _ => false

def isConfig : VtOutput → Bool
  | .sent (.enableDisable _ _) => true
  | .sent (.changeNumeric _ _) => true
  | _ => false

def isWarning : VtOutput → Bool
  | .notConnectedWarning _ => true
  | _ => false

end VtOutput

def links (outputs : List VtOutput) : List Bool := outputs.filterMap (·.linked?)

def waiting (outputs : List VtOutput) : List Sample := outputs.flatMap (·.waits)

private theorem links_append (outputs more : List VtOutput) :
    links (outputs ++ more) = links outputs ++ links more :=
  List.filterMap_append

private theorem waiting_append (outputs more : List VtOutput) :
    waiting (outputs ++ more) = waiting outputs ++ waiting more :=
  List.flatMap_append

structure Silent (outputs : List VtOutput) : Prop where
  links : links outputs = []
  waiting : waiting outputs = []
  warnings : outputs.countP (·.isWarning) = 0

theorem Silent.append {outputs more : List VtOutput} (h : Silent outputs) (hmore : Silent more) :
    Silent (outputs ++ more) where
  links := by rw [links_append, h.links, hmore.links, List.nil_append]
  waiting := by rw [waiting_append, h.waiting, hmore.waiting, List.nil_append]
  warnings := by rw [List.countP_append, h.warnings, hmore.warnings]

private theorem silent_nil : Silent [] := ⟨rfl, rfl, rfl⟩

namespace VtUpdate

variable (u : VtUpdate)

private theorem capabilityLines_facts : Silent u.capabilityLines ∧
    u.capabilityLines.countP (·.isCapabilities) = 1 ∧ u.capabilityLines.countP (·.isConfig) = 0 := by
  rw [capabilityLines]
  split
  · exact ⟨⟨rfl, rfl, rfl⟩, rfl, rfl⟩
  · split <;> exact ⟨⟨rfl, rfl, rfl⟩, rfl, rfl⟩

private theorem configMessages_facts : Silent u.configMessages ∧
    u.configMessages.countP (·.isCapabilities) = 0 ∧ u.configMessages.countP (·.isConfig) = 5 :=
  ⟨⟨rfl, rfl, rfl⟩, rfl, rfl⟩

private theorem trackedValues_facts (nowMs : Nat) : Silent (u.trackedValues nowMs) ∧
    (u.trackedValues nowMs).countP (·.isCapabilities) = 0 ∧
    (u.trackedValues nowMs).countP (·.isConfig) = 0 :=
  ⟨⟨rfl, rfl, rfl⟩, rfl, rfl⟩

end VtUpdate

private theorem strings_facts (messages : List (Nat × Bytes)) :
    let outputs := messages.map fun message => VtOutput.sent (.changeString message.1 message.2)
    Silent outputs ∧ outputs.countP (·.isCapabilities) = 0 ∧ outputs.countP (·.isConfig) = 0 := by
  induction messages with
  | nil => exact ⟨silent_nil, rfl, rfl⟩
  | cons message messages ih =>
      obtain ⟨hsilent, hcapabilities, hconfig⟩ := ih
      have hfirst : Silent [.sent (.changeString message.1 message.2)] := ⟨rfl, rfl, rfl⟩
      refine ⟨hfirst.append hsilent, ?_, ?_⟩
      · rw [List.map_cons, List.countP_cons, hcapabilities]
        rfl
      · rw [List.map_cons, List.countP_cons, hconfig]
        rfl

namespace VtClient

variable (bus : BusNumbers) (s : VtClient) (u : VtUpdate)

private theorem handleConnected_facts (nowMs : Nat) :
    let outputs := (s.handleConnected bus u nowMs).2
    links outputs = [true] ∧ waiting outputs = [⟨nowMs, false⟩] ∧
      outputs.countP (·.isWarning) = 0 ∧
      outputs.countP (·.isCapabilities) = (if s.vtCapabilitiesLogged then 0 else 1) ∧
      outputs.countP (·.isConfig) = if s.vtConfigSynced then 0 else 5 := by
  obtain ⟨hcapabilityLines, hcapabilities, hcapabilitiesConfig⟩ := u.capabilityLines_facts
  obtain ⟨hconfigMessages, hconfigCapabilities, hconfig⟩ := u.configMessages_facts
  obtain ⟨htracked, htrackedCapabilities, htrackedConfig⟩ := u.trackedValues_facts nowMs
  obtain ⟨hstrings, hstringsCapabilities, hstringsConfig⟩ :=
    strings_facts (sendAllIfChanged s.lastVtStrings (s.entries bus u nowMs)).2
  have hrest : Silent ((if s.vtCapabilitiesLogged then [] else u.capabilityLines) ++
      (if s.vtConfigSynced then [] else u.configMessages) ++ u.trackedValues nowMs ++
      (sendAllIfChanged s.lastVtStrings (s.entries bus u nowMs)).2.map fun message =>
        .sent (.changeString message.1 message.2)) := by
    refine ((Silent.append ?_ ?_).append htracked).append hstrings
    · split
      · exact silent_nil
      · exact hcapabilityLines
    · split
      · exact silent_nil
      · exact hconfigMessages
  have hsplit : (s.handleConnected bus u nowMs).2 = [.linked true nowMs nowMs] ++
      ((if s.vtCapabilitiesLogged then [] else u.capabilityLines) ++
      (if s.vtConfigSynced then [] else u.configMessages) ++ u.trackedValues nowMs ++
      (sendAllIfChanged s.lastVtStrings (s.entries bus u nowMs)).2.map fun message =>
        .sent (.changeString message.1 message.2)) := by
    simp only [handleConnected, connectedOutputs, List.append_assoc]
  rw [hsplit]
  refine ⟨?_, ?_, ?_, ?_, ?_⟩
  · rw [links_append, hrest.links]
    rfl
  · rw [waiting_append, hrest.waiting]
    rfl
  · rw [List.countP_append, hrest.warnings]
    rfl
  · have hlinked : [VtOutput.linked true nowMs nowMs].countP (·.isCapabilities) = 0 := rfl
    simp only [List.countP_append, htrackedCapabilities, hstringsCapabilities, hlinked]
    cases s.vtCapabilitiesLogged <;> cases s.vtConfigSynced <;>
      simp only [Bool.false_eq_true, if_true, if_false, List.countP_nil, hcapabilities,
        hconfigCapabilities]
  · have hlinked : [VtOutput.linked true nowMs nowMs].countP (·.isConfig) = 0 := rfl
    simp only [List.countP_append, htrackedConfig, hstringsConfig, hlinked]
    cases s.vtCapabilitiesLogged <;> cases s.vtConfigSynced <;>
      simp only [Bool.false_eq_true, if_true, if_false, List.countP_nil, hcapabilitiesConfig, hconfig]

private theorem handleVtDisconnected_facts (nowMs : Nat) :
    let x := s.handleVtDisconnected u nowMs
    links x.2 = [false] ∧ waiting x.2 = [⟨nowMs, true⟩, ⟨nowMs + u.untilLookMs, true⟩] ∧
      x.2.countP (·.isWarning) =
        (if !(!s.vtWasConnected && s.vtConnectionWarningLogged) &&
            timeExpiredMs (timestampMs (nowMs + u.untilLookMs)) x.1.vtDisconnectedSinceMs vtConnectMs
          then 1 else 0) ∧
      x.2.countP (·.isCapabilities) = 0 ∧ x.2.countP (·.isConfig) = 0 := by
  have hwarning (warns : Bool) :
      let outputs := .linked false nowMs (nowMs + u.untilLookMs) ::
        if warns then [VtOutput.notConnectedWarning u.report] else []
      links outputs = [false] ∧ waiting outputs = [⟨nowMs, true⟩, ⟨nowMs + u.untilLookMs, true⟩] ∧
        outputs.countP (·.isWarning) = (if warns then 1 else 0) ∧
        outputs.countP (·.isCapabilities) = 0 ∧ outputs.countP (·.isConfig) = 0 := by
    cases warns <;> exact ⟨rfl, rfl, rfl, rfl, rfl⟩
  exact hwarning _

end VtClient

variable (bus : BusNumbers)

structure Attended (trace : List VtOutput) (s : VtClient) : Prop where
  connected : s.vtWasConnected = lastSent false (links trace)
  capabilities : s.vtCapabilitiesLogged = s.vtWasConnected
  synced : s.vtConfigSynced = s.vtWasConnected
  capabilityCount : trace.countP (·.isCapabilities) = (edges false (links trace)).count true
  configCount : trace.countP (·.isConfig) = 5 * (edges false (links trace)).count true

private theorem attended_after (updates : List VtUpdate) :
    Attended ((vtClient bus).trace updates) ((vtClient bus).after updates) := by
  refine (vtClient bus).trace_invariant Attended ⟨rfl, rfl, rfl, rfl, rfl⟩ ?_ updates
  intro trace s u h
  show Attended (trace ++ (s.step bus u).2) (s.step bus u).1
  rw [VtClient.step]
  split
  · rw [VtClient.tryStartVtClient]
    split
    · rw [List.append_nil]
      exact ⟨h.connected, h.capabilities, h.synced, h.capabilityCount, h.configCount⟩
    next address _ =>
      have hlinks : links (trace ++ [.initialized (s.clockMs + u.elapsedMs) address]) = links trace := by
        rw [links_append]
        exact List.append_nil _
      constructor
      · rw [hlinks]
        exact h.connected
      · exact h.capabilities
      · exact h.synced
      · rw [hlinks, List.countP_append, h.capabilityCount]
        rfl
      · rw [hlinks, List.countP_append, h.configCount]
        rfl
  · split
    · obtain ⟨hlinks, _, _, hcapabilities, hconfig⟩ :=
        s.handleVtDisconnected_facts u (s.clockMs + u.elapsedMs)
      have hedges : (edges false (links trace ++ [false])).count true =
          (edges false (links trace)).count true := by
        rw [edges_concat, List.count_append]
        split <;> rfl
      constructor
      · rw [links_append, hlinks, lastSent_concat]
        rfl
      · show (!s.vtWasConnected && s.vtCapabilitiesLogged) = false
        rw [h.capabilities]
        cases s.vtWasConnected <;> rfl
      · rfl
      · rw [links_append, hlinks, hedges, List.countP_append, hcapabilities]
        exact h.capabilityCount
      · rw [links_append, hlinks, hedges, List.countP_append, hconfig]
        exact h.configCount
    · obtain ⟨hlinks, _, _, hcapabilities, hconfig⟩ :=
        s.handleConnected_facts bus u (s.clockMs + u.elapsedMs)
      have hedges : (edges false (links trace ++ [true])).count true =
          (edges false (links trace)).count true + if s.vtWasConnected then 0 else 1 := by
        rw [edges_concat, List.count_append, ← h.connected]
        cases s.vtWasConnected <;> rfl
      constructor
      · rw [links_append, hlinks, lastSent_concat]
        rfl
      · rfl
      · rfl
      · rw [links_append, hlinks, hedges, List.countP_append, hcapabilities, h.capabilityCount,
          h.capabilities]
      · rw [links_append, hlinks, hedges, List.countP_append, hconfig, h.configCount, h.synced]
        split <;> omega

private theorem lastSent_true_of_false {values : List Bool} (h : lastSent false values = true) :
    lastSent true values = true := by
  rw [lastSent] at h ⊢
  cases hlast : values.getLast? with
  | none => rfl
  | some last => simpa only [hlast, Option.getD_some] using h

structure WarnedOnce (trace : List VtOutput) (s : VtClient) : Prop where
  connected : s.vtWasConnected = lastSent false (links trace)
  fresh : lastSent true (links trace) = true → s.vtConnectionWarningLogged = false
  count : trace.countP (·.isWarning) +
      (if lastSent true (links trace) || s.vtConnectionWarningLogged then 0 else 1) ≤
    (edges true (links trace)).count false

private theorem warnings_le {linked was logged expired : Bool} {warnings begun : Nat}
    (hwas : was = true → linked = true) (hfresh : linked = true → logged = false)
    (hcount : warnings + (if linked || logged then 0 else 1) ≤ begun) :
    let before := !was && logged
    let warns := !before && expired
    warnings + (if warns then 1 else 0) + (if false || (before || warns) then 0 else 1) ≤
      begun + (if false = linked then [] else [false]).count false := by
  cases linked with
  | true =>
      rw [hfresh rfl] at hcount ⊢
      rw [Bool.and_false]
      cases expired <;> simpa using hcount
  | false =>
      have hnot : was = false := Bool.eq_false_iff.mpr fun htrue => by cases hwas htrue
      rw [hnot]
      cases logged <;> cases expired <;> simpa using hcount

private theorem warnedOnce_after (updates : List VtUpdate) :
    WarnedOnce ((vtClient bus).trace updates) ((vtClient bus).after updates) := by
  refine (vtClient bus).trace_invariant WarnedOnce ⟨rfl, fun _ => rfl, Nat.le_refl 0⟩ ?_ updates
  intro trace s u h
  show WarnedOnce (trace ++ (s.step bus u).2) (s.step bus u).1
  have hcount := h.count
  rw [VtClient.step]
  split
  · rw [VtClient.tryStartVtClient]
    split
    · rw [List.append_nil]
      exact ⟨h.connected, h.fresh, hcount⟩
    next address _ =>
      have hlinks : links (trace ++ [.initialized (s.clockMs + u.elapsedMs) address]) = links trace := by
        rw [links_append]
        exact List.append_nil _
      constructor
      · rw [hlinks]
        exact h.connected
      · rw [hlinks]
        exact h.fresh
      · rw [hlinks, List.countP_append]
        exact hcount
  · split
    · obtain ⟨hlinks, _, hwarnings, _⟩ := s.handleVtDisconnected_facts u (s.clockMs + u.elapsedMs)
      constructor
      · rw [links_append, hlinks, lastSent_concat]
        rfl
      · rw [links_append, hlinks, lastSent_concat]
        exact fun hfalse => by cases hfalse
      · rw [links_append, hlinks, lastSent_concat, edges_concat, List.count_append, List.countP_append,
          hwarnings]
        have hfresh := h.fresh
        have hwas : s.vtWasConnected = true → lastSent true (links trace) = true := fun hwas =>
          lastSent_true_of_false (h.connected.symm.trans hwas)
        exact warnings_le hwas hfresh hcount
    · obtain ⟨hlinks, _, hwarnings, _⟩ := s.handleConnected_facts bus u (s.clockMs + u.elapsedMs)
      have hfresh : (s.handleConnected bus u (s.clockMs + u.elapsedMs)).1.vtConnectionWarningLogged =
          false := by
        show (s.vtWasConnected && s.vtConnectionWarningLogged) = false
        cases hwas : s.vtWasConnected with
        | false => rfl
        | true => exact h.fresh (lastSent_true_of_false (h.connected.symm.trans hwas))
      constructor
      · rw [links_append, hlinks, lastSent_concat]
        rfl
      · exact fun _ => hfresh
      · rw [links_append, hlinks, lastSent_concat, edges_concat, List.count_append, List.countP_append,
          hwarnings]
        have hnone : (if true = lastSent true (links trace) then [] else [true]).count false = 0 := by
          split <;> rfl
        rw [hnone, Bool.true_or, if_pos rfl]
        omega

/-- What is remembered of the time that the client waits. After a timestamp of 0 the start is taken
anew. -/
structure Waits (trace : List VtOutput) (s : VtClient) : Prop where
  idle : s.vtClientStarted = false → waiting trace = [] ∧ s.vtWasConnected = false
  clock : ∀ sample ∈ waiting trace, sample.time ≤ s.clockMs
  connected : s.vtWasConnected = true → episodeStart (waiting trace) = none
  since : s.vtClientStarted = true → s.vtWasConnected = false → ∃ start sinceMs,
    episodeStart (waiting trace) = some start ∧ start ≤ sinceMs ∧ sinceMs ≤ s.clockMs ∧
      s.vtDisconnectedSinceMs = timestampMs sinceMs ∧ (timestampMs start ≠ 0 → sinceMs = start)

private theorem Waits.disconnected {trace : List VtOutput} {s : VtClient} (h : Waits trace s)
    (hstarted : s.vtClientStarted = true) (u : VtUpdate) :
    let nowMs := s.clockMs + u.elapsedMs
    let x := s.handleVtDisconnected u nowMs
    ∃ start sinceMs, start = (episodeStart (waiting trace)).getD nowMs ∧ start ≤ sinceMs ∧
      sinceMs ≤ nowMs ∧ x.1.vtDisconnectedSinceMs = timestampMs sinceMs ∧
      (timestampMs start ≠ 0 → sinceMs = start) := by
  intro nowMs x
  have hsince : x.1.vtDisconnectedSinceMs = if s.vtWasConnected || s.vtDisconnectedSinceMs == 0 then
      timestampMs nowMs else s.vtDisconnectedSinceMs := rfl
  cases hwas : s.vtWasConnected with
  | true =>
      rw [h.connected hwas, hsince, hwas, Bool.true_or, if_pos rfl]
      exact ⟨nowMs, nowMs, rfl, Nat.le_refl _, Nat.le_refl _, rfl, fun _ => rfl⟩
  | false =>
      obtain ⟨start, sinceMs, hstart, hle, hclock, hstamp, hexact⟩ := h.since hstarted hwas
      rw [hstart, hsince, hwas, Bool.false_or]
      by_cases hzero : s.vtDisconnectedSinceMs = 0
      · rw [hzero, if_pos (by decide)]
        refine ⟨start, nowMs, rfl, by omega, Nat.le_refl _, rfl, fun hne => ?_⟩
        rw [hexact hne] at hstamp
        exact absurd (hstamp.symm.trans hzero) hne
      · rw [if_neg (by simpa using hzero)]
        exact ⟨start, sinceMs, rfl, hle, by omega, hstamp, hexact⟩

private theorem waiting_disconnected (trace : List VtOutput) (s : VtClient) (u : VtUpdate) :
    let nowMs := s.clockMs + u.elapsedMs
    let samples := waiting (trace ++ (s.handleVtDisconnected u nowMs).2)
    episodeStart samples = some ((episodeStart (waiting trace)).getD nowMs) ∧
      (Due vtConnectMs samples ↔
        (episodeStart (waiting trace)).getD nowMs + vtConnectMs ≤ nowMs + u.untilLookMs) := by
  obtain ⟨_, hwaiting, _⟩ := s.handleVtDisconnected_facts u (s.clockMs + u.elapsedMs)
  intro nowMs samples
  have hsamples : samples = waiting trace ++ [⟨nowMs, true⟩] ++ [⟨nowMs + u.untilLookMs, true⟩] := by
    rw [List.append_assoc]
    exact (waiting_append _ _).trans (congrArg _ hwaiting)
  have hfirst : episodeStart (waiting trace ++ [⟨nowMs, true⟩]) =
      some ((episodeStart (waiting trace)).getD nowMs) := by
    rw [episodeStart_snoc, if_pos rfl]
  rw [hsamples]
  constructor
  · rw [episodeStart_snoc, if_pos rfl, hfirst, Option.getD_some]
  · rw [due_snoc, hfirst, Option.getD_some]
    exact and_iff_right rfl

private theorem waits_after (updates : List VtUpdate) :
    Waits ((vtClient bus).trace updates) ((vtClient bus).after updates) := by
  refine (vtClient bus).trace_invariant Waits ?_ ?_ updates
  · exact ⟨fun _ => ⟨rfl, rfl⟩, fun _ h => (by cases h), fun h => (by cases h), fun h => (by cases h)⟩
  intro trace s u h
  show Waits (trace ++ (s.step bus u).2) (s.step bus u).1
  rw [VtClient.step]
  split
  next hidle =>
    have hnone := h.idle (by simpa using hidle)
    rw [VtClient.tryStartVtClient]
    split
    · rw [List.append_nil]
      exact ⟨fun _ => hnone, fun sample hmem => (h.clock sample hmem).trans (Nat.le_add_right _ _),
        h.connected, fun hstarted => by rw [hstarted] at hidle; cases hidle⟩
    next address _ =>
      have hwaiting : waiting (trace ++ [.initialized (s.clockMs + u.elapsedMs) address]) =
          [⟨s.clockMs + u.elapsedMs, true⟩] := by
        rw [waiting_append, hnone.1]
        rfl
      constructor
      · exact fun hfalse => by cases hfalse
      · intro sample hmem
        rw [hwaiting] at hmem
        rw [List.mem_singleton.mp hmem]
      · intro hwas
        rw [hnone.2] at hwas
        cases hwas
      · intro _ _
        rw [hwaiting]
        exact ⟨_, _, rfl, Nat.le_refl _, Nat.le_refl _, rfl, fun _ => rfl⟩
  next hstarted =>
    have hstarted : s.vtClientStarted = true := by simpa using hstarted
    split
    · obtain ⟨hepisode, _⟩ := waiting_disconnected trace s u
      obtain ⟨start, sinceMs, hstart, hle, hnow, hstamp, hexact⟩ := h.disconnected hstarted u
      obtain ⟨_, hwaiting, _⟩ := s.handleVtDisconnected_facts u (s.clockMs + u.elapsedMs)
      constructor
      · intro hfalse
        cases hfalse.symm.trans hstarted
      · intro sample hmem
        rw [waiting_append, hwaiting] at hmem
        show sample.time ≤ s.clockMs + u.elapsedMs + u.untilLookMs
        rcases List.mem_append.mp hmem with hmem | hmem
        · have hclock := h.clock sample hmem
          omega
        · rcases List.mem_cons.mp hmem with rfl | hmem
          · exact Nat.le_add_right _ _
          · rw [List.mem_singleton.mp hmem]
      · exact fun hfalse => by cases hfalse
      · intro _ _
        rw [hepisode, ← hstart]
        exact ⟨start, sinceMs, rfl, hle, hnow.trans (Nat.le_add_right _ _), hstamp, hexact⟩
    · obtain ⟨_, hwaiting, _⟩ := s.handleConnected_facts bus u (s.clockMs + u.elapsedMs)
      have hend : s.clockMs + u.elapsedMs ≤ u.endMs (s.clockMs + u.elapsedMs) := by
        simp only [VtUpdate.endMs, VtUpdate.ageLookMs, VtUpdate.statusStampedMs, VtUpdate.statusLookMs,
          VtUpdate.sectionStampedMs, VtUpdate.sectionLookMs]
        omega
      constructor
      · intro hfalse
        cases hfalse.symm.trans hstarted
      · intro sample hmem
        rw [waiting_append, hwaiting] at hmem
        show sample.time ≤ u.endMs (s.clockMs + u.elapsedMs)
        rcases List.mem_append.mp hmem with hmem | hmem
        · have hclock := h.clock sample hmem
          omega
        · rw [List.mem_singleton.mp hmem]
          exact hend
      · intro _
        rw [waiting_append, hwaiting, episodeStart_snoc]
        rfl
      · exact fun _ hfalse => by cases hfalse

structure ConnectionRule (updates : List VtUpdate) : Prop where
  /-- What the terminal can do is logged, and the settings are sent, once for each connection. -/
  capabilities : ((vtClient bus).trace updates).countP (·.isCapabilities) =
    (edges false (links ((vtClient bus).trace updates))).count true
  config : ((vtClient bus).trace updates).countP (·.isConfig) =
    5 * (edges false (links ((vtClient bus).trace updates))).count true
  /-- Each time the client is found without a connection anew, it is warned about once at most. -/
  warnedOnce : ((vtClient bus).trace updates).countP (·.isWarning) ≤
    (edges true (links ((vtClient bus).trace updates))).count false
  /-- No warning comes before the client has waited for 30 s. -/
  notEarly : ∀ pre u, pre ++ [u] <+: updates →
    0 < ((vtClient bus).step ((vtClient bus).after pre) u).2.countP (·.isWarning) →
      Due vtConnectMs (waiting ((vtClient bus).trace (pre ++ [u])))

private theorem warnings_step (s : VtClient) (u : VtUpdate)
    (h : 0 < (s.step bus u).2.countP (·.isWarning)) :
    s.vtClientStarted = true ∧ s.step bus u = s.handleVtDisconnected u (s.clockMs + u.elapsedMs) := by
  rw [VtClient.step] at h ⊢
  split at h
  · rw [VtClient.tryStartVtClient] at h
    split at h <;> cases h
  next hstarted =>
    rw [if_neg hstarted]
    split at h
    next hlost => exact ⟨by simpa using hstarted, if_pos hlost⟩
    next =>
      rw [(s.handleConnected_facts bus u (s.clockMs + u.elapsedMs)).2.2.1] at h
      cases h

private theorem le_of_timeExpired {sinceMs nowMs timeoutMs : Nat} (hpast : sinceMs ≤ nowMs)
    (h : timeExpiredMs (timestampMs nowMs) (timestampMs sinceMs) timeoutMs = true) :
    sinceMs + timeoutMs ≤ nowMs := by
  rw [timeExpiredMs, timestampMs, timestampMs, toNat_sub_timestamps hpast] at h
  have hexpired : timeoutMs ≤ (nowMs - sinceMs) % 2 ^ 32 := of_decide_eq_true h
  have hmod := Nat.mod_le (nowMs - sinceMs) (2 ^ 32)
  omega

private theorem timeExpired_iff {sinceMs nowMs timeoutMs : Nat} (hpast : sinceMs ≤ nowMs)
    (hnow : nowMs < 2 ^ 32) :
    timeExpiredMs (timestampMs nowMs) (timestampMs sinceMs) timeoutMs = true ↔
      sinceMs + timeoutMs ≤ nowMs := by
  rw [timeExpiredMs, timestampMs, timestampMs, toNat_sub_timestamps hpast, decide_eq_true_eq,
    Nat.mod_eq_of_lt (by omega)]
  omega

private theorem Waits.due_of_warned {trace : List VtOutput} {s : VtClient} (h : Waits trace s)
    (hstarted : s.vtClientStarted = true) (u : VtUpdate)
    (hwarned : 0 < (s.handleVtDisconnected u (s.clockMs + u.elapsedMs)).2.countP (·.isWarning)) :
    Due vtConnectMs (waiting (trace ++ (s.handleVtDisconnected u (s.clockMs + u.elapsedMs)).2)) := by
  obtain ⟨_, hdue⟩ := waiting_disconnected trace s u
  obtain ⟨start, sinceMs, hstart, hle, hnow, hstamp, _⟩ := h.disconnected hstarted u
  obtain ⟨_, _, hwarnings, _⟩ := s.handleVtDisconnected_facts u (s.clockMs + u.elapsedMs)
  rw [hwarnings, hstamp] at hwarned
  rw [hdue, ← hstart]
  split at hwarned
  next hwarns =>
    have hexpired := le_of_timeExpired (hnow.trans (Nat.le_add_right _ _))
      (Bool.and_eq_true_iff.mp hwarns).2
    omega
  next => cases hwarned

theorem connection_rule (updates : List VtUpdate) : ConnectionRule bus updates where
  capabilities := (attended_after bus updates).capabilityCount
  config := (attended_after bus updates).configCount
  warnedOnce := (Nat.le_add_right _ _).trans (warnedOnce_after bus updates).count
  notEarly pre u _ hwarned := by
    obtain ⟨hstarted, hstep⟩ := warnings_step bus _ u hwarned
    have hcall : (vtClient bus).step ((vtClient bus).after pre) u =
        ((vtClient bus).after pre).handleVtDisconnected u
          (((vtClient bus).after pre).clockMs + u.elapsedMs) := hstep
    rw [Machine.trace_snoc, hcall]
    rw [hcall] at hwarned
    exact (waits_after bus pre).due_of_warned hstarted u hwarned

structure Exact (trace : List VtOutput) (s : VtClient) : Prop where
  waits : Waits trace s
  idle : s.vtClientStarted = false → s.vtConnectionWarningLogged = false
  logged : s.clockMs < 2 ^ 32 → (∀ sample ∈ waiting trace, 0 < sample.time) →
    s.vtWasConnected = false →
      (s.vtConnectionWarningLogged = true ↔ Due vtConnectMs (waiting trace))

private theorem Exact.disconnected {trace : List VtOutput} {s : VtClient} (h : Exact trace s)
    (hstarted : s.vtClientStarted = true) (u : VtUpdate)
    (hclock : s.clockMs + u.elapsedMs + u.untilLookMs < 2 ^ 32)
    (hpositive : 0 < s.clockMs + u.elapsedMs ∧ ∀ sample ∈ waiting trace, 0 < sample.time) :
    let before := !s.vtWasConnected && s.vtConnectionWarningLogged
    let x := s.handleVtDisconnected u (s.clockMs + u.elapsedMs)
    let expired := timeExpiredMs (timestampMs (s.clockMs + u.elapsedMs + u.untilLookMs))
      x.1.vtDisconnectedSinceMs vtConnectMs
    (before = true ↔ Due vtConnectMs (waiting trace)) ∧
      (expired = true ↔ Due vtConnectMs (waiting (trace ++ x.2))) := by
  intro before x expired
  obtain ⟨_, hdue⟩ := waiting_disconnected trace s u
  obtain ⟨start, sinceMs, hstart, hle, hnow, hstamp, hexact⟩ := h.waits.disconnected hstarted u
  constructor
  · cases hwas : s.vtWasConnected with
    | true =>
        have hnone : ¬ Due vtConnectMs (waiting trace) :=
          not_due_of_interrupted (h.waits.connected hwas)
        have hbefore : before = false := by
          show (!s.vtWasConnected && s.vtConnectionWarningLogged) = false
          rw [hwas]
          rfl
        rw [hbefore]
        exact iff_of_false Bool.false_ne_true hnone
    | false =>
        have hbefore : before = s.vtConnectionWarningLogged := by
          show (!s.vtWasConnected && s.vtConnectionWarningLogged) = _
          rw [hwas]
          rfl
        rw [hbefore]
        exact h.logged (by omega) hpositive.2 hwas
  · have hstartPositive : 0 < start := by
      rw [hstart]
      cases hepisode : episodeStart (waiting trace) with
      | none => exact hpositive.1
      | some first =>
          obtain ⟨sample, hmem, rfl⟩ := mem_of_episodeStart hepisode
          exact hpositive.2 sample hmem
    have hstartStamp : timestampMs start ≠ 0 := by
      intro hzero
      have hvalue := congrArg BitVec.toNat hzero
      rw [timestampMs, BitVec.toNat_ofNat, Nat.mod_eq_of_lt (by omega)] at hvalue
      exact absurd hvalue (Nat.ne_of_gt hstartPositive)
    show timeExpiredMs _ x.1.vtDisconnectedSinceMs vtConnectMs = true ↔ _
    rw [hstamp, hexact hstartStamp, timeExpired_iff (by omega) hclock, hdue, ← hstart]

private theorem Waits.due_disconnected {trace : List VtOutput} {s : VtClient} (h : Waits trace s)
    (hdue : Due vtConnectMs (waiting trace)) (u : VtUpdate) :
    Due vtConnectMs (waiting (trace ++ (s.handleVtDisconnected u (s.clockMs + u.elapsedMs)).2)) := by
  obtain ⟨_, hwaiting, _⟩ := s.handleVtDisconnected_facts u (s.clockMs + u.elapsedMs)
  rw [waiting_append, hwaiting, ← List.singleton_append, ← List.append_assoc]
  have hfirst : Due vtConnectMs (waiting trace ++ [⟨s.clockMs + u.elapsedMs, true⟩]) := by
    refine hdue.snoc rfl fun last hlast => ?_
    have hclock := h.clock last (List.mem_of_getLast? hlast)
    show last.time ≤ s.clockMs + u.elapsedMs
    omega
  refine hfirst.snoc rfl fun last hlast => ?_
  rw [List.getLast?_concat] at hlast
  obtain rfl := Option.some.inj hlast
  exact Nat.le_add_right _ _

private theorem positive_before {trace : List VtOutput} {s : VtClient} {u : VtUpdate}
    (h : ∀ sample ∈ waiting (trace ++ (s.handleVtDisconnected u (s.clockMs + u.elapsedMs)).2),
      0 < sample.time) :
    0 < s.clockMs + u.elapsedMs ∧ ∀ sample ∈ waiting trace, 0 < sample.time := by
  obtain ⟨_, hwaiting, _⟩ := s.handleVtDisconnected_facts u (s.clockMs + u.elapsedMs)
  rw [waiting_append, hwaiting] at h
  exact ⟨h _ (List.mem_append_right _ List.mem_cons_self),
    fun sample hmem => h sample (List.mem_append_left _ hmem)⟩

theorem Exact.step {trace : List VtOutput} {s : VtClient} (h : Exact trace s) (u : VtUpdate)
    (hwaits : Waits (trace ++ (s.step bus u).2) (s.step bus u).1) :
    Exact (trace ++ (s.step bus u).2) (s.step bus u).1 := by
  refine ⟨hwaits, ?_, ?_⟩
  · rw [VtClient.step]
    split
    next hidle =>
      have hlogged := h.idle (by simpa using hidle)
      rw [VtClient.tryStartVtClient]
      split <;> exact fun _ => hlogged
    next hstarted =>
      have hstarted : s.vtClientStarted = true := by simpa using hstarted
      split <;> exact fun hfalse => by cases hfalse.symm.trans hstarted
  · rw [VtClient.step]
    split
    next hidle =>
      have hidle : s.vtClientStarted = false := by simpa using hidle
      have hnone := (h.waits.idle hidle).1
      rw [VtClient.tryStartVtClient]
      split
      · intro _ _ _
        rw [List.append_nil, hnone]
        exact iff_of_false (by rw [h.idle hidle]; exact Bool.false_ne_true)
          (not_due_of_interrupted rfl)
      · intro _ _ _
        rw [waiting_append, hnone]
        refine iff_of_false (by rw [h.idle hidle]; exact Bool.false_ne_true) fun hdue => ?_
        have hlasted : s.clockMs + u.elapsedMs + vtConnectMs ≤ s.clockMs + u.elapsedMs :=
          (due_snoc.mp hdue).2
        rw [vtConnectMs] at hlasted
        omega
    next hstarted =>
      have hstarted : s.vtClientStarted = true := by simpa using hstarted
      split
      · intro hclock hpositive _
        obtain ⟨hbefore, hexpired⟩ := h.disconnected hstarted u hclock (positive_before hpositive)
        show ((!s.vtWasConnected && s.vtConnectionWarningLogged) ||
          (!(!s.vtWasConnected && s.vtConnectionWarningLogged) && _)) = true ↔ _
        cases hlogged : !s.vtWasConnected && s.vtConnectionWarningLogged with
        | true =>
            rw [hlogged] at hbefore
            exact iff_of_true rfl (h.waits.due_disconnected (hbefore.mp rfl) u)
        | false => exact hexpired
      · exact fun _ _ hwas => by cases hwas

private theorem exact_after (updates : List VtUpdate) :
    Exact ((vtClient bus).trace updates) ((vtClient bus).after updates) := by
  induction updates using List.reverseRecOn with
  | nil =>
      refine ⟨waits_after bus [], fun _ => rfl, fun _ _ _ => ?_⟩
      exact iff_of_false Bool.false_ne_true (not_due_of_interrupted rfl)
  | append_singleton updates u ih =>
      have hwaits := waits_after bus (updates ++ [u])
      rw [Machine.trace_snoc, Machine.after_snoc] at hwaits ⊢
      exact ih.step bus u hwaits

private theorem clockMs_step (s : VtClient) (u : VtUpdate) : s.clockMs ≤
    (s.step bus u).1.clockMs := by
  rw [VtClient.step]
  split
  · rw [VtClient.tryStartVtClient]
    split <;> exact Nat.le_add_right _ _
  · split
    · show s.clockMs ≤ s.clockMs + u.elapsedMs + u.untilLookMs
      omega
    · show s.clockMs ≤ u.endMs (s.clockMs + u.elapsedMs)
      simp only [VtUpdate.endMs, VtUpdate.ageLookMs, VtUpdate.statusStampedMs, VtUpdate.statusLookMs,
        VtUpdate.sectionStampedMs, VtUpdate.sectionLookMs]
      omega

private theorem clockMs_after_append (pre updates : List VtUpdate) :
    ((vtClient bus).after pre).clockMs ≤ ((vtClient bus).after (pre ++ updates)).clockMs := by
  induction updates using List.reverseRecOn with
  | nil => rw [List.append_nil]
  | append_singleton updates u ih =>
      rw [← List.append_assoc, Machine.after_snoc]
      exact ih.trans (clockMs_step bus _ u)

private theorem Exact.warns_iff {trace : List VtOutput} {s : VtClient} (h : Exact trace s)
    (u : VtUpdate)
    (hclock : (s.step bus u).1.clockMs < 2 ^ 32)
    (hpositive : ∀ sample ∈ waiting (trace ++ (s.step bus u).2), 0 < sample.time) :
    0 < (s.step bus u).2.countP (·.isWarning) ↔
      Due vtConnectMs (waiting (trace ++ (s.step bus u).2)) ∧ ¬ Due vtConnectMs (waiting trace) := by
  rw [VtClient.step] at hclock hpositive ⊢
  split
  next hidle =>
    have hnone := (h.waits.idle (by simpa using hidle)).1
    rw [VtClient.tryStartVtClient]
    split
    · rw [List.append_nil]
      exact iff_of_false (Nat.lt_irrefl 0) fun hdue => hdue.2 hdue.1
    · refine iff_of_false (Nat.lt_irrefl 0) fun hdue => ?_
      have hfirst := hdue.1
      rw [waiting_append, hnone] at hfirst
      have hlasted : s.clockMs + u.elapsedMs + vtConnectMs ≤ s.clockMs + u.elapsedMs :=
        (due_snoc.mp hfirst).2
      rw [vtConnectMs] at hlasted
      omega
  next hstarted =>
    rw [if_neg hstarted] at hclock hpositive
    have hstarted : s.vtClientStarted = true := by simpa using hstarted
    split
    next hlost =>
      rw [if_pos hlost] at hclock hpositive
      obtain ⟨hbefore, hexpired⟩ := h.disconnected hstarted u hclock (positive_before hpositive)
      obtain ⟨_, _, hwarnings, _⟩ := s.handleVtDisconnected_facts u (s.clockMs + u.elapsedMs)
      have hcount (before expired : Bool) :
          (0 < if !before && expired then 1 else 0) ↔ expired = true ∧ ¬ before = true := by
        cases before <;> cases expired <;> decide
      rw [hwarnings, ← hexpired, ← hbefore]
      exact hcount _ _
    next =>
      obtain ⟨_, hwaiting, hwarnings, _⟩ := s.handleConnected_facts bus u (s.clockMs + u.elapsedMs)
      rw [hwarnings, waiting_append, hwaiting]
      refine iff_of_false (Nat.lt_irrefl 0) fun hdue => ?_
      exact Bool.false_ne_true (due_snoc.mp hdue.1).1

/-- While the timestamps are exact: a run warns at exactly those calls at which the wait has become 30 s
long since the call before. -/
theorem warning_rings (updates : List VtUpdate)
    (hclock : ((vtClient bus).after updates).clockMs < 2 ^ 32)
    (hpositive : ∀ sample ∈ waiting ((vtClient bus).trace updates), 0 < sample.time)
    (pre : List VtUpdate) (u : VtUpdate) (hpre : pre ++ [u] <+: updates) :
    0 < ((vtClient bus).step ((vtClient bus).after pre) u).2.countP (·.isWarning) ↔
      Due vtConnectMs (waiting ((vtClient bus).trace (pre ++ [u]))) ∧
        ¬ Due vtConnectMs (waiting ((vtClient bus).trace pre)) := by
  obtain ⟨rest, rfl⟩ := hpre
  have hend := (clockMs_after_append bus (pre ++ [u]) rest).trans_lt hclock
  rw [Machine.trace_append, waiting_append] at hpositive
  have hbefore : ∀ sample ∈ waiting ((vtClient bus).trace (pre ++ [u])), 0 < sample.time :=
    fun sample hmem => hpositive sample (List.mem_append_left _ hmem)
  rw [Machine.after_snoc] at hend
  rw [Machine.trace_snoc] at hbefore ⊢
  exact (exact_after bus pre).warns_iff bus u hend hbefore

def waitingUpdates : List VtUpdate :=
  [{ elapsedMs := 5, partnerAddress := some 38, connected := false, report := ⟨4, 480, 480, 80, 80, 5, 5⟩,
     view := emptyView },
    { elapsedMs := 40000, partnerAddress := some 38, connected := false,
      report := ⟨4, 480, 480, 80, 80, 5, 5⟩, view := emptyView }]

theorem waitingUpdates_rings :
    0 < ((vtClient ⟨61, 247⟩).step ((vtClient ⟨61, 247⟩).after [waitingUpdates[0]])
        waitingUpdates[1]).2.countP (·.isWarning) ↔
      Due vtConnectMs (waiting ((vtClient ⟨61, 247⟩).trace waitingUpdates)) ∧
        ¬ Due vtConnectMs (waiting ((vtClient ⟨61, 247⟩).trace [waitingUpdates[0]])) :=
  warning_rings ⟨61, 247⟩ waitingUpdates (by decide) (by decide) [waitingUpdates[0]] waitingUpdates[1]
    List.prefix_rfl

end AogTaskController.VirtualTerminal
