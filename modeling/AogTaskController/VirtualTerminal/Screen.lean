import AogTaskController.VirtualTerminal.Client

/-!
# What the terminal shows

The cache of the client is what the terminal shows, in every run and over every loss of the connection.
So nothing is sent that is shown already, and whatever was due to be shown is.
-/

namespace AogTaskController.VirtualTerminal

open Framework Application TaskController

def stringOutput (message : Nat × Bytes) : VtOutput := .sent (.changeString message.1 message.2)

def VtOutput.writes : VtOutput → Bool
  | .linked false _ _ => true
  | .sent (.changeString _ _) => true
  | _ => false

private theorem showOutput_of_not_writes (shown : Std.ExtTreeMap Nat Bytes) {output : VtOutput}
    (h : output.writes = false) : showOutput shown output = shown := by
  cases output with
  | linked connected sinceMs lookMs =>
      cases connected with
      | false => cases h
      | true => rfl
  | sent message =>
      cases message with
      | changeString objectID value => cases h
      | _ => rfl
  | _ => rfl

private theorem foldl_showOutput_of_not_writes (shown : Std.ExtTreeMap Nat Bytes)
    {outputs : List VtOutput}
    (h : ∀ output ∈ outputs, output.writes = false) : outputs.foldl showOutput shown = shown := by
  induction outputs with
  | nil => rfl
  | cons output outputs ih =>
      rw [List.forall_mem_cons] at h
      rw [List.foldl_cons, showOutput_of_not_writes shown h.1]
      exact ih h.2

private theorem foldl_showOutput_strings (shown : Std.ExtTreeMap Nat Bytes)
    (messages : List (Nat × Bytes)) :
    (messages.map stringOutput).foldl showOutput shown = receive shown messages :=
  List.foldl_map

private theorem screen_append (outputs more : List VtOutput) :
    screen (outputs ++ more) = more.foldl showOutput (screen outputs) :=
  List.foldl_append

namespace VtClient

variable (bus : BusNumbers) (s : VtClient) (u : VtUpdate)

private theorem connectedOutputs_not_writes (nowMs : Nat) :
    ∀ output ∈ s.connectedOutputs u nowMs, output.writes = false := by
  have hcapabilities : ∀ output ∈ if s.vtCapabilitiesLogged then [] else u.capabilityLines,
      output.writes = false := by
    rw [VtUpdate.capabilityLines]
    split
    · exact fun _ h => by cases h
    · rw [List.forall_mem_cons]
      refine ⟨rfl, ?_⟩
      split
      · simp [VtOutput.writes]
      · split <;> simp [VtOutput.writes]
  have hconfig : ∀ output ∈ if s.vtConfigSynced then [] else u.configMessages,
      output.writes = false := by
    split
    · exact fun _ h => by cases h
    · simp [VtUpdate.configMessages, VtOutput.writes]
  have htracked : ∀ output ∈ u.trackedValues nowMs, output.writes = false := by
    simp [VtUpdate.trackedValues, VtOutput.writes]
  intro output hmem
  rw [connectedOutputs, List.mem_append, List.mem_append, List.mem_append] at hmem
  rcases hmem with ((hmem | hmem) | hmem) | hmem
  · rw [List.mem_singleton.mp hmem]
    rfl
  · exact hcapabilities output hmem
  · exact hconfig output hmem
  · exact htracked output hmem

def stringsSent : List (Nat × Bytes) :=
  if s.vtClientStarted && u.connected then
    (sendAllIfChanged s.lastVtStrings (s.entries bus u (s.clockMs + u.elapsedMs))).2
  else []

/-- What one call does: it shows nothing but its texts, or finds that the terminal has forgotten them. -/
private theorem step_cases :
    (∃ others, (s.step bus u).2 = others ++ (s.stringsSent bus u).map stringOutput ∧
      (∀ output ∈ others, output.writes = false) ∧
      (s.step bus u).1.lastVtStrings = receive s.lastVtStrings (s.stringsSent bus u)) ∨
    (∃ sinceMs lookMs warning, (s.step bus u).2 = .linked false sinceMs lookMs :: warning ∧
      (∀ output ∈ warning, output.writes = false) ∧ (s.step bus u).1.lastVtStrings = ∅) := by
  rw [step, stringsSent]
  cases hstarted : s.vtClientStarted with
  | false =>
      left
      simp only [Bool.not_false, if_true, tryStartVtClient, Bool.false_and, Bool.false_eq_true, if_false]
      cases u.partnerAddress with
      | none => exact ⟨[], rfl, fun _ h => (by cases h), rfl⟩
      | some address =>
          refine ⟨[.initialized (s.clockMs + u.elapsedMs) address], rfl, ?_, rfl⟩
          simp [VtOutput.writes]
  | true =>
      cases u.connected with
      | false =>
          right
          have hwarning (warns : Bool) : ∀ output ∈
              if warns then [VtOutput.notConnectedWarning u.report] else [], output.writes = false := by
            cases warns <;> simp [VtOutput.writes]
          exact ⟨_, _, _, rfl, hwarning _, rfl⟩
      | true =>
          left
          refine ⟨_, rfl, s.connectedOutputs_not_writes u _, ?_⟩
          obtain ⟨hcache, hreceived⟩ := sendAllIfChanged_eq s.lastVtStrings
            (s.entries bus u (s.clockMs + u.elapsedMs))
          exact hcache.trans hreceived.symm

end VtClient

variable (bus : BusNumbers)

private theorem lastVtStrings_after (updates : List VtUpdate) :
    ((vtClient bus).after updates).lastVtStrings = screen ((vtClient bus).trace updates) := by
  refine (vtClient bus).trace_invariant (fun trace s => s.lastVtStrings = screen trace) rfl ?_ updates
  intro trace s u h
  show (s.step bus u).1.lastVtStrings = screen (trace ++ (s.step bus u).2)
  rw [screen_append, ← h]
  rcases s.step_cases bus u with hsent | hlost
  · obtain ⟨others, houtputs, hothers, hcache⟩ := hsent
    rw [houtputs, List.foldl_append, foldl_showOutput_of_not_writes _ hothers,
      foldl_showOutput_strings, hcache]
  · obtain ⟨sinceMs, lookMs, warning, houtputs, hwarning, hcache⟩ := hlost
    rw [houtputs, List.foldl_cons, foldl_showOutput_of_not_writes _ hwarning, hcache]
    rfl

def News (shown : Std.ExtTreeMap Nat Bytes) (outputs : List VtOutput) : Prop :=
  ∀ before objectID value after, outputs = before ++ .sent (.changeString objectID value) :: after →
    (before.foldl showOutput shown)[objectID]? ≠ some value

theorem News.append {shown : Std.ExtTreeMap Nat Bytes} {outputs more : List VtOutput}
    (h : News shown outputs) (hmore : News (outputs.foldl showOutput shown) more) :
    News shown (outputs ++ more) := by
  intro before objectID value after heq
  rcases List.append_eq_append_iff.mp heq with hlater | hearlier
  · obtain ⟨between, rfl, hsplit⟩ := hlater
    rw [List.foldl_append]
    exact hmore between objectID value after hsplit
  · obtain ⟨between, hbefore, hsplit⟩ := hearlier
    cases between with
    | nil =>
        rw [List.append_nil] at hbefore
        rw [← hbefore]
        exact hmore [] objectID value after hsplit.symm
    | cons output between =>
        obtain ⟨rfl, rfl⟩ := List.cons.inj hsplit
        exact h before objectID value between hbefore

private theorem news_of_no_text (shown : Std.ExtTreeMap Nat Bytes) {outputs : List VtOutput}
    (h : ∀ objectID value, .sent (.changeString objectID value) ∉ outputs) : News shown outputs := by
  intro before objectID value after heq
  exact absurd (heq ▸ List.mem_append_right _ List.mem_cons_self) (h objectID value)

private theorem news_of_not_writes (shown : Std.ExtTreeMap Nat Bytes) {outputs : List VtOutput}
    (h : ∀ output ∈ outputs, output.writes = false) : News shown outputs :=
  news_of_no_text shown fun _ _ hmem => (by cases h _ hmem)

private theorem news_strings {shown : Std.ExtTreeMap Nat Bytes} {messages : List (Nat × Bytes)}
    (h : ∀ before message after, messages = before ++ message :: after →
      (receive shown before)[message.1]? ≠ some message.2) : News shown (messages.map stringOutput) := by
  intro before objectID value after heq
  obtain ⟨sent, rest, rfl, rfl, hrest⟩ := List.map_eq_append_iff.mp heq
  obtain ⟨message, later, rfl, hmessage, _⟩ := List.map_eq_cons_iff.mp hrest
  obtain ⟨rfl, rfl⟩ := VtMessage.changeString.inj (VtOutput.sent.inj hmessage)
  rw [foldl_showOutput_strings]
  exact h sent message later rfl

namespace VtClient

variable (s : VtClient) (u : VtUpdate)

private theorem stringsSent_news {before after : List (Nat × Bytes)} {message : Nat × Bytes}
    (h : s.stringsSent bus u = before ++ message :: after) :
    (receive s.lastVtStrings before)[message.1]? ≠ some message.2 ∧
      message ∈ s.entries bus u (s.clockMs + u.elapsedMs) := by
  rw [stringsSent] at h
  split at h
  · exact sendAllIfChanged_news h
  · have hlength := congrArg List.length h
    rw [List.length_append, List.length_cons] at hlength
    cases hlength

private theorem step_news : News s.lastVtStrings (s.step bus u).2 := by
  rcases s.step_cases bus u with hsent | hlost
  · obtain ⟨others, houtputs, hothers, _⟩ := hsent
    rw [houtputs]
    apply (news_of_not_writes _ hothers).append
    rw [foldl_showOutput_of_not_writes _ hothers]
    exact news_strings fun before message after h => (s.stringsSent_news bus u h).1
  · obtain ⟨sinceMs, lookMs, warning, houtputs, hwarning, _⟩ := hlost
    have hlinked : News s.lastVtStrings [.linked false sinceMs lookMs] :=
      news_of_no_text _ fun _ _ hmem => (by cases List.mem_singleton.mp hmem)
    rw [houtputs]
    exact hlinked.append (news_of_not_writes _ hwarning)

end VtClient

private theorem trace_news (updates : List VtUpdate) : News ∅ ((vtClient bus).trace updates) := by
  induction updates using List.reverseRecOn with
  | nil => exact news_of_not_writes ∅ fun _ h => (by cases h)
  | append_singleton updates u ih =>
      rw [Machine.trace_snoc]
      apply ih.append
      show News (screen ((vtClient bus).trace updates)) _
      rw [← lastVtStrings_after]
      exact VtClient.step_news bus _ u

namespace VtUpdate

private theorem nodup_statusEntries (u : VtUpdate) (nowMs : Nat) :
    ((u.sectionEntry :: u.statusEntries bus nowMs).map (·.1)).Nodup := by
  show List.Nodup [11205, 11001, 11005, 11000, 11004, 8000, 11501, 11502, 11503, 11504, 11102, 11104,
    11202, 11203, 11204, 11209, 11206, 11302, 11305, 11306, 11307, 11308, 11309, 11304]
  decide

end VtUpdate

namespace VtClient

variable (s : VtClient) (u : VtUpdate)

private theorem nodup_entries (nowMs : Nat) : ((s.entries bus u nowMs).map (·.1)).Nodup := by
  have hsublist : (s.entries bus u nowMs).Sublist (u.sectionEntry :: u.statusEntries bus nowMs) := by
    show List.Sublist _ ([u.sectionEntry] ++ u.statusEntries bus nowMs)
    apply List.Sublist.append
    · split
      · exact List.Sublist.refl _
      · exact List.nil_sublist _
    · split
      · exact List.Sublist.refl _
      · exact List.nil_sublist _
  exact (u.nodup_statusEntries bus nowMs).sublist (hsublist.map _)

private theorem getElem?_step {entry : Nat × Bytes} (hstarted : s.vtClientStarted = true)
    (hconnected : u.connected = true) (hentry : entry ∈ s.entries bus u (s.clockMs + u.elapsedMs)) :
    (s.step bus u).1.lastVtStrings[entry.1]? = some entry.2 := by
  have hcache : (s.step bus u).1.lastVtStrings =
      (sendAllIfChanged s.lastVtStrings (s.entries bus u (s.clockMs + u.elapsedMs))).1 := by
    simp only [step, hstarted, hconnected, Bool.not_true, Bool.false_eq_true, if_false]
    rfl
  rw [hcache, (sendAllIfChanged_eq _ _).1]
  exact getElem?_receive (s.nodup_entries bus u _) hentry

end VtClient

structure ScreenRule (updates : List VtUpdate) : Prop where
  /-- The cache is what the terminal shows. -/
  mirrored : ((vtClient bus).after updates).lastVtStrings = screen ((vtClient bus).trace updates)
  /-- No text is sent that is shown already. -/
  news : ∀ before objectID value after,
    (vtClient bus).trace updates = before ++ .sent (.changeString objectID value) :: after →
      (screen before)[objectID]? ≠ some value
  /-- Behind an update of the status page the terminal shows what the application knows. -/
  status : ∀ pre u, pre ++ [u] <+: updates → u.connected = true →
    let s := (vtClient bus).after pre
    let nowMs := s.clockMs + u.elapsedMs
    s.vtClientStarted = true → s.statusDue u nowMs = true →
      ∀ text ∈ u.statusEntries bus nowMs,
        (screen ((vtClient bus).trace (pre ++ [u])))[text.1]? = some text.2
  /-- Behind an update of the section map it can be read off there which sections work. -/
  sections : ∀ pre u, pre ++ [u] <+: updates → u.connected = true →
    let s := (vtClient bus).after pre
    s.vtClientStarted = true → s.sectionDue u (s.clockMs + u.elapsedMs) = true →
      (screen ((vtClient bus).trace (pre ++ [u])))[VtString.implementSectionMap.objectId]?.map
        readSectionMap = some (shownStates u.view.clients)

/-- Every run follows the rule. -/
theorem screen_rule (updates : List VtUpdate) : ScreenRule bus updates where
  mirrored := lastVtStrings_after bus updates
  news := trace_news bus updates
  status pre u _ hconnected := by
    intro s nowMs hstarted hdue text htext
    have hentry : text ∈ s.entries bus u nowMs := by
      rw [VtClient.entries, if_pos hdue]
      exact List.mem_append_right _ htext
    rw [← lastVtStrings_after, Machine.after_snoc]
    exact s.getElem?_step bus u hstarted hconnected hentry
  sections pre u _ hconnected := by
    intro s hstarted hdue
    have hentry : u.sectionEntry ∈ s.entries bus u (s.clockMs + u.elapsedMs) := by
      rw [VtClient.entries, if_pos hdue]
      exact List.mem_append_left _ (List.mem_singleton_self _)
    have hshown := s.getElem?_step bus u hstarted hconnected hentry
    rw [← lastVtStrings_after, Machine.after_snoc, ← readSectionMap_sectionMap]
    exact congrArg (Option.map readSectionMap) hshown

private theorem mem_step_changeString {s : VtClient} {u : VtUpdate} {objectID : Nat} {value : Bytes}
    (h : .sent (.changeString objectID value) ∈ (s.step bus u).2) :
    (objectID, value) ∈ s.entries bus u (s.clockMs + u.elapsedMs) := by
  rcases s.step_cases bus u with hsent | hlost
  · obtain ⟨others, houtputs, hothers, _⟩ := hsent
    rw [houtputs] at h
    rcases List.mem_append.mp h with h | h
    · cases hothers _ h
    · obtain ⟨message, hmessage, heq⟩ := List.mem_map.mp h
      obtain ⟨rfl, rfl⟩ := VtMessage.changeString.inj (VtOutput.sent.inj heq)
      obtain ⟨before, after, hsplit⟩ := List.append_of_mem hmessage
      exact (s.stringsSent_news bus u hsplit).2
  · obtain ⟨sinceMs, lookMs, warning, houtputs, hwarning, _⟩ := hlost
    rw [houtputs] at h
    rcases List.mem_cons.mp h with h | h
    · cases h
    · cases hwarning _ h

/-- No run sends a text that is longer than its string in the pool. -/
theorem sentTexts_fit (updates : List VtUpdate) (hbus : ∀ u ∈ updates, u.view.OnBus) (objectID : Nat)
    (value : Bytes)
    (hsent : .sent (.changeString objectID value) ∈ (vtClient bus).trace updates) :
    ∃ object : VtString, object.objectId = objectID ∧ value.length ≤ object.declaredLength := by
  obtain ⟨pre, u, hpre, hmem⟩ := (vtClient bus).exists_of_mem_trace hsent
  have hview : u.view.OnBus :=
    hbus u (hpre.subset (List.mem_append_right _ (List.mem_singleton_self _)))
  rcases List.mem_append.mp (mem_step_changeString bus hmem) with hentry | hentry
  · split at hentry
    · obtain ⟨rfl, rfl⟩ := Prod.mk.inj (List.mem_singleton.mp hentry)
      exact ⟨.implementSectionMap, rfl, length_sectionMap _⟩
    · cases hentry
  · split at hentry
    · obtain ⟨text, htext, heq⟩ := List.mem_map.mp hentry
      obtain ⟨rfl, rfl⟩ := Prod.mk.inj heq
      exact ⟨text.1, rfl, hview.statusTexts_fit bus _ _ text htext⟩
    · cases hentry

/-- Our task controller and an implement with three sections, both on the bus. -/
def sprayerView : VtView :=
  { emptyView with
    boundIpAddress := some (192, 168, 1, 20)
    clients := [{
      handle := 2
      state := (default : ClientState).setNumberOfSections 3
      designator := some (ascii "Sprayer")
      booms := measuredBooms }]
    ourTC := some ⟨1, true, 247, 1407, 130, 20, 0, 0⟩
    controlFunctions := [⟨1, true, 247, 1407, 130, 20, 0, 0⟩, ⟨2, true, 128, 98, 132, 7, 0, 0⟩]
    lastDistanceMm := 1234567 }

private theorem sprayerView_onBus : sprayerView.OnBus where
  addresses := by decide
  clients := by decide
  width client hclient := by
    obtain rfl := Option.mem_some.mp hclient
    decide

def firstUpdates : List VtUpdate :=
  [{ elapsedMs := 5, partnerAddress := some 38, connected := false, report := ⟨4, 480, 480, 80, 80, 5, 5⟩,
     view := sprayerView },
    { elapsedMs := 1000, partnerAddress := some 38, connected := true,
      report := ⟨4, 480, 480, 80, 80, 5, 5⟩, view := sprayerView }]

theorem firstUpdates_fit :
    ∃ object : VtString, object.objectId = 11104 ∧
      (ascii "0xF7  130       1407  20       0\n0x80  132       98    7        3").length ≤
        object.declaredLength :=
  sentTexts_fit ⟨130, 247⟩ firstUpdates
    (by
      intro u hu
      have hview : u.view = sprayerView := by
        rcases List.mem_cons.mp hu with rfl | hu
        · rfl
        · rw [List.mem_singleton.mp hu]
      exact hview ▸ sprayerView_onBus)
    11104 (ascii "0xF7  130       1407  20       0\n0x80  132       98    7        3")
    (by decide +kernel)

end AogTaskController.VirtualTerminal
