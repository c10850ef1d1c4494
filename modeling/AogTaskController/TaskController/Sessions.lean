import AogTaskController.TaskController.Server

/-!
# Sessions

The server keeps its clients apart: what a run does to one control function, and what it shows of
it, is a machine of its own. Facts about the server are proved about one session.
-/

namespace AogTaskController.TaskController

open Framework

structure Session where
  client : Option ClientState := none
  uploaded : Option (List (List UInt8)) := none

namespace Session

def forClient (s : Session) (partner : ControlFunction)
    (f : ClientState → ClientState × List Command) : Session × List Observation :=
  match s.client with
  | none => (s, [])
  | some st => ({ s with client := some (f st).1 }, (f st).2.map (.sent partner))

def activate (stack : IsobusStack) (partner : ControlFunction) (fs : FileSystem) (s : Session) :
    Session × List Observation :=
  match s.uploaded with
  | none => (s, [.activation partner [] (.returned false { activationError := .anyOtherError })])
  | some chunks =>
      let result := stack.activateUploaded fs (stack.getName partner) chunks
      ({ client := result.registered.or s.client, uploaded := some [] },
        [.activation partner chunks result.outcome])

def step (stack : IsobusStack) (partner : ControlFunction) (s : Session) :
    Event → Session × List Observation
  | .storeDeviceDescriptorObjectPool q binaryPool =>
      (if q = partner then { s with uploaded := some (s.uploaded.getD [] ++ [binaryPool]) } else s,
        [])
  | .activateObjectPool q fs => if q = partner then s.activate stack partner fs else (s, [])
  | .deactivateObjectPool q => if q = partner then ({}, [.closed partner]) else (s, [])
  | .deleteDeviceDescriptorObjectPool q =>
      if q = partner then ({}, [.closed partner]) else (s, [])
  | .onClientTimeout q =>
      if q = partner then ({ s with client := none }, [.closed partner]) else (s, [])
  | .onValueCommand q ddi elementNumber value =>
      (if q = partner ∧ ClientState.handlesValueCommand ddi then
        { s with client := some ((s.client.getD default).onValueCommand ddi elementNumber value) }
      else s, [])
  | .requestMeasurementCommands => s.forClient partner (·.requestMeasurementCommands)
  | .updateSectionStates sectionStates =>
      s.forClient partner (·.updateSectionStates sectionStates)
  | .updateSectionControlEnabled enabled =>
      s.forClient partner (·.updateSectionControlEnabled enabled)
  | .sendGnssQuality quality => s.forClient partner fun st => (st, st.sendGnssQuality quality)
  | .other => (s, [])

end Session

def sessionMachine (stack : IsobusStack) (partner : ControlFunction) :
    Machine Session Event Observation where
  init := {}
  step := Session.step stack partner

namespace Server

def session (s : Server) (partner : ControlFunction) : Session :=
  ⟨s.clients[partner]?, s.uploadedPools[partner]?⟩

private theorem session_forEachClient (s : Server) (partner : ControlFunction)
    (f : ClientState → ClientState × List Command) :
    (s.session partner).forClient partner f =
      ((s.forEachClient f).1.session partner,
        (s.forEachClient f).2.filter (·.partner == partner)) := by
  have hskip {l : List (ControlFunction × ClientState)} (hl : ∀ client ∈ l, client.1 ≠ partner) :
      (l.flatMap fun client => (f client.2).2.map (Observation.sent client.1)).filter
        (·.partner == partner) = [] := by
    rw [List.filter_eq_nil_iff]
    intro observation hmem
    obtain ⟨client, hclient, hsent⟩ := List.mem_flatMap.mp hmem
    obtain ⟨command, _, rfl⟩ := List.mem_map.mp hsent
    simpa [Observation.partner] using hl client hclient
  simp only [session, forEachClient, Session.forClient, Std.ExtTreeMap.getElem?_map]
  cases hclient : s.clients[partner]? with
  | none =>
      rw [hskip]
      · rfl
      · rintro ⟨q, st⟩ hmem rfl
        rw [Std.ExtTreeMap.mem_toList_iff_getElem?_eq_some, hclient] at hmem
        cases hmem
  | some st =>
      have hmem := Std.ExtTreeMap.mem_toList_iff_getElem?_eq_some.mpr hclient
      have hkeys := s.clients.distinct_keys_toList
      obtain ⟨before, behind, hlist⟩ := List.append_of_mem hmem
      rw [hlist] at hkeys ⊢
      rw [List.pairwise_append, List.pairwise_cons] at hkeys
      rw [List.flatMap_append, List.flatMap_cons, List.filter_append, List.filter_append, hskip, hskip]
      · have hall : ((f st).2.map (Observation.sent partner)).filter (·.partner == partner) =
            (f st).2.map (Observation.sent partner) := by
          rw [List.filter_eq_self]
          intro observation hsent
          obtain ⟨command, _, rfl⟩ := List.mem_map.mp hsent
          exact beq_self_eq_true partner
        simp [hall]
      · rintro ⟨q, st'⟩ hbehind rfl
        exact hkeys.2.1.1 _ hbehind (Std.ReflCmp.compare_self)
      · rintro ⟨q, st'⟩ hbefore rfl
        exact hkeys.2.2 _ hbefore _ (List.mem_cons_self ..) (Std.ReflCmp.compare_self)

theorem sentTo_filter (partner : ControlFunction) (log : List Observation) :
    sentTo partner (log.filter (·.partner == partner)) = sentTo partner log := by
  rw [sentTo, sentTo, List.filterMap_filter]
  apply List.filterMap_congr
  intro observation _
  cases observation with
  | sent q command => by_cases hq : q = partner <;> simp [Observation.partner, hq]
  | activation q chunks outcome => simp
  | closed q => simp

theorem sentTo_forEachClient (s : Server) (partner : ControlFunction)
    (f : ClientState → ClientState × List Command) :
    sentTo partner (s.forEachClient f).2 =
      match s.clients[partner]? with
      | none => []
      | some st => (f st).2 := by
  have hsession : ((s.session partner).forClient partner f).2 =
      (s.forEachClient f).2.filter (·.partner == partner) :=
    congrArg Prod.snd (s.session_forEachClient partner f)
  rw [← sentTo_filter, ← hsession, session, Session.forClient]
  cases s.clients[partner]? with
  | none => rfl
  | some st => simp [sentTo, List.filterMap_map]

theorem clients_forEachClient (s : Server) (partner : ControlFunction)
    (f : ClientState → ClientState × List Command) :
    (s.forEachClient f).1.clients[partner]? = (s.clients[partner]?).map fun st => (f st).1 := by
  rw [forEachClient, Std.ExtTreeMap.getElem?_map]

private theorem session_modifyClient (s : Server) (partner q : ControlFunction)
    (f : ClientState → ClientState) :
    (s.modifyClient q f).session partner =
      if q = partner then
        { s.session partner with client := some (f ((s.session partner).client.getD default)) }
      else s.session partner := by
  simp only [session, modifyClient, Std.ExtTreeMap.getElem?_alter, Std.LawfulEqCmp.compare_eq_iff_eq]
  by_cases hq : q = partner
  · subst hq
    simp
  · simp [hq]

private theorem session_eraseClient (s : Server) (partner q : ControlFunction) :
    (s.eraseClient q).session partner = if q = partner then {} else s.session partner := by
  simp only [session, eraseClient, Std.ExtTreeMap.getElem?_erase, Std.LawfulEqCmp.compare_eq_iff_eq]
  split <;> rfl

private theorem session_onClientTimeout (s : Server) (partner q : ControlFunction) :
    (s.onClientTimeout q).session partner =
      if q = partner then { s.session partner with client := none } else s.session partner := by
  simp only [session, onClientTimeout, Std.ExtTreeMap.getElem?_erase,
    Std.LawfulEqCmp.compare_eq_iff_eq]
  split <;> rfl

private theorem session_storeDeviceDescriptorObjectPool (s : Server) (partner q : ControlFunction)
    (binaryPool : List UInt8) :
    (s.storeDeviceDescriptorObjectPool q binaryPool).session partner =
      if q = partner then
        { s.session partner with
          uploaded := some ((s.session partner).uploaded.getD [] ++ [binaryPool]) }
      else s.session partner := by
  simp only [session, storeDeviceDescriptorObjectPool, Std.ExtTreeMap.getElem?_alter,
    Std.LawfulEqCmp.compare_eq_iff_eq]
  by_cases hq : q = partner
  · subst hq
    simp
  · simp [hq]

private theorem session_activateObjectPool (stack : IsobusStack) (s : Server)
    (partner q : ControlFunction) (fs : FileSystem) :
    (if q = partner then (s.session partner).activate stack partner fs
      else (s.session partner, [])) =
      ((activateObjectPool stack s q fs).1.session partner,
        (activateObjectPool stack s q fs).2.filter (·.partner == partner)) := by
  by_cases hq : q = partner
  · subst hq
    simp only [if_true, Session.activate, activateObjectPool, session]
    cases huploaded : s.uploadedPools[q]? with
    | none =>
        simp only [huploaded]
        simp [Observation.partner]
    | some chunks =>
        cases hregistered : (stack.activateUploaded fs (stack.getName q) chunks).registered <;>
          simp [Observation.partner, hregistered]
  · simp only [if_neg hq, activateObjectPool, session]
    cases s.uploadedPools[q]? with
    | none => simp [Observation.partner, hq]
    | some chunks =>
        cases hregistered : (stack.activateUploaded fs (stack.getName q) chunks).registered <;>
          simp [Observation.partner, hq, Std.ExtTreeMap.getElem?_insert, hregistered]

end Server

/-- A run of the server, seen from one control function, is a run of its session. -/
theorem server_projection (stack : IsobusStack) (partner : ControlFunction) :
    Machine.Projection (serverMachine stack) (sessionMachine stack partner) (Server.session · partner)
      (·.partner == partner) where
  init := by simp [serverMachine, sessionMachine, Server.session]
  step s e := by
    cases e with
    | storeDeviceDescriptorObjectPool q binaryPool =>
        exact Prod.ext (s.session_storeDeviceDescriptorObjectPool partner q binaryPool).symm rfl
    | activateObjectPool q fs => exact s.session_activateObjectPool stack partner q fs
    | deactivateObjectPool q =>
        simp only [sessionMachine, Session.step, serverMachine, Server.step,
          Server.deactivateObjectPool, Server.session_eraseClient]
        by_cases hq : q = partner <;> simp [hq, Observation.partner]
    | deleteDeviceDescriptorObjectPool q =>
        simp only [sessionMachine, Session.step, serverMachine, Server.step,
          Server.deleteDeviceDescriptorObjectPool, Server.session_eraseClient]
        by_cases hq : q = partner <;> simp [hq, Observation.partner]
    | onClientTimeout q =>
        simp only [sessionMachine, Session.step, serverMachine, Server.step,
          Server.session_onClientTimeout]
        by_cases hq : q = partner <;> simp [hq, Observation.partner]
    | onValueCommand q ddi elementNumber value =>
        simp only [sessionMachine, Session.step, serverMachine, Server.step, Server.onValueCommand]
        by_cases hddi : ClientState.handlesValueCommand ddi = true
        · simp [hddi, Server.session_modifyClient]
        · simp [hddi]
    | requestMeasurementCommands | updateSectionStates _ | updateSectionControlEnabled _
    | sendGnssQuality _ => exact s.session_forEachClient partner _
    | other => rfl

/-- What every client state starts with and every server method preserves. -/
structure ClientInvariant (stack : IsobusStack) (P : ClientState → Prop) : Prop where
  empty : P default
  fresh : ∀ pool, P (stack.newClientState pool)
  onValueCommand : ∀ st ddi elementNumber value, P st → P (st.onValueCommand ddi elementNumber value)
  requestMeasurementCommands : ∀ st, P st → P st.requestMeasurementCommands.1
  updateSectionStates : ∀ st sectionStates, P st → P (st.updateSectionStates sectionStates).1
  updateSectionControlEnabled : ∀ st enabled, P st → P (st.updateSectionControlEnabled enabled).1

namespace Session

variable {stack : IsobusStack} {partner : ControlFunction} {P : ClientState → Prop}

private theorem forClient_invariant {f : ClientState → ClientState × List Command}
    (hf : ∀ st, P st → P (f st).1) {s : Session} (h : ∀ st, s.client = some st → P st) :
    ∀ st, (s.forClient partner f).1.client = some st → P st := by
  intro st hst
  rw [forClient] at hst
  cases hclient : s.client with
  | none =>
      rw [hclient] at hst
      exact h st hst
  | some old =>
      rw [hclient] at hst
      obtain rfl := Option.some.inj hst
      exact hf old (h old hclient)

private theorem activate_invariant (hfresh : ∀ pool, P (stack.newClientState pool))
    (fs : FileSystem) {s : Session} (h : ∀ st, s.client = some st → P st) :
    ∀ st, (s.activate stack partner fs).1.client = some st → P st := by
  intro st hst
  rw [activate] at hst
  cases huploaded : s.uploaded with
  | none =>
      rw [huploaded] at hst
      exact h st hst
  | some chunks =>
      rw [huploaded] at hst
      rcases activateUploaded_cases stack fs (stack.getName partner) chunks with
        ⟨hnone, _⟩ | ⟨pool, _, hsome, _⟩
      · simp only [hnone, Option.none_or] at hst
        exact h st hst
      · simp only [hsome, Option.some_or, Option.some.injEq] at hst
        exact hst ▸ hfresh pool

private theorem step_invariant (hP : ClientInvariant stack P) (s : Session) (e : Event)
    (h : ∀ st, s.client = some st → P st) :
    ∀ st, (s.step stack partner e).1.client = some st → P st := by
  cases e with
  | storeDeviceDescriptorObjectPool q binaryPool =>
      rw [step]
      split <;> exact h
  | activateObjectPool q fs =>
      rw [step]
      split
      · exact activate_invariant hP.fresh fs h
      · exact h
  | deactivateObjectPool q | deleteDeviceDescriptorObjectPool q | onClientTimeout q =>
      rw [step]
      split
      · exact fun st hst => by cases hst
      · exact h
  | onValueCommand q ddi elementNumber value =>
      rw [step]
      split
      · intro st hst
        obtain rfl := Option.some.inj hst
        apply hP.onValueCommand
        cases hclient : s.client with
        | none => exact hP.empty
        | some old => exact h old hclient
      · exact h
  | requestMeasurementCommands => exact forClient_invariant hP.requestMeasurementCommands h
  | updateSectionStates sectionStates =>
      exact forClient_invariant (fun st => hP.updateSectionStates st sectionStates) h
  | updateSectionControlEnabled enabled =>
      exact forClient_invariant (fun st => hP.updateSectionControlEnabled st enabled) h
  | sendGnssQuality quality => exact forClient_invariant (fun _ hst => hst) h
  | other => exact h

theorem client_invariant (hP : ClientInvariant stack P) {s : Session}
    (hs : (sessionMachine stack partner).Reachable s) {st : ClientState} (hst : s.client = some st) :
    P st := by
  refine hs.invariant (fun s => ∀ st, s.client = some st → P st) ?_ ?_ st hst
  · exact fun st hst => by cases hst
  · exact fun s e h => step_invariant hP s e h

end Session

theorem server_client_invariant {stack : IsobusStack} {P : ClientState → Prop}
    (hP : ClientInvariant stack P) {s : Server} (hs : (serverMachine stack).Reachable s)
    {partner : ControlFunction} {st : ClientState} (hst : s.clients[partner]? = some st) : P st :=
  Session.client_invariant hP ((server_projection stack partner).reachable hs) hst

end AogTaskController.TaskController
