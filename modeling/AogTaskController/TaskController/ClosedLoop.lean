import AogTaskController.Framework.Relay
import AogTaskController.TaskController.ActualStates
import AogTaskController.TaskController.CondensedRoundTrip
import AogTaskController.TaskController.LostUpdates
import AogTaskController.TaskController.SectionControl

/-!
# The server and an implement

The setpoints go to an implement over one channel and its actual states come back over another, while
the server is called in any order. The implement obeys the condensed setpoints in the order in which
they arrive, and reports a block of sections whenever it likes, as often as it likes. When nothing is
on its way and no change is left to report, the server has the setpoints for actual states.
-/

namespace AogTaskController.TaskController

open Framework

/-- What a command makes of a section that obeys the condensed setpoints. -/
def obeyed (sect : Nat) (state : SectionState) : Command → SectionState
  | .setValue ddi _ value =>
      if ddi = Ddi.setpointCondensedWorkState1_16 + sect / 16 then
        SectionState.ofBits (readField 2 value (sect % 16))
      else state
  | _ => state

/-- What a value command makes of the entry of a section. -/
def noted (sect : Nat) (state : SectionState) (m : ValueCommand) : SectionState :=
  if m.ddi = Ddi.actualCondensedWorkState1_16 + sect / 16 then
    SectionState.ofBits (readField 2 m.value (sect % 16))
  else state

/-- The server, one of its partners, and what is on its way between them. -/
structure ClosedLoop where
  server : Server
  toImplement : List Command := []
  /-- The states that the implement gives its sections. -/
  working : Nat → SectionState := fun _ => .off
  /-- The blocks of 16 sections that have changed since their last report. -/
  unreported : Nat → Bool := fun _ => false
  toServer : List ValueCommand := []

inductive LoopEvent
  /-- A call of the server, for any partner. -/
  | call (e : Event)
  /-- The implement takes the oldest command. -/
  | obey
  /-- The implement reports a block. -/
  | report (block elementNumber : Nat)
  /-- The implement reports something else. -/
  | mention (m : ValueCommand)
  /-- The server is handed the oldest report. -/
  | receive

/-- Calls that replace the state of the partner are left out, its value commands come over the
channel, and the condensed actual states are those of its sections. -/
def LoopEvent.Allowed (partner : ControlFunction) : LoopEvent → Prop
  | .call e => e.replaces partner = false ∧ valueCommands partner [e] = []
  | .report block _ => block < 16
  | .mention m => m.ddi.isActualCondensed = false
  | _ => True

namespace ClosedLoop

def stateReport (s : ClosedLoop) (block elementNumber : Nat) : ValueCommand :=
  ⟨Ddi.actualCondensedWorkState1_16 + block, elementNumber,
    packFields 32 (fun i => (s.working (16 * block + i)).bits) 16⟩

def step (stack : IsobusStack) (partner : ControlFunction) (s : ClosedLoop) :
    LoopEvent → ClosedLoop × List Observation
  | .call e =>
      let (server, log) := s.server.step stack e
      ({ s with server := server, toImplement := s.toImplement ++ sentTo partner log }, log)
  | .obey =>
      match s.toImplement with
      | [] => (s, [])
      | command :: rest =>
          let working := fun sect => obeyed sect (s.working sect) command
          ({ s with
             toImplement := rest
             working := working
             unreported := fun block => s.unreported block ||
               (List.range 16).any fun i => working (16 * block + i) != s.working (16 * block + i) },
            [])
  | .report block elementNumber =>
      ({ s with
         toServer := s.toServer ++ [s.stateReport block elementNumber]
         unreported := fun b => b != block && s.unreported b }, [])
  | .mention m => ({ s with toServer := s.toServer ++ [m] }, [])
  | .receive =>
      match s.toServer with
      | [] => (s, [])
      | m :: rest =>
          ({ s with
             server := s.server.onValueCommand partner m.ddi m.elementNumber m.value
             toServer := rest }, [])

def Settled (s : ClosedLoop) (st : ClientState) : Prop :=
  s.toImplement = [] ∧ s.toServer = [] ∧ ∀ block < st.numberOfBlocks, s.unreported block = false

end ClosedLoop

def loopMachine (stack : IsobusStack) (partner : ControlFunction) (server : Server) :
    Machine ClosedLoop LoopEvent Observation where
  init := { server := server }
  step := ClosedLoop.step stack partner

section Commands

private theorem toldAfter_sent (partner : ControlFunction) (sect : Nat) (state : SectionState)
    (command : Command) :
    toldAfter sect state (.sent partner command) = obeyed sect state command := by
  cases command <;> rfl

private theorem foldl_toldAfter_sent (partner : ControlFunction) (sect : Nat)
    (commands : List Command)
    (state : SectionState) :
    (commands.map (Observation.sent partner)).foldl (toldAfter sect) state =
      commands.foldl (obeyed sect) state := by
  rw [List.foldl_map]
  congr 1
  funext state command
  exact toldAfter_sent partner sect state command

private theorem foldl_obeyed_of_not_condensed {sect : Nat} (hsect : sect < 256)
    {commands : List Command}
    (h : ∀ command ∈ commands, command.isCondensedSetpoint = false) (state : SectionState) :
    commands.foldl (obeyed sect) state = state := by
  rw [← foldl_toldAfter_sent 0, foldl_toldAfter_of_not_condensed 0 hsect h]

end Commands

namespace ClientState

def commandsOn (st : ClientState) : Event → List Command
  | .requestMeasurementCommands => st.requestMeasurementCommands.2
  | .updateSectionStates sectionStates => (st.updateSectionStates sectionStates).2
  | .updateSectionControlEnabled enabled => (st.updateSectionControlEnabled enabled).2
  | .sendGnssQuality quality => st.sendGnssQuality quality
  | _ => []

/-- The state of a section before any element has a say in it. -/
def notedState (st : ClientState) (sect : Nat) : SectionState := (st.storedActualState sect).getD .off

/-- The client is told by a call what the call makes of its setpoints, and nothing else changes that
the loop looks at. -/
structure TellsAll (st st' : ClientState) (commands : List Command) : Prop where
  pool : st'.pool = st.pool
  numberOfSections : st'.numberOfSections = st.numberOfSections
  told : ∀ sect < st.numberOfSections, commands.foldl (obeyed sect) (st.getSectionSetpointState sect) =
    st'.getSectionSetpointState sect
  notedState : ∀ sect, st'.notedState sect = st.notedState sect

variable {st : ClientState}

private theorem TellsAll.of_not_condensed {st' : ClientState} {commands : List Command}
    (hpool : st'.pool = st.pool) (hsections : st'.numberOfSections = st.numberOfSections)
    (hsetpoint : ∀ sect, st'.getSectionSetpointState sect = st.getSectionSetpointState sect)
    (hnoted : ∀ sect, st'.notedState sect = st.notedState sect)
    (hsent : ∀ command ∈ commands, command.isCondensedSetpoint = false) :
    TellsAll st st' commands where
  pool := hpool
  numberOfSections := hsections
  told sect hsect := by
    rw [foldl_obeyed_of_not_condensed (Nat.lt_trans hsect st.numberOfSections_lt) hsent, hsetpoint]
  notedState := hnoted

private theorem tellsAll_updateSectionStates (h : st.SetUp) (hlists : st.ListsEveryBlock)
    {sectionStates : List Bool} (hcan : st.CanTell sectionStates) :
    TellsAll st (st.updateSectionStates sectionStates).1 (st.updateSectionStates sectionStates).2 := by
  obtain ⟨states, workState, hframe⟩ := st.updateSectionStates_fst sectionStates
  constructor
  case pool => rw [hframe]; rfl
  case numberOfSections => rw [hframe]; rfl
  case told =>
    intro sect hsect
    have hsame (sect : Nat) (_ : sect < st.numberOfSections) :
        st.getSectionSetpointState sect = st.getSectionSetpointState sect := rfl
    rw [(told_update_iff h hlists 0 hsame).mpr hcan sect hsect, foldl_toldAfter_sent]
  case notedState => rw [hframe]; exact fun _ => rfl

private theorem tellsAll_requestMeasurementCommands :
    TellsAll st st.requestMeasurementCommands.1 st.requestMeasurementCommands.2 := by
  obtain ⟨hframe, hsent⟩ := st.requestMeasurementCommands_frame
  obtain ⟨m, sent, heq⟩ := hframe
  apply TellsAll.of_not_condensed
  · rw [heq]
  · rw [heq]
  · rw [heq]; exact fun _ => rfl
  · rw [heq]; exact fun _ => rfl
  · intro command hcommand
    cases command with
    | setValue ddi element value => exact absurd hcommand (hsent ddi element value)
    | _ => rfl

private theorem tellsAll_updateSectionControlEnabled (enabled : Bool) :
    TellsAll st (st.updateSectionControlEnabled enabled).1
      (st.updateSectionControlEnabled enabled).2 := by
  have hsent : ∀ command ∈ (st.updateSectionControlEnabled enabled).2,
      command.isCondensedSetpoint = false := by
    intro command hcommand
    rw [eq_of_mem_updateSectionControlEnabled hcommand]
    rfl
  exact .of_not_condensed rfl rfl (fun _ => rfl) (fun _ => rfl) hsent

private theorem tellsAll_sendGnssQuality (quality : UInt8) : TellsAll st st
    (st.sendGnssQuality quality) := by
  have hsent : ∀ command ∈ st.sendGnssQuality quality, command.isCondensedSetpoint = false := by
    intro command hcommand
    rw [eq_of_mem_sendGnssQuality hcommand]
    rfl
  exact .of_not_condensed rfl rfl (fun _ => rfl) (fun _ => rfl) hsent

theorem TellsAll.refl (st : ClientState) : TellsAll st st [] :=
  .of_not_condensed rfl rfl (fun _ => rfl) (fun _ => rfl) fun _ h => absurd h List.not_mem_nil

def CanTellOn (st : ClientState) : Event → Prop
  | .updateSectionStates sectionStates => st.CanTell sectionStates
  | _ => True

private theorem tellsAll_onEvent (h : st.SetUp) (hlists : st.ListsEveryBlock)
    {partner : ControlFunction}
    {e : Event} (he : valueCommands partner [e] = []) (hcan : st.CanTellOn e) :
    TellsAll st (st.onEvent partner e) (st.commandsOn e) := by
  cases e with
  | updateSectionStates sectionStates => exact tellsAll_updateSectionStates h hlists hcan
  | requestMeasurementCommands => exact tellsAll_requestMeasurementCommands
  | updateSectionControlEnabled enabled => exact tellsAll_updateSectionControlEnabled enabled
  | sendGnssQuality quality => exact tellsAll_sendGnssQuality quality
  | onValueCommand q ddi elementNumber value =>
      have hq : q ≠ partner := by
        intro hq
        simp [valueCommands, hq] at he
      rw [onEvent, if_neg hq]
      exact .refl st
  | _ => exact .refl st

private theorem notedState_onValueCommand (hper : st.usesPerElementControl = false)
    (m : ValueCommand)
    {sect : Nat} (hsect : sect < st.numberOfSections) :
    (st.onValueCommand m.ddi m.elementNumber m.value).notedState sect =
      noted sect (st.notedState sect) m := by
  have hbyte := st.numberOfSections_lt
  rw [notedState, noted]
  cases hcondensed : m.ddi.isActualCondensed with
  | true =>
      obtain ⟨block, hblock, hddi⟩ := Ddi.exists_of_isActualCondensed hcondensed
      rw [hddi, storedActualState_onValueCommand st hblock]
      by_cases hhere : sect / 16 = block
      · rw [if_pos ⟨hhere, hsect⟩, if_pos (by rw [hhere])]
        rfl
      · have hother : Ddi.actualCondensedWorkState1_16 + block ≠
            Ddi.actualCondensedWorkState1_16 + sect / 16 := fun h =>
          hhere (Nat.add_left_cancel h).symm
        rw [if_neg fun h => hhere h.1, if_neg hother]
        rfl
  | false =>
      have hother := Ddi.ne_actualCondensed hcondensed (show sect / 16 < 16 by omega)
      rw [if_neg hother, onValueCommand, hcondensed, if_neg Bool.false_ne_true]
      split
      · rfl
      · split
        · rw [onActualWorkState]
          simp only [setElementWorkState, hper]
          rfl
        · rfl

private theorem ListsEveryBlock.not_perElement (hlists : st.ListsEveryBlock) (h : st.SetUp)
    {sect : Nat}
    (hsect : sect < st.numberOfSections) : st.usesPerElementControl = false := by
  have hblock : 0 < st.numberOfBlocks := by
    rw [numberOfBlocks]
    omega
  by_contra hper
  have hmethod := h.method
  rw [Bool.eq_true_of_not_eq_false hper] at hmethod
  have hsettable := of_decide_eq_true hmethod.symm
  exact Pool.not_lists_of_method (by rw [hsettable]; decide) (by decide) (hlists 0 hblock)

end ClientState

section Calls

variable {stack : IsobusStack} {partner : ControlFunction} {st : ClientState}

private theorem Session.sent_step {s : Session} (hst : s.client = some st) {e : Event}
    (hstays : e.replaces partner = false) :
    (s.step stack partner e).2 = (st.commandsOn e).map (.sent partner) := by
  have hforClient (f : ClientState → ClientState × List Command) :
      (s.forClient partner f).2 = (f st).2.map (.sent partner) := by rw [forClient, hst]
  cases e with
  | activateObjectPool _ _ | deactivateObjectPool _ | deleteDeviceDescriptorObjectPool _
  | onClientTimeout _ =>
      rw [step, if_neg (beq_eq_false_iff_ne.mp hstays)]
      rfl
  | requestMeasurementCommands | updateSectionStates _ | updateSectionControlEnabled _
  | sendGnssQuality _ => exact hforClient _
  | storeDeviceDescriptorObjectPool _ _ | onValueCommand _ _ _ _ | other => rfl

private theorem Server.step_client (stack : IsobusStack) {s : Server}
    (hst : s.clients[partner]? = some st) {e : Event} (hstays : e.replaces partner = false) :
    (s.step stack e).1.clients[partner]? = some (st.onEvent partner e) ∧
      sentTo partner (s.step stack e).2 = st.commandsOn e := by
  have hsession : (s.session partner).client = some st := hst
  have hstep := (server_projection stack partner).step s e
  have hstate := congrArg (fun x => x.1.client) hstep
  have hlog := congrArg (fun x => x.2) hstep
  constructor
  · exact hstate.symm.trans (Session.client_step hsession hstays)
  · have hsent := hlog.symm.trans (Session.sent_step hsession hstays)
    rw [← sentTo_filter]
    refine (congrArg (sentTo partner) hsent).trans ?_
    rw [sentTo, List.filterMap_map]
    simp

end Calls

namespace ClosedLoop

/-- The loop as one of its sections goes through it. -/
def relay (s : ClosedLoop) (st : ClientState) (sect : Nat) :
    Relay SectionState Command ValueCommand where
  original := st.getSectionSetpointState sect
  down := s.toImplement
  working := s.working sect
  due := s.unreported (sect / 16)
  up := s.toServer
  copy := st.notedState sect

def clientStep (partner : ControlFunction) (s : ClosedLoop) (st : ClientState) :
    LoopEvent → ClientState
  | .call e => st.onEvent partner e
  | .receive =>
      match s.toServer with
      | [] => st
      | m :: _ => st.onValueCommand m.ddi m.elementNumber m.value
  | _ => st

/-- The server knows the implement, and every section of it is relayed soundly. -/
structure Linked (stack : IsobusStack) (partner : ControlFunction) (s : ClosedLoop)
    (st : ClientState) : Prop where
  reachable : (serverMachine stack).Reachable s.server
  client : s.server.clients[partner]? = some st
  lists : st.ListsEveryBlock
  sound : ∀ sect < st.numberOfSections, (s.relay st sect).Sound (obeyed sect) (noted sect)

variable {stack : IsobusStack} {partner : ControlFunction} {s : ClosedLoop} {st : ClientState}
  {sect : Nat}

private theorem relay_call {st' : ClientState} {commands : List Command}
    (h : st.TellsAll st' commands)
    (hsect : sect < st.numberOfSections) (server : Server) :
    Relay.Step (obeyed sect) (noted sect) (s.relay st sect)
      ({ s with server := server, toImplement := s.toImplement ++ commands }.relay st' sect) := by
  have hview : { s with server := server, toImplement := s.toImplement ++ commands }.relay st' sect =
      { s.relay st sect with
        original := commands.foldl (obeyed sect) (st.getSectionSetpointState sect)
        down := s.toImplement ++ commands } := by
    rw [relay, relay, h.notedState, h.told sect hsect]
  rw [hview]
  exact .write (s.relay st sect) commands

private theorem relay_obey :
    Relation.ReflGen (Relay.Step (obeyed sect) (noted sect)) (s.relay st sect)
      ((s.step stack partner .obey).1.relay st sect) := by
  rw [step]
  cases hqueue : s.toImplement with
  | nil => exact .refl
  | cons command rest =>
      apply Relation.ReflGen.single
      apply Relay.Step.obey (s.relay st sect) hqueue
      intro hdue
      rw [Bool.or_eq_false_iff, List.any_eq_false] at hdue
      obtain ⟨hold, hsame⟩ := hdue
      refine ⟨hold, ?_⟩
      have hsect := hsame (sect % 16) (List.mem_range.mpr (Nat.mod_lt _ (by decide)))
      rw [Nat.div_add_mod, bne_iff_ne, not_not] at hsect
      exact hsect

private theorem noted_stateReport (block elementNumber : Nat) (state : SectionState) :
    noted sect state (s.stateReport block elementNumber) =
      if sect / 16 = block then s.working sect else state := by
  have hmod : sect % 16 < 16 := Nat.mod_lt _ (by decide)
  rw [noted, stateReport]
  by_cases hhere : sect / 16 = block
  · rw [if_pos hhere, if_pos (by rw [hhere]), readField_packFields _ hmod (by decide), ← hhere,
      Nat.div_add_mod, SectionState.ofBits_bits]
  · have hother : Ddi.actualCondensedWorkState1_16 + block ≠
        Ddi.actualCondensedWorkState1_16 + sect / 16 := fun h => hhere (Nat.add_left_cancel h).symm
    rw [if_neg hhere, if_neg hother]

private theorem relay_report (block elementNumber : Nat) :
    Relay.Step (obeyed sect) (noted sect) (s.relay st sect)
      ((s.step stack partner (.report block elementNumber)).1.relay st sect) := by
  have hnoted := @noted_stateReport s sect block elementNumber
  by_cases hhere : sect / 16 = block
  · have hview : (s.step stack partner (.report block elementNumber)).1.relay st sect =
        { s.relay st sect with
          up := s.toServer ++ [s.stateReport block elementNumber], due := false } := by
      simp [step, relay, hhere]
    rw [hview]
    apply Relay.Step.report (s.relay st sect)
    intro state
    rw [hnoted, if_pos hhere]
    rfl
  · have hview : (s.step stack partner (.report block elementNumber)).1.relay st sect =
        { s.relay st sect with up := s.toServer ++ [s.stateReport block elementNumber] } := by
      simp [step, relay, hhere]
    rw [hview]
    apply Relay.Step.mention (s.relay st sect)
    intro state
    rw [hnoted, if_neg hhere]

private theorem relay_mention {m : ValueCommand} (hm : m.ddi.isActualCondensed = false)
    (hsect : sect < 256) :
    Relay.Step (obeyed sect) (noted sect) (s.relay st sect)
      ((s.step stack partner (.mention m)).1.relay st sect) := by
  apply Relay.Step.mention (s.relay st sect)
  intro state
  rw [noted, if_neg (Ddi.ne_actualCondensed hm (by omega))]

private theorem relay_receive {m : ValueCommand} {rest : List ValueCommand}
    (hqueue : s.toServer = m :: rest)
    (hper : st.usesPerElementControl = false) (hsect : sect < st.numberOfSections) (server : Server) :
    Relay.Step (obeyed sect) (noted sect) (s.relay st sect)
      ({ s with server := server, toServer := rest }.relay
        (st.onValueCommand m.ddi m.elementNumber m.value) sect) := by
  have hview : { s with server := server, toServer := rest }.relay
        (st.onValueCommand m.ddi m.elementNumber m.value) sect =
      { s.relay st sect with up := rest, copy := noted sect (st.notedState sect) m } := by
    rw [relay, relay, ClientState.notedState_onValueCommand hper m hsect,
      (st.reportOnly_onValueCommand m.ddi m.elementNumber m.value).setpoint]
  rw [hview]
  exact .receive (s.relay st sect) hqueue

private theorem Linked.of_relay (h : Linked stack partner s st) {s' : ClosedLoop}
    (hserver : s'.server = s.server)
    (hstep : ∀ sect < st.numberOfSections,
      Relation.ReflGen (Relay.Step (obeyed sect) (noted sect)) (s.relay st sect) (s'.relay st sect)) :
    Linked stack partner s' st where
  reachable := by rw [hserver]; exact h.reachable
  client := by rw [hserver]; exact h.client
  lists := h.lists
  sound sect hsect := (h.sound sect hsect).of_step (hstep sect hsect)

theorem Linked.call (h : Linked stack partner s st) {e : Event}
    (he : (LoopEvent.call e).Allowed partner) (hcan : st.CanTellOn e) :
    Linked stack partner (s.step stack partner (.call e)).1 (st.onEvent partner e) := by
  have hsetup := server_client_invariant (setUp_invariant stack) h.reachable h.client
  have htells := ClientState.tellsAll_onEvent hsetup h.lists he.2 hcan
  have hstep := Server.step_client stack h.client he.1
  constructor
  case reachable => exact h.reachable.step e
  case client => exact hstep.1
  case lists =>
    intro block hblock
    rw [ClientState.numberOfBlocks, htells.numberOfSections] at hblock
    rw [htells.pool]
    exact h.lists block hblock
  case sound =>
    intro sect hsect
    rw [htells.numberOfSections] at hsect
    have hrelay := @relay_call s st sect _ _ htells hsect (s.server.step stack e).1
    rw [← hstep.2] at hrelay
    exact hrelay.sound (h.sound sect hsect)

theorem Linked.receive (h : Linked stack partner s st) :
    Linked stack partner (s.step stack partner .receive).1 (s.clientStep partner st .receive) := by
  rw [step, clientStep]
  cases hqueue : s.toServer with
  | nil => exact h
  | cons m rest =>
      have hsetup := server_client_invariant (setUp_invariant stack) h.reachable h.client
      have hreport := st.reportOnly_onValueCommand m.ddi m.elementNumber m.value
      have hstep := (Server.step_client stack h.client
        (show (Event.onValueCommand partner m.ddi m.elementNumber m.value).replaces partner = false
          from rfl)).1
      rw [ClientState.onEvent, if_pos rfl] at hstep
      constructor
      case reachable => exact h.reachable.step (.onValueCommand partner m.ddi m.elementNumber m.value)
      case client => exact hstep
      case lists =>
        intro block hblock
        rw [ClientState.numberOfBlocks, hreport.numberOfSections] at hblock
        rw [hreport.pool]
        exact h.lists block hblock
      case sound =>
        intro sect hsect
        rw [hreport.numberOfSections] at hsect
        have hper := h.lists.not_perElement hsetup hsect
        exact (relay_receive hqueue hper hsect _).sound (h.sound sect hsect)

def CanTell (partner : ControlFunction) (s : ClosedLoop) : LoopEvent → Prop
  | .call e => ∀ st, s.server.clients[partner]? = some st → st.CanTellOn e
  | _ => True

/-- Every step of anybody keeps the relays sound. -/
theorem Linked.step (h : Linked stack partner s st) {e : LoopEvent} (he : e.Allowed partner)
    (hcan : s.CanTell partner e) :
    Linked stack partner (s.step stack partner e).1 (s.clientStep partner st e) := by
  have hbyte {sect : Nat} (hsect : sect < st.numberOfSections) : sect < 256 :=
    Nat.lt_trans hsect st.numberOfSections_lt
  cases e with
  | call e => exact h.call he (hcan st h.client)
  | obey =>
      refine h.of_relay ?_ fun _ _ => relay_obey
      rw [ClosedLoop.step]
      split <;> rfl
  | report block elementNumber =>
      exact h.of_relay rfl fun _ _ => .single (relay_report block elementNumber)
  | mention m => exact h.of_relay rfl fun _ hsect => .single (relay_mention he (hbyte hsect))
  | receive => exact h.receive

theorem Linked.run {server : Server} (P : ClientState → Prop) (pre : List LoopEvent)
    {post : List LoopEvent}
    (h : ∃ st, Linked stack partner ((loopMachine stack partner server).after pre) st ∧ P st)
    (hP : ∀ s st, ∀ e ∈ post, P st → P (clientStep partner s st e))
    (hallowed : ∀ e ∈ post, e.Allowed partner)
    (hcan : (loopMachine stack partner server).Guarded (CanTell partner) (pre ++ post)) :
    ∃ st, Linked stack partner ((loopMachine stack partner server).after (pre ++ post)) st ∧ P st := by
  induction post using List.reverseRecOn with
  | nil => rwa [List.append_nil]
  | append_singleton post e ih =>
      rw [← List.append_assoc, Machine.guarded_snoc] at hcan
      rw [List.forall_mem_append] at hallowed
      have hlast := List.mem_singleton_self e
      obtain ⟨st, hlinked, hst⟩ := ih
        (fun s st f hf => hP s st f (List.mem_append_left [e] hf)) hallowed.1 hcan.1
      rw [← List.append_assoc, Machine.after_snoc]
      exact ⟨_, hlinked.step (hallowed.2 e hlast) hcan.2,
        hP _ st e (List.mem_append_right post hlast) hst⟩

theorem Linked.settled (h : Linked stack partner s st) (hsettled : s.Settled st) {sect : Nat}
    (hsect : sect < st.numberOfSections) : st.notedState sect = st.getSectionSetpointState sect := by
  obtain ⟨hdown, hup, hreported⟩ := hsettled
  have hblock : sect / 16 < st.numberOfBlocks := by
    rw [ClientState.numberOfBlocks]
    omega
  exact (h.sound sect hsect).settled hdown (hreported _ hblock) hup

theorem Linked.getSectionActualState (h : Linked stack partner s st) (hsettled : s.Settled st)
    {sect : Nat} (hsect : sect < st.numberOfSections) :
    st.getSectionActualState sect =
      if st.isElementOrParentOff (st.getElementNumberForSection sect) then .off
      else st.getSectionSetpointState sect := by
  have hsetup := server_client_invariant (setUp_invariant stack) h.reachable h.client
  have hnoted := h.settled hsettled hsect
  rw [ClientState.notedState, ClientState.storedActualState] at hnoted
  rw [ClientState.getSectionActualState, if_pos hsect, h.lists.not_perElement hsetup hsect,
    if_neg Bool.false_ne_true, hnoted]

end ClosedLoop

section Start

open ClosedLoop

private theorem ClientState.notedState_mapSections (st : ClientState)
    (sectionElementNumbers : List Nat)
    (sect : Nat) : (st.mapSections sectionElementNumbers).notedState sect = st.notedState sect := by
  rw [mapSections]
  generalize List.range st.numberOfSections = indices
  induction indices generalizing st with
  | nil => rfl
  | cons i indices ih =>
      rw [List.foldl_cons, ih]
      cases sectionElementNumbers[i]? with
      | none => rfl
      | some elementNumber =>
          rw [notedState, notedState]
          exact congrArg (·.getD .off)
            (st.storedActualState_setElementNumberForSection i elementNumber sect)

private theorem newClientState_notedState (stack : IsobusStack) (pool : Pool) (sect : Nat) :
    (stack.newClientState pool).notedState sect = .off := by
  have hfresh : (stack.poolState pool).notedState sect = .off := by
    have hentry (number : Nat) (f : Fin number → SectionState) (hf : ∀ i, f i = .off) :
        ((Vector.ofFn f)[sect]?).getD .off = .off := by
      by_cases hsect : sect < number
      · simp [hsect, hf]
      · simp [hsect]
    apply hentry
    intro i
    have hempty : (Vector.replicate 0 SectionState.off)[i.val]? = none := by simp
    exact congrArg (fun state : Option SectionState => state.getD .off) hempty
  have hmapped := (stack.poolState pool).notedState_mapSections
    (stack.getImplementGeometry pool).sectionElementNumbers sect
  rw [IsobusStack.newClientState]
  cases pool.sectionControlMethod <;> exact hmapped.trans hfresh

private theorem client_of_accepted {stack : IsobusStack} {s : Server} {partner : ControlFunction}
    {fs : FileSystem} {chunks : List (List UInt8)} {errors : ActivationErrors}
    (haccepted : (s.step stack (.activateObjectPool partner fs)).2 =
      [.activation partner chunks (.returned true errors)]) :
    ∃ pool, (s.step stack (.activateObjectPool partner fs)).1.clients[partner]? =
      some (stack.newClientState pool) := by
  rw [Server.step, Server.activateObjectPool] at haccepted ⊢
  cases huploaded : s.uploadedPools[partner]? with
  | none =>
      rw [huploaded] at haccepted
      simp at haccepted
  | some uploaded =>
      rw [huploaded] at haccepted
      simp only [List.cons.injEq, Observation.activation.injEq, and_true, true_and] at haccepted
      rcases activateUploaded_cases stack fs (stack.getName partner) uploaded with
        ⟨_, houtcome⟩ | ⟨pool, _, hsome, _⟩
      · exact absurd haccepted.2 (houtcome errors)
      · exact ⟨pool, by simp [hsome]⟩

theorem linked_activation {stack : IsobusStack} {partner : ControlFunction} {pre : List Event}
    {fs : FileSystem} {chunks : List (List UInt8)} {errors : ActivationErrors}
    (haccepted : (((serverMachine stack).after pre).step stack (.activateObjectPool partner fs)).2 =
      [.activation partner chunks (.returned true errors)])
    (hlists : ∀ st, ((serverMachine stack).after (pre ++
      [.activateObjectPool partner fs])).clients[partner]? = some st → st.ListsEveryBlock) :
    ∃ st, Linked stack partner
      { server := (serverMachine stack).after (pre ++ [.activateObjectPool partner fs]) } st := by
  obtain ⟨pool, hclient⟩ := client_of_accepted haccepted
  have hafter : ((serverMachine stack).after (pre ++
      [.activateObjectPool partner fs])).clients[partner]? = some (stack.newClientState pool) := by
    rw [Machine.after_snoc]
    exact hclient
  refine ⟨stack.newClientState pool, (serverMachine stack).reachable_after _, hafter,
    hlists _ hafter, ?_⟩
  intro sect hsect
  constructor
  · exact (newClientState_setpoint stack pool hsect).symm
  · exact fun _ => newClientState_notedState stack pool sect

end Start

end AogTaskController.TaskController
