import AogTaskController.TaskController.Setup

/-!
# Lost updates

The recorded setpoints double as the memory of what the implement has been told, so a setpoint that
is recorded but not sent is never sent later. This happens exactly when a client in automatic mode
is updated before the measurement commands have mapped its DDIs.
-/

namespace AogTaskController.TaskController

open Framework

/-- What the implement has last been told about a section, after one more observation. -/
def toldAfter (sect : Nat) (state : SectionState) : Observation → SectionState
  | .activation _ _ (.returned true _) => .off
  | .sent _ (.setValue ddi _ value) =>
      if ddi = Ddi.setpointCondensedWorkState1_16 + sect / 16 then
        SectionState.ofBits (readField 2 value (sect % 16))
      else state
  | _ => state

/-- The state carried for the section by the last condensed setpoint message to the partner since
its activation, off when none was sent. -/
def toldState (partner : ControlFunction) (log : List Observation) (sect : Nat) : SectionState :=
  (log.filter (·.partner == partner)).foldl (toldAfter sect) .off

namespace ClientState

/-- The pool lists a condensed setpoint DDI for each block of 16 sections. -/
def ListsEveryBlock (st : ClientState) : Prop :=
  ∀ block < st.numberOfBlocks, st.pool.Lists (Ddi.setpointCondensedWorkState1_16 + block)

instance (st : ClientState) : Decidable st.ListsEveryBlock :=
  inferInstanceAs (Decidable (∀ block < st.numberOfBlocks, _))

/-- What a client in automatic mode needs so that no setpoint of an update is lost. -/
def CanTell (st : ClientState) (sectionStates : List Bool) : Prop :=
  st.isSectionControlEnabled = true →
    st.areMeasurementCommandsSent = true ∨ ∀ sect, st.demandChanges sectionStates sect = false

end ClientState

theorem foldl_toldAfter_of_not_condensed (partner : ControlFunction) {sect : Nat} (hsect : sect < 256)
    {commands : List Command} (h : ∀ command ∈ commands, command.isCondensedSetpoint = false)
    (state : SectionState) :
    (commands.map (Observation.sent partner)).foldl (toldAfter sect) state = state := by
  induction commands with
  | nil => rfl
  | cons command commands ih =>
      rw [List.forall_mem_cons] at h
      rw [List.map_cons, List.foldl_cons]
      have hkeep : toldAfter sect state (.sent partner command) = state := by
        cases command with
        | setValue ddi element value =>
            have hblock : sect / 16 < 16 := by omega
            rw [toldAfter, if_neg (Ddi.ne_setpointCondensed h.1 hblock)]
        | _ => rfl
      rw [hkeep, ih h.2]

namespace ClientState

variable {st : ClientState} {sectionStates : List Bool}

private theorem sendSetpointWorkState_not_condensed :
    ∀ command ∈ st.sendSetpointWorkState.2, command.isCondensedSetpoint = false := by
  intro command hcommand
  obtain ⟨element, value, rfl⟩ := mem_sendSetpointWorkState hcommand
  rfl

private theorem foldl_toldAfter_blocks (partner : ControlFunction)
    (hmapped : ∀ block < st.numberOfBlocks,
      st.hasElementNumberForDdi (Ddi.setpointCondensedWorkState1_16 + block) = true)
    {sect : Nat} (hsect : sect < st.numberOfSections) {count : Nat}
    (hcount : count ≤ st.numberOfBlocks) :
    (((List.range count).flatMap (st.blockCommands sectionStates)).map
        (Observation.sent partner)).foldl (toldAfter sect) (st.getSectionSetpointState sect) =
      if sect / 16 < count then
        (st.applyDemand sectionStates st.numberOfSections).getSectionSetpointState sect
      else st.getSectionSetpointState sect := by
  have hbyte : sect < 256 := Nat.lt_trans hsect st.numberOfSections_lt
  induction count with
  | zero => simp
  | succ count ih =>
      have hlt : count < 16 := lt_sixteen_of_lt_numberOfBlocks hcount
      have hwork (st : ClientState) := foldl_toldAfter_of_not_condensed partner hbyte
        (@sendSetpointWorkState_not_condensed st)
      rw [List.range_succ, List.flatMap_append, List.map_append, List.foldl_append,
        ih (Nat.le_of_succ_le hcount), List.flatMap_singleton,
        blockCommands_of_mapped hlt (hmapped count hcount)]
      by_cases hhere : sect / 16 = count
      · have hbefore : ¬ sect / 16 < count := by omega
        have hbehind : sect / 16 < count + 1 := by omega
        rw [if_neg hbefore, if_pos hbehind]
        cases hchanges : st.blockChanges sectionStates count with
        | false =>
            by_contra hdiffers
            have hchange : st.demandChanges sectionStates sect = true :=
              demandChanges_iff.mpr ⟨hsect, Ne.symm hdiffers⟩
            have := blockChanges_iff.mpr ⟨sect, hhere, hchange⟩
            simp [hchanges] at this
        | true =>
            have htold : toldAfter sect (st.getSectionSetpointState sect)
                (.sent partner (st.condensedCommand sectionStates count)) =
                (st.applyDemand sectionStates st.numberOfSections).getSectionSetpointState sect := by
              rw [condensedCommand, toldAfter, if_pos (by rw [hhere]),
                readField_condensedValue hlt (Nat.mod_lt _ (by decide)), ← hhere, Nat.div_add_mod]
            rw [if_pos rfl, List.map_cons, List.foldl_cons, htold, hwork]
      · have hother (state : SectionState) :
            toldAfter sect state (.sent partner (st.condensedCommand sectionStates count)) = state := by
          rw [condensedCommand, toldAfter, if_neg]
          intro heq
          exact hhere (Nat.add_left_cancel heq).symm
        have hbefore : sect / 16 < count + 1 ↔ sect / 16 < count := by omega
        simp only [hbefore]
        cases st.blockChanges sectionStates count with
        | false => rfl
        | true => rw [if_pos rfl, List.map_cons, List.foldl_cons, hother, hwork]

private theorem updateSectionStates_unsent (h : st.SetUp)
    (hunsent : st.areMeasurementCommandsSent = false) :
    ∀ command ∈ (st.updateSectionStates sectionStates).2, command.isCondensedSetpoint = false := by
  by_cases hactive : st.isSectionControlEnabled = true ∧ st.numberOfSections ≠ 0
  · rw [updateSectionStates_eq hactive.1 hactive.2]
    intro command hcommand
    obtain ⟨block, _, hmem⟩ := List.mem_flatMap.mp hcommand
    rw [blockCommands] at hmem
    split at hmem
    · have hhas (ddi : Ddi) : ((st.throughBlock sectionStates block).setSetpointWorkState
          (st.workStateBefore sectionStates block)).hasElementNumberForDdi ddi = false :=
        h.has_of_unsent hunsent ddi
      rw [sendSectionSetpointStates, hhas, hhas, if_neg Bool.false_ne_true,
        if_neg Bool.false_ne_true] at hmem
      split at hmem
      next hper =>
        rcases List.mem_append.mp hmem with hmem | hmem
        · obtain ⟨sect, _, hsome⟩ := List.mem_filterMap.mp hmem
          split at hsome
          · obtain rfl := Option.some.inj hsome
            have hddi : ((st.throughBlock sectionStates block).setSetpointWorkState
                (st.workStateBefore sectionStates block)).perElementSetpointDDI =
                  Ddi.actualWorkState := h.perElementDdi hper
            rw [hddi]
            rfl
          · cases hsome
        · exact sendSetpointWorkState_not_condensed command hmem
      next => cases hmem
    · cases hmem
  · rw [updateSectionStates_of_idle hactive]
    exact fun command hcommand => by cases hcommand

private theorem not_demandChanges_iff :
    (∀ sect, st.demandChanges sectionStates sect = false) ↔
      ∀ sect < st.numberOfSections,
        (st.applyDemand sectionStates st.numberOfSections).getSectionSetpointState sect =
          st.getSectionSetpointState sect := by
  constructor
  · intro h sect hsect
    by_contra hdiffers
    have hchange := demandChanges_iff.mpr ⟨hsect, hdiffers⟩
    cases (h sect).symm.trans hchange
  · intro h sect
    by_contra hchange
    obtain ⟨hsect, hdiffers⟩ := demandChanges_iff.mp (Bool.eq_true_of_not_eq_false hchange)
    exact hdiffers (h sect hsect)

/-- If the implement has been told the recorded setpoints before an update, it has been told them
afterwards if and only if the client could tell it. -/
theorem told_update_iff (h : st.SetUp) (hlists : st.ListsEveryBlock) (partner : ControlFunction)
    {told : Nat → SectionState}
    (htold : ∀ sect < st.numberOfSections, st.getSectionSetpointState sect = told sect) :
    (∀ sect < st.numberOfSections,
        (st.updateSectionStates sectionStates).1.getSectionSetpointState sect =
          ((st.updateSectionStates sectionStates).2.map (Observation.sent partner)).foldl
            (toldAfter sect) (told sect)) ↔
      st.CanTell sectionStates := by
  by_cases hactive : st.isSectionControlEnabled = true ∧ st.numberOfSections ≠ 0
  · have hget (sect : Nat) :
        (st.updateSectionStates sectionStates).1.getSectionSetpointState sect =
          (st.applyDemand sectionStates st.numberOfSections).getSectionSetpointState sect := by
      rw [updateSectionStates_eq hactive.1 hactive.2]
      rfl
    cases hsent : st.areMeasurementCommandsSent with
    | true =>
        have hmapped (block : Nat) (hblock : block < st.numberOfBlocks) :
            st.hasElementNumberForDdi (Ddi.setpointCondensedWorkState1_16 + block) = true :=
          (h.has_condensed hsent (lt_sixteen_of_lt_numberOfBlocks hblock)).mpr (hlists block hblock)
        refine iff_of_true ?_ fun _ => .inl hsent
        intro sect hsect
        have hblock : sect / 16 < st.numberOfBlocks := by
          rw [numberOfBlocks]
          omega
        rw [hget, updateSectionStates_eq hactive.1 hactive.2, ← htold sect hsect,
          foldl_toldAfter_blocks partner hmapped hsect le_rfl, if_pos hblock]
    | false =>
        have hcan : st.CanTell sectionStates ↔
            ∀ sect, st.demandChanges sectionStates sect = false := by
          rw [CanTell, hsent, hactive.1]
          simp
        rw [hcan, not_demandChanges_iff]
        apply forall₂_congr
        intro sect hsect
        rw [hget, htold sect hsect, foldl_toldAfter_of_not_condensed partner
          (Nat.lt_trans hsect st.numberOfSections_lt) (updateSectionStates_unsent h hsent)]
  · rw [updateSectionStates_of_idle hactive]
    refine iff_of_true htold fun henabled => .inr ?_
    rw [not_demandChanges_iff]
    intro sect hsect
    exact absurd ⟨henabled, Nat.ne_of_gt (Nat.zero_lt_of_lt hsect)⟩ hactive

end ClientState

namespace Session

def Told (log : List Observation) (s : Session) : Prop :=
  ∀ st, s.client = some st → st.ListsEveryBlock → ∀ sect < st.numberOfSections,
    st.getSectionSetpointState sect = log.foldl (toldAfter sect) .off

/-- The update of an event can be told. -/
def CanTell (s : Session) : Event → Prop
  | .updateSectionStates sectionStates =>
      ∀ st, s.client = some st → st.ListsEveryBlock → st.CanTell sectionStates
  | _ => True

variable {stack : IsobusStack} {partner : ControlFunction} {s : Session} {log : List Observation}

theorem Told.forClient (h : s.Told log) {f : ClientState → ClientState × List Command}
    (hpool : ∀ st, (f st).1.pool = st.pool)
    (hsections : ∀ st, (f st).1.numberOfSections = st.numberOfSections)
    (hsetpoint : ∀ st sect, (f st).1.getSectionSetpointState sect = st.getSectionSetpointState sect)
    (hsent : ∀ st, ∀ command ∈ (f st).2, command.isCondensedSetpoint = false) :
    (s.forClient partner f).1.Told (log ++ (s.forClient partner f).2) := by
  intro st' hst' hlists sect hsect
  rw [Session.forClient] at hst' ⊢
  cases hclient : s.client with
  | none =>
      rw [hclient] at hst'
      cases hclient.symm.trans hst'
  | some st =>
      rw [hclient] at hst'
      obtain rfl := Option.some.inj hst'
      have hold : st.ListsEveryBlock := by
        intro block hblock
        rw [← hpool st]
        apply hlists
        rwa [ClientState.numberOfBlocks, hsections]
      rw [hsections] at hsect
      rw [hsetpoint, h st hclient hold sect hsect, List.foldl_append,
        foldl_toldAfter_of_not_condensed partner (Nat.lt_trans hsect st.numberOfSections_lt)
          (hsent st)]

theorem Told.activate (h : s.Told log) (fs : FileSystem) :
    (s.activate stack partner fs).1.Told (log ++ (s.activate stack partner fs).2) := by
  intro st hst hlists sect hsect
  rw [Session.activate] at hst ⊢
  cases huploaded : s.uploaded with
  | none =>
      rw [huploaded] at hst
      rw [List.foldl_append]
      exact h st hst hlists sect hsect
  | some chunks =>
      rw [huploaded] at hst
      simp only [List.foldl_append, List.foldl_cons, List.foldl_nil]
      rcases activateUploaded_cases stack fs (stack.getName partner) chunks with
        ⟨hnone, houtcome⟩ | ⟨pool, _, hsome, houtcome⟩
      · simp only [hnone, Option.none_or] at hst
        rw [h st hst hlists sect hsect]
        cases hresult : (stack.activateUploaded fs (stack.getName partner) chunks).outcome with
        | threw errors => rfl
        | returned accepted errors =>
            cases accepted with
            | false => rfl
            | true => exact absurd hresult (houtcome errors)
      · simp only [hsome, Option.some_or, Option.some.injEq] at hst
        subst hst
        rw [houtcome, newClientState_setpoint stack pool hsect]
        rfl

private theorem told_of_none (h : s.client = none) (log : List Observation) : s.Told log := by
  intro st hst
  rw [h] at hst
  cases hst

private theorem told_updateSectionStates_iff (hs : (sessionMachine stack partner).Reachable s)
    (h : s.Told log) (sectionStates : List Bool) :
    (s.forClient partner (·.updateSectionStates sectionStates)).1.Told
        (log ++ (s.forClient partner (·.updateSectionStates sectionStates)).2) ↔
      s.CanTell (.updateSectionStates sectionStates) := by
  simp only [CanTell, Session.forClient]
  cases hclient : s.client with
  | none => simp [Told, hclient]
  | some st =>
      have hsetup := Session.client_invariant (setUp_invariant stack) hs hclient
      obtain ⟨states, workState, hframe⟩ := st.updateSectionStates_fst sectionStates
      have hsections : (st.updateSectionStates sectionStates).1.numberOfSections =
          st.numberOfSections := by
        rw [hframe]
        rfl
      have hlists : (st.updateSectionStates sectionStates).1.ListsEveryBlock ↔
          st.ListsEveryBlock := by
        rw [hframe]
        rfl
      simp only [Told, Option.some.injEq, forall_eq', List.foldl_append, hlists, hsections]
      apply forall_congr'
      intro hall
      exact ClientState.told_update_iff hsetup hall partner (h st hclient hall)

theorem Told.onValueCommand (h : s.Told log) (ddi : Nat) (elementNumber : Nat) (value : BitVec 32) :
    ({ s with client := some ((s.client.getD default).onValueCommand ddi elementNumber value) } :
      Session).Told log := by
  intro st' hst' hlists sect hsect
  obtain rfl := Option.some.inj hst'
  have hreport := (s.client.getD default).reportOnly_onValueCommand ddi elementNumber value
  rw [hreport.numberOfSections] at hsect
  rw [hreport.setpoint]
  cases hclient : s.client with
  | none =>
      rw [hclient] at hsect
      cases hsect
  | some st =>
      rw [hclient] at hreport hlists hsect
      apply h st hclient _ sect hsect
      intro block hblock
      have hlisted := hlists block
      rw [ClientState.numberOfBlocks, hreport.numberOfSections, hreport.pool] at hlisted
      exact hlisted hblock

theorem Told.requestMeasurementCommands (h : s.Told log) :
    (s.forClient partner (·.requestMeasurementCommands)).1.Told
      (log ++ (s.forClient partner (·.requestMeasurementCommands)).2) := by
  have hframe (st : ClientState) := st.requestMeasurementCommands_frame
  apply h.forClient
  · intro st
    obtain ⟨m, sent, heq⟩ := (hframe st).1
    rw [heq]
  · intro st
    obtain ⟨m, sent, heq⟩ := (hframe st).1
    rw [heq]
  · intro st sect
    obtain ⟨m, sent, heq⟩ := (hframe st).1
    rw [heq]
    rfl
  · intro st command hcommand
    cases command with
    | setValue ddi element value => exact absurd hcommand ((hframe st).2 ddi element value)
    | _ => rfl

theorem Told.updateSectionControlEnabled (h : s.Told log) (enabled : Bool) :
    (s.forClient partner (·.updateSectionControlEnabled enabled)).1.Told
      (log ++ (s.forClient partner (·.updateSectionControlEnabled enabled)).2) := by
  apply h.forClient (fun _ => rfl) (fun _ => rfl) (fun _ _ => rfl)
  intro st command hcommand
  rw [ClientState.eq_of_mem_updateSectionControlEnabled hcommand]
  rfl

theorem Told.sendGnssQuality (h : s.Told log) (quality : UInt8) :
    (s.forClient partner fun st => (st, st.sendGnssQuality quality)).1.Told
      (log ++ (s.forClient partner fun st => (st, st.sendGnssQuality quality)).2) := by
  apply h.forClient (fun _ => rfl) (fun _ => rfl) (fun _ _ => rfl)
  intro st command hcommand
  rw [ClientState.eq_of_mem_sendGnssQuality hcommand]
  rfl

private theorem told_step_iff (hs : (sessionMachine stack partner).Reachable s) (h : s.Told log)
    (e : Event) :
    (s.step stack partner e).1.Told (log ++ (s.step stack partner e).2) ↔ s.CanTell e := by
  have hsame : s.Told (log ++ []) := by rwa [List.append_nil]
  cases e with
  | updateSectionStates sectionStates => exact told_updateSectionStates_iff hs h sectionStates
  | storeDeviceDescriptorObjectPool q binaryPool =>
      apply iff_of_true _ trivial
      simp only [step]
      split <;> exact hsame
  | activateObjectPool q fs =>
      apply iff_of_true _ trivial
      simp only [step]
      split
      · exact h.activate fs
      · exact hsame
  | deactivateObjectPool q | deleteDeviceDescriptorObjectPool q | onClientTimeout q =>
      apply iff_of_true _ trivial
      simp only [step]
      split
      · exact told_of_none rfl _
      · exact hsame
  | onValueCommand q ddi elementNumber value =>
      apply iff_of_true _ trivial
      simp only [step, List.append_nil]
      split
      · exact h.onValueCommand ddi elementNumber value
      · exact h
  | requestMeasurementCommands => exact iff_of_true h.requestMeasurementCommands trivial
  | updateSectionControlEnabled enabled =>
      exact iff_of_true (h.updateSectionControlEnabled enabled) trivial
  | sendGnssQuality quality => exact iff_of_true (h.sendGnssQuality quality) trivial
  | other => exact iff_of_true hsame trivial

/-- In a run of one session, the implement has been told the recorded setpoints throughout if and
only if every update could be told. -/
private theorem told_iff (stack : IsobusStack) (partner : ControlFunction) (es : List Event) :
    (sessionMachine stack partner).Always (fun log s => s.Told log) es ↔
      (sessionMachine stack partner).Guarded CanTell es := by
  apply Machine.always_iff_guarded
  · exact fun st hst => by cases hst
  · intro pre e hpre
    rw [Machine.after_snoc, Machine.trace_snoc]
    exact told_step_iff ((sessionMachine stack partner).reachable_after pre) hpre e

end Session

/-- In a run of the server, every client whose pool lists a condensed setpoint DDI for each block has
been told its recorded setpoints whenever `update_section_states` returns, if and only if every
call of it finds the measurement commands sent to each such client in automatic mode, or changes
none of its setpoints. -/
theorem no_update_lost_iff (stack : IsobusStack) (es : List Event) :
    (∀ pre sectionStates, pre ++ [Event.updateSectionStates sectionStates] <+: es →
      ∀ (partner : ControlFunction) (st : ClientState),
        ((serverMachine stack).after (pre ++ [.updateSectionStates sectionStates])).clients[partner]? =
          some st → st.ListsEveryBlock → ∀ sect < st.numberOfSections,
          st.getSectionSetpointState sect =
            toldState partner
              ((serverMachine stack).trace (pre ++ [.updateSectionStates sectionStates])) sect) ↔
      ∀ pre sectionStates, pre ++ [Event.updateSectionStates sectionStates] <+: es →
        ∀ (partner : ControlFunction) (st : ClientState),
          ((serverMachine stack).after pre).clients[partner]? = some st → st.ListsEveryBlock →
          st.CanTell sectionStates := by
  have hsession (partner : ControlFunction) :
      (∀ pre e, pre ++ [e] <+: es → (∃ sectionStates, e = Event.updateSectionStates sectionStates) →
        Session.Told ((sessionMachine stack partner).trace (pre ++ [e]))
          ((sessionMachine stack partner).after (pre ++ [e]))) ↔
        (sessionMachine stack partner).Guarded Session.CanTell es := by
    rw [← Session.told_iff]
    refine (Machine.always_iff_after _ ?_ ?_ es).symm
    · exact fun st hst => by cases hst
    · intro pre e he hpre
      rw [Machine.after_snoc, Machine.trace_snoc]
      apply (Session.told_step_iff ((sessionMachine stack partner).reachable_after pre) hpre e).mpr
      cases e with
      | updateSectionStates sectionStates => exact absurd ⟨sectionStates, rfl⟩ he
      | _ => trivial
  simp only [Machine.Guarded, ← (server_projection stack _).after,
    ← (server_projection stack _).trace] at hsession
  constructor
  · intro h pre sectionStates hpre partner st hst hlists
    refine (hsession partner).mp ?_ pre _ hpre st hst hlists
    intro pre e hpre he
    obtain ⟨sectionStates, rfl⟩ := he
    exact h pre sectionStates hpre partner
  · intro h pre sectionStates hpre partner st hst hlists
    refine (hsession partner).mpr ?_ pre _ hpre ⟨sectionStates, rfl⟩ st hst hlists
    intro pre e hpre
    cases e with
    | updateSectionStates sectionStates => exact h pre sectionStates hpre partner
    | _ => trivial

/-- The demand arrives between activation and the measurement commands: the section is recorded as
on and the implement is never told. -/
theorem update_lost_before_mapping :
    ¬ ∀ stack es pre sectionStates, pre ++ [Event.updateSectionStates sectionStates] <+: es →
      ∀ (partner : ControlFunction) (st : ClientState),
        ((serverMachine stack).after (pre ++ [.updateSectionStates sectionStates])).clients[partner]? =
          some st → st.ListsEveryBlock → ∀ sect < st.numberOfSections,
          st.getSectionSetpointState sect =
            toldState partner
              ((serverMachine stack).trace (pre ++ [.updateSectionStates sectionStates])) sect := by
  intro h
  have hclient := h (.ofPool condensedPool [1]) _ [.storeDeviceDescriptorObjectPool 7 [0],
    .activateObjectPool 7 .working, .updateSectionControlEnabled true] [true] List.prefix_rfl 7
    (Option.get _ (by decide +kernel)) (Option.some_get (by decide +kernel)).symm
  have htold := hclient (by decide +kernel) 0 (by decide +kernel)
  revert htold
  decide +kernel

end AogTaskController.TaskController
