import AogTaskController.TaskController.Sessions

/-!
# Active sessions

The client map should hold the control functions whose latest successful activation has not been
ended since. Writing through `clients[partner]` breaks this for a value command that arrives when
its sender has no entry, and nothing else does.
-/

namespace AogTaskController.TaskController

open Framework

def activeAfter (active : Bool) : Observation → Bool
  | .activation _ _ (.returned accepted _) => accepted || active
  | .activation _ _ (.threw _) => active
  | .closed _ => false
  | .sent _ _ => active

/-- The latest successful activation, deactivation, deletion or timeout of the partner is a
successful activation. -/
def sessionActive (partner : ControlFunction) (log : List Observation) : Bool :=
  (log.filter (·.partner == partner)).foldl activeAfter false

/-- A value command for which `clients[partner]` is written finds an entry. -/
def ValueCommandFindsClient (partner : ControlFunction) (s : Session) : Event → Prop
  | .onValueCommand q ddi _ _ =>
      q = partner → ClientState.handlesValueCommand ddi = true → s.client.isSome = true
  | _ => True

private theorem foldl_activeAfter_sent (partner : ControlFunction) (commands : List Command)
    (active : Bool) :
    (commands.map (Observation.sent partner)).foldl activeAfter active = active := by
  induction commands with
  | nil => rfl
  | cons command commands ih => exact ih

namespace Session

private theorem forClient_isSome (s : Session) (partner : ControlFunction)
    (f : ClientState → ClientState × List Command) (active : Bool) :
    ((s.forClient partner f).1.client.isSome = s.client.isSome) ∧
      (s.forClient partner f).2.foldl activeAfter active = active := by
  rw [forClient]
  cases hclient : s.client with
  | none => simp [hclient]
  | some st => simp [foldl_activeAfter_sent]

private theorem activate_isSome (stack : IsobusStack) (partner : ControlFunction) (fs : FileSystem)
    (s : Session) :
    (s.activate stack partner fs).1.client.isSome =
      (s.activate stack partner fs).2.foldl activeAfter s.client.isSome := by
  rw [activate]
  cases s.uploaded with
  | none => simp [activeAfter]
  | some chunks =>
      rcases activateUploaded_cases stack fs (stack.getName partner) chunks with
        ⟨hnone, houtcome⟩ | ⟨pool, _, hsome, houtcome⟩
      · simp only [hnone, Option.none_or, List.foldl_cons, List.foldl_nil]
        cases hresult : (stack.activateUploaded fs (stack.getName partner) chunks).outcome with
        | threw errors => rfl
        | returned accepted errors =>
            cases accepted with
            | false => rfl
            | true => exact absurd hresult (houtcome errors)
      · simp [hsome, houtcome, activeAfter]

private theorem step_isSome_iff (stack : IsobusStack) (partner : ControlFunction) (s : Session)
    (e : Event) :
    (s.step stack partner e).1.client.isSome =
        (s.step stack partner e).2.foldl activeAfter s.client.isSome ↔
      ValueCommandFindsClient partner s e := by
  have hforClient (f : ClientState → ClientState × List Command) :
      (s.forClient partner f).1.client.isSome =
        (s.forClient partner f).2.foldl activeAfter s.client.isSome := by
    obtain ⟨hclient, hactive⟩ := s.forClient_isSome partner f s.client.isSome
    exact hclient.trans hactive.symm
  cases e with
  | storeDeviceDescriptorObjectPool q binaryPool =>
      apply iff_of_true _ trivial
      simp only [step, List.foldl_nil]
      split <;> rfl
  | activateObjectPool q fs =>
      apply iff_of_true _ trivial
      rw [step]
      split
      · exact s.activate_isSome stack partner fs
      · rfl
  | deactivateObjectPool q | deleteDeviceDescriptorObjectPool q | onClientTimeout q =>
      apply iff_of_true _ trivial
      rw [step]
      split <;> rfl
  | onValueCommand q ddi elementNumber value =>
      simp only [step, List.foldl_nil, ValueCommandFindsClient]
      by_cases hwrites : q = partner ∧ ClientState.handlesValueCommand ddi = true
      · simp [hwrites]
      · rw [if_neg hwrites, eq_self_iff_true, true_iff]
        exact fun hq hddi => absurd ⟨hq, hddi⟩ hwrites
  | requestMeasurementCommands | updateSectionStates _ | updateSectionControlEnabled _
  | sendGnssQuality _ => exact iff_of_true (hforClient _) trivial
  | other => exact iff_of_true rfl trivial

/-- Over a run of one session, the entry exists whenever the session is active if and only if
every value command found it. -/
private theorem active_iff (stack : IsobusStack) (partner : ControlFunction) (es : List Event) :
    (sessionMachine stack partner).Always
        (fun log s => s.client.isSome = log.foldl activeAfter false) es ↔
      (sessionMachine stack partner).Guarded (ValueCommandFindsClient partner) es := by
  apply Machine.always_iff_guarded rfl
  intro pre e hpre
  rw [Machine.after_snoc, Machine.trace_snoc, List.foldl_append, ← hpre]
  exact step_isSome_iff stack partner _ e

end Session

private theorem mem_clients_iff_session {s : Server} {partner : ControlFunction} :
    partner ∈ s.clients ↔ (s.session partner).client.isSome = true :=
  Std.ExtTreeMap.mem_iff_isSome_getElem?

/-- In a run of the server, the keys of the client map are the active sessions after every call if
and only if every value command for which the server writes `clients[partner]` comes from a
control function that has an entry. -/
theorem clients_are_active_iff (stack : IsobusStack) (es : List Event) :
    (∀ pre, pre <+: es → ∀ partner, partner ∈ ((serverMachine stack).after pre).clients ↔
        sessionActive partner ((serverMachine stack).trace pre) = true) ↔
      ∀ pre partner ddi elementNumber value,
        pre ++ [Event.onValueCommand partner ddi elementNumber value] <+: es →
        ClientState.handlesValueCommand ddi = true →
        partner ∈ ((serverMachine stack).after pre).clients := by
  have hsession (partner : ControlFunction) := Session.active_iff stack partner es
  simp only [Machine.Always, Machine.Guarded, ← (server_projection stack _).after,
    ← (server_projection stack _).trace] at hsession
  simp only [mem_clients_iff_session, sessionActive, ← Bool.eq_iff_iff]
  constructor
  · intro h pre partner ddi elementNumber value hpre hddi
    exact (hsession partner).mp (fun pre hpre => h pre hpre partner) pre _ hpre rfl hddi
  · intro h pre hpre partner
    apply (hsession partner).mpr _ pre hpre
    intro pre e hpre
    cases e with
    | onValueCommand q ddi elementNumber value =>
        rintro rfl hddi
        exact h pre q ddi elementNumber value hpre hddi
    | _ => trivial

/-- A value command that was queued when its sender timed out brings the sender back. -/
theorem late_value_command_adds_client :
    ¬ ∀ stack es partner, partner ∈ ((serverMachine stack).after es).clients ↔
      sessionActive partner ((serverMachine stack).trace es) = true := by
  intro h
  have hkeys := h (.ofPool [.device ⟨0, []⟩, .deviceElement ⟨1, 0, 0, []⟩] [])
    [.storeDeviceDescriptorObjectPool 7 [0], .activateObjectPool 7 .working, .onClientTimeout 7,
      .onValueCommand 7 Ddi.actualWorkState 0 1] 7
  revert hkeys
  decide

end AogTaskController.TaskController
