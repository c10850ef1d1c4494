import AogTaskController.TaskController.Geometry

/-!
# Effects of activation

An activation replaces the entry of its partner by a fresh state or leaves all clients alone. Saving
the pool to disk is meant to have no say in this, and has one where the path of the file cannot be
made.
-/

namespace AogTaskController.TaskController

open Framework

def ActivationOutcome.errors : ActivationOutcome → ActivationErrors
  | .returned _ errors => errors
  | .threw errors => errors

/-- A state as activation registers it: in manual mode, with nothing sent, mapped or reported. -/
structure ClientState.Fresh (st : ClientState) : Prop where
  manual : st.isSectionControlEnabled = false
  unsent : st.areMeasurementCommandsSent = false
  setpoints : ∀ sect < st.numberOfSections, st.getSectionSetpointState sect = .off
  unmapped : st.ddiToElementNumber = ∅
  noWorkStates : st.elementWorkStates = ∅

theorem newClientState_fresh (stack : IsobusStack) (pool : Pool) :
    (stack.newClientState pool).Fresh where
  manual := newClientState_field stack pool (·.isSectionControlEnabled) (fun _ _ _ => rfl)
    fun _ _ _ => rfl
  unsent := newClientState_field stack pool (·.areMeasurementCommandsSent) (fun _ _ _ => rfl)
    fun _ _ _ => rfl
  setpoints _ hsect := newClientState_setpoint stack pool hsect
  unmapped := newClientState_field stack pool (·.ddiToElementNumber) (fun _ _ _ => rfl)
    fun _ _ _ => rfl
  noWorkStates := (newClientState_hierarchy stack pool).2

/-- What an activation attempt of the partner with this outcome makes of the server. -/
structure AllOrNothing (s : Server) (partner : ControlFunction) (outcome : ActivationOutcome)
    (s' : Server) : Prop where
  rejects_iff : (∃ errors, outcome = .returned false errors) ↔
    outcome.errors.activationError ≠ .noErrors
  nothing : (∀ errors, outcome ≠ .returned true errors) → s'.clients = s.clients
  all : ∀ errors, outcome = .returned true errors →
    ∃ st : ClientState, st.Fresh ∧ s'.clients = s.clients.insert partner st
  clients : ∀ q, q ≠ partner → s'.clients[q]? = s.clients[q]?
  uploadedPools : ∀ q, q ≠ partner → s'.uploadedPools[q]? = s.uploadedPools[q]?

private theorem activateUploaded_rejects_iff (stack : IsobusStack) (fs : FileSystem)
    (clientName : Nat)
    (chunks : List (List UInt8)) :
    (∃ errors, (stack.activateUploaded fs clientName chunks).outcome = .returned false errors) ↔
      (stack.activateUploaded fs clientName chunks).outcome.errors.activationError ≠ .noErrors := by
  rcases hchunks : stack.deserializeChunks clientName chunks with ⟨deserialized, pool⟩
  simp only [IsobusStack.activateUploaded, hchunks]
  cases deserialized with
  | false => simp [ActivationOutcome.errors]
  | true =>
      cases hdevice : pool.deviceObject with
      | none => simp [ActivationOutcome.errors]
      | some device =>
          cases hsave : saveActivatedDdop stack fs clientName device pool with
          | none => simp [hsave, ActivationOutcome.errors]
          | some activated => simp [hsave, ActivationOutcome.errors]

/-- In every state of the server, an activation attempt registers a fresh client or changes no
client at all. -/
theorem activateObjectPool_allOrNothing (stack : IsobusStack) (s : Server)
    (partner : ControlFunction) (fs : FileSystem) :
    ∃ chunks outcome, (Server.activateObjectPool stack s partner fs).2 =
        [.activation partner chunks outcome] ∧
      AllOrNothing s partner outcome (Server.activateObjectPool stack s partner fs).1 := by
  have hother {q : ControlFunction} (hq : q ≠ partner) : compare partner q ≠ .eq := by
    rw [ne_eq, Std.LawfulEqCmp.compare_eq_iff_eq]
    exact hq.symm
  rw [Server.activateObjectPool]
  cases huploaded : s.uploadedPools[partner]? with
  | none =>
      refine ⟨_, _, rfl, ?_⟩
      constructor
      · simp [ActivationOutcome.errors]
      · exact fun _ => rfl
      · intro errors h
        cases h
      · exact fun _ _ => rfl
      · exact fun _ _ => rfl
  | some chunks =>
      refine ⟨chunks, _, rfl, ?_⟩
      have hpools (q : ControlFunction) (hq : q ≠ partner) :
          (s.uploadedPools.insert partner [])[q]? = s.uploadedPools[q]? := by
        rw [Std.ExtTreeMap.getElem?_insert, if_neg (hother hq)]
      rcases activateUploaded_cases stack fs (stack.getName partner) chunks with
        ⟨hnone, hnot⟩ | ⟨pool, _, hsome, houtcome⟩
      · simp only [hnone]
        constructor
        · exact activateUploaded_rejects_iff stack fs (stack.getName partner) chunks
        · exact fun _ => rfl
        · intro errors h
          exact absurd h (hnot errors)
        · exact fun _ _ => rfl
        · exact hpools
      · simp only [hsome]
        constructor
        · exact activateUploaded_rejects_iff stack fs (stack.getName partner) chunks
        · intro h
          exact absurd houtcome (h {})
        · exact fun _ _ => ⟨_, newClientState_fresh stack pool, rfl⟩
        · intro q hq
          rw [Std.ExtTreeMap.getElem?_insert, if_neg (hother hq)]
        · exact hpools

section Disk

variable {stack : IsobusStack} {clientName : Nat} {chunks : List (List UInt8)}

/-- What activation makes of the chunks, the disk left aside. -/
def IsobusStack.judgeUploaded (stack : IsobusStack) (clientName : Nat) (chunks : List (List UInt8)) :
    ActivationOutcome × Option ClientState :=
  ((stack.activateUploaded .working clientName chunks).outcome,
    (stack.activateUploaded .working clientName chunks).registered)

/-- The path of the file for the activated pool can be made, if activation gets so far. -/
def MakesSavePath (stack : IsobusStack) (clientName : Nat) (chunks : List (List UInt8))
    (fs : FileSystem) : Prop :=
  ∀ pool device binaryPool, stack.deserializeChunks clientName chunks = (true, pool) →
    pool.deviceObject = some device → stack.generateBinaryObjectPool pool = some binaryPool →
    fs.getFilenamePath (toString clientName ++ "/" ++ sanitizeFilename device.label ++ ".ddop") ≠ none

private theorem saveActivatedDdop_eq_none_iff {fs : FileSystem} {device : DeviceObject}
    {pool : Pool} :
    saveActivatedDdop stack fs clientName device pool = none ↔
      ∃ binaryPool, stack.generateBinaryObjectPool pool = some binaryPool ∧
        fs.getFilenamePath (toString clientName ++ "/" ++ sanitizeFilename device.label ++ ".ddop") =
          none := by
  rw [saveActivatedDdop]
  cases stack.generateBinaryObjectPool pool with
  | none => simp
  | some binaryPool => simp

theorem MakesSavePath.exists_saved {fs : FileSystem} (h : MakesSavePath stack clientName chunks fs)
    {pool : Pool} (hchunks : stack.deserializeChunks clientName chunks = (true, pool))
    {device : DeviceObject} (hdevice : pool.deviceObject = some device) :
    ∃ saved, saveActivatedDdop stack fs clientName device pool = some saved := by
  rw [← Option.ne_none_iff_exists', ne_eq, saveActivatedDdop_eq_none_iff]
  intro hnone
  obtain ⟨binaryPool, hbinary, hthrows⟩ := hnone
  exact h pool device binaryPool hchunks hdevice hbinary hthrows

private theorem makesSavePath_working : MakesSavePath stack clientName chunks .working :=
  fun _ _ _ _ _ _ => Option.some_ne_none _

private theorem activateUploaded_eq_judgeUploaded {fs : FileSystem}
    (h : MakesSavePath stack clientName chunks fs) :
    (stack.activateUploaded fs clientName chunks).outcome =
        (stack.judgeUploaded clientName chunks).1 ∧
      (stack.activateUploaded fs clientName chunks).registered =
        (stack.judgeUploaded clientName chunks).2 := by
  rcases hchunks : stack.deserializeChunks clientName chunks with ⟨deserialized, pool⟩
  simp only [IsobusStack.judgeUploaded, IsobusStack.activateUploaded, hchunks]
  cases deserialized with
  | false => exact ⟨rfl, rfl⟩
  | true =>
      cases hdevice : pool.deviceObject with
      | none => exact ⟨rfl, rfl⟩
      | some device =>
          obtain ⟨saved, hsaved⟩ := h.exists_saved hchunks hdevice
          obtain ⟨saved', hsaved'⟩ := makesSavePath_working.exists_saved hchunks hdevice
          simp only [if_true, hsaved, hsaved', and_self]

theorem activateUploaded_threw {fs : FileSystem} (h : ¬ MakesSavePath stack clientName chunks fs) :
    (stack.activateUploaded fs clientName chunks).outcome = .threw {} := by
  simp only [MakesSavePath, not_forall, not_not] at h
  obtain ⟨pool, device, binaryPool, hchunks, hdevice, hbinary, hthrows⟩ := h
  have hnone := saveActivatedDdop_eq_none_iff.mpr ⟨binaryPool, hbinary, hthrows⟩
  simp only [IsobusStack.activateUploaded, hchunks, hdevice, hnone, if_true]

private theorem judgeUploaded_ne_threw (errors : ActivationErrors) :
    (stack.judgeUploaded clientName chunks).1 ≠ .threw errors := by
  rcases hchunks : stack.deserializeChunks clientName chunks with ⟨deserialized, pool⟩
  simp only [IsobusStack.judgeUploaded, IsobusStack.activateUploaded, hchunks]
  cases deserialized with
  | false => simp
  | true =>
      cases hdevice : pool.deviceObject with
      | none => simp
      | some device =>
          obtain ⟨saved, hsaved⟩ := makesSavePath_working.exists_saved hchunks hdevice
          simp [hsaved]

/-- Two file systems lead to the same answer, the same errors and the same clients, and to no
exception, if and only if the path for the activated pool can be made on both. -/
theorem activateObjectPool_disk_iff (stack : IsobusStack) (s : Server) (partner : ControlFunction)
    (fs fs' : FileSystem) :
    ((Server.activateObjectPool stack s partner fs).2 =
        (Server.activateObjectPool stack s partner fs').2 ∧
      (Server.activateObjectPool stack s partner fs).1.clients =
        (Server.activateObjectPool stack s partner fs').1.clients ∧
      ∀ chunks errors, (Server.activateObjectPool stack s partner fs).2 ≠
        [.activation partner chunks (.threw errors)]) ↔
    ∀ chunks, s.uploadedPools[partner]? = some chunks →
      MakesSavePath stack (stack.getName partner) chunks fs ∧
        MakesSavePath stack (stack.getName partner) chunks fs' := by
  simp only [Server.activateObjectPool]
  cases huploaded : s.uploadedPools[partner]? with
  | none => simp
  | some chunks =>
      simp only [Option.some.injEq, forall_eq', List.cons.injEq, Observation.activation.injEq,
        true_and, and_true]
      constructor
      · intro h
        obtain ⟨hsame, _, hnot⟩ := h
        constructor
        · by_contra hpath
          exact hnot chunks {} (by rw [activateUploaded_threw hpath])
        · by_contra hpath
          exact hnot chunks {} (by rw [hsame, activateUploaded_threw hpath])
      · intro h
        obtain ⟨houtcome, hregistered⟩ := activateUploaded_eq_judgeUploaded h.1
        obtain ⟨houtcome', hregistered'⟩ := activateUploaded_eq_judgeUploaded h.2
        rw [houtcome, hregistered, houtcome', hregistered']
        refine ⟨rfl, rfl, fun _ errors hthrew => ?_⟩
        simp only [List.cons.injEq, Observation.activation.injEq] at hthrew
        exact judgeUploaded_ne_threw errors hthrew.1.2.2

end Disk

/-- A disk on which no path can be made, as without a home directory. -/
def FileSystem.homeless : FileSystem := { FileSystem.working with getFilenamePath _ := none }

def writableStack : IsobusStack :=
  { IsobusStack.ofPool condensedPool [1] with generateBinaryObjectPool _ := some [0] }

/-- Without a home directory a good pool is not activated, and the exception leaves the callback. -/
theorem homeless_activation_throws : ¬ ∀ (stack : IsobusStack) (s : Server)
    (partner : ControlFunction) (fs fs' : FileSystem),
    (Server.activateObjectPool stack s partner fs).2 =
        (Server.activateObjectPool stack s partner fs').2 ∧
      (Server.activateObjectPool stack s partner fs).1.clients =
        (Server.activateObjectPool stack s partner fs').1.clients ∧
      ∀ chunks errors, (Server.activateObjectPool stack s partner fs).2 ≠
        [.activation partner chunks (.threw errors)] := by
  intro h
  have hsame : [Observation.activation 7 [[0]] (.returned true {})] =
      [.activation 7 [[0]] (.threw {})] := (h writableStack uploadedServer 7 .working .homeless).1
  cases hsame

end AogTaskController.TaskController
