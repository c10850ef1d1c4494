import AogTaskController.Framework.Since
import AogTaskController.TaskController.Sessions

/-!
# Uploads

The chunks that wait for the activation of a control function. An activation attempt consumes them,
deactivation and deletion drop them; a timeout ends the session as well, but leaves them behind.
-/

namespace AogTaskController.TaskController

open Framework

def Event.storedChunk (partner : ControlFunction) : Event → Option (List UInt8)
  | .storeDeviceDescriptorObjectPool q binaryPool => if q = partner then some binaryPool else none
  | _ => none

/-- The event is an activation attempt, a deactivation or a deletion of the partner. -/
def Event.clearsUploads (partner : ControlFunction) : Event → Bool
  | .activateObjectPool q _ => q == partner
  | .deactivateObjectPool q => q == partner
  | .deleteDeviceDescriptorObjectPool q => q == partner
  | _ => false

def Event.timesOut (partner : ControlFunction) : Event → Bool
  | .onClientTimeout q => q == partner
  | _ => false

/-- The chunks stored for the partner since its latest activation attempt, deactivation, deletion or
timeout. -/
def pendingUploads (partner : ControlFunction) (es : List Event) : List (List UInt8) :=
  collected (fun e => e.clearsUploads partner || e.timesOut partner) (·.storedChunk partner) es

/-- Every activation attempt of the run deserializes the chunks that are pending for its partner. -/
def UploadsKept (stack : IsobusStack) (es : List Event) : Prop :=
  ∀ pre partner fs, pre ++ [.activateObjectPool partner fs] <+: es →
    ∃ outcome, ((serverMachine stack).step ((serverMachine stack).after pre)
      (.activateObjectPool partner fs)).2 = [.activation partner (pendingUploads partner pre) outcome]

namespace Session

variable (stack : IsobusStack) (partner : ControlFunction)

private theorem uploaded_forClient (s : Session) (f : ClientState → ClientState × List Command) :
    (s.forClient partner f).1.uploaded = s.uploaded := by
  rw [forClient]
  cases s.client <;> rfl

private theorem uploaded_activate (s : Session) (fs : FileSystem) :
    (s.activate stack partner fs).1.uploaded.getD [] = [] := by
  rw [activate]
  cases huploaded : s.uploaded with
  | none => rw [huploaded]; rfl
  | some chunks => rfl

private theorem uploaded_step (s : Session) (e : Event) :
    (s.step stack partner e).1.uploaded.getD [] =
      if e.clearsUploads partner then []
      else s.uploaded.getD [] ++ (e.storedChunk partner).toList := by
  cases e with
  | storeDeviceDescriptorObjectPool q binaryPool =>
      by_cases hq : q = partner <;> simp [step, Event.clearsUploads, Event.storedChunk, hq]
  | activateObjectPool q fs =>
      by_cases hq : q = partner
      · simp [step, Event.clearsUploads, hq, uploaded_activate]
      · simp [step, Event.clearsUploads, Event.storedChunk, hq]
  | deactivateObjectPool q | deleteDeviceDescriptorObjectPool q | onClientTimeout q =>
      by_cases hq : q = partner <;> simp [step, Event.clearsUploads, Event.storedChunk, hq]
  | onValueCommand q ddi elementNumber value =>
      simp only [step, Event.clearsUploads, Event.storedChunk]
      split <;> simp
  | requestMeasurementCommands | updateSectionStates _ | updateSectionControlEnabled _
  | sendGnssQuality _ =>
      simp [step, Event.clearsUploads, Event.storedChunk, uploaded_forClient]
  | other => simp [step, Event.clearsUploads, Event.storedChunk]

private theorem uploaded_after (es : List Event) :
    ((sessionMachine stack partner).after es).uploaded.getD [] =
      collected (·.clearsUploads partner) (·.storedChunk partner) es := by
  induction es using List.reverseRecOn with
  | nil => simp [sessionMachine]
  | append_singleton es e ih =>
      rw [Machine.after_snoc, collected_snoc, ← ih]
      exact uploaded_step stack partner _ e

end Session

private theorem uploadedPools_after (stack : IsobusStack) (partner : ControlFunction)
    (es : List Event) :
    ((serverMachine stack).after es).uploadedPools[partner]?.getD [] =
      collected (·.clearsUploads partner) (·.storedChunk partner) es := by
  rw [← Session.uploaded_after stack partner es, ← (server_projection stack partner).after es]
  rfl

theorem activation_chunks (stack : IsobusStack) (s : Server) (partner : ControlFunction)
    (fs : FileSystem) : ∃ outcome, (Server.activateObjectPool stack s partner fs).2 =
      [.activation partner (s.uploadedPools[partner]?.getD []) outcome] := by
  rw [Server.activateObjectPool]
  cases s.uploadedPools[partner]? with
  | none => exact ⟨_, rfl⟩
  | some chunks => exact ⟨_, rfl⟩

private theorem activation_pending_iff (stack : IsobusStack) (pre : List Event)
    (partner : ControlFunction)
    (fs : FileSystem) :
    (∃ outcome, ((serverMachine stack).step ((serverMachine stack).after pre)
      (.activateObjectPool partner fs)).2 =
        [.activation partner (pendingUploads partner pre) outcome]) ↔
      collected (·.clearsUploads partner) (·.storedChunk partner) pre = pendingUploads partner pre := by
  obtain ⟨outcome, houtcome⟩ := activation_chunks stack ((serverMachine stack).after pre) partner fs
  rw [uploadedPools_after] at houtcome
  constructor
  · intro h
    obtain ⟨outcome', h⟩ := h
    have hsame := houtcome.symm.trans h
    simp only [List.cons.injEq, Observation.activation.injEq, and_true, true_and] at hsame
    exact hsame.1
  · intro h
    rw [h] at houtcome
    exact ⟨outcome, houtcome⟩

private theorem storedChunk_of_timesOut {partner : ControlFunction} (e : Event)
    (he : e.timesOut partner = true) : e.storedChunk partner = none := by
  cases e with
  | onClientTimeout q => rfl
  | _ => cases he

/-- Uploads are kept apart from earlier sessions if and only if no activation attempt follows a
timeout that found chunks in the queue, without another attempt, a deactivation or a deletion in
between. -/
theorem uploadsKept_iff (stack : IsobusStack) (es : List Event) :
    UploadsKept stack es ↔
      ∀ pre mid partner fs,
        pre ++ .onClientTimeout partner :: mid ++ [.activateObjectPool partner fs] <+: es →
        (∀ e ∈ mid, e.clearsUploads partner = false) →
        ((serverMachine stack).after pre).uploadedPools[partner]?.getD [] = [] := by
  simp only [UploadsKept, activation_pending_iff, uploadedPools_after]
  simp only [pendingUploads, collected_missing_iff storedChunk_of_timesOut]
  constructor
  · intro h pre mid partner fs hpre hmid
    apply h _ partner fs hpre pre _ mid rfl (beq_self_eq_true partner)
    intro f hf
    rcases List.mem_cons.mp hf with rfl | hf
    · rfl
    · exact hmid f hf
  · intro h pre partner fs hpre before e mid heq he hkept
    cases e with
    | onClientTimeout q =>
        obtain rfl : q = partner := beq_iff_eq.mp he
        exact h before mid q fs (heq ▸ hpre) fun f hf => hkept f (List.mem_cons_of_mem _ hf)
    | _ => cases he

/-- A client drops out behind its first chunk, and comes back to upload again. -/
theorem uploads_leak : ¬ ∀ stack es, UploadsKept stack es := by
  intro h
  have hkept := (activation_pending_iff (.ofPool condensedPool [1]) _ _ _).mp (h _ _
    [.storeDeviceDescriptorObjectPool 7 [1], .onClientTimeout 7, .storeDeviceDescriptorObjectPool 7 [2]]
    7 .working List.prefix_rfl)
  revert hkept
  decide +kernel

end AogTaskController.TaskController
