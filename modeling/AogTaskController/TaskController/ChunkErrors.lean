import AogTaskController.TaskController.ActivationEffects

/-!
# Errors in the uploaded chunks

The deserializer judges every chunk of an upload, activation asks for the last judgement only. An
error further up in the queue leaves a pool with gaps that counts as a good one.
-/

namespace AogTaskController.TaskController

namespace IsobusStack

variable (stack : IsobusStack) (clientName : Nat)

end IsobusStack

end AogTaskController.TaskController
