import AogTaskController.TaskController.ClientState

/-!
# Pool activation

From the uploaded chunks to a fresh client state. The stack parses the pool and finds the
implement's geometry; the file system may fail in every way while the pool is saved. The stack's
own calls are taken to return: an exception that one of them throws is not modelled.
-/

namespace AogTaskController.TaskController

abbrev ControlFunction := Nat

structure Section where
  elementNumber : Nat

structure SubBoom where
  sections : List Section

structure Boom where
  subBooms : List SubBoom
  sections : List Section

structure Implement where
  booms : List Boom

/-- The section elements, boom by boom, those of the sub-booms first. -/
def Implement.sectionElementNumbers (implement : Implement) : List Nat :=
  implement.booms.flatMap fun boom =>
    boom.subBooms.flatMap (fun subBoom => subBoom.sections.map (·.elementNumber)) ++
      boom.sections.map (·.elementNumber)

/-- The parts of the stack that activation calls. -/
structure IsobusStack where
  getName : ControlFunction → Nat
  deserializeBinaryObjectPool : Pool → List UInt8 → Nat → Bool × Pool
  generateBinaryObjectPool : Pool → Option (List UInt8)
  getImplementGeometry : Pool → Implement

def IsobusStack.ofPool (pool : Pool) (sectionElementNumbers : List Nat) : IsobusStack where
  getName partner := partner
  deserializeBinaryObjectPool _ _ _ := (true, pool)
  generateBinaryObjectPool _ := none
  getImplementGeometry _ := ⟨[⟨[], sectionElementNumbers.map Section.mk⟩]⟩

def condensedPool : Pool :=
  [.device ⟨0, []⟩, .deviceElement ⟨1, 0, 0, [2, 3, 4]⟩, .deviceProcessData ⟨2, 289, true, false, false⟩,
    .deviceProcessData ⟨3, 290, true, false, false⟩, .deviceProcessData ⟨4, 291, true, false, false⟩]

/-- How the file system answers; `none` where the call throws. -/
structure FileSystem where
  getFilenamePath : String → Option String
  fileExists : String → Option Bool
  opens : String → Bool
  writes : String → Bool

def FileSystem.working : FileSystem where
  getFilenamePath := some
  fileExists _ := some false
  opens _ := true
  writes _ := true

inductive ObjectPoolActivationError
  | noErrors
  | thereAreErrorsInTheDDOP
  | anyOtherError
  deriving DecidableEq

inductive ObjectPoolErrorCodes
  | noErrors
  | unknownObjectReference
  | anyOtherError
  deriving DecidableEq

def nullObjectId : Nat := 0xFFFF

structure ActivationErrors where
  activationError : ObjectPoolActivationError := .noErrors
  objectPoolError : ObjectPoolErrorCodes := .noErrors
  parentObjectIDOfFaultyObject : Nat := nullObjectId
  faultyObjectID : Nat := nullObjectId
  deriving DecidableEq

inductive ActivationOutcome
  | returned (accepted : Bool) (errors : ActivationErrors)
  | threw (errors : ActivationErrors)
  deriving DecidableEq

/-- What an activation call leaves behind besides its outcome: the client state it registers, if
any, and the files it writes. -/
structure ActivationResult where
  outcome : ActivationOutcome
  registered : Option ClientState := none
  savedFiles : List (String × List UInt8) := []

def sanitizeFilename (input : String) : String :=
  input.map fun c => if "\\/*:?\"<>|".contains c then '_' else c

/-- The label up to the first byte that is not printable. -/
def DeviceObject.label (device : DeviceObject) : String :=
  String.ofList ((device.localizationLabel.takeWhile fun c => 0x20 ≤ c && c < 0x7F).map fun c =>
    Char.ofNat c.toNat)

def fnv1a64 (bytes : List UInt8) : UInt64 :=
  bytes.foldl (fun hash byte => (hash ^^^ byte.toUInt64) * 0x100000001b3) 0xcbf29ce484222325

def hexText (hash : UInt64) : String :=
  String.ofList (List.leftpad 16 '0' (Nat.toDigits 16 hash.toNat))

def FileSystem.save (fs : FileSystem) (path : String) (bytes : List UInt8) :
    List (String × List UInt8) :=
  if fs.opens path && fs.writes path then [(path, bytes)] else []

/-- Every exception is caught. -/
def saveReceivedDdop (fs : FileSystem) (clientName : Nat) (rawPool : List UInt8) :
    List (String × List UInt8) :=
  let fileName := toString clientName ++ "/received/" ++ hexText (fnv1a64 rawPool) ++ ".ddop"
  match fs.getFilenamePath fileName with
  | none => []
  | some path =>
      match fs.fileExists path with
      | some false => fs.save path rawPool
      | _ => []

/-- `none` when the exception of `get_filename_path` leaves the function. -/
def saveActivatedDdop (stack : IsobusStack) (fs : FileSystem) (clientName : Nat)
    (device : DeviceObject) (pool : Pool) : Option (List (String × List UInt8)) :=
  match stack.generateBinaryObjectPool pool with
  | none => some []
  | some binaryPool =>
      (fs.getFilenamePath (toString clientName ++ "/" ++ sanitizeFilename device.label ++ ".ddop")).map
        fun path => fs.save path binaryPool

/-- Every chunk is handed to the deserializer, the last answer stays. -/
def IsobusStack.deserializeChunks (stack : IsobusStack) (clientName : Nat)
    (chunks : List (List UInt8)) : Bool × Pool :=
  chunks.foldl (fun x chunk => stack.deserializeBinaryObjectPool x.2 chunk clientName) (false, [])

def IsobusStack.poolState (stack : IsobusStack) (pool : Pool) : ClientState :=
  ({ (default : ClientState) with pool := pool }).buildElementHierarchy.setNumberOfSections
    (UInt8.ofNat (stack.getImplementGeometry pool).sectionElementNumbers.length)

def ClientState.mapSections (st : ClientState) (sectionElementNumbers : List Nat) : ClientState :=
  (List.range st.numberOfSections).foldl (fun st i =>
    match sectionElementNumbers[i]? with
    | some elementNumber => st.setElementNumberForSection i elementNumber
    | none => st) st

def IsobusStack.newClientState (stack : IsobusStack) (pool : Pool) : ClientState :=
  let st := (stack.poolState pool).mapSections (stack.getImplementGeometry pool).sectionElementNumbers
  match pool.sectionControlMethod with
  | .settableActualWorkState =>
      (st.setUsesPerElementControl true).setPerElementSetpointDdi Ddi.actualWorkState
  | _ => st

/-- `activate_object_pool` for a client that has uploaded these chunks. -/
def IsobusStack.activateUploaded (stack : IsobusStack) (fs : FileSystem) (clientName : Nat)
    (chunks : List (List UInt8)) : ActivationResult :=
  let (deserialized, pool) := stack.deserializeChunks clientName chunks
  let received := saveReceivedDdop fs clientName chunks.flatten
  if deserialized then
    match pool.deviceObject with
    | none =>
        { outcome := .returned false
            { activationError := .thereAreErrorsInTheDDOP
              objectPoolError := .unknownObjectReference }
          savedFiles := received }
    | some device =>
        match saveActivatedDdop stack fs clientName device pool with
        | none => { outcome := .threw {}, savedFiles := received }
        | some activated =>
            { outcome := .returned true {}
              registered := some (stack.newClientState pool)
              savedFiles := received ++ activated }
  else
    { outcome := .returned false
        { activationError := .thereAreErrorsInTheDDOP, objectPoolError := .anyOtherError }
      savedFiles := received }

theorem activateUploaded_cases (stack : IsobusStack) (fs : FileSystem) (clientName : Nat)
    (chunks : List (List UInt8)) :
    ((stack.activateUploaded fs clientName chunks).registered = none ∧
      ∀ errors, (stack.activateUploaded fs clientName chunks).outcome ≠ .returned true errors) ∨
    ∃ pool, stack.deserializeChunks clientName chunks = (true, pool) ∧
      (stack.activateUploaded fs clientName chunks).registered =
        some (stack.newClientState pool) ∧
      (stack.activateUploaded fs clientName chunks).outcome = .returned true {} := by
  rcases hchunks : stack.deserializeChunks clientName chunks with ⟨deserialized, pool⟩
  simp only [IsobusStack.activateUploaded, hchunks]
  cases deserialized with
  | false => left; simp
  | true =>
      cases hdevice : pool.deviceObject with
      | none => left; simp
      | some device =>
          cases hsave : saveActivatedDdop stack fs clientName device pool with
          | none => left; simp [hsave]
          | some activated => right; exact ⟨pool, by simp [hsave]⟩

end AogTaskController.TaskController
