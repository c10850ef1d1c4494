import AogTaskController.Framework.Machine
import AogTaskController.TaskController.Activation
import AogTaskController.TaskController.MeasurementCommands
import AogTaskController.TaskController.SetpointCommands
import AogTaskController.TaskController.ValueCommands

/-!
# The task controller server

The two maps of the server and every method that reads or writes them. All of them hold
`clientsMutex` from beginning to end, so a run is a sequence of calls in any order: those of the
stack's thread and those of the main thread.
-/

namespace AogTaskController.TaskController

open Framework

structure Server where
  clients : Std.ExtTreeMap ControlFunction ClientState := ∅
  uploadedPools : Std.ExtTreeMap ControlFunction (List (List UInt8)) := ∅

/-- A call of a server method, with its arguments and what the environment answers. -/
inductive Event
  | storeDeviceDescriptorObjectPool (partner : ControlFunction) (binaryPool : List UInt8)
  | activateObjectPool (partner : ControlFunction) (fs : FileSystem)
  | deactivateObjectPool (partner : ControlFunction)
  | deleteDeviceDescriptorObjectPool (partner : ControlFunction)
  | onClientTimeout (partner : ControlFunction)
  | onValueCommand (partner : ControlFunction) (ddi : Ddi) (elementNumber : Nat)
      (value : BitVec 32)
  | requestMeasurementCommands
  | updateSectionStates (sectionStates : List Bool)
  | updateSectionControlEnabled (enabled : Bool)
  | sendGnssQuality (quality : UInt8)
  /-- The remaining callbacks and `get_clients`, which leave the maps alone. -/
  | other

inductive Observation
  | activation (partner : ControlFunction) (chunks : List (List UInt8))
      (outcome : ActivationOutcome)
  | closed (partner : ControlFunction)
  | sent (partner : ControlFunction) (command : Command)

def Observation.partner : Observation → ControlFunction
  | .activation partner _ _ => partner
  | .closed partner => partner
  | .sent partner _ => partner

def sentTo (partner : ControlFunction) (log : List Observation) : List Command :=
  log.filterMap fun
    | .sent q command => if q = partner then some command else none
    | _ => none

namespace Server

/-- Writing through `clients[partner]`, which inserts an empty state for an unknown partner. -/
def modifyClient (s : Server) (partner : ControlFunction) (f : ClientState → ClientState) :
    Server :=
  { s with clients := s.clients.alter partner fun st => some (f (st.getD default)) }

/-- `for (auto &client : clients)`: the entries are independent of each other. -/
def forEachClient (s : Server) (f : ClientState → ClientState × List Command) :
    Server × List Observation :=
  ({ s with clients := s.clients.map fun _ st => (f st).1 },
    s.clients.toList.flatMap fun client => (f client.2).2.map (.sent client.1))

def storeDeviceDescriptorObjectPool (s : Server) (partner : ControlFunction)
    (binaryPool : List UInt8) : Server :=
  { s with
    uploadedPools := s.uploadedPools.alter partner fun chunks =>
      some (chunks.getD [] ++ [binaryPool]) }

def activateObjectPool (stack : IsobusStack) (s : Server) (partner : ControlFunction)
    (fs : FileSystem) : Server × List Observation :=
  match s.uploadedPools[partner]? with
  | none =>
      (s, [.activation partner [] (.returned false { activationError := .anyOtherError })])
  | some chunks =>
      let result := stack.activateUploaded fs (stack.getName partner) chunks
      ({ clients :=
          match result.registered with
          | some st => s.clients.insert partner st
          | none => s.clients
         uploadedPools := s.uploadedPools.insert partner [] },
        [.activation partner chunks result.outcome])

def eraseClient (s : Server) (partner : ControlFunction) : Server :=
  { clients := s.clients.erase partner, uploadedPools := s.uploadedPools.erase partner }

def deactivateObjectPool (s : Server) (partner : ControlFunction) : Server :=
  s.eraseClient partner

def deleteDeviceDescriptorObjectPool (s : Server) (partner : ControlFunction) : Server :=
  s.eraseClient partner

def onClientTimeout (s : Server) (partner : ControlFunction) : Server :=
  { s with clients := s.clients.erase partner }

def onValueCommand (s : Server) (partner : ControlFunction) (ddi : Ddi) (elementNumber : Nat)
    (value : BitVec 32) : Server :=
  if ClientState.handlesValueCommand ddi then
    s.modifyClient partner (·.onValueCommand ddi elementNumber value)
  else s

def requestMeasurementCommands (s : Server) : Server × List Observation :=
  s.forEachClient (·.requestMeasurementCommands)

def updateSectionStates (s : Server) (sectionStates : List Bool) : Server × List Observation :=
  s.forEachClient (·.updateSectionStates sectionStates)

def updateSectionControlEnabled (s : Server) (enabled : Bool) : Server × List Observation :=
  s.forEachClient (·.updateSectionControlEnabled enabled)

def sendGnssQuality (s : Server) (quality : UInt8) : Server × List Observation :=
  s.forEachClient fun st => (st, st.sendGnssQuality quality)

def step (stack : IsobusStack) (s : Server) : Event → Server × List Observation
  | .storeDeviceDescriptorObjectPool partner binaryPool =>
      (s.storeDeviceDescriptorObjectPool partner binaryPool, [])
  | .activateObjectPool partner fs => activateObjectPool stack s partner fs
  | .deactivateObjectPool partner => (s.deactivateObjectPool partner, [.closed partner])
  | .deleteDeviceDescriptorObjectPool partner =>
      (s.deleteDeviceDescriptorObjectPool partner, [.closed partner])
  | .onClientTimeout partner => (s.onClientTimeout partner, [.closed partner])
  | .onValueCommand partner ddi elementNumber value =>
      (s.onValueCommand partner ddi elementNumber value, [])
  | .requestMeasurementCommands => s.requestMeasurementCommands
  | .updateSectionStates sectionStates => s.updateSectionStates sectionStates
  | .updateSectionControlEnabled enabled => s.updateSectionControlEnabled enabled
  | .sendGnssQuality quality => s.sendGnssQuality quality
  | .other => (s, [])

end Server

def serverMachine (stack : IsobusStack) : Machine Server Event Observation where
  init := {}
  step := Server.step stack

end AogTaskController.TaskController
