import AogTaskController.Framework.Edges
import AogTaskController.Framework.Episodes
import AogTaskController.Framework.KeyedCache
import AogTaskController.VirtualTerminal.Lengths
import AogTaskController.VirtualTerminal.SectionMap

/-!
# The client of the virtual terminal

`update_vt_client`: the client starts when a terminal has an address, and from then on each call finds it
connected or not. While it is connected the texts and the numbers on the terminal are kept up to date.
-/

namespace AogTaskController.VirtualTerminal

open Framework Application TaskController

structure VtReport where
  version : UInt8
  xPixels : UInt16
  yPixels : UInt16
  softkeyXPixels : UInt8
  softkeyYPixels : UInt8
  virtualSoftkeys : UInt8
  physicalSoftkeys : UInt8
  deriving DecidableEq

/-- One call of `update_vt_client`: what it finds, and the times from each reading of the clock to the
next. The source looks at the state several times in a call; one view stands for all of them. -/
structure VtUpdate where
  elapsedMs : Nat
  partnerAddress : Option UInt8
  connected : Bool
  report : VtReport
  view : VtView
  untilLookMs : Nat := 0
  untilSectionMs : Nat := 0
  sectionMs : Nat := 0
  untilStatusMs : Nat := 0
  statusStampMs : Nat := 0
  untilAgeMs : Nat := 0
  restMs : Nat := 0

inductive VtMessage
  | enableDisable (objectID : Nat) (enable : Bool)
  | changeNumeric (objectID : Nat) (value : BitVec 32)
  | changeString (objectID : Nat) (value : Bytes)
  deriving DecidableEq

inductive VtOutput
  | initialized (atMs : Nat) (address : UInt8)
  /-- The client is found connected or not. The times are those of two readings of the clock. -/
  | linked (connected : Bool) (sinceMs lookMs : Nat)
  | notConnectedWarning (report : VtReport)
  | capabilities (report : VtReport)
  | tooFewSoftkeys (virtualSoftkeys : UInt8)
  | needsPaging (physicalSoftkeys : UInt8)
  | sent (message : VtMessage)
  /-- The helper is told the value of a number, and sends it if it has changed. -/
  | tracked (objectID : Nat) (value : BitVec 32)
  deriving DecidableEq

structure VtClient where
  clockMs : Nat := 0
  vtClientStarted : Bool := false
  vtConfigSynced : Bool := false
  vtWasConnected : Bool := false
  vtConnectionWarningLogged : Bool := false
  vtCapabilitiesLogged : Bool := false
  vtDisconnectedSinceMs : BitVec 32 := 0
  lastVtSectionUpdateMs : BitVec 32 := 0
  lastVtStatusUpdateMs : BitVec 32 := 0
  lastVtStrings : Std.ExtTreeMap Nat Bytes := ∅

def vtConnectMs : Nat := 30000

def vtSectionMs : Nat := 100

def vtStatusMs : Nat := 1000

def aogTimeoutMs : Nat := 3000

def configHydliftAuxN : Nat := 10001
def configNmeaRead : Nat := 10002
def configNmeaSend : Nat := 10003
def configTecuEnabled : Nat := 10004
def vtSpeedValue : Nat := 12000
def vtXteValue : Nat := 12001

def boolValue (enabled : Bool) : BitVec 32 := if enabled then 1 else 0

namespace VtUpdate

/-! When the clock is read while the client is connected, first for the age of the last packet. -/

def sectionLookMs (u : VtUpdate) (nowMs : Nat) : Nat := nowMs + u.untilSectionMs

def sectionStampedMs (u : VtUpdate) (nowMs : Nat) : Nat := u.sectionLookMs nowMs + u.sectionMs

def statusLookMs (u : VtUpdate) (nowMs : Nat) : Nat := u.sectionStampedMs nowMs + u.untilStatusMs

def statusStampedMs (u : VtUpdate) (nowMs : Nat) : Nat := u.statusLookMs nowMs + u.statusStampMs

def ageLookMs (u : VtUpdate) (nowMs : Nat) : Nat := u.statusStampedMs nowMs + u.untilAgeMs

def endMs (u : VtUpdate) (nowMs : Nat) : Nat := u.ageLookMs nowMs + u.restMs

def aogConnected (u : VtUpdate) (nowMs : Nat) : Bool :=
  u.view.lastAogPacketMs != 0 &&
    !timeExpiredMs (timestampMs nowMs) u.view.lastAogPacketMs aogTimeoutMs

def statusEntries (bus : BusNumbers) (u : VtUpdate) (nowMs : Nat) : List (Nat × Bytes) :=
  let ageMs := timestampMs (u.ageLookMs nowMs) - u.view.lastAogPacketMs
  (u.view.statusTexts bus (u.aogConnected nowMs) ageMs).map fun text => (text.1.objectId, text.2)

def sectionEntry (u : VtUpdate) : Nat × Bytes :=
  (VtString.implementSectionMap.objectId, sectionMap u.view.clients)

/-- The numbers on the terminal. That of the cross track error has its sign turned. -/
def trackedValues (u : VtUpdate) (nowMs : Nat) : List VtOutput :=
  [.tracked vtSpeedValue (if u.aogConnected nowMs then u.view.lastSpeedValue.abs else 0),
    .tracked vtXteValue
      (if u.aogConnected nowMs then u.view.lastXteValue ^^^ 0x80000000 else 0x80000000),
    .tracked configNmeaSend (boolValue u.view.nmeaSendEnabled),
    .tracked configTecuEnabled (boolValue u.view.tecuEnabled)]

/-- `log_vt_capabilities_once`, when it logs. -/
def capabilityLines (u : VtUpdate) : List VtOutput :=
  .capabilities u.report ::
    if u.report.virtualSoftkeys < 5 then [.tooFewSoftkeys u.report.virtualSoftkeys]
    else if u.report.physicalSoftkeys < 5 then [.needsPaging u.report.physicalSoftkeys]
    else []

/-- `sync_vt_config_once`, when it sends. -/
def configMessages (u : VtUpdate) : List VtOutput :=
  [.sent (.enableDisable configHydliftAuxN false), .sent (.enableDisable configNmeaRead false),
    .sent (.enableDisable configNmeaSend u.view.nmeaInterface),
    .sent (.changeNumeric configNmeaSend (boolValue u.view.nmeaSendEnabled)),
    .sent (.changeNumeric configTecuEnabled (boolValue u.view.tecuEnabled))]

end VtUpdate

namespace VtClient

def tryStartVtClient (s : VtClient) (u : VtUpdate) (nowMs : Nat) : VtClient × List VtOutput :=
  match u.partnerAddress with
  | none => ({ s with clockMs := nowMs }, [])
  | some address =>
      ({ s with
          clockMs := nowMs
          vtClientStarted := true
          vtDisconnectedSinceMs := timestampMs nowMs }, [.initialized nowMs address])

def handleVtDisconnected (s : VtClient) (u : VtUpdate) (nowMs : Nat) : VtClient × List VtOutput :=
  let since := if s.vtWasConnected || s.vtDisconnectedSinceMs == 0 then timestampMs nowMs
    else s.vtDisconnectedSinceMs
  let logged := !s.vtWasConnected && s.vtConnectionWarningLogged
  let lookMs := nowMs + u.untilLookMs
  let warns := !logged && timeExpiredMs (timestampMs lookMs) since vtConnectMs
  ({ s with
      clockMs := lookMs
      vtDisconnectedSinceMs := since
      vtConnectionWarningLogged := logged || warns
      vtCapabilitiesLogged := !s.vtWasConnected && s.vtCapabilitiesLogged
      vtWasConnected := false
      lastVtStrings := ∅
      vtConfigSynced := false },
    .linked false nowMs lookMs :: if warns then [.notConnectedWarning u.report] else [])

def sectionDue (s : VtClient) (u : VtUpdate) (nowMs : Nat) : Bool :=
  timeExpiredMs (timestampMs (u.sectionLookMs nowMs)) s.lastVtSectionUpdateMs vtSectionMs

def statusDue (s : VtClient) (u : VtUpdate) (nowMs : Nat) : Bool :=
  timeExpiredMs (timestampMs (u.statusLookMs nowMs)) s.lastVtStatusUpdateMs vtStatusMs

/-- The texts that `send_vt_string_if_changed` is called with, in order. -/
def entries (bus : BusNumbers) (s : VtClient) (u : VtUpdate) (nowMs : Nat) : List (Nat × Bytes) :=
  (if s.sectionDue u nowMs then [u.sectionEntry] else []) ++
    if s.statusDue u nowMs then u.statusEntries bus nowMs else []

def connectedOutputs (s : VtClient) (u : VtUpdate) (nowMs : Nat) : List VtOutput :=
  [.linked true nowMs nowMs] ++ (if s.vtCapabilitiesLogged then [] else u.capabilityLines) ++
    (if s.vtConfigSynced then [] else u.configMessages) ++ u.trackedValues nowMs

def handleConnected (bus : BusNumbers) (s : VtClient) (u : VtUpdate) (nowMs : Nat) :
    VtClient × List VtOutput :=
  let x := sendAllIfChanged s.lastVtStrings (s.entries bus u nowMs)
  ({ clockMs := u.endMs nowMs
     vtClientStarted := s.vtClientStarted
     vtConfigSynced := true
     vtWasConnected := true
     vtConnectionWarningLogged := s.vtWasConnected && s.vtConnectionWarningLogged
     vtCapabilitiesLogged := true
     vtDisconnectedSinceMs := if s.vtWasConnected then s.vtDisconnectedSinceMs else 0
     lastVtSectionUpdateMs := if s.sectionDue u nowMs then timestampMs (u.sectionStampedMs nowMs)
      else s.lastVtSectionUpdateMs
     lastVtStatusUpdateMs := if s.statusDue u nowMs then timestampMs (u.statusStampedMs nowMs)
      else s.lastVtStatusUpdateMs
     lastVtStrings := x.1 },
    s.connectedOutputs u nowMs ++ x.2.map fun message => .sent (.changeString message.1 message.2))

def step (bus : BusNumbers) (s : VtClient) (u : VtUpdate) : VtClient × List VtOutput :=
  let nowMs := s.clockMs + u.elapsedMs
  if !s.vtClientStarted then s.tryStartVtClient u nowMs
  else if !u.connected then s.handleVtDisconnected u nowMs
  else s.handleConnected bus u nowMs

end VtClient

def vtClient (bus : BusNumbers) : Machine VtClient VtUpdate VtOutput where
  init := {}
  step := VtClient.step bus

/-! The terminal: it keeps each text until the next one for the same object, and none of them over a
connection that has ended. Every text that is sent is taken to arrive: the source does not look at
what `send_change_string_value` returns. -/

def showOutput (shown : Std.ExtTreeMap Nat Bytes) : VtOutput → Std.ExtTreeMap Nat Bytes
  | .linked false _ _ => ∅
  | .sent (.changeString objectID value) => shown.insert objectID value
  | _ => shown

def screen (outputs : List VtOutput) : Std.ExtTreeMap Nat Bytes := outputs.foldl showOutput ∅

end AogTaskController.VirtualTerminal
