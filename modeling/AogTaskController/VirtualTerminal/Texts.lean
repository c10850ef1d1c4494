import AogTaskController.Application.AddressConflict
import AogTaskController.Application.ImplementDetails

/-!
# The texts on the terminal

What `update_vt_status_strings` and `update_vt_section_map` write into the strings of the object pool. A
string of the pool has a declared length, and the terminal rejects a longer text.
-/

namespace AogTaskController.VirtualTerminal

open Framework Application TaskController

inductive VtString
  | vtControlFunctionsStr
  | vtWorkingSetStatusStr
  | vtWorkingSetStatusLabel
  | vtSectionsFromAOGS
  | vtAogIPStr
  | networkConnectedValue
  | networkRows
  | implementActiveDDOP
  | implementSectionControl
  | implementWorkingWidth
  | implementSectionMap
  | implementSectionCount
  | implementBoomOffset
  | diagnosticsValues
  | diagnosticsAlarmValue
  | diagnosticsLastPacket
  | diagnosticsTcAddress
  | diagnosticsTaskState
  | diagnosticsActiveDDOP
  | diagnosticsTcClients
  | configHydliftLabel
  | configNmeaReadLabel
  | configNmeaSendLabel
  | configTecuLabel
  deriving DecidableEq

namespace VtString

/-- The object IDs of `AOG_TC.iop.h`. -/
def objectId : VtString → Nat
  | vtControlFunctionsStr => 8000
  | vtWorkingSetStatusStr => 11000
  | vtWorkingSetStatusLabel => 11001
  | vtSectionsFromAOGS => 11004
  | vtAogIPStr => 11005
  | networkConnectedValue => 11102
  | networkRows => 11104
  | implementActiveDDOP => 11202
  | implementSectionControl => 11203
  | implementWorkingWidth => 11204
  | implementSectionMap => 11205
  | implementSectionCount => 11206
  | implementBoomOffset => 11209
  | diagnosticsValues => 11302
  | diagnosticsAlarmValue => 11304
  | diagnosticsLastPacket => 11305
  | diagnosticsTcAddress => 11306
  | diagnosticsTaskState => 11307
  | diagnosticsActiveDDOP => 11308
  | diagnosticsTcClients => 11309
  | configHydliftLabel => 11501
  | configNmeaReadLabel => 11502
  | configNmeaSendLabel => 11503
  | configTecuLabel => 11504

/-- The lengths that the pool `AOG_TC.iop` declares. -/
def declaredLength : VtString → Nat
  | vtControlFunctionsStr => 128
  | vtWorkingSetStatusStr => 5
  | vtWorkingSetStatusLabel => 6
  | vtSectionsFromAOGS => 100
  | vtAogIPStr => 15
  | networkConnectedValue => 3
  | networkRows => 255
  | implementActiveDDOP => 16
  | implementSectionControl => 16
  | implementWorkingWidth => 12
  | implementSectionMap => 127
  | implementSectionCount => 3
  | implementBoomOffset => 16
  | diagnosticsValues => 7
  | diagnosticsAlarmValue => 22
  | diagnosticsLastPacket => 9
  | diagnosticsTcAddress => 11
  | diagnosticsTaskState => 7
  | diagnosticsActiveDDOP => 18
  | diagnosticsTcClients => 3
  | configHydliftLabel => 18
  | configNmeaReadLabel => 14
  | configNmeaSendLabel => 14
  | configTecuLabel => 23

end VtString

structure VtTcClient where
  handle : Nat
  state : ClientState
  designator : Option Bytes
  booms : List BoomGeometry

def VtTcClient.details (client : VtTcClient) : ImplementDetails :=
  deriveImplementDetails (UInt8.ofNat client.state.numberOfSections) client.designator client.booms

structure VtView where
  /-- The address that the socket is bound to, if it can be told. -/
  boundIpAddress : Option (UInt8 × UInt8 × UInt8 × UInt8)
  lastAogPacketMs : BitVec 32
  taskTotalsActive : Bool
  clients : List VtTcClient
  ourTC : Option BusControlFunction
  controlFunctions : List BusControlFunction
  lastDistanceMm : BitVec 32
  lastSpeedValue : BitVec 32
  lastXteValue : BitVec 32
  nmeaInterface : Bool
  nmeaSendEnabled : Bool
  tecuEnabled : Bool

def emptyView : VtView where
  boundIpAddress := none
  lastAogPacketMs := 0
  taskTotalsActive := false
  clients := []
  ourTC := none
  controlFunctions := []
  lastDistanceMm := 0
  lastSpeedValue := 0
  lastXteValue := 0
  nmeaInterface := false
  nmeaSendEnabled := false
  tecuEnabled := false

def onOff (enabled : Bool) : String := if enabled then "ON" else "OFF"

def runningText (running : Bool) : String := if running then "RUNNING" else "STOPPED"

def hexDigit (n : Nat) : Char := (Nat.digitChar n).toUpper

/-- `format_hex_address` -/
def formatHexAddress (address : UInt8) : Bytes :=
  ascii "0x" ++ asciiBytes [hexDigit (address.toNat / 16), hexDigit (address.toNat % 16)]

/-- `get_bound_ip_address` -/
def boundIpText : Option (UInt8 × UInt8 × UInt8 × UInt8) → Bytes
  | none => ascii "not available"
  | some (a, b, c, d) =>
      number a.toNat ++ ascii "." ++ number b.toNat ++ ascii "." ++ number c.toNat ++ ascii "." ++
        number d.toNat

def packetAgeText (lastAogPacketMs ageMs : BitVec 32) : Bytes :=
  if lastAogPacketMs = 0 then ascii "never" else number (ageMs.toNat / 1000) ++ ascii " s"

def distanceText (lastDistanceMm : BitVec 32) : Bytes :=
  if lastDistanceMm.toNat < 1000000 then
    asciiBytes (fixedText 1 lastDistanceMm.toNat 1000) ++ ascii " m"
  else asciiBytes (fixedText 2 lastDistanceMm.toNat 1000000) ++ ascii " km"

def networkRow (clients : List VtTcClient) (cf : BusControlFunction) : Bytes :=
  let client := clients.find? fun client => client.handle == cf.handle
  padRight 6 (formatHexAddress cf.address) ++ padRight 10 (number cf.functionCode.toNat) ++
    padRight 6 (number cf.manufacturerCode.toNat) ++ padRight 9 (number cf.identityNumber.toNat) ++
    number ((client.map (·.state.numberOfSections)).getD 0)

def joinLines : List Bytes → Bytes
  | [] => []
  | [row] => row
  | row :: rows => row ++ ascii "\n" ++ joinLines rows

namespace VtView

variable (bus : BusNumbers) (view : VtView) (aogConnected : Bool)

/-- The first client is the one that is shown. -/
def implement : ImplementDetails := (view.clients.head?.map (·.details)).getD {}

def implementDisplayName : Bytes := view.implement.displayName.take 16

def sectionControl : Bytes :=
  ascii (if (view.clients.head?.map (·.state.isSectionControlEnabled)).getD false then "ENABLED"
    else "DISABLED")

def measureText (text : Bytes) : Bytes := if text.isEmpty then ascii "n/a" else text

def boomOffset : Bytes := (measureText view.implement.boomOffsetText).take 16

def totalSections : Nat :=
  view.clients.foldl (fun total client => total + client.state.numberOfSections) 0 % 2 ^ 32

def online : List BusControlFunction := view.controlFunctions.filter (·.addressValid)

def cfCount : Nat := view.online.length % 2 ^ 32

def ourAddressValid : Bool := view.ourTC.any (·.addressValid)

def status : Bytes :=
  ascii (if !havePreferredAddress bus view.ourTC then "ADDR!" else if aogConnected then "OK" else "OFF")

def direction : String :=
  if !aogConnected then "--" else if view.lastSpeedValue.toInt < 0 then "REV" else "FWD"

def mainImplementStatus : Bytes :=
  ascii "Name             " ++ view.implementDisplayName ++ ascii "\nSections         " ++
    number view.totalSections ++ ascii "\nSection control  " ++ view.sectionControl

def mainSystemStatus (packetAge : Bytes) : Bytes :=
  ascii "Control funcs    " ++ number view.cfCount ++
    ascii ("\nTask state       " ++ runningText view.taskTotalsActive) ++
    ascii ("\nDirection        " ++ view.direction aogConnected) ++
    ascii "\nDistance         " ++ distanceText view.lastDistanceMm ++
    ascii "\nAOG packet age   " ++ packetAge

def networkRows : Bytes :=
  let rows := (view.online.take 7).map (networkRow view.clients)
  if rows.isEmpty then ascii "No control functions online" else joinLines rows

def tcAddress : Bytes :=
  match view.ourTC with
  | none => ascii "not claimed"
  | some our => if our.addressValid then formatHexAddress our.address else ascii "not claimed"

def alarm : Bytes :=
  ascii (if !havePreferredAddress bus view.ourTC then
      if view.ourAddressValid then "TC address conflict" else "TC address not claimed"
    else if !aogConnected then "AOG heartbeat missing"
    else if view.clients.isEmpty then "Waiting for implement"
    else "No active alarms")

/-- `update_vt_status_strings`, `ageMs` after the last packet. -/
def statusTexts (ageMs : BitVec 32) : List (VtString × Bytes) :=
  let packetAge := packetAgeText view.lastAogPacketMs ageMs
  [(.vtWorkingSetStatusLabel, ascii "AOG IP"),
    (.vtAogIPStr, boundIpText view.boundIpAddress),
    (.vtWorkingSetStatusStr, view.status bus aogConnected),
    (.vtSectionsFromAOGS, view.mainImplementStatus),
    (.vtControlFunctionsStr, view.mainSystemStatus aogConnected packetAge),
    (.configHydliftLabel, ascii "Hydlift: not impl."),
    (.configNmeaReadLabel, ascii "NMEA Read: N/A"),
    (.configNmeaSendLabel,
      ascii ("NMEA Send: " ++ if view.nmeaInterface then onOff view.nmeaSendEnabled else "N/A")),
    (.configTecuLabel, ascii ("TECU: " ++ onOff view.tecuEnabled ++ " (restart req)")),
    (.networkConnectedValue, number view.cfCount),
    (.networkRows, view.networkRows),
    (.implementActiveDDOP, view.implementDisplayName),
    (.implementSectionControl, view.sectionControl),
    (.implementWorkingWidth, measureText view.implement.widthText),
    (.implementBoomOffset, view.boomOffset),
    (.implementSectionCount, number view.implement.sections.toNat),
    (.diagnosticsValues, ascii (if aogConnected then "ONLINE" else "OFFLINE")),
    (.diagnosticsLastPacket, packetAge),
    (.diagnosticsTcAddress, view.tcAddress),
    (.diagnosticsTaskState, ascii (runningText view.taskTotalsActive)),
    (.diagnosticsActiveDDOP,
      if view.clients.isEmpty then ascii "none" else view.implementDisplayName),
    (.diagnosticsTcClients, number view.clients.length),
    (.diagnosticsAlarmValue, view.alarm bus aogConnected)]

end VtView

end AogTaskController.VirtualTerminal
