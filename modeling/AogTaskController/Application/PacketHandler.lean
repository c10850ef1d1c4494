import AogTaskController.Framework.PackedFields
import AogTaskController.TaskController.Server
import AogTaskController.Udp.ReceiveLoop

/-!
# The packet handler

What a packet from AgOpenGPS asks for, and what the handler makes the task controller server do.
-/

namespace AogTaskController.Application

open TaskController Udp

inductive AogRequest
  | gnssQuality (quality : UInt8)
  | sectionStates (states : List Bool)
  | sectionControl (enabled : Bool)
  | processData (identifier : Ddi) (value : BitVec 32)

/-- `sectionStates.push_back(data[j] & (1 << i));` for the eight bits of the first eight bytes. -/
def sectionStatesOfPayload (data : List UInt8) : List Bool :=
  (List.range 8).flatMap fun j =>
    (List.range 8).map fun i => (data.getD j 0).toNat &&& (1 <<< i) != 0

def littleEndian (bytes : List UInt8) : Nat :=
  bytes.foldr (fun byte value => byte.toNat + 256 * value) 0

def decodePacket (packet : Packet) : Option AogRequest :=
  if packet.src = 0x7C ∧ packet.pgn = 0xD6 then
    match packet.data[38]? with
    | none => none
    | some quality => some (.gnssQuality (if quality ≤ 8 then quality else 1))
  else if packet.src ≠ 0x7F then none
  else if packet.pgn = 0xE5 ∧ 8 ≤ packet.data.length then
    some (.sectionStates (sectionStatesOfPayload packet.data))
  else if packet.pgn = 0xF1 ∧ packet.data ≠ [] then
    some (.sectionControl (packet.data.headD 0 == 1))
  else if packet.pgn = 0xF2 ∧ 6 ≤ packet.data.length then
    some (.processData (littleEndian (packet.data.take 2))
      (BitVec.ofNat 32 (littleEndian ((packet.data.drop 2).take 4))))
  else none

/-- The call that a request leads to, if it concerns the task controller server. -/
def AogRequest.event? : AogRequest → Option Event
  | .sectionStates states => some (.updateSectionStates states)
  | .sectionControl enabled => some (.updateSectionControlEnabled enabled)
  | .gnssQuality _ => none
  | .processData _ _ => none

def packetHandler (stack : IsobusStack) (s : Server) (packet : Packet) : Server × List Observation :=
  match (decodePacket packet).bind AogRequest.event? with
  | some event => s.step stack event
  | none => (s, [])

def sectionBit (data : List UInt8) (sect : Nat) : Bool :=
  (data.getD (sect / 8) 0).toNat.testBit (sect % 8)

theorem sectionStatesOfPayload_getElem? (data : List UInt8) (sect : Nat) :
    (sectionStatesOfPayload data)[sect]? =
      if sect < 64 then some (sectionBit data sect) else none := by
  have hbit (j i : Nat) : ((data.getD j 0).toNat &&& (1 <<< i) != 0) =
      (data.getD j 0).toNat.testBit i := by
    rw [Nat.one_shiftLeft, Nat.and_two_pow]
    cases (data.getD j 0).toNat.testBit i <;> simp
  simp only [sectionStatesOfPayload, hbit]
  rw [Framework.flatMap_range_map_range (by decide), List.getElem?_map]
  by_cases hsect : sect < 64
  · rw [List.getElem?_range hsect, if_pos hsect]
    rfl
  · rw [List.getElem?_eq_none (by simpa using hsect), if_neg hsect]
    rfl

end AogTaskController.Application
