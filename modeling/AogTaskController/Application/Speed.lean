import AogTaskController.Application.PacketHandler

/-!
# Speed values

The speed that AgOpenGPS sends is a signed 32-bit number of mm/s. The speed messages get its
magnitude in 16 bits, PGN 65256 the same in units of 1/256 km/h. Nothing checks that either fits.
-/

namespace AogTaskController.Application

open TaskController Udp

abbrev actualSpeed : Ddi := 156

inductive MachineDirection
  | reverse
  | forward
  deriving DecidableEq

/-- What the packet handler keeps of the speed, and what it hands to the ground based, the wheel
based and the selected speed message and to the NMEA 2000 message. -/
structure SpeedState where
  lastSpeedValue : BitVec 32 := 0
  direction : MachineDirection := .forward
  machineSpeed : BitVec 16 := 0
  speedOverGround : BitVec 16 := 0

/-- The branch for the actual speed. `std::abs` has no result for the least number; two's complement
gives that number back. -/
def SpeedState.onPacket (s : SpeedState) (packet : Packet) : SpeedState :=
  match decodePacket packet with
  | some (.processData identifier value) =>
      if identifier = actualSpeed then
        let speed : BitVec 16 := value.abs.setWidth 16
        { lastSpeedValue := value
          direction := if value.slt 0 then .reverse else .forward
          machineSpeed := speed
          speedOverGround := speed / 10 }
      else s
  | _ => s

/-- `(static_cast<std::uint32_t>(std::abs(lastSpeedValue)) * 576u + 312u) / 625u` in 16 bits -/
def SpeedState.speedJ1939 (s : SpeedState) : BitVec 16 :=
  ((s.lastSpeedValue.abs * 576 + 312) / 625).setWidth 16

def SpeedState.j1939SpeedData (s : SpeedState) : List UInt8 :=
  [0xFF, 0xFF, .ofBitVec (s.speedJ1939.setWidth 8), .ofBitVec ((s.speedJ1939 >>> 8).setWidth 8),
    0xFF, 0xFF, 0xFF, 0xFF]

def magnitude (value : BitVec 32) : Nat := value.toInt.natAbs

private theorem toNat_abs_eq_magnitude (value : BitVec 32) : value.abs.toNat = magnitude value := by
  have hlt := value.isLt
  rw [BitVec.toNat_abs, magnitude, BitVec.toInt_eq_msb_cond]
  split <;> omega

private theorem magnitude_le (value : BitVec 32) : magnitude value ≤ 2 ^ 31 := by
  have hlow := value.le_toInt
  have hhigh := value.toInt_lt
  rw [magnitude]
  omega

/-- What is left of a quotient that loses words on the way: of 32 bits in front of the division, of
16 bits behind it. -/
def WrappedFrom (numerator divisor : Nat) (shown : BitVec 16) : Prop :=
  ∃ k m, 0 < k + m ∧ k * 2 ^ 32 ≤ numerator ∧
    shown.toNat + m * 2 ^ 16 = (numerator - k * 2 ^ 32) / divisor

/-- A field shows the quotient if it fits, and never a smaller wrapped number. -/
structure ShowsQuotient (numerator divisor : Nat) (shown : BitVec 16) : Prop where
  fits : numerator / divisor < 2 ^ 16 → shown.toNat = numerator / divisor
  unwrapped : ¬ (shown.toNat < numerator / divisor ∧ WrappedFrom numerator divisor shown)

private theorem showsQuotient_iff {numerator divisor : Nat} {shown : BitVec 16} (hpos : 0 < divisor)
    (hdivisor : divisor ≤ 2 ^ 16)
    (hshown : shown.toNat = numerator % 2 ^ 32 / divisor % 2 ^ 16) :
    ShowsQuotient numerator divisor shown ↔ numerator / divisor < 2 ^ 16 := by
  constructor
  · intro h
    by_contra hlarge
    have hless : shown.toNat < numerator / divisor := by
      have hlt := shown.isLt
      omega
    apply h.unwrapped
    refine ⟨hless, numerator / 2 ^ 32, numerator % 2 ^ 32 / divisor / 2 ^ 16, ?_, ?_, ?_⟩
    · by_contra hnone
      obtain ⟨hk, hm⟩ := Nat.add_eq_zero_iff.mp (Nat.eq_zero_of_not_pos hnone)
      have hnumerator : numerator % 2 ^ 32 = numerator := by omega
      rw [hnumerator] at hm
      omega
    · exact Nat.div_mul_le_self numerator (2 ^ 32)
    · have hrest : numerator - numerator / 2 ^ 32 * 2 ^ 32 = numerator % 2 ^ 32 := by omega
      rw [hrest, hshown]
      omega
  · intro hsmall
    have hnumerator : numerator < 2 ^ 32 := by
      have hproduct : numerator < 2 ^ 16 * divisor := (Nat.div_lt_iff_lt_mul hpos).mp hsmall
      omega
    rw [Nat.mod_eq_of_lt hnumerator, Nat.mod_eq_of_lt hsmall] at hshown
    constructor
    · exact fun _ => hshown
    · intro h
      exact absurd h.1 (hshown ▸ Nat.lt_irrefl _)

/-- Adding 312 in front of the division rounds to the nearest integer: 625 is odd, so there are no
ties. -/
private theorem round_j1939 (speed : Nat) :
    round ((speed : ℚ) * 576 / 625) = ((speed * 576 + 312) / 625 : Nat) := by
  have hdiv := Nat.div_add_mod (speed * 576 + 312) 625
  have hmod : (speed * 576 + 312) % 625 < 625 := Nat.mod_lt _ (by decide)
  generalize (speed * 576 + 312) / 625 = quotient at hdiv ⊢
  generalize (speed * 576 + 312) % 625 = remainder at hdiv hmod
  have hspeed : (speed : ℚ) * 576 + 312 = 625 * quotient + remainder := by exact_mod_cast hdiv.symm
  have hremainder : (remainder : ℚ) ≤ 624 := by exact_mod_cast Nat.le_of_lt_succ hmod
  have hnonneg : (0 : ℚ) ≤ remainder := Nat.cast_nonneg remainder
  rw [round_eq, Int.floor_eq_iff]
  push_cast
  constructor <;> linarith

section Packet

variable {packet : Packet} {value : BitVec 32}

private theorem onPacket_speed (s : SpeedState)
    (hpacket : decodePacket packet = some (.processData actualSpeed value)) :
    (s.onPacket packet).machineSpeed = value.abs.setWidth 16 ∧
      (s.onPacket packet).speedJ1939 = ((value.abs * 576 + 312) / 625).setWidth 16 := by
  rw [SpeedState.onPacket, hpacket]
  exact ⟨rfl, rfl⟩

private theorem machineSpeed_shows_iff (s : SpeedState)
    (hpacket : decodePacket packet = some (.processData actualSpeed value)) :
    ShowsQuotient (magnitude value) 1 (s.onPacket packet).machineSpeed ↔
      magnitude value < 2 ^ 16 := by
  have hle := magnitude_le value
  rw [(onPacket_speed s hpacket).1, showsQuotient_iff Nat.one_pos (by decide), Nat.div_one]
  rw [BitVec.toNat_setWidth, toNat_abs_eq_magnitude, Nat.div_one,
    Nat.mod_eq_of_lt (show magnitude value < 2 ^ 32 by omega)]

private theorem speedJ1939_shows_iff (s : SpeedState)
    (hpacket : decodePacket packet = some (.processData actualSpeed value)) :
    ShowsQuotient (magnitude value * 576 + 312) 625 (s.onPacket packet).speedJ1939 ↔
      magnitude value ≤ 71110 := by
  rw [(onPacket_speed s hpacket).2, showsQuotient_iff (by decide) (by decide)]
  · omega
  · simp only [BitVec.toNat_setWidth, BitVec.toNat_udiv, BitVec.toNat_add, BitVec.toNat_mul,
      toNat_abs_eq_magnitude, Nat.mod_add_mod]
    rfl

/-- For every packet with an actual speed: the machine speed is the magnitude and no wrapped number
if and only if the magnitude has 16 bits, the speed of PGN 65256 is the nearest integer and no
wrapped number if and only if the magnitude is at most 71110, and both rise with the magnitude up
to there. -/
theorem speeds_iff (s : SpeedState)
    (hpacket : decodePacket packet = some (.processData actualSpeed value)) :
    round ((magnitude value : ℚ) * 576 / 625) = ((magnitude value * 576 + 312) / 625 : Nat) ∧
    (ShowsQuotient (magnitude value) 1 (s.onPacket packet).machineSpeed ↔
      magnitude value < 2 ^ 16) ∧
    (ShowsQuotient (magnitude value * 576 + 312) 625 (s.onPacket packet).speedJ1939 ↔
      magnitude value ≤ 71110) ∧
    ∀ (s' : SpeedState) (packet' : Packet) (value' : BitVec 32),
      decodePacket packet' = some (.processData actualSpeed value') →
      magnitude value' ≤ magnitude value →
      (magnitude value < 2 ^ 16 →
        (s'.onPacket packet').machineSpeed.toNat ≤ (s.onPacket packet).machineSpeed.toNat) ∧
      (magnitude value ≤ 71110 →
        (s'.onPacket packet').speedJ1939.toNat ≤ (s.onPacket packet).speedJ1939.toNat) := by
  refine ⟨round_j1939 _, machineSpeed_shows_iff s hpacket, speedJ1939_shows_iff s hpacket, ?_⟩
  intro s' packet' value' hpacket' hle
  constructor
  · intro hsmall
    have hshown := ((machineSpeed_shows_iff s hpacket).mpr hsmall).fits
    have hshown' := ((machineSpeed_shows_iff s' hpacket').mpr (by omega)).fits
    rw [Nat.div_one] at hshown hshown'
    rw [hshown hsmall, hshown' (by omega)]
    exact hle
  · intro hsmall
    rw [((speedJ1939_shows_iff s hpacket).mpr hsmall).fits (by omega),
      ((speedJ1939_shows_iff s' hpacket').mpr (by omega)).fits (by omega)]
    exact Nat.div_le_div_right (by omega)

end Packet

/-- 3.6 km/h. -/
theorem speeds_iff_walking :
    (({} : SpeedState).onPacket ⟨0x7F, 0xF2, [156, 0, 0xE8, 3, 0, 0]⟩).machineSpeed.toNat = 1000 :=
  ((speeds_iff {} (show decodePacket ⟨0x7F, 0xF2, [156, 0, 0xE8, 3, 0, 0]⟩ =
    some (.processData actualSpeed 1000) from rfl)).2.1.mpr (by decide)).fits (by decide)

/-- 65536 mm/s come out as 0. -/
theorem machineSpeed_wraps : ¬ ∀ (s : SpeedState) (packet : Packet) (value : BitVec 32),
    decodePacket packet = some (.processData actualSpeed value) →
    ShowsQuotient (magnitude value) 1 (s.onPacket packet).machineSpeed ∧
      ShowsQuotient (magnitude value * 576 + 312) 625 (s.onPacket packet).speedJ1939 := by
  intro h
  have hshows := (h {} ⟨0x7F, 0xF2, [156, 0, 0, 0, 1, 0]⟩ 65536 rfl).1
  exact hshows.unwrapped ⟨by decide, 0, 1, by decide, by decide, by decide⟩

end AogTaskController.Application
