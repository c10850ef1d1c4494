import AogTaskController.Application.DemandAlarm
import AogTaskController.Application.PacketHandler

/-!
# The age of the GNSS quality

What DDI 514 says, every 250 ms: the quality that the last frame from AgIO gave, until the frames stop
coming. The timestamp of that frame has 32 bits, and 0 stands for a frame that never came.
-/

namespace AogTaskController.Application

open Framework Udp

def gnssQualityTimeoutMs : Nat := 2000

def gnssSendIntervalMs : Nat := 250

/-- `isobus::SystemTiming::get_timestamp_ms()` at a time of the real clock. -/
def timestampMs (clockMs : Nat) : BitVec 32 := BitVec.ofNat 32 clockMs

/-- A packet arrives or `update` comes to DDI 514, some time after the previous event. The two further
readings of the clock follow in `update`. -/
inductive GnssEvent
  | packet (elapsedMs : Nat) (packet : Packet)
  | update (elapsedMs : Nat) (tcServer : Bool) (checkDelayMs sendDelayMs : Nat)

structure GnssSend where
  timeMs : Nat
  quality : UInt8
  deriving DecidableEq

structure GnssSender where
  clockMs : Nat := 0
  gnssFixQuality : UInt8 := 0
  lastGnssQualityMs : BitVec 32 := 0
  lastGnssSendMs : BitVec 32 := 0

namespace GnssSender

/-- The branch of the packet handler for 0xD6. -/
def receive (s : GnssSender) (nowMs : Nat) (packet : Packet) : GnssSender :=
  match decodePacket packet with
  | some (.gnssQuality quality) =>
      { s with
        clockMs := nowMs
        gnssFixQuality := quality
        lastGnssQualityMs := timestampMs nowMs }
  | _ => { s with clockMs := nowMs }

def isDue (s : GnssSender) (nowMs : Nat) (tcServer : Bool) : Bool :=
  tcServer && timeExpiredMs (timestampMs nowMs) s.lastGnssSendMs gnssSendIntervalMs

def quality (s : GnssSender) (nowMs : Nat) : UInt8 :=
  if s.lastGnssQualityMs ≠ 0 then
    let gnssQualityFresh :=
      !timeExpiredMs (timestampMs nowMs) s.lastGnssQualityMs gnssQualityTimeoutMs
    if gnssQualityFresh then s.gnssFixQuality else 0
  else 1

def step (s : GnssSender) : GnssEvent → GnssSender × List GnssSend
  | .packet elapsedMs packet => (s.receive (s.clockMs + elapsedMs) packet, [])
  | .update elapsedMs tcServer checkDelayMs sendDelayMs =>
      let gateMs := s.clockMs + elapsedMs
      let checkMs := gateMs + checkDelayMs
      let sendMs := checkMs + sendDelayMs
      if s.isDue gateMs tcServer then
        ({ s with clockMs := sendMs, lastGnssSendMs := timestampMs sendMs },
          [⟨checkMs, s.quality checkMs⟩])
      else ({ s with clockMs := sendMs }, [])

end GnssSender

def gnssSender : Machine GnssSender GnssEvent GnssSend where
  init := {}
  step := GnssSender.step

/-! What DDI 514 is to say, from the events alone. -/

/-- The quality in a frame 0xD6 that is long enough for one. -/
def frameQuality? (packet : Packet) : Option UInt8 :=
  if packet.src = 0x7C ∧ packet.pgn = 0xD6 ∧ 39 ≤ packet.data.length then
    some (if 8 < packet.data.getD 38 0 then 1 else packet.data.getD 38 0)
  else none

/-- The real clock, and the last such frame with the time at which it arrived. -/
structure GnssHistory where
  clockMs : Nat := 0
  lastFrame : Option (Nat × UInt8) := none

def GnssHistory.step (h : GnssHistory) : GnssEvent → GnssHistory
  | .packet elapsedMs packet =>
      { clockMs := h.clockMs + elapsedMs
        lastFrame := ((frameQuality? packet).map fun q => (h.clockMs + elapsedMs, q)).or h.lastFrame }
  | .update elapsedMs _ checkDelayMs sendDelayMs =>
      { h with clockMs := h.clockMs + elapsedMs + checkDelayMs + sendDelayMs }

def gnssHistory (events : List GnssEvent) : GnssHistory := events.foldl GnssHistory.step {}

def freshQuality (lastFrame : Option (Nat × UInt8)) (nowMs : Nat) : UInt8 :=
  match lastFrame with
  | none => 1
  | some (arrivedMs, quality) => if nowMs - arrivedMs < 2000 then quality else 0

/-- Whatever the run sends is what the frames before call for. -/
def SendsFresh (events : List GnssEvent) : Prop :=
  ∀ pre event, pre ++ [event] <+: events →
    ∀ send ∈ (gnssSender.step (gnssSender.after pre) event).2,
      send.quality = freshQuality (gnssHistory pre).lastFrame send.timeMs

/-- The timestamp of the last frame tells how old it is, or that does not matter: it is not 0, and no
age of 2 s or more looks like less, modulo 2^32 ms. -/
def AgeIsTold (lastFrame : Option (Nat × UInt8)) (nowMs : Nat) : Prop :=
  match lastFrame with
  | none => True
  | some (arrivedMs, quality) =>
      if arrivedMs % 2 ^ 32 = 0 then nowMs - arrivedMs < 2000 ∧ quality = 1
      else nowMs - arrivedMs < 2000 ∨ 2000 ≤ (nowMs - arrivedMs) % 2 ^ 32 ∨ quality = 0

/-- An event sends nothing, or the age of the last frame is told when it does. -/
def AgeIsToldAt (s : GnssSender) (h : GnssHistory) : GnssEvent → Prop
  | .packet _ _ => True
  | .update elapsedMs tcServer checkDelayMs _ =>
      s.isDue (h.clockMs + elapsedMs) tcServer = true →
        AgeIsTold h.lastFrame (h.clockMs + elapsedMs + checkDelayMs)

private theorem decodePacket_gnssQuality_iff {packet : Packet} {quality : UInt8} :
    decodePacket packet = some (.gnssQuality quality) ↔ frameQuality? packet = some quality := by
  unfold decodePacket frameQuality?
  by_cases hhead : packet.src = 0x7C ∧ packet.pgn = 0xD6
  · rw [if_pos hhead]
    by_cases hlength : 39 ≤ packet.data.length
    · have hbyte : packet.data[38]? = some (packet.data.getD 38 0) := by
        rw [List.getD_eq_getElem _ _ hlength, List.getElem?_eq_getElem hlength]
      rw [if_pos ⟨hhead.1, hhead.2, hlength⟩, hbyte]
      simp only [Option.some.injEq, AogRequest.gnssQuality.injEq, ← UInt8.not_lt, ite_not]
    · rw [if_neg fun h => hlength h.2.2, List.getElem?_eq_none (by omega)]
      simp
  · have hnot : ¬ (packet.src = 0x7C ∧ packet.pgn = 0xD6 ∧ 39 ≤ packet.data.length) := fun h =>
      hhead ⟨h.1, h.2.1⟩
    rw [if_neg hhead, if_neg hnot]
    -- the other branches lead to other requests
    split
    · simp
    · split
      · simp
      · split
        · simp
        · split <;> simp

structure Keeps (s : GnssSender) (h : GnssHistory) : Prop where
  clockMs : s.clockMs = h.clockMs
  never : h.lastFrame = none → s.lastGnssQualityMs = 0
  received : ∀ arrivedMs quality, h.lastFrame = some (arrivedMs, quality) →
    s.lastGnssQualityMs = timestampMs arrivedMs ∧ s.gnssFixQuality = quality ∧ arrivedMs ≤ h.clockMs

theorem Keeps.wait {s : GnssSender} {h : GnssHistory} (hkeeps : Keeps s h) {nowMs : Nat}
    (hnow : h.clockMs ≤ nowMs) (lastGnssSendMs : BitVec 32) :
    Keeps { s with clockMs := nowMs, lastGnssSendMs } { h with clockMs := nowMs } where
  clockMs := rfl
  never := hkeeps.never
  received arrivedMs quality hframe := by
    obtain ⟨htimestamp, hquality, harrived⟩ := hkeeps.received arrivedMs quality hframe
    exact ⟨htimestamp, hquality, harrived.trans hnow⟩

theorem Keeps.receive {s : GnssSender} {h : GnssHistory} (hkeeps : Keeps s h) (elapsedMs : Nat)
    (packet : Packet) :
    Keeps (s.receive (s.clockMs + elapsedMs) packet) (h.step (.packet elapsedMs packet)) := by
  rw [hkeeps.clockMs]
  cases hquality : frameQuality? packet with
  | some quality =>
      have hreceive : s.receive (h.clockMs + elapsedMs) packet =
          { s with
            clockMs := h.clockMs + elapsedMs
            gnssFixQuality := quality
            lastGnssQualityMs := timestampMs (h.clockMs + elapsedMs) } := by
        rw [GnssSender.receive, decodePacket_gnssQuality_iff.mpr hquality]
      rw [hreceive, GnssHistory.step, hquality]
      refine ⟨rfl, fun hnever => by simp at hnever, fun arrivedMs quality' hframe => ?_⟩
      obtain ⟨rfl, rfl⟩ := Prod.mk.inj (Option.some.inj hframe)
      exact ⟨rfl, rfl, Nat.le_refl _⟩
  | none =>
      have hreceive : s.receive (h.clockMs + elapsedMs) packet =
          { s with clockMs := h.clockMs + elapsedMs } := by
        rw [GnssSender.receive]
        split
        next quality hdecode =>
          rw [decodePacket_gnssQuality_iff.mp hdecode] at hquality
          cases hquality
        next => rfl
      rw [hreceive, GnssHistory.step, hquality]
      exact hkeeps.wait (Nat.le_add_right _ _) s.lastGnssSendMs

theorem Keeps.step {s : GnssSender} {h : GnssHistory} (hkeeps : Keeps s h) (event : GnssEvent) :
    Keeps (s.step event).1 (h.step event) := by
  cases event with
  | packet elapsedMs packet => exact hkeeps.receive elapsedMs packet
  | update elapsedMs tcServer checkDelayMs sendDelayMs =>
      simp only [GnssSender.step, GnssHistory.step]
      rw [← hkeeps.clockMs]
      have hnow : h.clockMs ≤ s.clockMs + elapsedMs + checkDelayMs + sendDelayMs := by
        rw [hkeeps.clockMs]
        omega
      split
      · exact hkeeps.wait hnow _
      · exact hkeeps.wait hnow s.lastGnssSendMs

private theorem keeps_after (events : List GnssEvent) :
    Keeps (gnssSender.after events) (gnssHistory events) := by
  induction events using List.reverseRecOn with
  | nil => exact ⟨rfl, fun _ => rfl, fun _ _ hframe => by cases hframe⟩
  | append_singleton events event ih =>
      rw [Machine.after_snoc, gnssHistory, List.foldl_append]
      exact ih.step event

private theorem Keeps.quality_eq {s : GnssSender} {h : GnssHistory} (hkeeps : Keeps s h)
    {nowMs arrivedMs : Nat}
    {quality : UInt8} (hframe : h.lastFrame = some (arrivedMs, quality)) (hnow : h.clockMs ≤ nowMs) :
    s.quality nowMs =
      if arrivedMs % 2 ^ 32 = 0 then 1
      else if (nowMs - arrivedMs) % 2 ^ 32 < 2000 then quality else 0 := by
  obtain ⟨htimestamp, hquality, harrived⟩ := hkeeps.received arrivedMs quality hframe
  have hzero : s.lastGnssQualityMs ≠ 0 ↔ ¬ arrivedMs % 2 ^ 32 = 0 := by
    rw [htimestamp, timestampMs, ne_eq, ← BitVec.toNat_inj, BitVec.toNat_ofNat]
    rfl
  have hexpired : timeExpiredMs (timestampMs nowMs) s.lastGnssQualityMs gnssQualityTimeoutMs =
      decide (2000 ≤ (nowMs - arrivedMs) % 2 ^ 32) := by
    rw [htimestamp, timeExpiredMs, timestampMs, timestampMs,
      toNat_sub_timestamps (harrived.trans hnow), gnssQualityTimeoutMs]
  rw [GnssSender.quality]
  simp only [hzero, hexpired, hquality, ite_not]
  split
  · rfl
  · simp

private theorem Keeps.quality_eq_iff {s : GnssSender} {h : GnssHistory} (hkeeps : Keeps s h)
    {nowMs : Nat}
    (hnow : h.clockMs ≤ nowMs) :
    s.quality nowMs = freshQuality h.lastFrame nowMs ↔ AgeIsTold h.lastFrame nowMs := by
  cases hframe : h.lastFrame with
  | none =>
      have hquality : s.quality nowMs = 1 := by
        rw [GnssSender.quality, hkeeps.never hframe]
        rfl
      exact iff_of_true hquality trivial
  | some frame =>
      obtain ⟨arrivedMs, quality⟩ := frame
      rw [hkeeps.quality_eq hframe hnow]
      simp only [freshQuality, AgeIsTold]
      by_cases hzero : arrivedMs % 2 ^ 32 = 0
      · rw [if_pos hzero, if_pos hzero]
        by_cases hyoung : nowMs - arrivedMs < 2000
        · rw [if_pos hyoung, and_iff_right hyoung, eq_comm]
        · rw [if_neg hyoung]
          exact iff_of_false (by decide) fun h => hyoung h.1
      · rw [if_neg hzero, if_neg hzero]
        by_cases hyoung : nowMs - arrivedMs < 2000
        · rw [if_pos hyoung, if_pos (by omega)]
          exact iff_of_true rfl (.inl hyoung)
        · rw [if_neg hyoung, or_iff_right hyoung]
          by_cases hlooksYoung : (nowMs - arrivedMs) % 2 ^ 32 < 2000
          · rw [if_pos hlooksYoung, or_iff_right (by omega)]
          · rw [if_neg hlooksYoung]
            exact iff_of_true rfl (.inl (by omega))

private theorem Keeps.fresh_iff {s : GnssSender} {h : GnssHistory} (hkeeps : Keeps s h)
    (event : GnssEvent) :
    (∀ send ∈ (s.step event).2, send.quality = freshQuality h.lastFrame send.timeMs) ↔
      AgeIsToldAt s h event := by
  cases event with
  | packet elapsedMs packet => exact iff_of_true (fun _ hsend => by cases hsend) trivial
  | update elapsedMs tcServer checkDelayMs sendDelayMs =>
      have hnow : h.clockMs ≤ h.clockMs + elapsedMs + checkDelayMs := by omega
      simp only [GnssSender.step, AgeIsToldAt, hkeeps.clockMs]
      by_cases hdue : s.isDue (h.clockMs + elapsedMs) tcServer = true
      · simp only [hdue, if_true, List.mem_singleton, forall_eq, true_imp_iff]
        exact hkeeps.quality_eq_iff hnow
      · simp only [hdue, Bool.false_eq_true, if_false, List.not_mem_nil, false_imp_iff, implies_true]

/-- In every run, each value sent is what the frames before it call for if and only if the timestamp
of the last frame tells its age whenever one is sent. -/
theorem gnss_fresh_iff (events : List GnssEvent) :
    SendsFresh events ↔ ∀ pre event, pre ++ [event] <+: events →
      AgeIsToldAt (gnssSender.after pre) (gnssHistory pre) event := by
  apply forall₃_congr
  intro pre event _
  exact (keeps_after pre).fresh_iff event

private def rtkFrame : Packet := ⟨0x7C, 0xD6, List.replicate 38 0 ++ [4]⟩

/-- A frame that arrives when the timestamp is 0 counts as none; a fix that is 2^32 ms old is claimed
again. -/
theorem gnss_not_fresh :
    ¬ SendsFresh [.packet (2 ^ 32) rtkFrame, .update 300 true 0 0] ∧
      ¬ SendsFresh [.packet 1000 rtkFrame, .update (2 ^ 32) true 0 0] := by
  constructor
  · intro h
    have hsend := h [.packet (2 ^ 32) rtkFrame] (.update 300 true 0 0) List.prefix_rfl
      ⟨2 ^ 32 + 300, 1⟩ (by decide)
    exact absurd hsend (by decide)
  · intro h
    have hsend := h [.packet 1000 rtkFrame] (.update (2 ^ 32) true 0 0) List.prefix_rfl
      ⟨2 ^ 32 + 1000, 4⟩ (by decide)
    exact absurd hsend (by decide)

end AogTaskController.Application
