import AogTaskController.Udp.Frame
import AogTaskController.Udp.ShownBytes

/-!
# Delivery of whole frames

One call of `handle_incoming_packets` on a datagram that holds whole frames. Which of them are
delivered depends on their sizes and bytes: the cursor is not reset when the remaining bytes move to
the front, so a later frame is read from a place that need not be its own.
-/

namespace AogTaskController.Udp

open Framework

namespace RxLoop

def packet (s : RxLoop Packet) : Packet :=
  ⟨s.headerSrc, s.headerPgn, rxSpan s.rxBuffer (s.index + 5).toNat s.headerLen.toNat⟩

private theorem deliver_behindHeader (s : RxLoop Packet) :
    deliver s.behindHeader s.headerSrc s.headerPgn s.headerLen =
      ⟨s.rxBuffer, s.rxIndex, s.index + (s.headerLen + 6), s.emitted ++ [s.packet]⟩ := by
  have hindex : s.index + 5 + (s.headerLen + 1) = s.index + (s.headerLen + 6) := by
    rw [UInt8.add_assoc, UInt8.add_comm 5, UInt8.add_assoc]
    rfl
  simp only [deliver, behindHeader_index, hindex]
  rfl

theorem incoming_of_atFrame {s : RxLoop Packet} (h : s.AtFrame) :
    iteration deliver s = compact
      ⟨s.rxBuffer, s.rxIndex, s.index + (s.headerLen + 6), s.emitted ++ [s.packet]⟩ := by
  rw [iteration_of_atFrame h, deliver_behindHeader]

theorem incoming_emitted (s : RxLoop Packet) :
    (iteration deliver s).emitted = s.emitted ++ if s.AtFrame then [s.packet] else [] := by
  by_cases h : s.AtFrame
  · rw [incoming_of_atFrame h, compact_emitted, if_pos h]
  · rw [iteration_of_not_atFrame h, if_neg h, List.append_nil]

theorem incoming_emitted_prefix {s t : RxLoop Packet} (h : incomingLoop.Reaches s t) :
    s.emitted <+: t.emitted := by
  refine h.invariant (fun u => s.emitted <+: u.emitted) (fun u hu _ => ?_) List.prefix_rfl
  change s.emitted <+: (iteration deliver u).emitted
  rw [incoming_emitted]
  exact hu.trans (List.prefix_append _ _)

end RxLoop

/-- After `j` frames of these sizes, `bytes` show this packet at the cursor. -/
def ShowsPacket (bytes : List UInt8) (frameSize : ℕ → ℕ) (j : ℕ) (packet : Packet) : Prop :=
  ShowsStart bytes frameSize j ∧
  shownHeader bytes frameSize j 2 = packet.src ∧ shownHeader bytes frameSize j 3 = packet.pgn ∧
  (shownHeader bytes frameSize j 4).toNat = packet.data.length ∧
  ∀ i < packet.data.length,
    shownByte bytes frameSize j ((cursorAfter frameSize j + 5).toNat + i) = packet.data.getD i 0

instance (bytes : List UInt8) (frameSize : ℕ → ℕ) (j : ℕ) (packet : Packet) :
    Decidable (ShowsPacket bytes frameSize j packet) :=
  inferInstanceAs (Decidable (_ ∧ _ ∧ _ ∧ _ ∧ _))

def frameSizes (packets : List Packet) (i : ℕ) : ℕ :=
  (packets.map fun packet => packet.data.length + 6).getD i 0

/-- Nothing counts as left, or enough for one more look, which finds no start word. -/
def ShowsEnd (bytes : List UInt8) (frameSize : ℕ → ℕ) (j : ℕ) : Prop :=
  bytes.length ≤ droppedAfter frameSize j ∨
    droppedAfter frameSize j + 8 ≤ bytes.length ∧ ¬ ShowsStart bytes frameSize j

instance (bytes : List UInt8) (frameSize : ℕ → ℕ) (j : ℕ) :
    Decidable (ShowsEnd bytes frameSize j) := inferInstanceAs (Decidable (_ ∨ _ ∧ _))

def ShownFrom (bytes : List UInt8) (packets : List Packet) (j : ℕ) : Prop :=
  (∀ i, j ≤ i → ∀ h : i < packets.length,
    ShowsPacket bytes (frameSizes packets) i packets[i]) ∧
  ShowsEnd bytes (frameSizes packets) packets.length

private theorem hasRead_packet_iff {bytes : List UInt8} {frameSize : ℕ → ℕ} {j : ℕ}
    {s : RxLoop Packet} (h : HasRead bytes frameSize j s) {packet : Packet}
    (hinside : (cursorAfter frameSize j).toNat + 5 + packet.data.length ≤ bytes.length) :
    ShowsPacket bytes frameSize j packet ↔ (8 ≤ s.rxIndex ∧ s.AtFrame) ∧ s.packet = packet := by
  obtain ⟨src, pgn, data⟩ := packet
  rw [ShowsPacket, h.showsStart_iff]
  refine and_congr_right fun hframe => ?_
  have hheader {k : UInt8} (hk : k.toNat ≤ 4) := h.headerByte hframe.1 hk
  have hspan : rxSpan s.rxBuffer (s.index + 5).toNat data.length = data ↔ ∀ i < data.length,
      shownByte bytes frameSize j ((cursorAfter frameSize j + 5).toNat + i) = data.getD i 0 := by
    have hstart : (s.index + 5).toNat ≤ (cursorAfter frameSize j).toNat + 5 := by
      rw [h.index, UInt8.toNat_add]
      exact Nat.mod_le ..
    rw [List.ext_getElem_iff, ← h.index]
    simp only [rxSpan_length, true_and]
    refine forall_congr' fun i => ?_
    constructor
    · intro hall hi
      have hbyte := hall hi hi
      rw [← h.byte _ (by simp only at hinside; omega), List.getD_eq_getElem _ _ hi, ← hbyte]
      simp [rxSpan]
    · intro hall hi _
      have hbyte := hall hi
      rw [← h.byte _ (by simp only at hinside; omega), List.getD_eq_getElem _ _ hi] at hbyte
      simpa [rxSpan] using hbyte
  rw [← hheader (by decide), ← hheader (by decide), ← hheader (by decide)]
  simp only [← hspan, RxLoop.packet, Packet.mk.injEq]
  refine and_congr_right fun _ => and_congr_right fun _ => ?_
  constructor
  · intro h'
    obtain ⟨hlen, hdata⟩ := h'
    rw [RxLoop.headerLen, hlen, hdata]
  · intro hdata
    have hlen := congrArg List.length hdata
    rw [rxSpan_length] at hlen
    exact ⟨hlen, hlen ▸ hdata⟩

private theorem headerLen_of_packet {s : RxLoop Packet} {packet : Packet} (h : s.packet = packet) :
    s.headerLen = UInt8.ofNat packet.data.length := by
  subst h
  simp [RxLoop.packet]

def Delivers (s : RxLoop Packet) (packets : List Packet) : Prop :=
  ∃ t, incomingLoop.Exits s t ∧ t.emitted = s.emitted ++ packets ∧ t.rxIndex = 0

private theorem delivers_of_empty {s : RxLoop Packet} (h : s.rxIndex = 0) (packets : List Packet) :
    Delivers s packets ↔ packets = [] := by
  have hguard : incomingLoop.guard s = false := by simp [incomingLoop, h]
  simp only [Delivers, WhileLoop.exits_iff_of_not_guard hguard]
  constructor
  · intro h'
    obtain ⟨t, rfl, hemitted, _⟩ := h'
    simpa using hemitted
  · rintro rfl
    exact ⟨s, rfl, by simp, h⟩

private theorem delivers_of_few {s : RxLoop Packet} (h : s.rxIndex < 8) (packets : List Packet) :
    Delivers s packets ↔ s.rxIndex = 0 ∧ packets = [] := by
  by_cases hzero : s.rxIndex = 0
  · simp [delivers_of_empty hzero, hzero]
  · have hguard : incomingLoop.guard s = false := by simp [incomingLoop]; omega
    simp only [Delivers, WhileLoop.exits_iff_of_not_guard hguard, hzero, false_and, iff_false]
    intro h'
    obtain ⟨t, rfl, _, hr⟩ := h'
    exact hzero hr

private theorem delivers_of_not_atFrame {s : RxLoop Packet} (hr : 8 ≤ s.rxIndex)
    (h : ¬ s.AtFrame) (packets : List Packet) : Delivers s packets ↔ packets = [] := by
  have hbody : incomingLoop.body s = { s with index := s.index + 2, rxIndex := 0 } :=
    RxLoop.iteration_of_not_atFrame h
  have hguard : incomingLoop.guard s = true := by simp [incomingLoop, hr]
  have hempty := delivers_of_empty (s := incomingLoop.body s) (by rw [hbody]) packets
  simp only [Delivers, WhileLoop.exits_iff_body hguard] at hempty ⊢
  rwa [hbody] at hempty ⊢

private theorem delivers_of_atFrame {s : RxLoop Packet} (hr : 8 ≤ s.rxIndex) (h : s.AtFrame)
    (packets : List Packet) :
    Delivers s packets ↔
      ∃ rest, packets = s.packet :: rest ∧ Delivers (RxLoop.iteration deliver s) rest := by
  have hguard : incomingLoop.guard s = true := by simp [incomingLoop, hr]
  have hemitted := RxLoop.incoming_emitted s
  rw [if_pos h] at hemitted
  constructor
  · intro h'
    obtain ⟨t, ht, hout, hrx⟩ := h'
    rw [WhileLoop.exits_iff_body hguard] at ht
    obtain ⟨rest, hrest⟩ := RxLoop.incoming_emitted_prefix ht.reaches
    have hcons : s.packet :: rest = packets := by
      rw [hout] at hrest
      change (RxLoop.iteration deliver s).emitted ++ rest = _ at hrest
      rw [hemitted, List.append_assoc] at hrest
      exact List.append_cancel_left hrest
    exact ⟨rest, hcons.symm, t, ht, hrest.symm, hrx⟩
  · intro h'
    obtain ⟨rest, rfl, t, ht, hout, hrx⟩ := h'
    refine ⟨t, .next hguard ht, ?_, hrx⟩
    rw [hout, hemitted, List.append_assoc]
    rfl

/-- What is delivered from number `j` on is what the bytes show from there. -/
private theorem delivers_iff_shownFrom {bytes : List UInt8} {packets : List Packet}
    (hfit : ∀ j < packets.length, ∑ i ∈ Finset.range (j + 1), frameSizes packets i ≤ bytes.length)
    {j : ℕ} (hj : j ≤ packets.length) {s : RxLoop Packet}
    (h : HasRead bytes (frameSizes packets) j s) :
    Delivers s (packets.drop j) ↔ ShownFrom bytes packets j := by
  induction hrest : packets.length - j generalizing j s with
  | zero =>
      obtain rfl : j = packets.length := by omega
      have hstart := h.showsStart_iff
      have hrx := h.rxIndex
      have hfew : droppedAfter (frameSizes packets) packets.length + 8 ≤ bytes.length ↔
          8 ≤ s.rxIndex := by omega
      have hnone : bytes.length ≤ droppedAfter (frameSizes packets) packets.length ↔
          s.rxIndex = 0 := by omega
      rw [List.drop_length, ShownFrom, ShowsEnd, hnone, hfew, hstart,
        and_iff_right fun i hle hlt => absurd hlt (by omega)]
      by_cases hr : 8 ≤ s.rxIndex
      · have hpos : s.rxIndex ≠ 0 := by omega
        by_cases hframe : s.AtFrame
        · simp [delivers_of_atFrame hr hframe, hframe, hpos, hr]
        · simp [delivers_of_not_atFrame hr hframe, hr, hframe]
      · simp [delivers_of_few (Nat.lt_of_not_le hr), hr]
  | succ rest ih =>
      have hlt : j < packets.length := by omega
      have hsize : frameSizes packets j = packets[j].data.length + 6 := by
        simp [frameSizes, hlt]
      have hinside : (cursorAfter (frameSizes packets) j).toNat + 5 + packets[j].data.length ≤
          bytes.length := by
        have hsum := hfit j hlt
        have hcursor : (cursorAfter (frameSizes packets) j).toNat ≤
            ∑ i ∈ Finset.range j, frameSizes packets i := by
          rw [cursorAfter, UInt8.toNat_ofNat']
          exact Nat.mod_le ..
        rw [Finset.sum_range_succ] at hsum
        omega
      have hshown : ShownFrom bytes packets j ↔
          ShowsPacket bytes (frameSizes packets) j packets[j] ∧
            ShownFrom bytes packets (j + 1) := by
        rw [ShownFrom, ShownFrom, ← and_assoc]
        refine and_congr_left fun _ => ?_
        constructor
        · intro hall
          exact ⟨hall j le_rfl hlt, fun i hi => hall i (by omega)⟩
        · intro hall i hi hi'
          cases Nat.eq_or_lt_of_le hi with
          | inl heq => exact heq ▸ hall.1
          | inr hgt => exact hall.2 i hgt hi'
      rw [hshown, hasRead_packet_iff h hinside, List.drop_eq_getElem_cons hlt]
      by_cases hr : 8 ≤ s.rxIndex
      · by_cases hframe : s.AtFrame
        · rw [delivers_of_atFrame hr hframe]
          simp only [List.cons.injEq, hr, hframe, true_and]
          have hnext (hpacket : s.packet = packets[j]) :
              s.index + (s.headerLen + 6) = cursorAfter (frameSizes packets) (j + 1) := by
            rw [headerLen_of_packet hpacket, cursorAfter_succ, hsize, UInt8.ofNat_add, h.index]
            rfl
          have hread (hpacket : s.packet = packets[j]) :
              HasRead bytes (frameSizes packets) (j + 1) (RxLoop.iteration deliver s) := by
            rw [RxLoop.incoming_of_atFrame hframe, hnext hpacket]
            exact h.compact _
          constructor
          · intro h'
            obtain ⟨_, ⟨hpacket, rfl⟩, hdelivers⟩ := h'
            exact ⟨hpacket.symm,
              (ih (by omega) (hread hpacket.symm) (by omega)).mp hdelivers⟩
          · intro h'
            obtain ⟨hpacket, hrest'⟩ := h'
            exact ⟨_, ⟨hpacket.symm, rfl⟩, (ih (by omega) (hread hpacket) (by omega)).mpr hrest'⟩
        · simp [delivers_of_not_atFrame hr hframe, hframe, hlt]
      · simp [delivers_of_few (Nat.lt_of_not_le hr), hr, hlt]

section WholeFrames

/-- Every frame of the datagram is shown when its turn comes, and nothing is left after the last. -/
def AllShown (packets : List Packet) : Prop :=
  (∀ j, ∀ h : j < packets.length,
    ShowsPacket (packets.flatMap wireFrame) (frameSizes packets) j packets[j]) ∧
  ShowsEnd (packets.flatMap wireFrame) (frameSizes packets) packets.length

instance (packets : List Packet) : Decidable (AllShown packets) :=
  inferInstanceAs (Decidable (_ ∧ _))

private theorem wireFrame_getD_payload (packet : Packet) {i : ℕ} (hi : i < packet.data.length) :
    (wireFrame packet).getD (5 + i) 0 = packet.data.getD i 0 := by
  simp [wireFrame, Nat.add_comm 5 i, List.getElem?_append_left hi]

private theorem showsPacket_of_bytes {bytes : List UInt8} {frameSize : ℕ → ℕ} {j : ℕ}
    {packet : Packet} (hcursor : (cursorAfter frameSize j).toNat + 5 < 256)
    (hlen : packet.data.length < 256)
    (h : ∀ i < packet.data.length + 5, shownByte bytes frameSize j
      ((cursorAfter frameSize j).toNat + i) = (wireFrame packet).getD i 0) :
    ShowsPacket bytes frameSize j packet ↔ droppedAfter frameSize j + 8 ≤ bytes.length := by
  have hplace (k : UInt8) (hk : k.toNat ≤ 5) :
      (cursorAfter frameSize j + k).toNat = (cursorAfter frameSize j).toNat + k.toNat := by
    rw [UInt8.toNat_add, Nat.mod_eq_of_lt (by omega)]
  have hheader (k : UInt8) (hk : k.toNat < 5) :
      shownHeader bytes frameSize j k = (wireFrame packet).getD k.toNat 0 := by
    rw [shownHeader, hplace k (by omega), h _ (by omega)]
  have hpayload : ∀ i < packet.data.length,
      shownByte bytes frameSize j ((cursorAfter frameSize j + 5).toNat + i) =
        packet.data.getD i 0 := by
    intro i hi
    rw [hplace 5 (by decide), ← wireFrame_getD_payload packet hi, ← h _ (by omega), Nat.add_assoc]
    rfl
  have hlength : ((wireFrame packet).getD 4 0).toNat = packet.data.length :=
    Nat.mod_eq_of_lt hlen
  rw [ShowsPacket, ShowsStart, hheader 0 (by decide), hheader 1 (by decide), hheader 2 (by decide),
    hheader 3 (by decide), hheader 4 (by decide)]
  constructor
  · intro h'
    exact h'.1.1
  · intro h'
    exact ⟨⟨h', rfl, rfl⟩, rfl, rfl, hlength, hpayload⟩

private theorem sum_frameSizes (packets : List Packet) {j : ℕ} (hj : j ≤ packets.length) :
    ∑ i ∈ Finset.range j, frameSizes packets i =
      ((packets.take j).flatMap wireFrame).length := by
  induction j with
  | zero => simp
  | succ j ih =>
      have hlt : j < packets.length := by omega
      rw [Finset.sum_range_succ, ih (by omega), ← List.take_append_getElem hlt,
        List.flatMap_append, List.length_append]
      simp [frameSizes, hlt]

private theorem pending_empty (rxBuffer : RxBuffer) {bytes : List UInt8}
    (hlen : bytes.length ≤ 512) : RxStatics.pending ⟨rxBuffer, 0⟩ bytes = bytes := by
  simp [RxStatics.pending, rxSpan, List.take_of_length_le hlen]

private theorem incomingReturns_iff_delivers (rxBuffer : RxBuffer) (bytes : List UInt8)
    (packets : List Packet) :
    (∃ s', IncomingReturns ⟨rxBuffer, 0⟩ (.datagram bytes) packets s' ∧ s'.rxIndex = 0) ↔
      Delivers (RxStatics.receive ⟨rxBuffer, 0⟩ bytes) packets := by
  simp only [incomingReturns_datagram, Delivers, RxStatics.receive, List.nil_append]
  constructor
  · intro h
    obtain ⟨_, ⟨t, ht, hemitted, rfl⟩, hr⟩ := h
    exact ⟨t, ht, hemitted, hr⟩
  · intro h
    obtain ⟨t, ht, hemitted, hr⟩ := h
    exact ⟨t.statics, ⟨t, ht, hemitted, rfl⟩, hr⟩

private theorem incomingReturns_iff_allShown (rxBuffer : RxBuffer) (packets : List Packet)
    (hlen : (packets.flatMap wireFrame).length ≤ 512) :
    (∃ s', IncomingReturns ⟨rxBuffer, 0⟩ (.datagram (packets.flatMap wireFrame)) packets s' ∧
      s'.rxIndex = 0) ↔ AllShown packets := by
  have hread : HasRead _ (frameSizes packets) 0
      (RxStatics.receive ⟨rxBuffer, 0⟩ (packets.flatMap wireFrame) : RxLoop Packet) :=
    hasRead_receive _ _ _
  rw [pending_empty rxBuffer hlen] at hread
  have hfit : ∀ j < packets.length, ∑ i ∈ Finset.range (j + 1), frameSizes packets i ≤
      (packets.flatMap wireFrame).length := by
    intro j hj
    have hsplit : (packets.flatMap wireFrame).length =
        ((packets.take (j + 1)).flatMap wireFrame).length +
          ((packets.drop (j + 1)).flatMap wireFrame).length := by
      rw [← List.length_append, ← List.flatMap_append, List.take_append_drop]
    rw [sum_frameSizes packets (j := j + 1) hj, hsplit]
    exact Nat.le_add_right ..
  have hdelivers := delivers_iff_shownFrom hfit (Nat.zero_le _) hread
  rw [List.drop_zero] at hdelivers
  rw [incomingReturns_iff_delivers, hdelivers, ShownFrom, AllShown]
  simp

private theorem allShown_single (packet : Packet) (hlen : packet.data.length ≤ 250) :
    AllShown [packet] ↔ 2 ≤ packet.data.length ∧ packet.data.length ≤ 249 := by
  have hsize : ([packet].flatMap wireFrame).length = packet.data.length + 6 := by simp
  have hshown : ShowsPacket ([packet].flatMap wireFrame) (frameSizes [packet]) 0 packet ↔
      droppedAfter (frameSizes [packet]) 0 + 8 ≤ ([packet].flatMap wireFrame).length :=
    showsPacket_of_bytes (by simp [cursorAfter]) (by omega) (by simp [cursorAfter])
  have hcursor : (cursorAfter (frameSizes [packet]) 1).toNat = (packet.data.length + 6) % 256 := by
    simp [cursorAfter, frameSizes]
  have hdropped : droppedAfter (frameSizes [packet]) 1 = (packet.data.length + 6) % 256 := by
    rw [droppedAfter_succ, hcursor]
    simp [droppedAfter]
  rw [hsize, droppedAfter_zero] at hshown
  have hend : ShowsEnd ([packet].flatMap wireFrame) (frameSizes [packet]) 1 ↔
      packet.data.length ≤ 249 := by
    rw [ShowsEnd, ShowsStart, hdropped, hsize]
    by_cases hmax : packet.data.length = 250
    · -- the cursor is back at the front, where the same frame still stands
      have hzero : cursorAfter (frameSizes [packet]) 1 = 0 := by
        rw [← UInt8.toNat_inj, hcursor, hmax]
        rfl
      rw [hmax] at hdropped
      have hsame (k : UInt8) (hk : k.toNat < 2) :
          shownHeader ([packet].flatMap wireFrame) (frameSizes [packet]) 1 k =
            (wireFrame packet).getD k.toNat 0 := by
        rw [shownHeader, hzero, UInt8.zero_add, shownByte_of_lt (by omega), hdropped]
        simp
      rw [hsame 0 (by decide), hsame 1 (by decide)]
      simp [hmax, wireFrame]
    · have hsmall : (packet.data.length + 6) % 256 = packet.data.length + 6 :=
        Nat.mod_eq_of_lt (by omega)
      omega
  simp only [AllShown, List.length_singleton, Nat.lt_one_iff, forall_eq, List.getElem_singleton,
    hshown, hend]
  omega

/-- Each packet is framed by `send` and arrives in its own call of `handle_incoming_packets`,
which invokes the callback exactly once, with that packet, and leaves the buffer empty. -/
def RoundTrips : RxStatics → List Packet → Prop
  | _, [] => True
  | s, packet :: rest =>
      ∃ frame s', Sends packet.src packet.pgn packet.data frame ∧
        IncomingReturns s (.datagram frame) [packet] s' ∧ s'.rxIndex = 0 ∧ RoundTrips s' rest

private theorem roundTrips_cons (rxBuffer : RxBuffer) (packet : Packet) (rest : List Packet)
    (hlen : packet.data.length ≤ 250)
    (ih : ∀ rxBuffer, RoundTrips ⟨rxBuffer, 0⟩ rest ↔
      ∀ p ∈ rest, 2 ≤ p.data.length ∧ p.data.length ≤ 249) :
    RoundTrips ⟨rxBuffer, 0⟩ (packet :: rest) ↔
      ∀ p ∈ packet :: rest, 2 ≤ p.data.length ∧ p.data.length ≤ 249 := by
  have hcall := (incomingReturns_iff_allShown rxBuffer [packet] (by simp; omega)).trans
    (allShown_single packet hlen)
  rw [List.flatMap_singleton] at hcall
  rw [RoundTrips, List.forall_mem_cons, ← hcall]
  constructor
  · intro h
    obtain ⟨frame, s', hsend, hreturns, hr, hrest⟩ := h
    rw [sends_iff packet (by omega)] at hsend
    subst hsend
    obtain ⟨rxBuffer', rxIndex'⟩ := s'
    subst hr
    exact ⟨⟨_, hreturns, rfl⟩, (ih rxBuffer').mp hrest⟩
  · intro h
    obtain ⟨⟨⟨rxBuffer', rxIndex'⟩, hreturns, hr⟩, hrest⟩ := h
    subst hr
    exact ⟨wireFrame packet, _, (sends_iff packet (by omega) _).mpr rfl, hreturns, rfl,
      (ih rxBuffer').mpr hrest⟩

/-- Over every run of up to 250-byte payloads, starting from an empty buffer, each packet comes
back in its own call if and only if every payload has 2 to 249 bytes. -/
theorem roundTrips_iff (rxBuffer : RxBuffer) (packets : List Packet)
    (hlen : ∀ p ∈ packets, p.data.length ≤ 250) :
    RoundTrips ⟨rxBuffer, 0⟩ packets ↔ ∀ p ∈ packets, 2 ≤ p.data.length ∧ p.data.length ≤ 249 := by
  induction packets generalizing rxBuffer with
  | nil => simp [RoundTrips]
  | cons packet rest ih =>
      rw [List.forall_mem_cons] at hlen
      exact roundTrips_cons rxBuffer packet rest hlen.1 fun b => ih b hlen.2

theorem roundTrips_sectionStates :
    RoundTrips ⟨Vector.replicate 512 0, 0⟩
      [⟨0x7F, 0xE5, [1, 0, 0, 0, 0, 0, 0, 0]⟩, ⟨0x7F, 0xF2, [156, 0, 1, 0, 0, 0]⟩] :=
  (roundTrips_iff _ _ (by simp)).mpr (by simp)

/-- The documented one-byte section control mode is not delivered when it arrives. -/
theorem not_roundTrips_sectionControl :
    ¬ RoundTrips ⟨Vector.replicate 512 0, 0⟩
      [⟨0x7F, 0xF1, [1]⟩, ⟨0x7F, 0xE5, [1, 0, 0, 0, 0, 0, 0, 0]⟩] := by
  intro h
  obtain ⟨frame, s', hsend, hreturns, hr, _⟩ := h
  rw [sends_iff _ (by simp)] at hsend
  subst hsend
  have hshown := (incomingReturns_iff_allShown _ [⟨0x7F, 0xF1, [1]⟩] (by simp)).mp
    ⟨s', by rwa [List.flatMap_singleton], hr⟩
  rw [allShown_single _ (by simp)] at hshown
  simp at hshown

/-- Two frames of together less than 256 bytes are shown when the first is at least as long as the
second: the cursor then points behind the moved bytes, at the second frame's original place. -/
private theorem allShown_pair (first second : Packet) (hsecond : 2 ≤ second.data.length)
    (horder : second.data.length ≤ first.data.length)
    (htotal : first.data.length + 6 + (second.data.length + 6) < 256) :
    AllShown [first, second] := by
  have hsize : ([first, second].flatMap wireFrame).length =
      first.data.length + 6 + (second.data.length + 6) := by simp
  have hcursor : (cursorAfter (frameSizes [first, second]) 1).toNat = first.data.length + 6 := by
    simp [cursorAfter, frameSizes]
    omega
  have hcursor' : (cursorAfter (frameSizes [first, second]) 2).toNat =
      first.data.length + 6 + (second.data.length + 6) := by
    simp [cursorAfter, frameSizes, Finset.sum_range_succ]
    omega
  have hdropped : droppedAfter (frameSizes [first, second]) 1 = first.data.length + 6 := by
    rw [droppedAfter_succ, hcursor, droppedAfter_zero, Nat.zero_add]
  have hfirst : ShowsPacket ([first, second].flatMap wireFrame) (frameSizes [first, second]) 0
      first := by
    apply (showsPacket_of_bytes (by simp [cursorAfter]) (by omega) ?_).mpr
    · rw [droppedAfter_zero, hsize]
      omega
    · intro i hi
      rw [shownByte_zero, List.flatMap_cons, List.getD_append _ _ _ _ (by simp [cursorAfter]; omega)]
      simp [cursorAfter]
  have hsecond' : ShowsPacket ([first, second].flatMap wireFrame) (frameSizes [first, second]) 1
      second := by
    apply (showsPacket_of_bytes (by rw [hcursor]; omega) (by omega) ?_).mpr
    · rw [hdropped, hsize]
      omega
    · intro i hi
      rw [shownByte_succ_of_le (j := 0) (by rw [Nat.zero_add, hdropped, hsize]; omega),
        shownByte_zero, hcursor, List.flatMap_cons,
        List.getD_append_right _ _ _ _ (by simp)]
      simp
  have hend : ShowsEnd ([first, second].flatMap wireFrame) (frameSizes [first, second]) 2 := by
    left
    rw [hsize, droppedAfter_succ, hcursor']
    omega
  refine ⟨fun j hj => ?_, hend⟩
  have hpair : j = 0 ∨ j = 1 := by
    simp only [List.length_cons, List.length_nil] at hj
    omega
  obtain rfl | rfl := hpair
  · exact hfirst
  · exact hsecond'

/-- Frames that arrive together on an empty buffer are delivered in one call, once each and in
order, and leave no residue, if and only if the datagram shows each of them when its turn comes. -/
theorem coalesced_delivered_iff (rxBuffer : RxBuffer) (packets : List Packet)
    (htotal : (packets.flatMap wireFrame).length ≤ 512) :
    (∃ s', IncomingReturns ⟨rxBuffer, 0⟩ (.datagram (packets.flatMap wireFrame)) packets s' ∧
        s'.rxIndex = 0) ↔ AllShown packets :=
  incomingReturns_iff_allShown rxBuffer packets htotal

theorem coalesced_delivered_twice :
    ∃ s', IncomingReturns ⟨Vector.replicate 512 0, 0⟩
      (.datagram ([⟨0x7F, 0xF2, [156, 0, 1, 0, 0, 0]⟩, ⟨0x7F, 0xF2, [85, 2, 1, 0, 0, 0]⟩].flatMap
        wireFrame))
      [⟨0x7F, 0xF2, [156, 0, 1, 0, 0, 0]⟩, ⟨0x7F, 0xF2, [85, 2, 1, 0, 0, 0]⟩] s' ∧
        s'.rxIndex = 0 :=
  (coalesced_delivered_iff _ _ (by simp)).mpr
    (allShown_pair _ _ (by simp) (by simp) (by simp))

/-- Process data followed by section states in one datagram: after the first frame the cursor
stays at 12 and points into the second frame's payload. -/
theorem coalesced_sectionStates_lost :
    ¬ ∃ s', IncomingReturns ⟨Vector.replicate 512 0, 0⟩
      (.datagram ([⟨0x7F, 0xF2, [156, 0, 1, 0, 0, 0]⟩,
        ⟨0x7F, 0xE5, [1, 0, 0, 0, 0, 0, 0, 0]⟩].flatMap wireFrame))
      [⟨0x7F, 0xF2, [156, 0, 1, 0, 0, 0]⟩, ⟨0x7F, 0xE5, [1, 0, 0, 0, 0, 0, 0, 0]⟩] s' ∧
        s'.rxIndex = 0 := by
  rw [incomingReturns_iff_allShown _ _ (by simp)]
  decide +kernel

end WholeFrames

end AogTaskController.Udp
