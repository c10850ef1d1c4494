import AogTaskController.Udp.Delivery

/-!
# Which bytes a callback sees

The length byte comes from the network and the buffer is reused. A callback sees received bytes
only, and the same bytes whatever earlier datagrams left behind, as long as no frame is cut short by
the end of what has been received; the loop itself does not test this.
-/

namespace AogTaskController.Udp

open Framework

/-- One invocation of the packet callback: the packet, where its payload starts in the buffer and
how many bytes of the buffer count as received and not yet consumed. -/
structure Invocation where
  packet : Packet
  start : Nat
  rxIndex : Nat

/-- Payload and checksum lie inside the received bytes. -/
def Invocation.Received (i : Invocation) : Prop :=
  i.start + i.packet.data.length + 1 ≤ i.rxIndex

namespace RxLoop

def invocation? (s : RxLoop Packet) : Option Invocation :=
  if 8 ≤ s.rxIndex ∧ s.AtFrame then some ⟨s.packet, (s.index + 5).toNat, s.rxIndex⟩ else none

def FrameArrived (s : RxLoop Packet) : Prop :=
  8 ≤ s.rxIndex → s.AtFrame → s.headerLen.toNat < s.rxIndex - (s.index + 5).toNat

private theorem frameArrived_iff (s : RxLoop Packet) :
    s.FrameArrived ↔ ∀ i, s.invocation? = some i → i.Received := by
  unfold FrameArrived invocation?
  by_cases h : 8 ≤ s.rxIndex ∧ s.AtFrame
  · have hlen : s.packet.data.length = s.headerLen.toNat := rxSpan_length ..
    simp only [if_pos h, Option.some.injEq, forall_eq', Invocation.Received, hlen]
    constructor
    · intro harrived
      have := harrived h.1 h.2
      omega
    · intro hreceived _ _
      omega
  · simp only [if_neg h, reduceCtorEq, false_imp_iff, implies_true, iff_true]
    exact fun hr hframe => (h ⟨hr, hframe⟩).elim

private theorem compact_byte (s : RxLoop Packet) {i : Nat} (hi : i < 512) :
    rxByte s.compact.rxBuffer i =
      if i < s.rxIndex - s.index.toNat then rxByte s.rxBuffer (i + s.index.toNat)
      else rxByte s.rxBuffer i := by
  unfold compact
  split
  · exact rxByte_memmove hi
  · rw [if_neg (by omega)]

end RxLoop

inductive RunCalls : RxStatics → List Received → RxStatics → List UInt8 → Prop
  | here (s : RxStatics) (bytes : List UInt8) (rest : List Received) :
      RunCalls s (.datagram bytes :: rest) s bytes
  | later {s s' t : RxStatics} {r : Received} {rest : List Received} {packets : List Packet}
      {bytes : List UInt8} (hcall : IncomingReturns s r packets s')
      (hrest : RunCalls s' rest t bytes) : RunCalls s (r :: rest) t bytes

/-- The loop states of a run in which the guard is tested, also those of a last call that never
returns. -/
def RunReaches (s : RxStatics) (rs : List Received) (t : RxLoop Packet) : Prop :=
  ∃ u bytes, RunCalls s rs u bytes ∧ incomingLoop.Reaches (u.receive bytes) t

/-- Two loops invoke the callback alike: after any number of iterations of one, the other has
handed on the same packets after some of its own, and both stop or neither. -/
def SameCallbacks (s t : RxLoop Packet) : Prop :=
  (∀ u, incomingLoop.Reaches s u → ∃ v, incomingLoop.Reaches t v ∧ v.emitted = u.emitted) ∧
  (∀ v, incomingLoop.Reaches t v → ∃ u, incomingLoop.Reaches s u ∧ u.emitted = v.emitted) ∧
  (incomingLoop.Terminates s ↔ incomingLoop.Terminates t)

structure AgreeUpTo (size : Nat) (s t : RxLoop Packet) : Prop where
  rxIndex : s.rxIndex = t.rxIndex
  index : s.index = t.index
  emitted : s.emitted = t.emitted
  bytes : ∀ i < size, rxByte s.rxBuffer i = rxByte t.rxBuffer i
  left : s.rxIndex ≤ size
  fits : size ≤ 512

/-- While the loop runs, its cursor has moved over bytes that were there. -/
def CursorInside (size : Nat) (s : RxLoop Packet) : Prop :=
  8 ≤ s.rxIndex → s.index.toNat + 8 ≤ size

private theorem cursorInside_compact {size : Nat} {s : RxLoop Packet} (h : s.rxIndex ≤ size) :
    CursorInside size s.compact := by
  intro hr
  rw [RxLoop.compact_rxIndex] at hr
  rw [RxLoop.compact_index]
  omega

namespace AgreeUpTo

variable {size : Nat} {s t : RxLoop Packet}

theorem headerByte (h : AgreeUpTo size s t) (hcursor : CursorInside size s) (hr : 8 ≤ s.rxIndex)
    {k : UInt8} (hk : k.toNat ≤ 4) : s.headerByte k = t.headerByte k := by
  have hinside := hcursor hr
  rw [RxLoop.headerByte, RxLoop.headerByte, ← h.index]
  apply h.bytes
  rw [UInt8.toNat_add]
  omega

private theorem atFrame (h : AgreeUpTo size s t) (hcursor : CursorInside size s)
    (hr : 8 ≤ s.rxIndex) :
    s.AtFrame ↔ t.AtFrame := by
  rw [RxLoop.AtFrame, RxLoop.AtFrame, h.headerByte hcursor hr (by decide),
    h.headerByte hcursor hr (by decide)]

theorem packet (h : AgreeUpTo size s t) (hcursor : CursorInside size s) (hr : 8 ≤ s.rxIndex)
    (hframe : s.AtFrame) (harrived : s.FrameArrived) : s.packet = t.packet := by
  have hlen : s.headerLen = t.headerLen := h.headerByte hcursor hr (by decide)
  have hsrc : s.headerSrc = t.headerSrc := h.headerByte hcursor hr (by decide)
  have hpgn : s.headerPgn = t.headerPgn := h.headerByte hcursor hr (by decide)
  have hinside := harrived hr hframe
  have hleft := h.left
  rw [RxLoop.packet, RxLoop.packet, ← hlen, ← hsrc, ← hpgn, ← h.index]
  congr 1
  apply rxSpan_congr
  intro i hi
  exact h.bytes _ (by omega)

theorem compact (h : AgreeUpTo size s t) : AgreeUpTo size s.compact t.compact where
  rxIndex := by simp [h.rxIndex, h.index]
  index := by simp [h.index]
  emitted := by simp [h.emitted]
  bytes i hi := by
    have hfits := h.fits
    have hleft := h.left
    rw [RxLoop.compact_byte s (by omega), RxLoop.compact_byte t (by omega), ← h.rxIndex, ← h.index]
    split
    · exact h.bytes _ (by omega)
    · exact h.bytes i hi
  left := by
    have hleft := h.left
    rw [RxLoop.compact_rxIndex]
    omega
  fits := h.fits

theorem iteration (h : AgreeUpTo size s t) (hcursor : CursorInside size s) (hr : 8 ≤ s.rxIndex)
    (harrived : s.FrameArrived) :
    AgreeUpTo size (RxLoop.iteration deliver s) (RxLoop.iteration deliver t) ∧
      CursorInside size (RxLoop.iteration deliver s) := by
  by_cases hframe : s.AtFrame
  · have hframe' := (h.atFrame hcursor hr).mp hframe
    have hlen : s.headerLen = t.headerLen := h.headerByte hcursor hr (by decide)
    rw [RxLoop.incoming_of_atFrame hframe, RxLoop.incoming_of_atFrame hframe', ← hlen, ← h.index,
      ← h.packet hcursor hr hframe harrived, ← h.emitted]
    refine ⟨compact ⟨h.rxIndex, rfl, rfl, h.bytes, h.left, h.fits⟩, cursorInside_compact h.left⟩
  · have hframe' := (h.atFrame hcursor hr).not.mp hframe
    rw [RxLoop.iteration_of_not_atFrame hframe, RxLoop.iteration_of_not_atFrame hframe', ← h.index]
    refine ⟨⟨rfl, rfl, h.emitted, h.bytes, Nat.zero_le _, h.fits⟩, ?_⟩
    intro hfalse
    simp at hfalse

end AgreeUpTo

/-- The relation between two calls on the same datagram: every frame that the first still
recognises has arrived. -/
private def ArrivedAlike (size : Nat) (s t : RxLoop Packet) : Prop :=
  AgreeUpTo size s t ∧ CursorInside size s ∧
    ∀ u, incomingLoop.Reaches s u → u.FrameArrived

private theorem arrivedAlike_lockstep (size : Nat) :
    WhileLoop.Lockstep incomingLoop incomingLoop (ArrivedAlike size) := by
  intro s t hst
  obtain ⟨hagree, hcursor, harrived⟩ := hst
  refine ⟨by simp [incomingLoop, hagree.rxIndex], fun hguard => ?_⟩
  have hr : 8 ≤ s.rxIndex := by simpa [incomingLoop] using hguard
  obtain ⟨hagree', hcursor'⟩ := hagree.iteration hcursor hr (harrived s (.refl s))
  exact ⟨hagree', hcursor', fun u hu => harrived u (hu.head hguard)⟩

private theorem ArrivedAlike.sameCallbacks {size : Nat} {s t : RxLoop Packet}
    (h : ArrivedAlike size s t) :
    SameCallbacks s t := by
  refine ⟨fun u hu => ?_, fun v hv => ?_, (arrivedAlike_lockstep size).terminates_iff h⟩
  · obtain ⟨v, hv, hagree, _⟩ := (arrivedAlike_lockstep size).reaches hu h
    exact ⟨v, hv, hagree.emitted.symm⟩
  · obtain ⟨u, hu, hagree, _⟩ := (arrivedAlike_lockstep size).symm.reaches hv h
    exact ⟨u, hu, hagree.emitted⟩

/-- A datagram on an empty residue is handled alike over every old buffer content, provided that
every frame recognised in it has arrived. -/
private theorem sameCallbacks_of_arrived (rxBuffer rxBuffer' : RxBuffer) (bytes : List UInt8)
    (h : ∀ t, incomingLoop.Reaches (RxStatics.receive ⟨rxBuffer, 0⟩ bytes) t → t.FrameArrived) :
    SameCallbacks (RxStatics.receive ⟨rxBuffer, 0⟩ bytes)
      (RxStatics.receive ⟨rxBuffer', 0⟩ bytes) := by
  have halike : ArrivedAlike (bytes.take 512).length (RxStatics.receive ⟨rxBuffer, 0⟩ bytes)
      (RxStatics.receive ⟨rxBuffer', 0⟩ bytes) := by
    refine ⟨⟨rfl, rfl, rfl, ?_, by simp [RxStatics.receive], List.length_take_le ..⟩, ?_, h⟩
    · intro i hi
      have hlt : i < 512 := by
        rw [List.length_take] at hi
        omega
      simp only [RxStatics.receive, Nat.sub_zero]
      rw [rxByte_fill hlt, rxByte_fill hlt, if_pos (by omega), if_pos (by omega)]
    · intro hr
      simpa [RxStatics.receive] using hr
  exact halike.sameCallbacks

def sizesOf (len : ℕ → UInt8) (j : ℕ) : ℕ := (len j).toNat + 6

/-- The first `count` frames that `bytes` show one after the other have the length bytes `len`. -/
def ShowsLengths (bytes : List UInt8) (len : ℕ → UInt8) (count : ℕ) : Prop :=
  ∀ j < count, ShowsStart bytes (sizesOf len) j ∧ shownHeader bytes (sizesOf len) j 4 = len j

/-- Of all frames that `bytes` show one after the other, payload and checksum lie inside `bytes`. -/
def NoneCutShort (bytes : List UInt8) : Prop :=
  ∀ len j, ShowsLengths bytes len (j + 1) →
    droppedAfter (sizesOf len) j + (cursorAfter (sizesOf len) j + 5).toNat + (len j).toNat + 1 ≤
      bytes.length

theorem noneCutShort_wireFrame (packet : Packet) (hlen : packet.data.length ≤ 249) :
    NoneCutShort (wireFrame packet) := by
  intro len j hshows
  have hfirst : len 0 = UInt8.ofNat packet.data.length := by
    rw [← (hshows 0 (by omega)).2, shownHeader, shownByte_zero]
    rfl
  have hsize : (len 0).toNat = packet.data.length := by
    rw [hfirst]
    exact Nat.mod_eq_of_lt (by omega)
  cases j with
  | zero =>
      have hcursor : (cursorAfter (sizesOf len) 0 + 5).toNat = 5 := rfl
      rw [wireFrame_length, hsize, hcursor, droppedAfter_zero]
      omega
  | succ j =>
      -- behind the frame nothing counts as left
      have hleft := (hshows 1 (by omega)).1.1
      have hcursor : (cursorAfter (sizesOf len) 1).toNat = packet.data.length + 6 := by
        simp [cursorAfter, sizesOf, hsize]
        omega
      rw [droppedAfter_succ, droppedAfter_zero, hcursor, wireFrame_length] at hleft
      omega

private theorem hasRead_iteration {bytes : List UInt8} {len : ℕ → UInt8} {j : ℕ} {s : RxLoop Packet}
    (h : HasRead bytes (sizesOf len) j s) (hframe : s.AtFrame) (hlen : s.headerLen = len j) :
    HasRead bytes (sizesOf len) (j + 1) (RxLoop.iteration deliver s) := by
  have hnext : s.index + (s.headerLen + 6) = cursorAfter (sizesOf len) (j + 1) := by
    rw [cursorAfter_succ, h.index, hlen, sizesOf, UInt8.ofNat_add, UInt8.ofNat_toNat]
    rfl
  rw [RxLoop.incoming_of_atFrame hframe, hnext]
  exact h.compact _

private theorem reaches_of_showsLengths {bytes : List UInt8} {len : ℕ → UInt8} {s : RxLoop Packet}
    (h : HasRead bytes (sizesOf len) 0 s) {j : ℕ} (hshows : ShowsLengths bytes len j) :
    ∃ t, incomingLoop.Reaches s t ∧ HasRead bytes (sizesOf len) j t := by
  induction j with
  | zero => exact ⟨s, .refl s, h⟩
  | succ j ih =>
      obtain ⟨t, ht, hread⟩ := ih fun i hi => hshows i (by omega)
      obtain ⟨hstart, hlen⟩ := hshows j (by omega)
      obtain ⟨hr, hframe⟩ := hread.showsStart_iff.mp hstart
      rw [← hread.headerByte hr (by decide)] at hlen
      exact ⟨_, ht.tail (by simpa [incomingLoop] using hr), hasRead_iteration hread hframe hlen⟩

def lengthAfter (s : RxLoop Packet) (j : ℕ) : UInt8 := (incomingLoop.body^[j] s).headerLen

private theorem hasRead_iterate {bytes : List UInt8} {s : RxLoop Packet}
    (h : HasRead bytes (sizesOf (lengthAfter s)) 0 s) {j : ℕ}
    (hframe : ∀ i < j, (incomingLoop.body^[i] s).AtFrame) :
    HasRead bytes (sizesOf (lengthAfter s)) j (incomingLoop.body^[j] s) := by
  induction j with
  | zero => exact h
  | succ j ih =>
      rw [Function.iterate_succ_apply']
      exact hasRead_iteration (ih fun i hi => hframe i (by omega)) (hframe j (by omega)) rfl

private theorem atFrame_of_guard {s : RxLoop Packet}
    (h : incomingLoop.guard (incomingLoop.body s) = true) :
    s.AtFrame := by
  by_contra hframe
  rw [show incomingLoop.body s = _ from RxLoop.iteration_of_not_atFrame hframe] at h
  simp [incomingLoop] at h

/-- In one call, every frame that the loop recognises has arrived if and only if what is in the
buffer at the start does not cut one short. -/
private theorem framesArrived_iff (t : RxStatics) (bytes : List UInt8) :
    (∀ s, incomingLoop.Reaches (t.receive bytes) s → s.FrameArrived) ↔
      NoneCutShort (t.pending bytes) := by
  constructor
  · intro h len j hshows
    obtain ⟨s, hs, hread⟩ := reaches_of_showsLengths (hasRead_receive t bytes (sizesOf len))
      (j := j) fun i hi => hshows i (by omega)
    obtain ⟨hstart, hlen⟩ := hshows j (by omega)
    obtain ⟨hr, hframe⟩ := hread.showsStart_iff.mp hstart
    rw [← hread.headerByte hr (by decide)] at hlen
    have harrived := h s hs hr hframe
    have hrx := hread.rxIndex
    rw [← hread.index, ← hlen]
    change _ + _ + s.headerLen.toNat + 1 ≤ _
    omega
  · intro h s hs hr hframe
    obtain ⟨j, rfl, hguard⟩ := WhileLoop.reaches_iff_iterate.mp hs
    have hframes : ∀ i < j, (incomingLoop.body^[i] (t.receive bytes)).AtFrame := by
      intro i hi
      apply atFrame_of_guard
      rw [← Function.iterate_succ_apply' incomingLoop.body i]
      cases Nat.eq_or_lt_of_le (Nat.succ_le_of_lt hi) with
      | inl heq =>
          rw [heq]
          exact decide_eq_true hr
      | inr hlt => exact hguard (i + 1) hlt
    have hread {i : ℕ} (hi : i ≤ j) := hasRead_iterate (j := i)
      (hasRead_receive t bytes (sizesOf (lengthAfter (t.receive bytes))))
      fun i' hi' => hframes i' (by omega)
    have hshows : ShowsLengths (t.pending bytes) (lengthAfter (t.receive bytes)) (j + 1) := by
      intro i hi
      have hr' : 8 ≤ (incomingLoop.body^[i] (t.receive bytes)).rxIndex := by
        cases Nat.eq_or_lt_of_le (Nat.le_of_lt_succ hi) with
        | inl heq => exact heq ▸ hr
        | inr hlt => exact of_decide_eq_true (hguard i hlt)
      have hframe' : (incomingLoop.body^[i] (t.receive bytes)).AtFrame := by
        cases Nat.eq_or_lt_of_le (Nat.le_of_lt_succ hi) with
        | inl heq => exact heq ▸ hframe
        | inr hlt => exact hframes i hlt
      have hread' := hread (Nat.le_of_lt_succ hi)
      exact ⟨hread'.showsStart_iff.mpr ⟨hr', hframe'⟩, (hread'.headerByte hr' (by decide)).symm⟩
    have hinside := h (lengthAfter (t.receive bytes)) j hshows
    have hrx := (hread le_rfl).rxIndex
    rw [← (hread le_rfl).index] at hinside
    change _ + _ + (incomingLoop.body^[j] (t.receive bytes)).headerLen.toNat + 1 ≤ _ at hinside
    omega

/-- In every run, every callback sees received bytes only, and every call on an empty residue
makes the same callbacks over any other buffer content, if and only if in no call the bytes carried
over and received cut a frame short. -/
theorem callbacks_see_received_iff (start : RxStatics) (rs : List Received) :
    ((∀ s, RunReaches start rs s → ∀ i, s.invocation? = some i → i.Received) ∧
      ∀ t bytes, RunCalls start rs t bytes → t.rxIndex = 0 → ∀ rxBuffer,
        SameCallbacks (t.receive bytes) (RxStatics.receive ⟨rxBuffer, 0⟩ bytes)) ↔
      ∀ t bytes, RunCalls start rs t bytes → NoneCutShort (t.pending bytes) := by
  constructor
  · intro h t bytes hcall
    rw [← framesArrived_iff]
    exact fun s hs => (RxLoop.frameArrived_iff s).mpr (h.1 s ⟨t, bytes, hcall, hs⟩)
  · intro h
    have harrived {t : RxStatics} {bytes : List UInt8} (hcall : RunCalls start rs t bytes) :=
      (framesArrived_iff t bytes).mpr (h t bytes hcall)
    constructor
    · intro s hs
      obtain ⟨t, bytes, hcall, hreaches⟩ := hs
      exact (RxLoop.frameArrived_iff s).mp (harrived hcall s hreaches)
    · intro t bytes hcall hempty rxBuffer'
      obtain ⟨rxBuffer, rxIndex⟩ := t
      subst hempty
      exact sameCallbacks_of_arrived rxBuffer rxBuffer' bytes (harrived hcall)

private theorem packet_prefix {s t : RxLoop Packet} (hframe : s.AtFrame)
    (hempty : s.emitted = []) (h : incomingLoop.Reaches s t) :
    t.emitted = [] ∨ [s.packet] <+: t.emitted := by
  cases Relation.ReflTransGen.cases_head h with
  | inl heq => exact .inl (heq ▸ hempty)
  | inr hstep =>
      obtain ⟨u, ⟨_, rfl⟩, hu⟩ := hstep
      have hprefix := RxLoop.incoming_emitted_prefix hu
      change (RxLoop.iteration deliver s).emitted <+: _ at hprefix
      rw [RxLoop.incoming_emitted, if_pos hframe, hempty] at hprefix
      exact .inr hprefix

private theorem SameCallbacks.packet_eq {s t : RxLoop Packet} (h : SameCallbacks s t)
    (hs : 8 ≤ s.rxIndex ∧ s.AtFrame ∧ s.emitted = [])
    (ht : t.AtFrame ∧ t.emitted = []) : s.packet = t.packet := by
  have hbody : (RxLoop.iteration deliver s).emitted = [s.packet] := by
    rw [RxLoop.incoming_emitted, if_pos hs.2.1, hs.2.2]
    rfl
  obtain ⟨v, hv, hemitted⟩ := h.1 (RxLoop.iteration deliver s)
    ((WhileLoop.Reaches.refl s).tail (by simpa [incomingLoop] using hs.1))
  rw [hbody] at hemitted
  cases packet_prefix ht.1 ht.2 hv with
  | inl hnil => simp [hnil] at hemitted
  | inr hprefix =>
      rw [hemitted] at hprefix
      exact (List.cons_prefix_cons.mp hprefix).1.symm

private def shortFrame : List UInt8 := [0x80, 0x81, 0x7F, 0xE5, 8, 1, 2, 3]

private theorem receive_shortFrame (old : UInt8) :
    let s : RxLoop Packet := RxStatics.receive ⟨Vector.replicate 512 old, 0⟩ shortFrame
    8 ≤ s.rxIndex ∧ s.AtFrame ∧ s.emitted = [] := by
  refine ⟨by simp [RxStatics.receive, shortFrame], ⟨?_, ?_⟩, rfl⟩ <;>
    simp [RxLoop.headerByte, RxStatics.receive, shortFrame, rxByte_fill]

private theorem receive_shortFrame_packet (old : UInt8) :
    (RxStatics.receive ⟨Vector.replicate 512 old, 0⟩ shortFrame : RxLoop Packet).packet =
      ⟨0x7F, 0xE5, [1, 2, 3, old, old, old, old, old]⟩ := by
  simp [RxStatics.receive, shortFrame, RxLoop.packet, RxLoop.headerSrc, RxLoop.headerPgn,
    RxLoop.headerLen, RxLoop.headerByte, rxSpan, List.range_succ, rxByte_fill]
  simp [rxByte]

/-- The callback gets five bytes that an earlier datagram left in the buffer. -/
theorem callback_sees_stale_bytes :
    (∃ s, RunReaches ⟨Vector.replicate 512 0, 0⟩ [.datagram shortFrame] s ∧
      ∃ i, s.invocation? = some i ∧ ¬ i.Received) ∧
    ¬ SameCallbacks (RxStatics.receive ⟨Vector.replicate 512 0, 0⟩ shortFrame)
      (RxStatics.receive ⟨Vector.replicate 512 1, 0⟩ shortFrame) := by
  refine ⟨⟨_, ⟨_, _, .here _ _ _, .refl _⟩, ?_⟩, ?_⟩
  · obtain ⟨hr, hframe, _⟩ := receive_shortFrame 0
    refine ⟨_, if_pos ⟨hr, hframe⟩, ?_⟩
    simp [Invocation.Received, receive_shortFrame_packet]
    simp [RxStatics.receive, shortFrame]
  · intro h
    have hpacket := h.packet_eq (receive_shortFrame 0) (receive_shortFrame 1).2
    rw [receive_shortFrame_packet, receive_shortFrame_packet] at hpacket
    simp at hpacket

end AogTaskController.Udp
