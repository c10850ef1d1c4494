import AogTaskController.Configuration.Store
import AogTaskController.Framework.DottedText
import AogTaskController.Udp.Frame
import AogTaskController.Udp.Termination

/-!
# Following the subnet

AgIO announces the subnet. The settings take it over, whether or not they can be saved, the socket is
bound again to an address of this machine in the new subnet, and what is sent from then on goes to
everybody in it. Saving and binding may throw, which ends the program.
-/

namespace AogTaskController.Udp

open AogTaskController.Configuration Framework

structure Ipv4 where
  octet0 : UInt8
  octet1 : UInt8
  octet2 : UInt8
  octet3 : UInt8
  deriving DecidableEq

structure Endpoint where
  address : Ipv4
  port : Nat
  deriving DecidableEq

def Ipv4.loopback : Ipv4 := ⟨127, 0, 0, 1⟩

/-- `std::equal(subnet.begin(), subnet.begin() + 3, octets.begin())` -/
def Ipv4.isIn (address : Ipv4) (subnet : Configuration.Subnet) : Bool :=
  subnet == (address.octet0, address.octet1, address.octet2)

/-- `make_address_v4` on a text in dotted decimal form, the only one that it is documented to read: four
numbers up to 255, as `readDotted` reads them. -/
def makeAddressV4 (text : List Char) : Option Ipv4 :=
  match readDotted text with
  | some [octet0, octet1, octet2, octet3] => some ⟨octet0, octet1, octet2, octet3⟩
  | _ => none

/-- What the system knows of its own addresses, in order; an entry that is not an IPv4 address is
`none`. There are no interfaces where `getifaddrs` fails or is not compiled in, and nothing is resolved
where the resolver throws. -/
structure HostAddresses where
  interfaces : Option (List (Option Ipv4))
  resolved : Option (List (Option Ipv4))

def findInSubnet (subnet : Configuration.Subnet) (addresses : List (Option Ipv4)) : Option Ipv4 :=
  addresses.findSome? fun address => address.filter (·.isIn subnet)

def getLocalEndpoint (subnet : Configuration.Subnet) (host : HostAddresses) : Endpoint :=
  match host.interfaces.bind (findInSubnet subnet) with
  | some address => ⟨address, 8888⟩
  | none =>
      match host.resolved.bind (findInSubnet subnet) with
      | some address => ⟨address, 8888⟩
      | none => ⟨.loopback, 8888⟩

def broadcastEndpoint (subnet : Configuration.Subnet) : Option Endpoint :=
  let text := Nat.toDigits 10 subnet.1.toNat ++ ['.'] ++ Nat.toDigits 10 subnet.2.1.toNat ++ ['.'] ++
    Nat.toDigits 10 subnet.2.2.toNat ++ ['.', '2', '5', '5']
  (makeAddressV4 text).map fun address => ⟨address, 9999⟩

private theorem broadcastEndpoint_eq (subnet : Configuration.Subnet) :
    broadcastEndpoint subnet = some ⟨⟨subnet.1, subnet.2.1, subnet.2.2, 255⟩, 9999⟩ := by
  have htext : Nat.toDigits 10 subnet.1.toNat ++ ['.'] ++ Nat.toDigits 10 subnet.2.1.toNat ++ ['.'] ++
      Nat.toDigits 10 subnet.2.2.toNat ++ ['.', '2', '5', '5'] =
        dottedText [subnet.1, subnet.2.1, subnet.2.2, 255] := by
    have hlast : Nat.toDigits 10 255 = ['2', '5', '5'] := by decide
    simp [dottedText, List.intercalate, hlast]
  rw [broadcastEndpoint, htext, makeAddressV4, readDotted_dottedText (by simp)]
  rfl

def HostAddresses.Has (host : HostAddresses) (subnet : Configuration.Subnet) (address : Ipv4) : Prop :=
  address.isIn subnet = true ∧
    ((∃ addresses, host.interfaces = some addresses ∧ some address ∈ addresses) ∨
      ∃ addresses, host.resolved = some addresses ∧ some address ∈ addresses)

private theorem findInSubnet_eq_some {subnet : Configuration.Subnet}
    {addresses : List (Option Ipv4)}
    {address : Ipv4} (h : findInSubnet subnet addresses = some address) :
    address.isIn subnet = true ∧ some address ∈ addresses := by
  obtain ⟨entry, hmem, hentry⟩ := List.exists_of_findSome?_eq_some h
  obtain ⟨rfl, hin⟩ := Option.filter_eq_some_iff.mp hentry
  exact ⟨hin, hmem⟩

private theorem findInSubnet_eq_none {subnet : Configuration.Subnet}
    {addresses : List (Option Ipv4)}
    (h : findInSubnet subnet addresses = none) {address : Ipv4} (hmem : some address ∈ addresses) :
    address.isIn subnet = false := by
  have hentry := List.findSome?_eq_none_iff.mp h _ hmem
  exact Bool.eq_false_of_not_eq_true fun hin => by simp [Option.filter, hin] at hentry

private theorem getLocalEndpoint_spec (subnet : Configuration.Subnet) (host : HostAddresses) :
    (getLocalEndpoint subnet host).port = 8888 ∧
      (host.Has subnet (getLocalEndpoint subnet host).address ∨
        (getLocalEndpoint subnet host).address = .loopback ∧ ∀ address, ¬ host.Has subnet address) := by
  rw [getLocalEndpoint]
  cases hinterface : host.interfaces.bind (findInSubnet subnet) with
  | some address =>
      obtain ⟨addresses, hlist, hfound⟩ := Option.bind_eq_some_iff.mp hinterface
      obtain ⟨hin, hmem⟩ := findInSubnet_eq_some hfound
      exact ⟨rfl, .inl ⟨hin, .inl ⟨addresses, hlist, hmem⟩⟩⟩
  | none =>
      cases hresolved : host.resolved.bind (findInSubnet subnet) with
      | some address =>
          obtain ⟨addresses, hlist, hfound⟩ := Option.bind_eq_some_iff.mp hresolved
          obtain ⟨hin, hmem⟩ := findInSubnet_eq_some hfound
          exact ⟨rfl, .inl ⟨hin, .inr ⟨addresses, hlist, hmem⟩⟩⟩
      | none =>
          refine ⟨rfl, .inr ⟨rfl, fun address hhas => ?_⟩⟩
          obtain ⟨hin, hlisted⟩ := hhas
          have hnone {found : Option (List (Option Ipv4))} (h : found.bind (findInSubnet subnet) = none)
              {addresses : List (Option Ipv4)} (hlist : found = some addresses)
              (hmem : some address ∈ addresses) : False := by
            rw [hlist, Option.bind_some] at h
            rw [findInSubnet_eq_none h hmem] at hin
            cases hin
          rcases hlisted with ⟨addresses, hlist, hmem⟩ | ⟨addresses, hlist, hmem⟩
          · exact hnone hinterface hlist hmem
          · exact hnone hresolved hlist hmem

def subnetMessage? (packet : Packet) : Option Subnet :=
  if packet.src = 0x7F ∧ packet.pgn = 0xC9 then
    match packet.data with
    | [magic0, magic1, ip0, ip1, ip2] =>
        if magic0 = 0xC9 ∧ magic1 = 0xC9 then some ⟨ip0, ip1, ip2⟩ else none
    | _ => none
  else none

section SingleFrame

variable {packet : Packet} {s : RxLoop Subnet}

private theorem detectAddress_emitted (h : s.Reads (wireFrame packet)) (hindex : s.index = 0)
    (hlen : packet.data.length ≤ 249) :
    (detectAddress s.behindHeader packet.src packet.pgn (UInt8.ofNat packet.data.length)).emitted =
      s.emitted ++ (subnetMessage? packet).toList := by
  obtain ⟨src, pgn, data⟩ := packet
  simp only at hlen ⊢
  have hfive : UInt8.ofNat data.length = 5 ↔ data.length = 5 := by
    rw [← UInt8.toNat_inj, UInt8.toNat_ofNat', Nat.mod_eq_of_lt (by omega)]
    rfl
  by_cases hhead : src = 0x7F ∧ pgn = 0xC9 ∧ data.length = 5
  · obtain ⟨rfl, rfl, hdata⟩ := hhead
    obtain ⟨a, b, c, d, e, rfl⟩ : ∃ a b c d e, data = [a, b, c, d, e] := by
      match data, hdata with
      | [a, b, c, d, e], _ => exact ⟨a, b, c, d, e, rfl⟩
    have hbyte (i : Nat) (hi : i < 11) :
        rxByte s.rxBuffer i = (wireFrame ⟨0x7F, 0xC9, [a, b, c, d, e]⟩).getD i 0 := by
      have hread := h.bytes i (by rw [wireFrame_length]; exact hi)
      rwa [hindex, UInt8.toNat_zero, Nat.zero_add] at hread
    have h5 := hbyte 5 (by decide)
    have h6 := hbyte 6 (by decide)
    have h7 := hbyte 7 (by decide)
    have h8 := hbyte 8 (by decide)
    have h9 := hbyte 9 (by decide)
    simp only [wireFrame, List.cons_append, List.nil_append, List.getD_cons_succ,
      List.getD_cons_zero] at h5 h6 h7 h8 h9
    by_cases ha : a = 0xC9
    · by_cases hb : b = 0xC9
      · simp [detectAddress, subnetMagic, RxLoop.current, RxLoop.advance, RxLoop.behindHeader, hindex, h5,
          h6, h7, h8, h9, ha, hb, subnetMessage?]
      · simp [detectAddress, subnetMagic, RxLoop.current, RxLoop.advance, RxLoop.behindHeader, hindex, h5,
          h6, ha, hb, subnetMessage?]
    · simp [detectAddress, subnetMagic, RxLoop.current, RxLoop.advance, RxLoop.behindHeader, hindex, h5,
        ha, subnetMessage?]
  · have hnone : subnetMessage? ⟨src, pgn, data⟩ = none := by
      rw [subnetMessage?]
      split
      next hsource =>
        simp only
        split
        · exact absurd ⟨hsource.1, hsource.2, rfl⟩ hhead
        · rfl
      next => rfl
    have hother : ¬ (src = 0x7F ∧ pgn = 0xC9 ∧ UInt8.ofNat data.length = 5) := by rwa [hfive]
    rw [hnone, detectAddress, subnetMagic, if_neg hother]
    simp [RxLoop.behindHeader]

private theorem addressLoop_single (rxBuffer : RxBuffer) (hlow : 2 ≤ packet.data.length)
    (hlen : packet.data.length ≤ 249) :
    ∃ t, addressLoop.Exits (RxStatics.receive ⟨rxBuffer, 0⟩ (wireFrame packet)) t ∧
      t.emitted = (subnetMessage? packet).toList ∧ t.rxIndex = 0 := by
  have hframe : (wireFrame packet).length ≤ 512 := by
    rw [wireFrame_length]
    omega
  have hreads : (RxStatics.receive ⟨rxBuffer, 0⟩ (wireFrame packet) : RxLoop Subnet).Reads
      (wireFrame packet) := RxLoop.reads_receive rxBuffer hframe
  have hrx : (RxStatics.receive ⟨rxBuffer, 0⟩ (wireFrame packet) : RxLoop Subnet).rxIndex =
      packet.data.length + 6 := by
    simp [RxStatics.receive, List.take_of_length_le hframe]
  have hindex : (RxStatics.receive ⟨rxBuffer, 0⟩ (wireFrame packet) : RxLoop Subnet).index = 0 := rfl
  have hempty : (RxStatics.receive ⟨rxBuffer, 0⟩ (wireFrame packet) : RxLoop Subnet).emitted = [] := rfl
  generalize (RxStatics.receive ⟨rxBuffer, 0⟩ (wireFrame packet) : RxLoop Subnet) = s
    at hreads hrx hindex hempty ⊢
  have hbyte {k : UInt8} (hk : k.toNat ≤ 5) : s.headerByte k = (wireFrame packet).getD k.toNat 0 :=
    hreads.headerByte hk (by rw [wireFrame_length]; omega)
  have hatFrame : s.AtFrame := ⟨hbyte (by decide), hbyte (by decide)⟩
  have hsrc : s.headerSrc = packet.src := hbyte (by decide)
  have hpgn : s.headerPgn = packet.pgn := hbyte (by decide)
  have hheaderLen : s.headerLen = UInt8.ofNat packet.data.length := hbyte (by decide)
  have hemitted := detectAddress_emitted hreads hindex hlen
  obtain ⟨_, hrx', extra, hcursor, hextra⟩ := detectAddress_stepsOver s.behindHeader packet.src
    packet.pgn (UInt8.ofNat packet.data.length)
  -- the cursor is behind the frame
  have hbehind : packet.data.length + 6 ≤ (detectAddress s.behindHeader packet.src packet.pgn
      (UInt8.ofNat packet.data.length)).index.toNat := by
    have hshort : packet.data.length % 256 = packet.data.length := Nat.mod_eq_of_lt (by omega)
    rw [hcursor, RxLoop.behindHeader_index, hindex]
    rcases hextra with rfl | ⟨hfive, hle⟩
    · simp [hshort]
      omega
    · rw [UInt8.le_iff_toNat_le] at hle
      have hnat := congrArg UInt8.toNat hfive
      simp [hshort] at hnat hle
      simp [hnat]
      omega
  have hguard : addressLoop.guard s = true := by
    simp [addressLoop, hrx]
    omega
  have hbody : addressLoop.body s = { detectAddress s.behindHeader packet.src packet.pgn
      (UInt8.ofNat packet.data.length) with rxIndex := 0 } := by
    refine (RxLoop.iteration_of_atFrame hatFrame).trans ?_
    rw [hsrc, hpgn, hheaderLen, RxLoop.compact, hrx', RxLoop.behindHeader_rxIndex, hrx,
      if_neg (Nat.not_lt_of_le hbehind)]
  refine ⟨addressLoop.body s, .next hguard (.stop ?_), ?_, ?_⟩
  · rw [hbody]
    rfl
  · rw [hbody]
    simp only [hemitted, hempty, List.nil_append]
  · rw [hbody]

end SingleFrame

def Subnet.octets (subnet : Subnet) : Configuration.Subnet := (subnet.ip0, subnet.ip1, subnet.ip2)

structure Answer where
  failures : Failures := {}
  host : HostAddresses
  bindThrows : Bool := false

structure UdpConnections where
  store : Store String
  /-- What `udpConnection` is bound to. -/
  socket : Endpoint
  /-- The statics of `handle_address_detection`. -/
  statics : RxStatics

def AddressReturns (s : RxStatics) (r : Received) (subnets : List Subnet) (s' : RxStatics) : Prop :=
  ∃ fuel, handleAddressDetection fuel s r = some (s', subnets)

namespace UdpConnections

variable (dump : Json → String)

/-- `set_subnet`, whose answer is not looked at, and the new connection; `none` where one of the two
throws. -/
def takeSubnet (s : UdpConnections) (subnet : Subnet) (a : Answer) : Option UdpConnections :=
  let reply := s.store.setSubnet dump a.failures subnet.octets true
  if reply.result = .threw ∨ a.bindThrows = true then none
  else
    some { s with
      store := reply.store
      socket := getLocalEndpoint reply.store.settings.configuredSubnet a.host }

def takeSubnets (s : UdpConnections) (answers : Nat → Answer) (subnets : List Subnet) :
    Option UdpConnections :=
  subnets.zipIdx.foldlM (fun s x => s.takeSubnet dump x.1 (answers x.2)) s

/-- Calls of `handle_address_detection`, one after the other, none of which throws. -/
inductive Detects : UdpConnections → List (Received × (Nat → Answer)) → UdpConnections → Prop
  | nil (s : UdpConnections) : Detects s [] s
  | cons {s t u : UdpConnections} {r : Received} {answers : Nat → Answer} {subnets : List Subnet}
      {statics : RxStatics} {rest : List (Received × (Nat → Answer))}
      (hreturns : AddressReturns s.statics r subnets statics)
      (htake : s.takeSubnets dump answers subnets = some t)
      (hrest : Detects { t with statics := statics } rest u) :
      Detects s ((r, answers) :: rest) u

end UdpConnections

def framesOf (events : List (Packet × Answer)) : List (Received × (Nat → Answer)) :=
  events.map fun e => (.datagram (wireFrame e.1), fun _ => e.2)

/-- The subnet that was announced last, and the addresses that the host then had. -/
def lastAnnounced (events : List (Packet × Answer)) :
    Option (Configuration.Subnet × HostAddresses) :=
  (events.filterMap fun e => (subnetMessage? e.1).map fun subnet => (subnet.octets, e.2.host)).getLast?

structure Follows (s s' : UdpConnections) (announced : Option (Configuration.Subnet × HostAddresses)) :
    Prop where
  subnet : s'.store.settings.configuredSubnet =
    (announced.map (·.1)).getD s.store.settings.configuredSubnet
  socket : s'.socket = (announced.map fun a => getLocalEndpoint a.1 a.2).getD s.socket

/-- Behind an announcement, its subnet is configured, what is sent goes to everybody in it, and the
socket is bound to an address that this machine had in it, or to the loopback address if it had none.
Without one nothing has changed. -/
def UdpConnections.ReachesSubnet (s s' : UdpConnections) :
    Option (Configuration.Subnet × HostAddresses) → Prop
  | none =>
      s'.store.settings.configuredSubnet = s.store.settings.configuredSubnet ∧ s'.socket = s.socket
  | some (subnet, host) =>
      s'.store.settings.configuredSubnet = subnet ∧
        broadcastEndpoint s'.store.settings.configuredSubnet =
          some ⟨⟨subnet.1, subnet.2.1, subnet.2.2, 255⟩, 9999⟩ ∧
        s'.socket.port = 8888 ∧
        (host.Has subnet s'.socket.address ∨
          s'.socket.address = .loopback ∧ ∀ address, ¬ host.Has subnet address)

section Runs

variable {dump : Json → String} {s s' : UdpConnections} {packet : Packet} {a : Answer}
  {rest : List (Received × (Nat → Answer))}

private theorem addressReturns_single (hstatics : s.statics.rxIndex = 0)
    (hlow : 2 ≤ packet.data.length)
    (hhigh : packet.data.length ≤ 249) :
    ∃ statics : RxStatics, statics.rxIndex = 0 ∧ ∀ subnets statics',
      AddressReturns s.statics (.datagram (wireFrame packet)) subnets statics' ↔
        subnets = (subnetMessage? packet).toList ∧ statics' = statics := by
  have hempty : s.statics = ⟨s.statics.rxBuffer, 0⟩ := by rw [← hstatics]
  obtain ⟨t, hexits, hemitted, hrx⟩ := addressLoop_single s.statics.rxBuffer hlow hhigh
  refine ⟨t.statics, hrx, fun subnets statics' => ?_⟩
  rw [hempty, ← hemitted]
  simp only [AddressReturns, handleAddressDetection, handleCall, Option.map_eq_some_iff, Prod.mk.injEq]
  constructor
  · intro h
    obtain ⟨fuel, u, hrun, rfl, rfl⟩ := h
    rw [(WhileLoop.exits_iff_run.mpr ⟨fuel, hrun⟩).unique hexits]
    exact ⟨rfl, rfl⟩
  · intro h
    obtain ⟨rfl, rfl⟩ := h
    obtain ⟨fuel, hrun⟩ := WhileLoop.exits_iff_run.mp hexits
    exact ⟨fuel, t, hrun, rfl, rfl⟩

private theorem takeSubnet_eq_some_iff {subnet : Subnet} {t : UdpConnections} :
    s.takeSubnet dump subnet a = some t ↔
      (a.failures.directoryFails = false ∧ a.bindThrows = false) ∧
        t = { s with
          store := (s.store.setSubnet dump a.failures subnet.octets true).store
          socket := getLocalEndpoint subnet.octets a.host } := by
  have hthrew : (s.store.setSubnet dump a.failures subnet.octets true).result = .threw ↔
      a.failures.directoryFails = true := by
    show (Store.saveFile dump _ a.failures).1 = .threw ↔ _
    rw [Store.saveFile_result, Settings.document?_string]
    cases a.failures.directoryFails with
    | true => simp
    | false => cases a.failures.openFails <;> simp
  have hconfigured : (s.store.setSubnet dump a.failures subnet.octets
      true).store.settings.configuredSubnet = subnet.octets := rfl
  simp only [UdpConnections.takeSubnet, hthrew, hconfigured]
  by_cases hfails : a.failures.directoryFails = true ∨ a.bindThrows = true
  · rw [if_pos hfails]
    refine iff_of_false (fun h => by cases h) fun h => ?_
    rcases hfails with hfails | hfails
    · exact absurd (hfails.symm.trans h.1.1) (by decide)
    · exact absurd (hfails.symm.trans h.1.2) (by decide)
  · rw [if_neg hfails, Option.some.injEq, eq_comm]
    rw [not_or, Bool.not_eq_true, Bool.not_eq_true] at hfails
    exact (and_iff_right hfails).symm

private theorem takeSubnets_single_iff {t : UdpConnections} :
    s.takeSubnets dump (fun _ => a) (subnetMessage? packet).toList = some t ↔
      match subnetMessage? packet with
      | none => t = s
      | some subnet => s.takeSubnet dump subnet a = some t := by
  cases subnetMessage? packet with
  | none => simp [UdpConnections.takeSubnets, eq_comm]
  | some subnet => simp [UdpConnections.takeSubnets]

/-- The event can throw only where it takes over a subnet. -/
def Throws (e : Packet × Answer) : Prop :=
  (subnetMessage? e.1).isSome = true ∧ (e.2.failures.directoryFails = true ∨ e.2.bindThrows = true)

theorem Follows.cons {t : UdpConnections} {e : Packet × Answer} {events : List (Packet × Answer)}
    (hfirst : Follows s t ((subnetMessage? e.1).map fun subnet => (subnet.octets, e.2.host)))
    (hrest : Follows t s' (lastAnnounced events)) : Follows s s' (lastAnnounced (e :: events)) := by
  have hlast : lastAnnounced (e :: events) = (lastAnnounced events).or
      ((subnetMessage? e.1).map fun subnet => (subnet.octets, e.2.host)) := by
    rw [lastAnnounced, lastAnnounced, List.filterMap_cons]
    cases (subnetMessage? e.1).map fun subnet => (subnet.octets, e.2.host) with
    | none => simp
    | some announced =>
        simp only
        rw [List.getLast?_cons]
        cases (events.filterMap fun e => (subnetMessage? e.1).map fun subnet =>
          (subnet.octets, e.2.host)).getLast? <;> rfl
  rw [hlast]
  constructor
  · rw [hrest.subnet, hfirst.subnet]
    cases lastAnnounced events <;> rfl
  · rw [hrest.socket, hfirst.socket]
    cases lastAnnounced events <;> rfl

private theorem detects_framesOf (events : List (Packet × Answer))
    (hlen : ∀ e ∈ events, 2 ≤ e.1.data.length ∧ e.1.data.length ≤ 249)
    (hstatics : s.statics.rxIndex = 0) :
    ((∃ s', s.Detects dump (framesOf events) s') ↔ ∀ e ∈ events, ¬ Throws e) ∧
      ∀ s', s.Detects dump (framesOf events) s' → Follows s s' (lastAnnounced events) := by
  induction events generalizing s with
  | nil =>
      constructor
      · exact iff_of_true ⟨s, .nil s⟩ fun _ h => absurd h List.not_mem_nil
      · intro s' h
        cases h
        exact ⟨rfl, rfl⟩
  | cons e events ih =>
      rw [List.forall_mem_cons] at hlen
      obtain ⟨statics, hempty, hreturns⟩ := addressReturns_single hstatics hlen.1.1 hlen.1.2
      have hstep (u : UdpConnections) : s.Detects dump (framesOf (e :: events)) u ↔
          ∃ t, s.takeSubnets dump (fun _ => e.2) (subnetMessage? e.1).toList = some t ∧
            ({ t with statics := statics } : UdpConnections).Detects dump (framesOf events) u := by
        constructor
        · intro h
          cases h with
          | @cons _ t _ _ _ subnets statics' _ hcall htake hrest =>
              obtain ⟨rfl, rfl⟩ := (hreturns subnets statics').mp hcall
              exact ⟨t, htake, hrest⟩
        · intro h
          obtain ⟨t, htake, hrest⟩ := h
          exact .cons ((hreturns _ _).mpr ⟨rfl, rfl⟩) htake hrest
      simp only [hstep, List.forall_mem_cons, takeSubnets_single_iff]
      cases hmessage : subnetMessage? e.1 with
      | none =>
          obtain ⟨hreturn, hfollows⟩ := @ih { s with statics := statics } hlen.2 hempty
          have hquiet : ¬ Throws e := fun h => by simp [Throws, hmessage] at h
          simp only [exists_eq_left, hquiet, not_false_eq_true, true_and]
          refine ⟨hreturn, fun s' h => Follows.cons ?_ (hfollows s' h)⟩
          rw [hmessage]
          exact ⟨rfl, rfl⟩
      | some subnet =>
          have hthrows : ¬ Throws e ↔
              e.2.failures.directoryFails = false ∧ e.2.bindThrows = false := by
            simp [Throws, hmessage]
          simp only [takeSubnet_eq_some_iff, hthrows]
          obtain ⟨hreturn, hfollows⟩ := @ih { s with
            store := (s.store.setSubnet dump e.2.failures subnet.octets true).store
            socket := getLocalEndpoint subnet.octets e.2.host
            statics := statics } hlen.2 hempty
          constructor
          · rw [← hreturn]
            constructor
            · intro h
              obtain ⟨u, t, ⟨hfine, rfl⟩, hrest⟩ := h
              exact ⟨hfine, u, hrest⟩
            · intro h
              obtain ⟨hfine, u, hrest⟩ := h
              exact ⟨u, _, ⟨hfine, rfl⟩, hrest⟩
          · intro u h
            obtain ⟨t, ⟨_, rfl⟩, hrest⟩ := h
            refine Follows.cons ?_ (hfollows u hrest)
            rw [hmessage]
            exact ⟨rfl, rfl⟩

/-- Over every run of frames of 8 to 255 bytes, one to a datagram, with any failures on the way: the
calls return unless a directory cannot be made or a socket cannot be bound for an announced subnet, and
then the settings and the socket have followed the last announcement, saved or not. -/
theorem subnet_followed (s : UdpConnections) (events : List (Packet × Answer))
    (hlen : ∀ e ∈ events, 2 ≤ e.1.data.length ∧ e.1.data.length ≤ 249)
    (hstatics : s.statics.rxIndex = 0) :
    ((∃ s', s.Detects dump (framesOf events) s') ↔ ∀ e ∈ events, ¬ Throws e) ∧
      ∀ s', s.Detects dump (framesOf events) s' → s.ReachesSubnet s' (lastAnnounced events) := by
  obtain ⟨hreturn, hfollows⟩ := @detects_framesOf dump s events hlen hstatics
  refine ⟨hreturn, fun s' h => ?_⟩
  have hfollow := hfollows s' h
  cases hlast : lastAnnounced events with
  | none =>
      rw [hlast] at hfollow
      exact ⟨hfollow.subnet, hfollow.socket⟩
  | some announced =>
      obtain ⟨subnet, host⟩ := announced
      rw [hlast] at hfollow
      have hsubnet : s'.store.settings.configuredSubnet = subnet := hfollow.subnet
      have hsocket : s'.socket = getLocalEndpoint subnet host := hfollow.socket
      rw [UdpConnections.ReachesSubnet, hsubnet, hsocket]
      exact ⟨rfl, broadcastEndpoint_eq subnet, getLocalEndpoint_spec subnet host⟩

/-- AgIO announces 192.168.1 and then 10.0.0 to a machine with an address in each of them; the
settings cannot be saved the second time. -/
theorem subnet_followed_unsaved :
    let host : HostAddresses :=
      ⟨some [none, some ⟨127, 0, 0, 1⟩, some ⟨192, 168, 1, 7⟩, some ⟨10, 0, 0, 4⟩], none⟩
    let events : List (Packet × Answer) :=
      [(⟨0x7F, 0xC9, [0xC9, 0xC9, 192, 168, 1]⟩, { host := host }),
        (⟨0x7F, 0xC9, [0xC9, 0xC9, 10, 0, 0]⟩, { failures := { openFails := true }, host := host })]
    let s : UdpConnections := ⟨⟨.defaults, {}⟩, ⟨.loopback, 8888⟩, ⟨Vector.replicate 512 0, 0⟩⟩
    ((∃ s', s.Detects (fun _ => "") (framesOf events) s') ↔ ∀ e ∈ events, ¬ Throws e) ∧
      ∀ s', s.Detects (fun _ => "") (framesOf events) s' →
        s.ReachesSubnet s' (lastAnnounced events) := by
  intro host events s
  exact subnet_followed s events (by decide) rfl

end Runs

end AogTaskController.Udp
