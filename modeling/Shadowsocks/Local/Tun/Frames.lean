import Shadowsocks.Config
import Shadowsocks.Local.Tun.TcpRuns
import Shadowsocks.Net.Address

/-! # Frames of a TUN device

A frame with a SYN opens a connection and a relay for it.  The SYN is looked at before smoltcp sees
it, so one that is sent again opens another connection: there is one relay for each flow exactly as
long as no SYN comes for a flow that has one (`oneRelay_iff`).
-/

namespace Shadowsocks.Local.Tun

open Shadowsocks.Lib Shadowsocks.Net

/-! ### Packets -/

inductive IpProtocol where
  | tcp
  | udp
  | icmp
  | icmpv6
  | other (code : UInt8)
deriving DecidableEq, Repr

structure IpPacket where
  srcAddr : IpAddr
  dstAddr : IpAddr
  protocol : IpProtocol
  payload : Bytes
deriving DecidableEq, Repr

structure TcpPacket where
  srcPort : Nat
  dstPort : Nat
  syn : Bool
  ack : Bool
deriving DecidableEq, Repr

/-- What smoltcp reads of a frame and of the payload of a packet. -/
structure SmoltcpWire where
  ipPacket : Bytes → Except String (Option IpPacket)
  tcpPacket : Bytes → Except String TcpPacket

/-- `SocketAddr::new`. -/
def socketAddr (ip : IpAddr) (port : Nat) : SocketAddr :=
  match ip with
  | .v4 ip => .v4 ip port
  | .v6 ip => .v6 ip port 0 0

/-- The address of no single host: broadcast, multicast or unspecified. -/
def nonUnicast (deviceBroadcastAddr : BitVec 32) : IpAddr → Bool
  | .v4 ip => ip = 0xffffffff#32 || ip >>> 28 = 0xe#32 || ip = 0#32 || ip = deviceBroadcastAddr
  | .v6 ip => ip >>> 120 = 0xff#128 || ip = 0#128

/-! ### The device -/

/-- A connection with the task that relays it. -/
structure Relay (S R : Type) where
  srcAddr : SocketAddr
  dstAddr : SocketAddr
  connection : Connection S R
  /-- The task still has its `TcpConnection`. -/
  running : Bool

namespace Relay

variable {S R : Type}

def flow (relay : Relay S R) : SocketAddr × SocketAddr := (relay.srcAddr, relay.dstAddr)

/-- The `TcpConnection` exists and has not been closed. -/
def isOpen (relay : Relay S R) : Bool := relay.running && relay.connection.managed

end Relay

/-- The device as far as TCP goes, with the options of its sockets. -/
structure TcpTun (S : Type) where
  wire : SmoltcpWire
  mode : Config.Mode
  deviceBroadcastAddr : BitVec 32
  sendBufferSize : Option Nat
  recvBufferSize : Option Nat
  /-- A new socket that listens on the address. -/
  listen : SocketAddr → Except String S

def defaultTcpSendBufferSize : Nat := 0x3fff * 20
def defaultTcpRecvBufferSize : Nat := 0x3fff * 20

namespace TcpTun

variable {S R ι : Type} [RingBuffer R UInt8] (tun : TcpTun S)

/-- `TcpTun::handle_packet`. -/
def handlePacket (srcAddr dstAddr : SocketAddr) (tcpPacket : TcpPacket)
    (relays : List (Relay S R)) : Except String Unit × List (Relay S R) :=
  -- TCP first handshake packet, create a new Connection
  if tcpPacket.syn && !tcpPacket.ack then
    match tun.listen dstAddr with
    | .error err => (.error ("listen error: " ++ err), relays)
    | .ok socket =>
      let connection := Connection.new socket (tun.sendBufferSize.getD defaultTcpSendBufferSize)
        (tun.recvBufferSize.getD defaultTcpRecvBufferSize)
      (.ok (), relays ++ [{ srcAddr, dstAddr, connection, running := true }])
  else (.ok (), relays)

/-- `handle_tun_frame`.  Where the frame goes on to the interface, smoltcp sees it when the manager
    polls next. -/
def handleTunFrame (frame : Bytes) (relays : List (Relay S R)) :
    Except String Unit × List (Relay S R) :=
  match tun.wire.ipPacket frame with
  | .error err => (.error err, relays)
  | .ok none => (.ok (), relays)
  | .ok (some packet) =>
    if nonUnicast tun.deviceBroadcastAddr packet.srcAddr ||
        nonUnicast tun.deviceBroadcastAddr packet.dstAddr then (.ok (), relays)
    else
      match packet.protocol with
      | .tcp =>
        if !tun.mode.enableTcp then (.ok (), relays)
        else
          match tun.wire.tcpPacket packet.payload with
          | .error _ => (.ok (), relays)
          | .ok tcpPacket =>
            -- an error is logged
            (.ok (), (tun.handlePacket (socketAddr packet.srcAddr tcpPacket.srcPort)
              (socketAddr packet.dstAddr tcpPacket.dstPort) tcpPacket relays).2)
      | .udp | .icmp | .icmpv6 | .other _ => (.ok (), relays)

/-- The flow of a frame that opens a connection, with the socket of it. -/
def opens (frame : Bytes) : Option ((SocketAddr × SocketAddr) × S) :=
  match tun.wire.ipPacket frame with
  | .ok (some packet) =>
    if nonUnicast tun.deviceBroadcastAddr packet.srcAddr ||
        nonUnicast tun.deviceBroadcastAddr packet.dstAddr then none
    else if packet.protocol = .tcp ∧ tun.mode.enableTcp = true then
      match tun.wire.tcpPacket packet.payload with
      | .error _ => none
      | .ok tcpPacket =>
        let dstAddr := socketAddr packet.dstAddr tcpPacket.dstPort
        if tcpPacket.syn && !tcpPacket.ack then
          match tun.listen dstAddr with
          | .error _ => none
          | .ok socket => some ((socketAddr packet.srcAddr tcpPacket.srcPort, dstAddr), socket)
        else none
    else none
  | _ => none

/-- The relay of a new connection. -/
def newRelay (flow : SocketAddr × SocketAddr) (socket : S) : Relay S R :=
  { srcAddr := flow.1, dstAddr := flow.2
    connection := Connection.new socket (tun.sendBufferSize.getD defaultTcpSendBufferSize)
      (tun.recvBufferSize.getD defaultTcpRecvBufferSize)
    running := true }

/-- What a frame does to the relays. -/
theorem handleTunFrame_eq (frame : Bytes) (relays : List (Relay S R)) :
    (tun.handleTunFrame frame relays).2 =
      match tun.opens frame with
      | some (flow, socket) => relays ++ [tun.newRelay flow socket]
      | none => relays := by
  unfold handleTunFrame opens
  cases tun.wire.ipPacket frame with
  | error err => rfl
  | ok packet =>
    cases packet with
    | none => rfl
    | some packet =>
      dsimp only
      split
      · rfl
      · cases hprotocol : packet.protocol with
        | tcp =>
          cases tun.mode.enableTcp with
          | false => rfl
          | true =>
            dsimp only
            rw [if_neg (by decide), if_pos ⟨rfl, rfl⟩]
            cases tun.wire.tcpPacket packet.payload with
            | error err => rfl
            | ok tcpPacket =>
              dsimp only
              unfold handlePacket
              split
              · cases tun.listen (socketAddr packet.dstAddr tcpPacket.dstPort) with
                | error err => rfl
                | ok socket => rfl
              · rfl
        | udp | icmp | icmpv6 | other => rfl

end TcpTun

/-! ### Relays -/

/-- A socket that was found closed does not come back. -/
theorem Connection.managed_of_step {S R ι : Type} [RingBuffer R UInt8] (smol : Smoltcp S ι)
    {c : Connection S R} {event : Event ι} (h : (c.step smol event).managed = true) : c.managed = true := by
  cases event with
  | pollRead | pollWrite | pollShutdown | drop => exact h
  | iterate i =>
    by_contra hmanaged
    have hsame : c.step smol (.iterate i) = c := iterate_unmanaged smol hmanaged
    rw [hsame] at h
    exact hmanaged h

namespace Relay

variable {S R ι : Type} [RingBuffer R UInt8] (smol : Smoltcp S ι)

/-- The manager may always come to the socket; the task does something only as long as it runs. -/
def enabled (relay : Relay S R) : Event ι → Bool
  | .iterate _ => true
  | _ => relay.running

def endsTask : Event ι → Bool
  | .drop => true
  | _ => false

def step (relay : Relay S R) (event : Event ι) : Relay S R :=
  if relay.enabled event then
    { relay with
      connection := relay.connection.step smol event
      running := relay.running && !endsTask event }
  else relay

theorem step_flow (relay : Relay S R) (event : Event ι) :
    (relay.step smol event).flow = relay.flow := by
  unfold step
  split
  · rfl
  · rfl

/-- What is closed stays closed. -/
theorem isOpen_of_step {relay : Relay S R} {event : Event ι}
    (h : (relay.step smol event).isOpen = true) : relay.isOpen = true := by
  unfold step at h
  split at h
  · obtain ⟨hrunning, hmanaged⟩ := Bool.and_eq_true_iff.1 h
    exact Bool.and_eq_true_iff.2
      ⟨(Bool.and_eq_true_iff.1 hrunning).1, Connection.managed_of_step smol hmanaged⟩
  · exact h

end Relay

/-! ### Runs -/

/-- A frame comes, or something happens to a connection. -/
inductive TunEvent (ι : Type) where
  | frame (frame : Bytes)
  | connection (i : Nat) (event : Event ι)

namespace TcpTun

variable {S R ι : Type} [RingBuffer R UInt8] (tun : TcpTun S) (smol : Smoltcp S ι)

def step (relays : List (Relay S R)) : TunEvent ι → List (Relay S R)
  | .frame frame => (tun.handleTunFrame frame relays).2
  | .connection i event => relays.modify i fun relay => relay.step smol event

/-- The relays after the events, of which there were none before. -/
def run (events : List (TunEvent ι)) : List (Relay S R) := events.foldl (tun.step smol) []

theorem run_append_singleton (events : List (TunEvent ι)) (event : TunEvent ι) :
    (tun.run smol (events ++ [event]) : List (Relay S R)) =
      tun.step smol (tun.run smol events) event :=
  List.foldl_concat ..

end TcpTun

section OpenFlows

variable {S R ι : Type} [RingBuffer R UInt8]

/-- The flows of the connections that are open, once for each. -/
def openFlows (relays : List (Relay S R)) : List (SocketAddr × SocketAddr) :=
  (relays.filter Relay.isOpen).map Relay.flow

/-- No flow has two open connections. -/
def OneRelay (relays : List (Relay S R)) : Prop := (openFlows relays).Nodup

theorem openFlows_append_new (tun : TcpTun S) (relays : List (Relay S R))
    (flow : SocketAddr × SocketAddr) (socket : S) :
    openFlows (relays ++ [tun.newRelay flow socket]) = openFlows relays ++ [flow] := by
  unfold openFlows
  rw [List.filter_append, List.map_append]
  rfl

/-- Something that happens to a connection opens none. -/
theorem openFlows_modify_sublist (smol : Smoltcp S ι) (event : Event ι) (relays : List (Relay S R))
    (i : Nat) :
    (openFlows (relays.modify i fun relay => relay.step smol event)).Sublist (openFlows relays) := by
  have hcons : ∀ (relay : Relay S R) (rest : List (Relay S R)), openFlows (relay :: rest) =
      if relay.isOpen then relay.flow :: openFlows rest else openFlows rest := by
    intro relay rest
    unfold openFlows
    rw [List.filter_cons]
    split
    · rfl
    · rfl
  induction relays generalizing i with
  | nil => cases i <;> exact List.Sublist.refl _
  | cons relay relays ih =>
    cases i with
    | zero =>
      rw [List.modify_zero_cons, hcons, hcons, Relay.step_flow]
      by_cases hopen : (relay.step smol event).isOpen = true
      · rw [if_pos hopen, if_pos (Relay.isOpen_of_step smol hopen)]
      · rw [if_neg hopen]
        split
        · exact List.sublist_cons_self _ _
        · exact List.Sublist.refl _
    | succ i =>
      rw [List.modify_succ_cons, hcons, hcons]
      split
      · exact (ih i).cons_cons _
      · exact ih i

end OpenFlows

namespace TcpTun

variable {S R ι : Type} [RingBuffer R UInt8] (tun : TcpTun S) (smol : Smoltcp S ι)

/-- The event opens no connection for a flow that has an open one. -/
def OpensNew (relays : List (Relay S R)) : TunEvent ι → Prop
  | .frame frame => ∀ flow socket, tun.opens frame = some (flow, socket) → flow ∉ openFlows relays
  | .connection _ _ => True

/-- A step keeps the flows apart exactly if it opens no connection for a flow that has one. -/
theorem step_oneRelay_iff {relays : List (Relay S R)} (h : OneRelay relays) (event : TunEvent ι) :
    OneRelay (tun.step smol relays event) ↔ tun.OpensNew relays event := by
  cases event with
  | connection i event =>
    exact iff_of_true ((openFlows_modify_sublist smol event relays i).nodup h) trivial
  | frame frame =>
    unfold step OpensNew
    dsimp only
    rw [handleTunFrame_eq]
    cases hopens : tun.opens frame with
    | none => exact iff_of_true h fun _ _ hsome => (nomatch hsome)
    | some opened =>
      obtain ⟨flow, socket⟩ := opened
      dsimp only
      unfold OneRelay
      rw [openFlows_append_new, List.nodup_append]
      constructor
      · rintro ⟨-, -, hdisjoint⟩ _ _ heq hmem
        cases heq
        exact hdisjoint flow hmem flow (List.mem_singleton.2 rfl) rfl
      · intro hnew
        refine ⟨h, List.nodup_singleton flow, fun other hother flow' hflow' heq => ?_⟩
        rw [heq, List.mem_singleton.1 hflow'] at hother
        exact hnew flow socket rfl hother

/-- **One relay for each flow.**  In no state of a run are there two open connections of one flow
    exactly if no SYN that opens a connection comes for a flow that has an open one. -/
theorem oneRelay_iff (events : List (TunEvent ι)) :
    (∀ earlier, earlier <+: events → OneRelay (tun.run smol earlier : List (Relay S R))) ↔
      ∀ earlier event, earlier ++ [event] <+: events →
        tun.OpensNew (tun.run smol earlier : List (Relay S R)) event := by
  constructor
  · intro h earlier event hle
    have hearlier := h earlier ((List.prefix_append earlier [event]).trans hle)
    have hlater := h _ hle
    rw [run_append_singleton] at hlater
    exact (tun.step_oneRelay_iff smol hearlier event).1 hlater
  · intro h earlier
    induction earlier using List.reverseRecOn with
    | nil => exact fun _ => List.nodup_nil
    | append_singleton earlier event ih =>
      intro hle
      rw [run_append_singleton]
      have hearlier := ih ((List.prefix_append earlier [event]).trans hle)
      exact (tun.step_oneRelay_iff smol hearlier event).2 (h earlier event hle)

end TcpTun

/-! ### A SYN that is sent again -/

/-- From 10.0.0.2:40000 to 1.2.3.4:80. -/
def synFrame : Bytes :=
  [0x45, 0x00, 0x00, 0x28, 0x00, 0x01, 0x00, 0x00, 0x40, 0x06, 0x6c, 0xc8, 0x0a, 0x00, 0x00, 0x02,
    0x01, 0x02, 0x03, 0x04, 0x9c, 0x40, 0x00, 0x50, 0x00, 0x00, 0x00, 0x01, 0x00, 0x00, 0x00, 0x00,
    0x50, 0x02, 0xff, 0xff, 0x05, 0x4a, 0x00, 0x00]

/-- A device that knows this frame. -/
def synTun : TcpTun Connection.Buffers where
  wire :=
    { ipPacket := fun frame =>
        if frame = synFrame then
          .ok (some { srcAddr := .v4 0x0a000002, dstAddr := .v4 0x01020304, protocol := .tcp,
                      payload := frame.drop 20 })
        else .error "malformed"
      tcpPacket := fun payload =>
        if payload = synFrame.drop 20 then
          .ok { srcPort := 40000, dstPort := 80, syn := true, ack := false }
        else .error "malformed" }
  mode := .tcpOnly
  deviceBroadcastAddr := 0x0a0000ff
  sendBufferSize := none
  recvBufferSize := none
  listen := fun _ => .ok ⟨.listen, .empty 8, .empty 8⟩

/-- The relays after the frame has come twice. -/
def relayedTwice : List (Relay Connection.Buffers (BoundedQueue UInt8)) :=
  synTun.run Connection.buffered [.frame synFrame, .frame synFrame]

/-- The SYN is sent again before it is answered, and the flow has two relays. -/
theorem two_relays :
    openFlows relayedTwice =
        [(.v4 0x0a000002 40000, .v4 0x01020304 80), (.v4 0x0a000002 40000, .v4 0x01020304 80)] ∧
      ¬OneRelay relayedTwice := by
  have hflows : openFlows relayedTwice =
      [(.v4 0x0a000002 40000, .v4 0x01020304 80), (.v4 0x0a000002 40000, .v4 0x01020304 80)] := by
    decide
  refine ⟨hflows, ?_⟩
  unfold OneRelay
  rw [hflows]
  decide

end Shadowsocks.Local.Tun
