import Shadowsocks.Local.UdpRelayRuns
import Shadowsocks.Net.ServerAddr
import Shadowsocks.Net.Socks5RoundTrip

/-! # Front ends of the local UDP service

The SOCKS5 server, the tunnel and the TUN device in front of the associations, and the crate's own
SOCKS5 client.  What the client is given to send is what the service relays, and what it reads back
is what came for it, with the address that it came from (`socks5_end_to_end`).  To a client of the
TUN device a reply comes from the address that it sent to (`tun_replies`).
-/

namespace Shadowsocks.Local

open Shadowsocks.Lib Shadowsocks.Net Shadowsocks.Udp
open Shadowsocks.Net.Socks5 (UdpAssociateHeader)
open Shadowsocks.Net.Address (wireAddr HasPort)
open Shadowsocks.Server (mappedTarget respondAddr)
open Shadowsocks.Tcp.Stream (StreamSuite)

theorem Carries.data {dualStack : Bool} {answers : List Answer} {packet : UdpPacket} {x : Sent}
    (h : Carries dualStack answers packet x) : x.data = packet.data := by
  cases x with
  | bypassed socket addr data => exact h.1
  | proxied socket datagram => exact h.1

/-! ## SOCKS5 -/

/-- The address that a response names: of an IPv4-mapped one the IPv4 address. -/
def namedAddr : Address → Address
  | .socketAddress sa => .socketAddress (respondAddr sa)
  | .domainNameAddress host port => .domainNameAddress host port

/-- `Socks5UdpServer::run` up to the associations, and `Socks5UdpInboundWriter::send_to`. -/
def socks5FrontEnd : FrontEnd Bytes where
  accept datagram :=
    match UdpAssociateHeader.readFrom datagram with
    | (.ready header, payload) =>
      if header.frag ≠ 0 then none else some { target := header.address, data := payload }
    | _ => none
  sendTo _ remoteAddr data :=
    match ({ frag := 0, address := namedAddr remoteAddr } : UdpAssociateHeader).writeToBuf with
    | some header => .ready (header ++ data)
    | none => .panicked

namespace Socks5UdpClient

/-- `Socks5UdpClient::send_to`, up to the datagram; none if it panics. -/
def sendTo (frag : UInt8) (data : Bytes) (target : Address) : Option Bytes :=
  (({ frag := frag, address := target } : UdpAssociateHeader).writeToBuf).map (· ++ data)

/-- `Socks5UdpClient::recv_from`, from the datagram on. -/
def recvFrom (datagram : Bytes) : Polled Socks5.Error (Bytes × UInt8 × Address) :=
  match UdpAssociateHeader.readFrom datagram with
  | (.ready header, payload) => .ready (payload, header.frag, header.address)
  | (.failed e, _) => .failed e
  | (.pending, _) => .pending
  | (.panicked, _) => .panicked

end Socks5UdpClient

/-- The header that is written is read back, and the payload is what follows. -/
theorem readFrom_headed {header : UdpAssociateHeader} (hport : HasPort header.address)
    {bs : Bytes} (hw : header.writeToBuf = some bs) (data : Bytes) :
    UdpAssociateHeader.readFrom (bs ++ data) =
      (.ready { header with address := wireAddr header.address }, data) := by
  obtain ⟨address, haddress, rfl⟩ := Option.map_eq_some_iff.1 hw
  have hwire : (wireAddr header.address).writeToBuf = some address :=
    (Address.writeToBuf_wireAddr _).trans haddress
  exact @UdpAssociateHeader.readFrom_writeToBuf
    { header with address := wireAddr header.address } address
    (Address.wireAddr_portable hport (Address.nameFits_of_writeToBuf haddress)) hwire data

/-- What the client sends is let through as it was sent. -/
theorem accept_sendTo {data datagram : Bytes} {target : Address} (hport : HasPort target)
    (hsent : Socks5UdpClient.sendTo 0 data target = some datagram) :
    socks5FrontEnd.accept datagram =
      some { target := wireAddr target, data := data } := by
  obtain ⟨bs, hw, rfl⟩ := Option.map_eq_some_iff.1 hsent
  have hread := readFrom_headed hport hw data
  unfold socks5FrontEnd
  dsimp only
  rw [hread]
  rfl

/-- Fragments are dropped. -/
theorem accept_fragment {frag : UInt8} (hfrag : frag ≠ 0) {data datagram : Bytes}
    {target : Address} (hport : HasPort target)
    (hsent : Socks5UdpClient.sendTo frag data target = some datagram) :
    socks5FrontEnd.accept datagram = none := by
  obtain ⟨bs, hw, rfl⟩ := Option.map_eq_some_iff.1 hsent
  have hread := readFrom_headed hport hw data
  unfold socks5FrontEnd
  dsimp only
  rw [hread]
  exact if_pos hfrag

theorem namedAddr_hasPort {addr : Address} (h : HasPort addr) :
    HasPort (namedAddr addr) := by
  cases addr with
  | socketAddress sa =>
    cases sa with
    | v4 ip port => exact h
    | v6 ip port flowinfo scopeId =>
      unfold namedAddr respondAddr
      dsimp only
      split <;> exact h
  | domainNameAddress host port => exact h

/-- What is written for the client reads as what came, and where from. -/
theorem recvFrom_written {peerAddr : SocketAddr} {remoteAddr : Address}
    (hport : HasPort remoteAddr) {data datagram : Bytes}
    (hwritten : socks5FrontEnd.sendTo peerAddr remoteAddr data = .ready datagram) :
    Socks5UdpClient.recvFrom datagram =
      .ready (data, 0, wireAddr (namedAddr remoteAddr)) := by
  unfold socks5FrontEnd at hwritten
  dsimp only at hwritten
  split at hwritten
  · next header hw =>
    cases hwritten
    have hread := readFrom_headed (namedAddr_hasPort hport) hw data
    unfold Socks5UdpClient.recvFrom
    rw [hread]
  · cases hwritten

/-! ## The TUN device -/

/-- `etherparse::PacketBuilder`: the packet of a payload, from one address and port to another, if
    it can be written. -/
structure PacketBuilder where
  ipv4 : BitVec 32 × Nat → BitVec 32 × Nat → Bytes → Option Bytes
  ipv6 : BitVec 128 × Nat → BitVec 128 × Nat → Bytes → Option Bytes

/-- `PacketBuilder::write` with `expect`. -/
def expectPacket (packet : Option Bytes) : Polled IoError Bytes :=
  match packet with
  | some packet => .ready packet
  | none => .panicked

/-- The packet from the remote to the peer. -/
def PacketBuilder.packet (builder : PacketBuilder) (peerAddr addr : SocketAddr) (data : Bytes) :
    Polled IoError Bytes :=
  match peerAddr, addr with
  | .v4 peer peerPort, .v4 remote port =>
    expectPacket (builder.ipv4 (remote, port) (peer, peerPort) data)
  | .v6 peer peerPort _ _, .v6 remote port _ _ =>
    expectPacket (builder.ipv6 (remote, port) (peer, peerPort) data)
  | _, _ => .failed (.other "source and destination type unmatch")

/-- The remote address in the family of the peer's. -/
def remoteFor (peerAddr sa : SocketAddr) : Except IoError SocketAddr :=
  match peerAddr, sa with
  | .v4 _ _, .v4 _ _ => .ok sa
  | .v6 _ _ _ _, .v6 _ _ _ _ => .ok sa
  -- an IPv4 peer has sent to an IPv4 address
  | .v4 _ _, .v6 ip port _ _ =>
    match toIpv4Mapped ip with
    | some v4 => .ok (.v4 v4 port)
    | none => .error (.other "source and destination type unmatch")
  | .v6 _ _ _ _, .v4 ip port => .ok (.v6 (toIpv6Mapped ip) port 0 0)

/-- A payload of the device's for an address. -/
structure TunDatagram where
  dstAddr : SocketAddr
  payload : Bytes

/-- `UdpTun::handle_packet` up to the associations, and `UdpTunInboundWriter::send_to`. -/
def tunFrontEnd (builder : PacketBuilder) : FrontEnd TunDatagram where
  accept datagram := some { target := .socketAddress datagram.dstAddr, data := datagram.payload }
  sendTo peerAddr remoteAddr data :=
    match remoteAddr with
    | .socketAddress sa =>
      match remoteFor peerAddr sa with
      | .ok addr => builder.packet peerAddr addr data
      | .error e => .failed e
    | .domainNameAddress _ _ =>
      .failed (.other "tun destination must not be an domain name address")

/-- An address of the peer's family is found again behind a dual-stack socket. -/
theorem remoteFor_mappedTarget {peerAddr dstAddr : SocketAddr}
    (hfamily : dstAddr.isV4 = peerAddr.isV4) (dualStack : Bool) :
    remoteFor peerAddr (mappedTarget dualStack dstAddr) = .ok dstAddr := by
  cases peerAddr with
  | v4 peer peerPort =>
    cases dstAddr with
    | v4 ip port =>
      cases dualStack with
      | false => rfl
      | true =>
        unfold mappedTarget remoteFor
        dsimp only
        rw [toIpv4Mapped_toIpv6Mapped]
    | v6 ip port flowinfo scopeId => cases hfamily
  | v6 peer peerPort peerFlowinfo peerScopeId =>
    cases dstAddr with
    | v4 ip port => cases hfamily
    | v6 ip port flowinfo scopeId => cases dualStack <;> rfl

/-- The address that a datagram goes to. -/
def Sent.remote : Sent → Address
  | .bypassed _ addr _ => .socketAddress addr
  | .proxied _ datagram => datagram.addr

/-- What is sent for a packet with an address goes to it, as it is or mapped. -/
theorem Carries.remote {dualStack : Bool} {answers : List Answer} {packet : UdpPacket} {x : Sent}
    (h : Carries dualStack answers packet x) {dstAddr : SocketAddr}
    (htarget : packet.target = .socketAddress dstAddr) :
    ∃ mapped, x.remote = .socketAddress (mappedTarget mapped dstAddr) := by
  cases x with
  | bypassed socket addr data =>
    obtain ⟨-, sa, hleads, haddr⟩ := h
    rw [htarget] at hleads
    obtain rfl : sa = dstAddr := hleads
    exact ⟨dualStack, congrArg _ haddr⟩
  | proxied socket datagram => exact ⟨false, h.2.trans htarget⟩

/-- What comes from where a packet was sent is written as from the address it was sent to. -/
theorem tun_sendTo {builder : PacketBuilder} {peerAddr dstAddr : SocketAddr}
    (hfamily : dstAddr.isV4 = peerAddr.isV4) (mapped : Bool) (data : Bytes) :
    (tunFrontEnd builder).sendTo peerAddr (.socketAddress (mappedTarget mapped dstAddr)) data =
      builder.packet peerAddr dstAddr data := by
  unfold tunFrontEnd
  dsimp only
  rw [remoteFor_mappedTarget hfamily]

/-! ## Whole runs -/

section Runs

variable [Idna] {K S : Type} (cfg : UdpServiceConfig Bytes) (crypto : CryptoSuite K)
  (suite : StreamSuite S)

/-- All datagrams come from `Socks5UdpClient`s, which are given what to send, and the number of the
    fragment. -/
def FromClients (given : SocketAddr → UInt8 → UdpPacket → Prop) :
    UdpService → UdpServiceEvent Bytes → Prop
  | _, .receive peerAddr datagram _ =>
    ∃ frag packet, given peerAddr frag packet ∧ HasPort packet.target ∧
      Socks5UdpClient.sendTo frag packet.data packet.target = some datagram
  | _, _ => True

/-- **SOCKS5, end to end.** What the service sends for a client the client was given to send as
    fragment 0, and what it answers the client reads as what has come, with the address that it
    came from.  No address has a flow label or a scope on its way. -/
theorem socks5_end_to_end (hfront : cfg.frontEnd = socks5FrontEnd)
    {given : SocketAddr → UInt8 → UdpPacket → Prop} {start : Time} {s : UdpService}
    (h : Reachable (udpServiceStep cfg crypto suite) (FromClients given) (.new cfg start) s) :
    (∀ d ∈ s.dispatched, ∃ packet, given d.peerAddr 0 packet ∧
      d.packet = { target := wireAddr packet.target, data := packet.data } ∧
      ∀ x ∈ d.sent, Carries cfg.dualStack d.answers d.packet x) ∧
    ∀ r ∈ s.responded, HasPort r.respond.addr →
      Socks5UdpClient.recvFrom r.datagram =
        .ready (r.respond.data, 0, wireAddr (namedAddr r.respond.addr)) := by
  have hgiven : ∀ d ∈ s.dispatched, ∃ packet, given d.peerAddr 0 packet ∧
      d.packet = { target := wireAddr packet.target, data := packet.data } := by
    refine dispatched_satisfy (P := fun peerAddr p => ∃ packet, given peerAddr 0 packet ∧
      p = { target := wireAddr packet.target, data := packet.data }) ?_ h
    intro s peerAddr datagram clientSessionId p hfrom hin
    obtain ⟨frag, packet, hgiven, hport, hsent⟩ := hfrom
    rw [hfront] at hin
    -- the front end drops all other fragments
    by_cases hfrag : frag = 0
    · subst hfrag
      rw [accept_sendTo hport hsent] at hin
      exact ⟨packet, hgiven, (Option.some.inj hin).symm⟩
    · rw [accept_fragment hfrag hport hsent] at hin
      cases hin
  constructor
  · intro d hd
    obtain ⟨packet, hpacket, hsame⟩ := hgiven d hd
    exact ⟨packet, hpacket, hsame,
      fun x hx => ((reachable_relays h).dispatched d hd x hx).carries⟩
  · intro r hr hport
    have hwritten := ((reachable_relays h).responded r hr).written
    rw [hfront] at hwritten
    exact recvFrom_written hport hwritten

/-- **The tunnel.** The tunnel sends to its target, or to an address that the resolver has named for
    it, and nowhere else, never an empty datagram, and hands on what comes back as it is. -/
theorem tunnel_forwards {forwardAddr : Address} (hfront : cfg.frontEnd = tunnelFrontEnd forwardAddr)
    {start : Time} {s : UdpService}
    (h : Reachable (udpServiceStep cfg crypto suite) anyStep (.new cfg start) s) :
    (∀ d ∈ s.dispatched, ∀ x ∈ d.sent, x.data ≠ [] ∧
      Carries cfg.dualStack d.answers { target := forwardAddr, data := x.data } x) ∧
    ∀ r ∈ s.responded, r.datagram = r.respond.data := by
  have hrelays : Relays cfg s := reachable_relays h
  have htarget : ∀ d ∈ s.dispatched, d.packet.target = forwardAddr ∧ d.packet.data ≠ [] := by
    refine dispatched_satisfy
      (P := fun _ p => p.target = forwardAddr ∧ p.data ≠ []) ?_ h
    intro s peerAddr datagram clientSessionId p _ hin
    rw [hfront] at hin
    unfold tunnelFrontEnd at hin
    dsimp only at hin
    split at hin
    · cases hin
    · next hne =>
      cases hin
      exact ⟨rfl, hne⟩
  constructor
  · intro d hd x hx
    obtain ⟨hto, hne⟩ := htarget d hd
    have hcarries := (hrelays.dispatched d hd x hx).carries
    have hdata : x.data = d.packet.data := hcarries.data
    refine ⟨hdata ▸ hne, ?_⟩
    rw [hdata, ← hto]
    exact hcarries
  · intro r hr
    have hwritten := (hrelays.responded r hr).written
    rw [hfront] at hwritten
    exact (Polled.ready.inj hwritten).symm

/-- The device's packets are of one family. -/
def FromDevice : UdpService → UdpServiceEvent TunDatagram → Prop
  | _, .receive peerAddr datagram _ => datagram.dstAddr.isV4 = peerAddr.isV4
  | _, _ => True

instance (s : UdpService) (event : UdpServiceEvent TunDatagram) :
    Decidable (FromDevice s event) := by
  cases event <;> unfold FromDevice <;> infer_instance

/-- **The TUN device.** What comes for a client from where a packet of the client's was sent goes to
    the client as a packet from the address that the client had sent to. -/
theorem tun_replies {cfg : UdpServiceConfig TunDatagram} {builder : PacketBuilder}
    (hfront : cfg.frontEnd = tunFrontEnd builder) {start : Time} {s : UdpService}
    (h : Reachable (udpServiceStep cfg crypto suite) FromDevice (.new cfg start) s) :
    ∀ d ∈ s.dispatched, ∃ dstAddr, d.packet.target = .socketAddress dstAddr ∧
      ∀ x ∈ d.sent, x.data = d.packet.data ∧
        (∀ r ∈ s.responded, r.peerAddr = d.peerAddr → r.respond.addr = x.remote →
          builder.packet d.peerAddr dstAddr r.respond.data = .ready r.datagram) ∧
        ∀ event r, receipt crypto suite s event = some r → r.peerAddr = d.peerAddr →
          r.respond.addr = x.remote → ∃ t, udpServiceStep cfg crypto suite s event = some t ∧
            ∀ datagram, builder.packet d.peerAddr dstAddr r.respond.data = .ready datagram →
              t.responded = s.responded ++ [
                { peerAddr := d.peerAddr, socket := r.socket, respond := r.respond
                  datagram := datagram }] := by
  have hrelays : Relays cfg s := reachable_relays h
  have htarget : ∀ d ∈ s.dispatched, ∃ dstAddr, d.packet.target = .socketAddress dstAddr ∧
      dstAddr.isV4 = d.peerAddr.isV4 := by
    refine dispatched_satisfy (P := fun peerAddr p => ∃ dstAddr,
      p.target = .socketAddress dstAddr ∧ dstAddr.isV4 = peerAddr.isV4) ?_ h
    intro s peerAddr datagram clientSessionId p hfamily hin
    rw [hfront] at hin
    obtain rfl := Option.some.inj hin
    exact ⟨datagram.dstAddr, rfl, hfamily⟩
  intro d hd
  obtain ⟨dstAddr, hto, hfamily⟩ := htarget d hd
  refine ⟨dstAddr, hto, fun x hx => ?_⟩
  have hcarries := (hrelays.dispatched d hd x hx).carries
  obtain ⟨mapped, hremote⟩ := hcarries.remote hto
  -- what the target was mapped to is mapped back
  have hsendTo : ∀ data, cfg.frontEnd.sendTo d.peerAddr x.remote data =
      builder.packet d.peerAddr dstAddr data := by
    intro data
    rw [hfront, hremote, tun_sendTo hfamily]
  refine ⟨hcarries.data, fun r hr hpeer hfrom => ?_, fun event r hreceipt hpeer hfrom => ?_⟩
  · have hwritten := (hrelays.responded r hr).written
    rwa [hpeer, hfrom, hsendTo] at hwritten
  · obtain ⟨t, ht⟩ : ∃ t, udpServiceStep cfg crypto suite s event = some t :=
      udpServiceStep_receipt hreceipt
    refine ⟨t, ht, fun datagram hdatagram => ?_⟩
    have hwrites := udpServiceStep_writes hrelays ht
    have hwritten : cfg.frontEnd.sendTo r.peerAddr r.respond.addr r.respond.data =
        .ready datagram := by
      rw [hpeer, hfrom, hsendTo, hdatagram]
    unfold Writes FrontEnd.written at hwrites
    rw [hreceipt, Option.bind_some, hwritten, hpeer] at hwrites
    exact hwrites

end Runs

/-! ## Sample runs -/

def sampleQuestion : UdpPacket := { target := .socketAddress sampleResolver, data := [1] }

/-- Each client sends the question, one of them also as a fragment. -/
def sendsQuestion : UdpService → UdpServiceEvent Bytes → Bool
  | _, .receive _ datagram _ =>
    decide (Socks5UdpClient.sendTo 0 sampleQuestion.data sampleQuestion.target = some datagram) ||
      decide (Socks5UdpClient.sendTo 1 sampleQuestion.data sampleQuestion.target = some datagram)
  | _, _ => true

theorem fromClients_sendsQuestion (s : UdpService) (event : UdpServiceEvent Bytes)
    (h : sendsQuestion s event = true) :
    FromClients (fun _ _ packet => packet = sampleQuestion) s event := by
  cases event with
  | receive peerAddr datagram clientSessionId =>
    have hport : HasPort sampleQuestion.target := show 53 < 2 ^ 16 by decide
    rcases Bool.or_eq_true_iff.1 h with hwhole | hfragment
    · exact ⟨0, sampleQuestion, rfl, hport, of_decide_eq_true hwhole⟩
    · exact ⟨1, sampleQuestion, rfl, hport, of_decide_eq_true hfragment⟩
  | _ => trivial

/-- The datagram of the question, with its header. -/
def sampleDatagram (frag : UInt8) : Bytes :=
  (Socks5UdpClient.sendTo frag sampleQuestion.data sampleQuestion.target).getD []

theorem socks5_end_to_end_sample : ∃ s,
    Reachable (sampleStep socks5FrontEnd) (FromClients fun _ _ packet => packet = sampleQuestion)
      (.new (sampleConfig socks5FrontEnd) (100 * Time.second)) s ∧
    (s.dispatched.map Dispatched.peerAddr, s.responded.map Responded.peerAddr) =
      ([sampleClient, otherClient, sampleClient], [otherClient, sampleClient]) ∧
    (∀ d ∈ s.dispatched, ∃ packet, packet = sampleQuestion ∧
      d.packet = { target := wireAddr packet.target, data := packet.data } ∧
      ∀ x ∈ d.sent, Carries true d.answers d.packet x) ∧
    ∀ r ∈ s.responded, HasPort r.respond.addr →
      Socks5UdpClient.recvFrom r.datagram =
        .ready (r.respond.data, 0, wireAddr (namedAddr r.respond.addr)) := by
  obtain ⟨s, hs, hresponded⟩ : ∃ s,
      (.receive otherClient (sampleDatagram 1) 6 :: questionEvents (sampleDatagram 0)).foldlM
        (fun s e => if sendsQuestion s e = true then sampleStep socks5FrontEnd s e else none)
        (.new (sampleConfig socks5FrontEnd) (100 * Time.second)) = some s ∧
      (s.dispatched.map Dispatched.peerAddr, s.responded.map Responded.peerAddr) =
        ([sampleClient, otherClient, sampleClient], [otherClient, sampleClient]) :=
    Option.map_eq_some_iff.1 (by decide +kernel)
  have hreach := (Reachable.of_checked hs).weaken fromClients_sendsQuestion
  exact ⟨s, hreach, hresponded, @socks5_end_to_end Server.keepNames _ _
    (sampleConfig socks5FrontEnd) CryptoSuite.transparent StreamSuite.transparent rfl _ _ s hreach⟩

theorem tunnel_forwards_sample : ∃ s, sampleTunnelRun = some s ∧
    s.responded.map Responded.datagram = [[3], [2]] ∧
    (∀ d ∈ s.dispatched, ∀ x ∈ d.sent, x.data ≠ [] ∧
      Carries true d.answers { target := sampleForward, data := x.data } x) ∧
    ∀ r ∈ s.responded, r.datagram = r.respond.data := by
  obtain ⟨s, hs, hresponded⟩ : ∃ s, sampleTunnelRun = some s ∧
      s.responded.map Responded.datagram = [[3], [2]] :=
    Option.map_eq_some_iff.1 (by decide +kernel)
  exact ⟨s, hs, hresponded, @tunnel_forwards Server.keepNames _ _
    (sampleConfig (tunnelFrontEnd sampleForward)) CryptoSuite.transparent
    StreamSuite.transparent sampleForward rfl _ s (.of_run hs)⟩

/-- A builder that writes the ports and the payload. -/
def portBuilder : PacketBuilder where
  ipv4 remote peer data := some (remote.2.toUInt8 :: peer.2.toUInt8 :: data)
  ipv6 remote peer data := some (remote.2.toUInt8 :: peer.2.toUInt8 :: data)

def sampleTunConfig : UdpServiceConfig TunDatagram :=
  { frontEnd := tunFrontEnd portBuilder, dualStack := true, ipv6First := false
    timeToLive := 300 * Time.second, capacity := none }

def sampleTunStep : UdpService → UdpServiceEvent TunDatagram → Option UdpService :=
  @udpServiceStep _ _ _ sampleTunConfig CryptoSuite.transparent StreamSuite.transparent
    Server.keepNames

/-- Two clients of the device send, and one of them is answered. -/
def sampleTunEvents : List (UdpServiceEvent TunDatagram) :=
  [.receive sampleClient ⟨sampleResolver, [1]⟩ 7, .receive otherClient ⟨sampleResolver, [1]⟩ 8,
    .dispatch otherClient sampleOutside, .dispatch sampleClient sampleOutside,
    .receiveBypassed sampleClient .ipv6 (.ok (mappedTarget true sampleResolver, [2]))]

/-- The answer to the other client comes next. -/
theorem tun_replies_sample : ∃ s,
    Reachable sampleTunStep FromDevice (.new sampleTunConfig (100 * Time.second)) s ∧
    (s.dispatched.map Dispatched.peerAddr, s.responded.map Responded.datagram) =
      ([otherClient, sampleClient], [[53, 232, 2]]) ∧
    ∀ d ∈ s.dispatched, ∃ dstAddr, d.packet.target = .socketAddress dstAddr ∧
      ∀ x ∈ d.sent, x.data = d.packet.data ∧
        (∀ r ∈ s.responded, r.peerAddr = d.peerAddr → r.respond.addr = x.remote →
          portBuilder.packet d.peerAddr dstAddr r.respond.data = .ready r.datagram) ∧
        ∀ event r, receipt CryptoSuite.transparent StreamSuite.transparent s event = some r →
          r.peerAddr = d.peerAddr → r.respond.addr = x.remote →
          ∃ t, sampleTunStep s event = some t ∧
            ∀ datagram, portBuilder.packet d.peerAddr dstAddr r.respond.data = .ready datagram →
              t.responded = s.responded ++ [
                { peerAddr := d.peerAddr, socket := r.socket, respond := r.respond
                  datagram := datagram }] := by
  obtain ⟨s, hs, hresponded⟩ : ∃ s, sampleTunEvents.foldlM
      (fun s e => if decide (FromDevice s e) = true then sampleTunStep s e else none)
      (.new sampleTunConfig (100 * Time.second)) = some s ∧
      (s.dispatched.map Dispatched.peerAddr, s.responded.map Responded.datagram) =
        ([otherClient, sampleClient], [[53, 232, 2]]) :=
    Option.map_eq_some_iff.1 (by decide +kernel)
  have hreach := (Reachable.of_checked hs).weaken fun _ _ h => of_decide_eq_true h
  exact ⟨s, hreach, hresponded, @tun_replies Server.keepNames _ _ CryptoSuite.transparent
    StreamSuite.transparent sampleTunConfig portBuilder rfl _ s hreach⟩

end Shadowsocks.Local
