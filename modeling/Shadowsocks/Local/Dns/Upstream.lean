import Shadowsocks.Local.Dns.Message
import Shadowsocks.Net.Socks5RoundTrip
import Shadowsocks.Udp.CryptoIo
import Shadowsocks.Udp.RoundTrip

/-! # DNS clients

A client is connected to a name server, some of them through a shadowsocks server.  What a client
with a datagram socket through a server receives is a sealed packet, in the buffer that the message
is read from.

`S` are the configurations of shadowsocks servers.
-/

namespace Shadowsocks.Local.Dns

open Shadowsocks.Lib Shadowsocks.Net Shadowsocks.Udp
open Shadowsocks.Tcp.Stream (StreamSuite)

/-- A client, by what it is connected to and through which server. -/
inductive DnsClient (S : Type) where
  | tcpLocal (ns : SocketAddr)
  | udpLocal (ns : SocketAddr)
  | tcpRemote (svrCfg : S) (ns : Address)
  | udpRemote (svrCfg : S) (ns : Address)
deriving DecidableEq, Repr

/-- The ciphers, and the method and the key of each server.  Opening inverts sealing. -/
class ProxyServers (S : Type) where
  Aead : Type
  crypto : CryptoSuite Aead
  Stream : Type
  suite : StreamSuite Stream
  method : S → CipherKind
  key : S → Bytes
  inverts (svrCfg : S) : (method svrCfg).category = .stream →
    CryptoIo.Inverts suite (method svrCfg)
  correct (svrCfg : S) : (method svrCfg).category = .aead →
    (crypto.scheme (method svrCfg)).Correct
  udpCorrect (svrCfg : S) : (method svrCfg).category = .aead2022 →
    (crypto.udpScheme (method svrCfg)).Correct
  blockCorrect : crypto.BlockCorrect

variable {S : Type}

namespace DnsClient

def isUdp : DnsClient S → Bool
  | tcpLocal _ => false
  | udpLocal _ => true
  | tcpRemote _ _ => false
  | udpRemote _ _ => true

/-- The server that it is connected through. -/
def svrCfg : DnsClient S → Option S
  | tcpLocal _ => none
  | udpLocal _ => none
  | tcpRemote svrCfg _ => some svrCfg
  | udpRemote svrCfg _ => some svrCfg

end DnsClient

/-! ## Packets -/

section Packets

variable [ProxyServers S]

/-- What a server seals a reply with, besides its key. -/
structure Sealing where
  sealedAt : Time
  addr : SocketAddr
  control : UdpSocketControlData
  nonce : Bytes
  padding : Bytes

/-- The nonce has the length that the method wants. -/
def nonceFits (svrCfg : S) (nonce : Bytes) : Bool :=
  let method := ProxyServers.method svrCfg
  match method.category with
  | .none => true
  | .stream => nonce.length = (ProxyServers.suite (S := S)).ivLen method
  | .aead => nonce.length = (ProxyServers.crypto (S := S)).saltLen method
  | .aead2022 => (ProxyServers.crypto (S := S)).nonceLen method ≤ nonce.length

namespace Sealing

/-- The numbers are in the range of their types. -/
def fits (s : Sealing) : Bool :=
  s.sealedAt.unixSecs < 2 ^ 64 && (Address.socketAddress s.addr).HasPort && s.padding.length < 2 ^ 16 &&
    s.control.clientSessionId < 2 ^ 64 && s.control.serverSessionId < 2 ^ 64 &&
      s.control.packetId < 2 ^ 64

/-- The packet of a reply, from the server of the configuration. -/
def packet (svrCfg : S) (s : Sealing) (reply : Bytes) : Option Bytes :=
  let method := ProxyServers.method svrCfg
  let key := ProxyServers.key svrCfg
  let addr := Address.socketAddress s.addr
  CryptoIo.encryptServerPayload (ProxyServers.crypto (S := S)) (ProxyServers.suite (S := S)) method
    (Aead2022.encryptServerPayload (ProxyServers.crypto (S := S)) method s.sealedAt key addr s.control reply
      s.nonce s.padding)
    key addr reply s.nonce []

end Sealing

/-- `MonProxySocket::recv`, on what has been received into its buffer. -/
def recv (svrCfg : S) (now : Time) :
    PollM Bytes CryptoIo.ProtocolError CryptoIo.Opened :=
  let method := ProxyServers.method svrCfg
  let key := ProxyServers.key svrCfg
  CryptoIo.decryptServerPayload (ProxyServers.crypto (S := S)) (ProxyServers.suite (S := S)) method
    (CryptoIo.decryptServerPayloadAead2022 (ProxyServers.crypto (S := S)) method now key) key

namespace DnsClient

/-- The datagram that a reply comes in. -/
def datagram (client : DnsClient S) (sealing : Sealing) (reply : Bytes) : Option Bytes :=
  match client with
  | udpRemote svrCfg _ =>
    if sealing.fits && nonceFits svrCfg sealing.nonce then sealing.packet svrCfg reply else none
  | _ => some reply

/-- What is read as a message, after a datagram was received.  There is nothing to read where it
    was not opened, because of an error or a panic. -/
def opened (client : DnsClient S) (now : Time) (received : Bytes) : Option Bytes :=
  match client with
  | udpRemote svrCfg _ =>
    match recv svrCfg now received with
    | (.ready (n, _, _), buf) => some (buf.take n)
    | _ => none
  | _ => some received

end DnsClient

/-! ## A packet opens to its reply -/

variable {svrCfg : S} {s : Sealing} {reply packet buf : Bytes} {now : Time} {n : Nat}
  {addr : Address} {control : Option UdpSocketControlData}

/-- The address of a packet as the wire carries it, without flow and scope. -/
theorem Sealing.writesAddr (hport : (Address.socketAddress s.addr).HasPort) :
    ∃ address, (Address.wireAddr (.socketAddress s.addr)).IsPortable ∧
      (Address.wireAddr (.socketAddress s.addr)).writeToBuf = some address ∧
        (Address.socketAddress s.addr).writeToBuf = some address := by
  have hportable := Address.wireAddr_portable hport trivial
  obtain ⟨address, hw⟩ := Address.writeToBuf_isSome hportable
  exact ⟨address, hportable, hw, (Address.writeToBuf_wireAddr _).symm.trans hw⟩

/-- A packet of an AEAD-2022 method that arrives in time opens to its reply; a late one does not
    open. -/
theorem recv_packet_aead2022 (h2022 : (ProxyServers.method svrCfg).category = .aead2022)
    (hfits : s.fits = true) (hnonce : nonceFits svrCfg s.nonce = true)
    (hpacket : s.packet svrCfg reply = some packet)
    (hrecv : recv svrCfg now packet = (.ready (n, addr, control), buf)) : buf.take n = reply := by
  simp only [Sealing.fits, Bool.and_eq_true, decide_eq_true_eq] at hfits
  obtain ⟨⟨⟨⟨⟨htime, hport⟩, hpad⟩, hclient⟩, hserver⟩, hid⟩ := hfits
  obtain ⟨address, haddr, hw, hw'⟩ := Sealing.writesAddr hport
  have hmethod : (ProxyServers.method svrCfg).isAead2022 = true := by
    rw [CipherKind.isAead2022, h2022]
    rfl
  have hnonceLen : (ProxyServers.crypto (S := S)).nonceLen (ProxyServers.method svrCfg) ≤
      s.nonce.length := by
    simpa only [nonceFits, h2022, decide_eq_true_eq] using hnonce
  obtain ⟨packet', hsealed, hopened⟩ := Aead2022.serverPayload_sealed hmethod
    (ProxyServers.blockCorrect (S := S)) (ProxyServers.udpCorrect svrCfg h2022) s.sealedAt hw' hserver
    hnonceLen (ProxyServers.key svrCfg) reply
  unfold Sealing.packet CryptoIo.encryptServerPayload at hpacket
  simp only [h2022] at hpacket
  obtain rfl := Option.some.inj (hsealed.symm.trans hpacket)
  simp only [recv, CryptoIo.decryptServerPayload, h2022, PollM.mapErr,
    CryptoIo.decryptServerPayloadAead2022, hopened now] at hrecv
  by_cases hrange : absDiff now.unixSecs s.sealedAt.unixSecs ≤ Aead2022.serverPacketTimestampMaxDiff
  · rw [Aead2022.readServerPacket_sealed hrange htime haddr hw hpad ⟨hclient, hserver, hid⟩] at hrecv
    cases hrecv
    exact List.take_left
  · rw [Aead2022.readServerPacket_stale (Nat.lt_of_not_le hrange) htime ⟨hclient, hserver, hid⟩] at hrecv
    cases hrecv

/-- A packet of an older method opens to its reply. -/
theorem recv_packet_legacy (hlegacy : (ProxyServers.method svrCfg).category ≠ .aead2022)
    (hfits : s.fits = true) (hnonce : nonceFits svrCfg s.nonce = true)
    (hpacket : s.packet svrCfg reply = some packet)
    (hrecv : recv svrCfg now packet = (.ready (n, addr, control), buf)) : buf.take n = reply := by
  simp only [Sealing.fits, Bool.and_eq_true, decide_eq_true_eq] at hfits
  obtain ⟨address, haddr, hw, hw'⟩ := Sealing.writesAddr hfits.1.1.1.1.2
  unfold Sealing.packet at hpacket
  dsimp only at hpacket
  rw [CryptoIo.encryptServerPayload_congr (hw'.trans hw.symm)] at hpacket
  obtain ⟨packet', buf', hsealed, hopened, htake⟩ := CryptoIo.serverPayload_sealed hlegacy
    (ProxyServers.inverts svrCfg) (ProxyServers.correct svrCfg) haddr hw (ProxyServers.key svrCfg)
    reply (fun h => by simpa only [nonceFits, h, decide_eq_true_eq] using hnonce)
    (fun h => by simpa only [nonceFits, h, decide_eq_true_eq] using hnonce) _
    (CryptoIo.decryptServerPayloadAead2022 (ProxyServers.crypto (S := S))
      (ProxyServers.method svrCfg) now (ProxyServers.key svrCfg))
  obtain rfl := Option.some.inj (hsealed.symm.trans hpacket)
  cases hopened.symm.trans hrecv
  exact htake

/-- What a client reads of a datagram that it receives whole is the reply in it. -/
theorem DnsClient.opened_datagram {client : DnsClient S} {received : Bytes}
    (hdatagram : client.datagram s reply = some packet) (h : client.opened now packet = some received) :
    received = reply := by
  cases client with
  | udpRemote svrCfg ns =>
    unfold DnsClient.datagram at hdatagram
    unfold DnsClient.opened at h
    dsimp only at hdatagram h
    split at hdatagram
    · next hok =>
      obtain ⟨hfits, hnonce⟩ := (Bool.and_eq_true _ _).mp hok
      split at h
      · next n addr control buf hrecv =>
        obtain rfl := Option.some.inj h
        by_cases h2022 : (ProxyServers.method svrCfg).category = .aead2022
        · exact recv_packet_aead2022 h2022 hfits hnonce hdatagram hrecv
        · exact recv_packet_legacy h2022 hfits hnonce hdatagram hrecv
      · cases h
    · cases hdatagram
  | tcpLocal ns | udpLocal ns | tcpRemote svrCfg ns =>
    exact (Option.some.inj h).symm.trans (Option.some.inj hdatagram).symm

end Packets

end Shadowsocks.Local.Dns
