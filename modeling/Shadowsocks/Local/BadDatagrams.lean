import Shadowsocks.Local.OwnSession
import Shadowsocks.Udp.CryptoIo

/-! # Datagrams that cannot be read

An association over a server of any method; with an AEAD-2022 method its runs are those of
`associationStep` (`run_aead2022`).  What `recv_with_ctrl` returns for a datagram that
cannot be opened or parsed is an error like a failure of the socket, and is handled as one: the
socket is given up, and with it whatever the server has still to send to it (`bad_datagram_resets`).
-/

namespace Shadowsocks.Local

open Shadowsocks.Lib Shadowsocks.Net Shadowsocks.Udp
open Shadowsocks.Tcp.Stream (StreamSuite)

variable {K S : Type} (crypto : CryptoSuite K) (suite : StreamSuite S) (method : CipherKind)

/-! ## All methods -/

/-- `ProxySocket::recv_with_ctrl` of a client's socket, on a datagram in its buffer. -/
def recvBuffer (now : Time) (socket : ProxySocket) :
    PollM Bytes CryptoIo.ProtocolError CryptoIo.Opened :=
  CryptoIo.decryptServerPayload crypto suite method
    (CryptoIo.decryptServerPayloadAead2022 crypto method now socket.key) socket.key

/-- A payload for the local client, with the address that it came from. -/
structure Respond where
  addr : Address
  data : Bytes
deriving DecidableEq

/-- The branch of `dispatch_packet` for the proxied socket.  A panic ends the task. -/
def dispatchProxied (now : Time) (datagram : Bytes) (assoc : UdpAssociationContext) :
    Option (Option Respond × UdpAssociationContext) :=
  match assoc.proxiedSocket with
  | none => none
  | some socket =>
    match recvBuffer crypto suite method now socket datagram with
    | (.ready (n, addr, some control), buf) =>
      match assoc.checkServerPacket now control with
      | (true, assoc) =>
        some (some { addr := addr, data := buf.take n }, assoc.sendReceivedRespondPacket)
      | (false, assoc) => some (none, assoc)
    -- the older methods have no packet ids
    | (.ready (n, addr, none), buf) =>
      some (some { addr := addr, data := buf.take n }, assoc.sendReceivedRespondPacket)
    -- socket failure, reset for recreation
    | (.failed _, _) => some (none, { assoc with proxiedSocket := none })
    | (.pending, _) => none
    | (.panicked, _) => none

/-- With an AEAD-2022 method, `receiveProxied` is this branch. -/
theorem dispatchProxied_aead2022 (hmethod : method.category = .aead2022) (now : Time)
    (datagram : Bytes) (assoc : UdpAssociationContext) :
    dispatchProxied crypto suite method now datagram assoc =
      (receiveProxied crypto method now datagram assoc).map fun (packet, assoc) =>
        (packet.map fun p => { addr := p.addr, data := p.payload }, assoc) := by
  unfold dispatchProxied receiveProxied
  cases assoc.proxiedSocket with
  | none => rfl
  | some socket =>
    dsimp only
    have hrecv : recvBuffer crypto suite method now socket datagram =
        PollM.mapErr .aead2022Error
          (CryptoIo.decryptServerPayloadAead2022 crypto method now socket.key) datagram := by
      unfold recvBuffer CryptoIo.decryptServerPayload
      rw [hmethod]
    rw [hrecv, recvWithCtrl]
    unfold PollM.mapErr CryptoIo.decryptServerPayloadAead2022
    cases Aead2022.decryptServerPayload crypto method now socket.key datagram with
    | ready p =>
      dsimp only
      cases assoc.checkServerPacket now p.control with
      | mk valid assoc =>
        cases valid with
        | true => simp
        | false => rfl
    | pending => rfl
    | failed e => rfl
    | panicked => rfl

/-! ## Runs -/

structure MethodRun where
  now : Time
  assoc : UdpAssociationContext
  responded : List Respond

def MethodRun.create (now : Time) (peerAddr : SocketAddr) (clientSessionId : Nat)
    (serverSessionExpireDuration : Time) : MethodRun :=
  { now := now, assoc := .create peerAddr clientSessionId serverSessionExpireDuration
    responded := [] }

/-- `associationStep`, over a server of any method. -/
def methodStep (s : MethodRun) : AssociationEvent → Option MethodRun
  | .send newSessionId connect sending targetAddr data =>
    some
      { s with
        assoc :=
          (dispatchReceivedProxiedPacket newSessionId connect sending targetAddr data s.assoc).2 }
  | .receive datagram =>
    (dispatchProxied crypto suite method s.now datagram s.assoc).map fun (respond, assoc) =>
      { s with assoc := assoc, responded := s.responded ++ respond.toList }
  | .bypassed => some { s with assoc := s.assoc.sendReceivedRespondPacket }
  | .keepaliveTick room => some { s with assoc := (s.assoc.keepaliveTick room).2 }
  | .advance time => some { s with now := s.now + time }

/-- A run over an AEAD-2022 server, with what the local client gets of each packet. -/
def AssociationRun.overAny (s : AssociationRun) : MethodRun where
  now := s.now
  assoc := s.assoc
  responded := s.delivered.map fun d => { addr := d.packet.addr, data := d.packet.payload }

/-- With an AEAD-2022 method, a step is that of `associationStep`. -/
theorem methodStep_aead2022 (hmethod : method.category = .aead2022) (s : AssociationRun)
    (e : AssociationEvent) : methodStep crypto suite method s.overAny e =
      (associationStep crypto method s e).map AssociationRun.overAny := by
  cases e with
  | send newSessionId connect sending targetAddr data => rfl
  | receive datagram =>
    change Option.map _ (dispatchProxied crypto suite method s.now datagram s.assoc) =
      Option.map _ (Option.map _ (receiveProxied crypto method s.now datagram s.assoc))
    rw [dispatchProxied_aead2022 crypto suite method hmethod, Option.map_map, Option.map_map]
    refine congrArg (Option.map · _) (funext fun received => ?_)
    obtain ⟨packet, assoc⟩ := received
    cases packet with
    | none => simp [AssociationRun.overAny]
    | some p => simp [AssociationRun.overAny]
  | bypassed => rfl
  | keepaliveTick room => rfl
  | advance time => rfl

/-- With an AEAD-2022 method, a run is one of `associationStep`. -/
theorem run_aead2022 (hmethod : method.category = .aead2022) (s : AssociationRun)
    (events : List AssociationEvent) : events.foldlM (methodStep crypto suite method) s.overAny =
      (events.foldlM (associationStep crypto method) s).map AssociationRun.overAny := by
  induction events generalizing s with
  | nil => rfl
  | cons e events ih =>
    rw [List.foldlM_cons, List.foldlM_cons, methodStep_aead2022 crypto suite method hmethod]
    cases associationStep crypto method s e with
    | none => rfl
    | some t => exact ih t

/-- The datagram cannot be opened, or what is in it cannot be parsed. -/
def Unreadable (now : Time) (socket : ProxySocket) (datagram : Bytes) : Prop :=
  ∀ opened, (recvBuffer crypto suite method now socket datagram).1 ≠ .ready opened

/-- The session goes on as it was: on its socket, with its ids, and with the windows of the servers
    it has heard from. -/
structure SameSession (assoc assoc' : UdpAssociationContext) : Prop where
  proxiedSocket : assoc'.proxiedSocket = assoc.proxiedSocket
  clientSessionId : assoc'.clientSessionId = assoc.clientSessionId
  clientPacketId : assoc'.clientPacketId = assoc.clientPacketId
  serverSession : assoc'.serverSession = assoc.serverSession

variable {crypto suite method}

/-- What becomes of an association that receives what it cannot read. -/
theorem dispatchProxied_unreadable {now : Time} {datagram : Bytes}
    {assoc assoc' : UdpAssociationContext} {socket : ProxySocket} {respond : Option Respond}
    (hsocket : assoc.proxiedSocket = some socket)
    (hbad : Unreadable crypto suite method now socket datagram)
    (h : dispatchProxied crypto suite method now datagram assoc = some (respond, assoc')) :
    respond = none ∧ assoc' = { assoc with proxiedSocket := none } := by
  unfold dispatchProxied at h
  rw [hsocket] at h
  dsimp only at h
  cases hrecv : recvBuffer crypto suite method now socket datagram with
  | mk opened buf =>
    rw [hrecv] at h
    cases opened with
    | ready opened => exact absurd (congrArg Prod.fst hrecv) (hbad opened)
    | pending => cases h
    | failed e =>
      cases h
      exact ⟨rfl, rfl⟩
    | panicked => cases h

/-- Without a socket nothing is received. -/
theorem methodStep_receive_none {s : MethodRun} (h : s.assoc.proxiedSocket = none)
    (datagram : Bytes) : methodStep crypto suite method s (.receive datagram) = none := by
  rw [methodStep, dispatchProxied, h]
  rfl

/-- **Bad datagrams.** No datagram that cannot be read leaves the session as it was: it ends the
    task, or it takes the socket and nothing else, and then nothing that comes to this socket is
    received any more. -/
theorem bad_datagram_resets (crypto : CryptoSuite K) (suite : StreamSuite S) (method : CipherKind)
    (s : MethodRun) {socket : ProxySocket} (hsocket : s.assoc.proxiedSocket = some socket)
    {datagram : Bytes} (hbad : Unreadable crypto suite method s.now socket datagram) :
    (¬∃ t, methodStep crypto suite method s (.receive datagram) = some t ∧
      SameSession s.assoc t.assoc) ∧
    ∀ t, methodStep crypto suite method s (.receive datagram) = some t →
      t = { s with assoc := { s.assoc with proxiedSocket := none } } ∧
        ∀ later, methodStep crypto suite method t (.receive later) = none := by
  have hreset : ∀ t, methodStep crypto suite method s (.receive datagram) = some t →
      t = { s with assoc := { s.assoc with proxiedSocket := none } } := by
    intro t ht
    obtain ⟨⟨respond, assoc'⟩, hdispatch, rfl⟩ := Option.map_eq_some_iff.1 ht
    obtain ⟨rfl, rfl⟩ := dispatchProxied_unreadable hsocket hbad hdispatch
    simp
  refine ⟨?_, fun t ht => ⟨hreset t ht, methodStep_receive_none ?_⟩⟩
  · rintro ⟨t, ht, hsame⟩
    have hnone : t.assoc.proxiedSocket = none := by rw [hreset t ht]
    have hkept := hsame.proxiedSocket
    rw [hnone, hsocket] at hkept
    cases hkept
  · rw [hreset t ht]

/-! ### A sample run -/

/-- An association that has sent a packet. -/
def listening : MethodRun where
  now := 100 * Time.second
  assoc :=
    { UdpAssociationContext.create (.v4 0x0a000001#32 1000) 7 (300 * Time.second) with
      proxiedSocket := some { id := 0, key := List.replicate 16 1 }
      clientPacketId := 1 }
  responded := []

theorem unreadable_empty (socket : ProxySocket) : Unreadable CryptoSuite.transparent
    StreamSuite.transparent .aead2022Blake3Aes128Gcm listening.now socket [] := by
  intro opened h
  have hshort : (recvBuffer CryptoSuite.transparent StreamSuite.transparent
      .aead2022Blake3Aes128Gcm listening.now socket []).1 =
        .failed (.aead2022Error (.packetTooShort 43 0)) := rfl
  cases hshort.symm.trans h

theorem bad_datagram_resets_empty :
    (¬∃ t, methodStep CryptoSuite.transparent StreamSuite.transparent .aead2022Blake3Aes128Gcm
      listening (.receive []) = some t ∧ SameSession listening.assoc t.assoc) :=
  (bad_datagram_resets CryptoSuite.transparent StreamSuite.transparent .aead2022Blake3Aes128Gcm
    listening rfl (unreadable_empty _)).1

/-- An empty datagram takes the socket of an association that has sent one packet. -/
theorem empty_datagram_resets :
    Reachable (methodStep CryptoSuite.transparent StreamSuite.transparent .aead2022Blake3Aes128Gcm)
      anyStep (.create (100 * Time.second) (.v4 0x0a000001#32 1000) 7 (300 * Time.second))
      listening ∧
    (methodStep CryptoSuite.transparent StreamSuite.transparent .aead2022Blake3Aes128Gcm listening
      (.receive [])).map (fun t => (t.assoc.proxiedSocket, t.responded)) = some (none, []) := by
  refine ⟨.step (e := .send 0 (.ok { id := 0, key := List.replicate 16 1 }) (.ok ())
    (.socketAddress (.v4 0x01010101#32 53)) [1]) .refl trivial rfl, ?_⟩
  decide +kernel

end Shadowsocks.Local
