import Shadowsocks.Lib.LruCache
import Shadowsocks.Udp.Aead2022
import Shadowsocks.Udp.PacketWindow

/-! # UDP associations of the local service

`UdpAssociationContext` of the local service, over AEAD-2022 servers: it numbers the
packets that it sends through the proxy, and keeps a packet window for each server
session that it hears from.  The sockets for bypassed targets touch neither and are left
out.
-/

namespace Shadowsocks.Local

open Shadowsocks.Lib Shadowsocks.Net Shadowsocks.Udp

/-! ## Data -/

/-- A connected `ProxySocket`, known by its number, with the key of its server. -/
structure ProxySocket where
  id : Nat
  key : Bytes
deriving DecidableEq, Repr

structure ServerContext where
  packetWindowFilter : PacketWindowFilter

structure UdpAssociationContext where
  peerAddr : SocketAddr
  proxiedSocket : Option ProxySocket
  keepaliveFlag : Bool
  clientSessionId : Nat
  clientPacketId : Nat
  serverSession : Option (LruCache Nat ServerContext)
  serverSessionExpireDuration : Time

namespace UdpAssociationContext

/-- `UdpAssociationContext::create`; the client session id is drawn at random. -/
def create (peerAddr : SocketAddr) (clientSessionId : Nat) (serverSessionExpireDuration : Time) :
    UdpAssociationContext :=
  { peerAddr := peerAddr
    proxiedSocket := none
    keepaliveFlag := false
    clientSessionId := clientSessionId
    clientPacketId := 0
    serverSession := none
    serverSessionExpireDuration := serverSessionExpireDuration }

/-! ## Sending -/

/-- The packet id goes up before each packet.  When it runs out the session is renewed,
    with another id drawn at random, and the socket given up. -/
def increasePacketId (newSessionId : Nat) (assoc : UdpAssociationContext) : UdpAssociationContext :=
  if assoc.clientPacketId + 1 < 2 ^ 64 then
    { assoc with clientPacketId := assoc.clientPacketId + 1 }
  else
    { assoc with proxiedSocket := none, clientPacketId := 1, clientSessionId := newSessionId }

/-- The control data of the next datagram. -/
def sendControl (assoc : UdpAssociationContext) : UdpSocketControlData :=
  { defaultSocketControl with
    clientSessionId := assoc.clientSessionId, packetId := assoc.clientPacketId }

end UdpAssociationContext

/-- A datagram as a `ProxySocket` is given it to seal and send. -/
structure SentDatagram where
  key : Bytes
  control : UdpSocketControlData
  addr : Address
  data : Bytes
deriving DecidableEq

/-- `dispatch_received_proxied_packet`, with how connecting to a server (`best_udp_server`)
    and sending come out.  A datagram that could not be sent is sealed all the same. -/
def dispatchReceivedProxiedPacket (newSessionId : Nat) (connect : Except IoError ProxySocket)
    (sending : Except IoError Unit) (targetAddr : Address) (data : Bytes)
    (assoc : UdpAssociationContext) : Option SentDatagram × UdpAssociationContext :=
  let assoc := assoc.increasePacketId newSessionId
  let socket : Except IoError ProxySocket := match assoc.proxiedSocket with
    | some socket => .ok socket
    | none => connect
  match socket with
  | .error _ => (none, assoc)
  | .ok socket =>
    (some { key := socket.key, control := assoc.sendControl, addr := targetAddr, data := data },
      { assoc with
        proxiedSocket := match sending with
          | .ok () => some socket
          -- reconnect to another server
          | .error _ => none })

/-! ## Receiving -/

/-- `u64::MAX`. -/
def packetIdLimit : Nat := 2 ^ 64 - 1

namespace UdpAssociationContext

/-- The map of server sessions, made when the first packet arrives. -/
def serverSessionMap (assoc : UdpAssociationContext) : LruCache Nat ServerContext :=
  assoc.serverSession.getD (.empty (some assoc.serverSessionExpireDuration) none)

/-- The check of a packet that the proxied socket has received: whether it is in the window
    of its server session. -/
def checkServerPacket (now : Time) (control : UdpSocketControlData) (assoc : UdpAssociationContext) :
    Bool × UdpAssociationContext :=
  let sessions := assoc.serverSessionMap
  match sessions.get now control.serverSessionId with
  | (some session, sessions) =>
    let (valid, filter) := session.packetWindowFilter.validatePacketId control.packetId packetIdLimit
    (valid,
      { assoc with
        serverSession :=
          some (sessions.modify control.serverSessionId fun _ => { packetWindowFilter := filter }) })
  | (none, sessions) =>
    let (valid, filter) := PacketWindowFilter.new.validatePacketId control.packetId packetIdLimit
    (valid,
      { assoc with
        serverSession :=
          some (sessions.insert now control.serverSessionId { packetWindowFilter := filter }) })

/-- `send_received_respond_packet`: a payload goes to the local client. -/
def sendReceivedRespondPacket (assoc : UdpAssociationContext) : UdpAssociationContext :=
  { assoc with keepaliveFlag := true }

/-- The tick of `keepalive_interval`: whether the association is to be kept alive. -/
def keepaliveTick (room : Bool) (assoc : UdpAssociationContext) : Bool × UdpAssociationContext :=
  if assoc.keepaliveFlag && room then (true, { assoc with keepaliveFlag := false })
  else (false, assoc)

end UdpAssociationContext

variable {K : Type} (crypto : CryptoSuite K) (method : CipherKind)

/-- What the proxied socket makes of a datagram. -/
def recvWithCtrl (now : Time) (datagram : Bytes) (socket : ProxySocket) :
    Polled Aead2022.ProtocolError Aead2022.OpenedPacket :=
  Aead2022.decryptServerPayload crypto method now socket.key datagram

/-- A datagram arrives on the proxied socket: the packet that goes to the local client, if
    there is one.  A panic ends the task. -/
def receiveProxied (now : Time) (datagram : Bytes) (assoc : UdpAssociationContext) :
    Option (Option Aead2022.OpenedPacket × UdpAssociationContext) :=
  match assoc.proxiedSocket with
  | none => none
  | some socket =>
    match recvWithCtrl crypto method now datagram socket with
    | .ready p =>
      match assoc.checkServerPacket now p.control with
      | (true, assoc) => some (some p, assoc.sendReceivedRespondPacket)
      | (false, assoc) => some (none, assoc)
    -- socket failure, reset for recreation
    | .failed _ => some (none, { assoc with proxiedSocket := none })
    | .pending => none
    | .panicked => none

/-! ## What a check makes of the session map -/

/-- The window that judges a packet of a server session: the one kept for it, or a new one. -/
def windowAt (now : Time) (serverSessionId : Nat) (m : LruCache Nat ServerContext) :
    PacketWindowFilter :=
  ((m.get now serverSessionId).1.map ServerContext.packetWindowFilter).getD .new

theorem windowAt_eq (now : Time) (serverSessionId : Nat) (m : LruCache Nat ServerContext) :
    windowAt now serverSessionId m =
      (((m.lookup? serverSessionId).filter (LruCache.alive m.expiry now)).map
        fun e => e.value.packetWindowFilter).getD .new := by
  rw [windowAt, LruCache.get_fst, Option.map_map]
  rfl

theorem windowAt_cases (now : Time) (serverSessionId : Nat) (m : LruCache Nat ServerContext) :
    (∃ e, m.lookup? serverSessionId = some e ∧ LruCache.alive m.expiry now e = true ∧
      e.value.packetWindowFilter = windowAt now serverSessionId m) ∨
    (∀ e, m.lookup? serverSessionId = some e → LruCache.alive m.expiry now e = false) ∧
      windowAt now serverSessionId m = .new := by
  rw [windowAt_eq]
  cases hlookup : m.lookup? serverSessionId with
  | none => exact .inr ⟨fun e he => (nomatch he), rfl⟩
  | some e =>
    cases halive : LruCache.alive m.expiry now e with
    | true =>
      refine .inl ⟨e, rfl, halive, ?_⟩
      rw [Option.filter_some, halive]
      rfl
    | false =>
      refine .inr ⟨fun e' he' => by rw [← Option.some.inj he', halive], ?_⟩
      rw [Option.filter_some, halive]
      rfl

/-- What the check of a packet does to the session map: the window of its session judges the
    packet, and the other sessions stay unless they expired. -/
structure Checks (now : Time) (control : UdpSocketControlData) (m m' : LruCache Nat ServerContext)
    (window : PacketWindowFilter) (accepted : Bool) : Prop where
  verdict : accepted = (window.validatePacketId control.packetId packetIdLimit).1
  entry : m'.lookup? control.serverSessionId =
    some
      { key := control.serverSessionId, touched := now
        value := { packetWindowFilter :=
          (window.validatePacketId control.packetId packetIdLimit).2 } }
  others : ∀ k, k ≠ control.serverSessionId →
    m'.lookup? k = (m.lookup? k).filter (LruCache.alive m.expiry now)
  expiry : m'.expiry = m.expiry
  capacity : m'.capacity = m.capacity

namespace Checks

variable {now : Time} {control : UdpSocketControlData} {m m' : LruCache Nat ServerContext}
  {window : PacketWindowFilter} {accepted : Bool} {k : Nat} {e : Entry Nat ServerContext}

theorem was_kept (h : Checks now control m m' window accepted) (hne : k ≠ control.serverSessionId)
    (he : m'.lookup? k = some e) : m.lookup? k = some e := by
  rw [h.others k hne] at he
  exact (Option.filter_eq_some_iff.1 he).1

theorem keeps (h : Checks now control m m' window accepted) (hne : k ≠ control.serverSessionId)
    (he : m.lookup? k = some e) (halive : LruCache.alive m.expiry now e = true) :
    m'.lookup? k = some e := by
  rw [h.others k hne, he]
  exact Option.filter_eq_some_iff.2 ⟨rfl, halive⟩

end Checks

open UdpAssociationContext in
theorem checkServerPacket_checks (now : Time) (control : UdpSocketControlData)
    (assoc : UdpAssociationContext) (hcapacity : assoc.serverSessionMap.capacity = none) :
    Checks now control assoc.serverSessionMap (assoc.checkServerPacket now control).2.serverSessionMap
      (windowAt now control.serverSessionId assoc.serverSessionMap)
      (assoc.checkServerPacket now control).1 := by
  have hsome : ∀ m, serverSessionMap { assoc with serverSession := some m } = m := fun _ => rfl
  have hothers : ∀ k, k ≠ control.serverSessionId →
      (assoc.serverSessionMap.get now control.serverSessionId).2.lookup? k =
        (assoc.serverSessionMap.lookup? k).filter
          (LruCache.alive assoc.serverSessionMap.expiry now) :=
    fun k hne => LruCache.lookup?_get_of_ne hne
  have hexpiry : (assoc.serverSessionMap.get now control.serverSessionId).2.expiry =
      assoc.serverSessionMap.expiry := LruCache.get_expiry
  have hcap : (assoc.serverSessionMap.get now control.serverSessionId).2.capacity =
      assoc.serverSessionMap.capacity := LruCache.get_capacity
  -- the session is known and in its time, or a new one takes its place
  unfold checkServerPacket windowAt
  dsimp only
  split
  · next session sessions hfound =>
    obtain ⟨e, he, hvalue, hentry⟩ := LruCache.get_found (congrArg Prod.fst hfound)
    rw [hfound] at hothers hexpiry hcap hentry
    rw [hfound]
    constructor
    case verdict => rfl
    case entry =>
      rw [hsome, LruCache.lookup?_modify_self, hentry]
      rfl
    case others =>
      intro k hne
      rw [hsome, LruCache.lookup?_modify_of_ne _ hne, hothers k hne]
    case expiry => exact hexpiry
    case capacity => exact hcap
  · next sessions hmissed =>
    rw [hmissed] at hothers hexpiry hcap
    rw [hmissed]
    constructor
    case verdict => rfl
    case entry =>
      rw [hsome, LruCache.lookup?_insert_self]
      rfl
    case others =>
      intro k hne
      rw [hsome, LruCache.lookup?_insert_of_ne _ (hcap.trans hcapacity) hne, hothers k hne, hexpiry,
        LruCache.filter_alive_of_le (Nat.le_refl now)]
    case expiry => rw [hsome, LruCache.insert_expiry, hexpiry]
    case capacity => rw [hsome, LruCache.insert_capacity, hcap]

/-- Sending touches no server session. -/
theorem dispatch_serverSessionMap (newSessionId : Nat) (connect : Except IoError ProxySocket)
    (sending : Except IoError Unit) (targetAddr : Address) (data : Bytes)
    (assoc : UdpAssociationContext) :
    (dispatchReceivedProxiedPacket newSessionId connect sending targetAddr data
      assoc).2.serverSessionMap = assoc.serverSessionMap := by
  have hincrease : (assoc.increasePacketId newSessionId).serverSessionMap = assoc.serverSessionMap := by
    unfold UdpAssociationContext.increasePacketId
    split <;> rfl
  simp only [dispatchReceivedProxiedPacket]
  split <;> exact hincrease

end Shadowsocks.Local
