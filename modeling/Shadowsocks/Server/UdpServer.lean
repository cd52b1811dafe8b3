import Shadowsocks.Lib.LruCache
import Shadowsocks.Server.AssociationRuns
import Shadowsocks.Udp.Aead2022

/-! # The UDP server

`UdpServer` of an AEAD-2022 method: datagrams are opened and checked by the receiving
tasks, handed to the association of their client session id, and relayed by the
association's own task.  Associations live in an expiring cache, and one that is dropped
from it is gone with its packet window.

The steps of all these tasks are interleaved in any order.  Two logs, of the packets
relayed and of the responses sent, record what a run does.
-/

namespace Shadowsocks.Server

open Shadowsocks.Lib Shadowsocks.Net Shadowsocks.Udp

/-! ## Data -/

/-- A packet that `recv_one_packet` has let through, with when it was received and the
    timestamp it carries; the code keeps neither. -/
structure Received where
  message : UdpAssociationSendMessage
  receivedAt : Time
  timestamp : Nat
deriving DecidableEq

namespace Received

/-- Control data is always there for an AEAD-2022 method. -/
def control (r : Received) : UdpSocketControlData :=
  r.message.control.getD defaultSocketControl

end Received

/-- An association as the map holds it: its task, none once that has panicked, and the
    channel to it. -/
structure UdpAssociation where
  handle : Nat
  task : Option UdpAssociationContext
  channel : List Received

/-- `UDP_ASSOCIATION_SEND_CHANNEL_SIZE`. -/
def udpAssociationSendChannelSize : Nat := 1024

/-- `UDP_ASSOCIATION_KEEP_ALIVE_CHANNEL_SIZE`. -/
def udpAssociationKeepAliveChannelSize : Nat := 64

/-- `try_send`: a packet is dropped where the channel is full or closed. -/
def UdpAssociation.trySend (r : Received) (assoc : UdpAssociation) : UdpAssociation :=
  if assoc.task.isSome && decide (assoc.channel.length < udpAssociationSendChannelSize) then
    { assoc with channel := assoc.channel ++ [r] }
  else assoc

/-- A packet that an association has relayed, and what it gave to its sockets. -/
structure Relayed where
  handle : Nat
  packet : Received
  relayedAt : Time
  sent : List (SocketAddr × Bytes)

structure UdpServerConfig {K : Type} (crypto : CryptoSuite K) where
  context : ServiceContext
  method : CipherKind
  key : Bytes
  userManager : Option (ServerUserManager crypto)
  timeToLive : Time
  capacity : Option Nat

structure UdpServer where
  now : Time
  assocMap : LruCache Nat UdpAssociation
  received : List Received
  keepalive : List Nat
  nextHandle : Nat
  relayed : List Relayed
  responded : List (Nat × Response)

variable {K : Type} {crypto : CryptoSuite K} (cfg : UdpServerConfig crypto)

/-- `UdpServer::new`, at some time. -/
def UdpServer.new (now : Time) : UdpServer :=
  { now := now
    assocMap := .empty (some cfg.timeToLive) cfg.capacity
    received := []
    keepalive := []
    nextHandle := 0
    relayed := []
    responded := [] }

/-! ## Receiving -/

/-- The checks of `recv_one_packet`, once the datagram has been opened. -/
def admitsDatagram [Idna] (context : ServiceContext) (peerAddr : SocketAddr)
    (payload : Bytes) (targetAddr : Address) (answers : List Answer) : Bool × List Answer :=
  if payload.isEmpty then (false, answers)
  else if context.checkClientBlocked peerAddr then (false, answers)
  else
    let (blocked, answers) := context.checkOutboundBlocked targetAddr answers
    (!blocked, answers)

/-- `recv_one_packet` in any of the receiving tasks.  A panic ends the task. -/
def recvOnePacket [Idna] (peerAddr : SocketAddr) (datagram : Bytes) (answers : List Answer)
    (s : UdpServer) : Option UdpServer :=
  match Aead2022.decryptClientPayload cfg.method s.now cfg.key datagram cfg.userManager with
  | .ready p =>
    if (admitsDatagram cfg.context peerAddr p.payload p.addr answers).1 then
      let message : UdpAssociationSendMessage :=
        { peerAddr := peerAddr, targetAddr := p.addr, data := p.payload, control := some p.control }
      some
        { s with
          received :=
            s.received ++ [{ message := message, receivedAt := s.now, timestamp := p.timestamp }] }
    else some s
  | .failed _ => some s
  | .pending => none
  | .panicked => none

/-! ## Handing over -/

/-- `UdpAssociation::new_session`, with the packet in its channel. -/
def newSession (r : Received) (serverSessionId : Nat) (s : UdpServer) : UdpAssociation :=
  { handle := s.nextHandle
    task := some (.create r.message.peerAddr (some r.control.clientSessionId) serverSessionId)
    channel := [r] }

/-- `send_packet` of a server with sessions. -/
def sendPacket (r : Received) (serverSessionId : Nat) (s : UdpServer) : UdpServer :=
  let clientSessionId := r.control.clientSessionId
  match s.assocMap.get s.now clientSessionId with
  | (some _, assocMap) =>
    { s with assocMap := assocMap.modify clientSessionId (UdpAssociation.trySend r) }
  | (none, assocMap) =>
    { s with
      assocMap := assocMap.insert s.now clientSessionId (newSession r serverSessionId s)
      nextHandle := s.nextHandle + 1 }

/-! ## The associations' tasks -/

/-- Changes the task of an association. -/
def UdpServer.setTask (clientSessionId : Nat) (task : Option UdpAssociationContext)
    (s : UdpServer) : UdpServer :=
  { s with
    assocMap := s.assocMap.modify clientSessionId fun assoc => { assoc with task := task } }

/-- `dispatch_packet` takes a packet from the channel. -/
def dispatchNext [Idna] (clientSessionId : Nat) (net : Outbound) (s : UdpServer) :
    Option UdpServer :=
  match s.assocMap.lookup? clientSessionId with
  | none => none
  | some e =>
    match e.value.task, e.value.channel with
    | some assoc, r :: channel =>
      let relay : Relay := { assoc := assoc, net := { net with sent := [] } }
      let (outcome, after) := dispatchReceivedPacket cfg.context r.message relay
      let task := if outcome = .ready () then some after.assoc else none
      let s :=
        { s with
          assocMap := s.assocMap.modify clientSessionId fun assoc =>
            { assoc with task := task, channel := channel } }
      if admits cfg.context r.message relay then
        some
          { s with
            relayed := s.relayed ++
              [{ handle := e.value.handle, packet := r, relayedAt := s.now, sent := after.net.sent }] }
      else some s
    | _, _ => none

/-- A datagram arrives on an outbound socket. -/
def respond (clientSessionId : Nat) (family : AddrFamily) (addr : SocketAddr) (data : Bytes)
    (s : UdpServer) : Option UdpServer :=
  match s.assocMap.lookup? clientSessionId with
  | none => none
  | some e =>
    match e.value.task with
    | none => none
    | some assoc =>
      if (assoc.socketOf family).isSome then
        let (response, assoc) := sendReceivedRespondPacket cfg.key addr data assoc
        some
          { s.setTask clientSessionId (some assoc) with
            responded := s.responded ++ response.toList.map fun r => (e.value.handle, r) }
      else none

/-- An outbound socket fails. -/
def socketFailed (clientSessionId : Nat) (family : AddrFamily) (s : UdpServer) :
    Option UdpServer :=
  match s.assocMap.lookup? clientSessionId with
  | none => none
  | some e =>
    match e.value.task with
    | none => none
    | some assoc => some (s.setTask clientSessionId (some (assoc.resetSocket family)))

/-- The tick of an association's `keepalive_interval`. -/
def keepaliveTick (clientSessionId : Nat) (s : UdpServer) : Option UdpServer :=
  match s.assocMap.lookup? clientSessionId with
  | none => none
  | some e =>
    match e.value.task with
    | none => none
    | some assoc =>
      let room := decide (s.keepalive.length < udpAssociationKeepAliveChannelSize)
      match assoc.keepaliveTick room with
      | (some (.sessionId id), assoc) =>
        some { s.setTask clientSessionId (some assoc) with keepalive := s.keepalive ++ [id] }
      | (_, assoc) => some (s.setTask clientSessionId (some assoc))

/-! ## The server's steps -/

/-- What the tasks of the server select from.  `discard` is a receiving task that is
    cancelled between receiving a packet and handing it over. -/
inductive UdpServerEvent where
  | receive (peerAddr : SocketAddr) (datagram : Bytes) (answers : List Answer)
  | handOver (i : Nat) (serverSessionId : Nat)
  | discard (i : Nat)
  | dispatch (clientSessionId : Nat) (net : Outbound)
  | respond (clientSessionId : Nat) (family : AddrFamily) (addr : SocketAddr) (data : Bytes)
  | socketFailed (clientSessionId : Nat) (family : AddrFamily)
  | keepaliveTick (clientSessionId : Nat)
  | keepAlive
  | cleanupExpired
  | advance (time : Time)

def udpServerStep [Idna] (s : UdpServer) : UdpServerEvent → Option UdpServer
  | .receive peerAddr datagram answers => recvOnePacket cfg peerAddr datagram answers s
  | .handOver i serverSessionId =>
    match s.received[i]? with
    | none => none
    | some r =>
      some (sendPacket r serverSessionId { s with received := s.received.eraseIdx i })
  | .discard i => some { s with received := s.received.eraseIdx i }
  | .dispatch clientSessionId net => dispatchNext cfg clientSessionId net s
  | .respond clientSessionId family addr data => respond cfg clientSessionId family addr data s
  | .socketFailed clientSessionId family => socketFailed clientSessionId family s
  | .keepaliveTick clientSessionId => keepaliveTick clientSessionId s
  | .keepAlive =>
    match s.keepalive with
    | [] => none
    | id :: keepalive =>
      some { s with assocMap := (s.assocMap.get s.now id).2, keepalive := keepalive }
  | .cleanupExpired => some { s with assocMap := s.assocMap.removeExpired s.now }
  | .advance time => some { s with now := s.now + time }

end Shadowsocks.Server
