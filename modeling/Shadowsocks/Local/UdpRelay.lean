import Shadowsocks.Local.BadDatagrams
import Shadowsocks.Local.Context
import Shadowsocks.Server.UdpServer

/-! # The local UDP service

`UdpAssociationManager` with the tasks of its associations, behind any front end.  What a client
sends waits in the channel of its association, whose task takes one datagram after the other and
sends it directly or through a server; what comes back on the task's sockets goes to the client.

The steps of all these tasks are interleaved in any order.  Logs of the datagrams taken in, of what
was sent for each of them and of the responses record what a run does.  Sockets are numbered as they
are opened.
-/

namespace Shadowsocks.Local

open Shadowsocks.Lib Shadowsocks.Net Shadowsocks.Udp
open Shadowsocks.Server (udpAssociationSendChannelSize udpAssociationKeepAliveChannelSize)
open Shadowsocks.Tcp.Stream (StreamSuite)

/-! ## Data -/

/-- A payload on its way to a target. -/
structure UdpPacket where
  target : Address
  data : Bytes
deriving DecidableEq

/-- What takes datagrams in from clients and writes back to them. -/
structure FrontEnd (D : Type) where
  /-- What is relayed of a datagram, if it is not dropped. -/
  accept : D → Option UdpPacket
  /-- `UdpInboundWrite::send_to`, up to the datagram that it puts on the wire. -/
  sendTo : SocketAddr → Address → Bytes → Polled IoError Bytes

/-- `TunnelUdpServer::run` up to the associations, and `TunnelUdpInboundWriter::send_to`. -/
def tunnelFrontEnd (forwardAddr : Address) : FrontEnd Bytes where
  accept datagram :=
    if datagram = [] then none else some { target := forwardAddr, data := datagram }
  sendTo _ _ data := .ready data

structure UdpAssociationTask where
  context : UdpAssociationContext
  bypassedIpv4Socket : Option Nat
  bypassedIpv6Socket : Option Nat

namespace UdpAssociationTask

def create (peerAddr : SocketAddr) (clientSessionId : Nat) (serverSessionExpireDuration : Time) :
    UdpAssociationTask :=
  { context := .create peerAddr clientSessionId serverSessionExpireDuration
    bypassedIpv4Socket := none
    bypassedIpv6Socket := none }

/-- The socket for bypassed targets of a family. -/
def bypassedSocket (family : AddrFamily) (task : UdpAssociationTask) : Option Nat :=
  match family with
  | .ipv4 => task.bypassedIpv4Socket
  | .ipv6 => task.bypassedIpv6Socket

def setBypassedSocket (family : AddrFamily) (socket : Option Nat) (task : UdpAssociationTask) :
    UdpAssociationTask :=
  match family with
  | .ipv4 => { task with bypassedIpv4Socket := socket }
  | .ipv6 => { task with bypassedIpv6Socket := socket }

end UdpAssociationTask

/-- An association as the map holds it: its task, none once that has panicked, and what waits in
    the channel to it. -/
structure UdpAssociation where
  task : Option UdpAssociationTask
  channel : List UdpPacket

/-- The association with its task as a step leaves it.  The task holds the receiving end of the
    channel, so that what waits there is lost with it. -/
def UdpAssociation.setTask (task : Option UdpAssociationTask) (assoc : UdpAssociation) :
    UdpAssociation :=
  match task with
  | some task => { assoc with task := some task }
  | none => { task := none, channel := [] }

/-- `try_send`: a packet is dropped where the channel is full or closed. -/
def UdpAssociation.trySend (packet : UdpPacket) (assoc : UdpAssociation) : UdpAssociation :=
  if assoc.task.isSome && decide (assoc.channel.length < udpAssociationSendChannelSize) then
    { assoc with channel := assoc.channel ++ [packet] }
  else assoc

/-- A datagram as a socket is given it. -/
inductive Sent where
  | bypassed (socket : Nat) (addr : SocketAddr) (data : Bytes)
  | proxied (socket : Nat) (datagram : SentDatagram)
deriving DecidableEq

namespace Sent

def socket : Sent → Nat
  | bypassed socket _ _ => socket
  | proxied socket _ => socket

def data : Sent → Bytes
  | bypassed _ _ data => data
  | proxied _ datagram => datagram.data

end Sent

/-- A packet that an association has taken from its channel, what the resolver answered to it, and
    what it sent for the packet. -/
structure Dispatched where
  peerAddr : SocketAddr
  packet : UdpPacket
  answers : List Answer
  sent : List Sent

/-- What came on a socket, and the datagram that was written for it to the peer. -/
structure Responded where
  peerAddr : SocketAddr
  socket : Nat
  respond : Respond
  datagram : Bytes

/-- What a packet meets outside of its association: the service context, the resolver's answers,
    a session id drawn at random, the key of the server that a new proxied socket is connected to,
    and how the system answers to opening and to sending. -/
structure Outside where
  context : ServiceContext
  balancerIsEmpty : Bool
  answers : List Answer
  newSessionId : Nat
  connect : Except IoError Bytes
  sending : Except IoError Unit
  openSocket : Nat → Except IoError Unit
  sendTo : Nat → SocketAddr → Except IoError Unit

/-- `dualStack` is `UDP_SOCKET_SUPPORT_DUAL_STACK`. -/
structure UdpServiceConfig (D : Type) where
  frontEnd : FrontEnd D
  dualStack : Bool
  ipv6First : Bool
  timeToLive : Time
  capacity : Option Nat

/-- `opened` is for whom each socket was opened, by its number. -/
structure UdpService where
  now : Time
  assocMap : LruCache SocketAddr UdpAssociation
  keepalive : List SocketAddr
  opened : List SocketAddr
  accepted : List (SocketAddr × UdpPacket)
  dispatched : List Dispatched
  responded : List Responded

variable {D K S : Type} (cfg : UdpServiceConfig D) (crypto : CryptoSuite K) (suite : StreamSuite S)

/-- `UdpAssociationManager::new`, at some time. -/
def UdpService.new (now : Time) : UdpService :=
  { now := now
    assocMap := .empty (some cfg.timeToLive) cfg.capacity
    keepalive := []
    opened := []
    accepted := []
    dispatched := []
    responded := [] }

/-! ## Taking datagrams in -/

/-- `UdpAssociationManager::send_to`. -/
def managerSendTo (peerAddr : SocketAddr) (packet : UdpPacket) (clientSessionId : Nat)
    (s : UdpService) : UdpService :=
  match s.assocMap.get s.now peerAddr with
  | (some _, assocMap) =>
    { s with assocMap := assocMap.modify peerAddr (UdpAssociation.trySend packet) }
  | (none, assocMap) =>
    let assoc : UdpAssociation :=
      { task := some (.create peerAddr clientSessionId cfg.timeToLive), channel := [] }
    { s with assocMap := assocMap.insert s.now peerAddr (assoc.trySend packet) }

/-- A front end receives a datagram. -/
def receiveDatagram (peerAddr : SocketAddr) (datagram : D) (clientSessionId : Nat)
    (s : UdpService) : UdpService :=
  match cfg.frontEnd.accept datagram with
  | none => s
  | some packet =>
    managerSendTo cfg peerAddr packet clientSessionId
      { s with accepted := s.accepted ++ [(peerAddr, packet)] }

/-! ## Bypassed targets -/

/-- An association at work on a packet. -/
structure BypassRelay where
  task : UdpAssociationTask
  opened : List SocketAddr
  answers : List Answer
  sent : List Sent

section Bypass

variable (outside : Outside)

/-- `ShadowUdpSocket::connect_any_with_opts` with `?`. -/
def openBypassed : PollM BypassRelay IoError Nat := fun r =>
  match outside.openSocket r.opened.length with
  | .ok () =>
    (.ready r.opened.length, { r with opened := r.opened ++ [r.task.context.peerAddr] })
  | .error e => (.failed e, r)

/-- The socket of a family, opened if there is none. -/
def takeBypassed (family : AddrFamily) : PollM BypassRelay IoError Nat :=
  PollM.get >>= fun r =>
    match r.task.bypassedSocket family with
    | some socket => pure socket
    | none =>
      openBypassed outside >>= fun socket =>
        PollM.update (fun r =>
          { r with task := r.task.setBypassedSocket family (some socket) }) >>= fun _ => pure socket

/-- `socket.send_to`, which logs the datagram. -/
def sendBypassed (socket : Nat) (targetAddr : SocketAddr) (data : Bytes) :
    PollM BypassRelay IoError Unit := fun r =>
  let after := { r with sent := r.sent ++ [.bypassed socket targetAddr data] }
  match outside.sendTo r.sent.length targetAddr with
  | .ok () => (.ready (), after)
  | .error e => (.failed e, after)

def sendReceivedBypassedPacket (dualStack : Bool) (targetAddr : SocketAddr) (data : Bytes) :
    PollM BypassRelay IoError Unit :=
  let family := if dualStack then .ipv6 else if targetAddr.isV4 then .ipv4 else .ipv6
  takeBypassed outside family >>= fun socket =>
    sendBypassed outside socket (Server.mappedTarget dualStack targetAddr) data

/-- `dns_resolve` with `?`. -/
def resolveBypassed : PollM BypassRelay IoError (List SocketAddr) := fun r =>
  let (answer, answers) := dnsResolve r.answers
  match answer with
  | .ok addrs => (.ready addrs, { r with answers := answers })
  | .error e => (.failed e, { r with answers := answers })

def dispatchReceivedBypassedPacket (packet : UdpPacket) : PollM BypassRelay IoError Unit :=
  match packet.target with
  | .socketAddress sa => sendReceivedBypassedPacket outside cfg.dualStack sa packet.data
  | .domainNameAddress _ _ =>
    resolveBypassed >>= fun addrs =>
      lookupThen cfg.ipv6First addrs (fun sa =>
        sendReceivedBypassedPacket outside cfg.dualStack sa packet.data) >>= fun _ => pure ()

end Bypass

/-! ## The associations' tasks -/

/-- What a packet leaves of its association, of which the task is gone if it panics. -/
structure AfterPacket where
  task : Option UdpAssociationTask
  opened : List SocketAddr
  sent : List Sent

/-- The packet goes out directly. -/
def bypassPacket (outside : Outside) (answers : List Answer) (packet : UdpPacket)
    (opened : List SocketAddr) (task : UdpAssociationTask) : AfterPacket :=
  match dispatchReceivedBypassedPacket cfg outside packet
    { task := task, opened := opened, answers := answers, sent := [] } with
  | (.panicked, r) => { task := none, opened := r.opened, sent := r.sent }
  | (_, r) => { task := some r.task, opened := r.opened, sent := r.sent }

/-- The packet goes out through a server, over the socket that is there or a new one. -/
def proxyPacket (outside : Outside) (packet : UdpPacket) (opened : List SocketAddr)
    (task : UdpAssociationTask) : AfterPacket :=
  let connect := outside.connect.map fun key => ({ id := opened.length, key := key } : ProxySocket)
  let (datagram, context) := dispatchReceivedProxiedPacket outside.newSessionId connect
    outside.sending packet.target packet.data task.context
  let after := { task with context := context }
  match (task.context.increasePacketId outside.newSessionId).proxiedSocket, connect with
  | some socket, _ =>
    { task := some after, opened := opened, sent := datagram.toList.map (.proxied socket.id) }
  | none, .ok socket =>
    { task := some after, opened := opened ++ [task.context.peerAddr]
      sent := datagram.toList.map (.proxied socket.id) }
  | none, .error _ => { task := some after, opened := opened, sent := [] }

/-- `dispatch_received_packet`. -/
def dispatchReceivedPacket [Idna] (now : Time) (outside : Outside) (packet : UdpPacket)
    (opened : List SocketAddr) (task : UdpAssociationTask) : AfterPacket :=
  if outside.balancerIsEmpty then bypassPacket cfg outside outside.answers packet opened task
  else
    let (bypassed, _, answers) :=
      outside.context.checkTargetBypassed now packet.target outside.answers
    if bypassed then bypassPacket cfg outside answers packet opened task
    else proxyPacket outside packet opened task

/-- `dispatch_packet` takes a packet from the channel. -/
def dispatchNext [Idna] (peerAddr : SocketAddr) (outside : Outside) (s : UdpService) :
    Option UdpService :=
  match s.assocMap.lookup? peerAddr with
  | none => none
  | some e =>
    match e.value.task, e.value.channel with
    | some task, packet :: channel =>
      let after := dispatchReceivedPacket cfg s.now outside packet s.opened task
      some
        { s with
          assocMap := s.assocMap.modify peerAddr fun assoc =>
            { assoc with channel := channel }.setTask after.task
          opened := after.opened
          dispatched := s.dispatched ++
            [{ peerAddr := task.context.peerAddr, packet := packet, answers := outside.answers
               sent := after.sent }] }
    | _, _ => none

/-- Changes the task of an association. -/
def UdpService.setTask (peerAddr : SocketAddr) (task : Option UdpAssociationTask)
    (s : UdpService) : UdpService :=
  { s with assocMap := s.assocMap.modify peerAddr (UdpAssociation.setTask task) }

/-- `send_received_respond_packet`. The writer fails or panics, or a datagram goes to the peer. -/
def respondTo (peerAddr : SocketAddr) (socket : Nat) (respond : Respond)
    (task : UdpAssociationTask) (s : UdpService) : UdpService :=
  let peer := task.context.peerAddr
  match cfg.frontEnd.sendTo peer respond.addr respond.data with
  | .ready datagram =>
    { s.setTask peerAddr (some task) with
      responded := s.responded ++
        [{ peerAddr := peer, socket := socket, respond := respond, datagram := datagram }] }
  | .panicked => s.setTask peerAddr none
  | .failed _ => s.setTask peerAddr (some task)
  | .pending => s.setTask peerAddr (some task)

/-- The task of an association, while it runs. -/
def UdpService.taskOf? (peerAddr : SocketAddr) (s : UdpService) : Option UdpAssociationTask :=
  (s.assocMap.lookup? peerAddr).bind fun e => e.value.task

/-- A socket for bypassed targets receives something, or fails. -/
def receiveBypassed (peerAddr : SocketAddr) (family : AddrFamily)
    (received : Except IoError (SocketAddr × Bytes)) (s : UdpService) : Option UdpService :=
  match s.taskOf? peerAddr with
  | none => none
  | some task =>
    match task.bypassedSocket family, received with
    | none, _ => none
    | some socket, .ok (addr, data) =>
      some (respondTo cfg peerAddr socket { addr := .socketAddress addr, data := data }
        { task with context := task.context.sendReceivedRespondPacket } s)
    -- socket failure, reset for recreation
    | some _, .error _ => some (s.setTask peerAddr (some (task.setBypassedSocket family none)))

/-- The proxied socket, of a server with this method, receives a datagram, or fails. -/
def receiveFromServer (peerAddr : SocketAddr) (method : CipherKind)
    (received : Except IoError Bytes) (s : UdpService) : Option UdpService :=
  match s.taskOf? peerAddr with
  | none => none
  | some task =>
    match task.context.proxiedSocket, received with
    | none, _ => none
    | some socket, .ok datagram =>
      match dispatchProxied crypto suite method s.now datagram task.context with
      | some (some respond, context) =>
        some (respondTo cfg peerAddr socket.id respond { task with context := context } s)
      | some (none, context) => some (s.setTask peerAddr (some { task with context := context }))
      | none => some (s.setTask peerAddr none)
    | some _, .error _ =>
      some (s.setTask peerAddr
        (some { task with context := { task.context with proxiedSocket := none } }))

/-- The tick of an association's `keepalive_interval`. -/
def keepaliveTick (peerAddr : SocketAddr) (s : UdpService) : Option UdpService :=
  match s.taskOf? peerAddr with
  | none => none
  | some task =>
    let room := decide (s.keepalive.length < udpAssociationKeepAliveChannelSize)
    match task.context.keepaliveTick room with
    | (true, context) =>
      some
        { s.setTask peerAddr (some { task with context := context }) with
          keepalive := s.keepalive ++ [context.peerAddr] }
    | (false, context) => some (s.setTask peerAddr (some { task with context := context }))

/-! ## The service's steps -/

inductive UdpServiceEvent (D : Type) where
  | receive (peerAddr : SocketAddr) (datagram : D) (clientSessionId : Nat)
  | dispatch (peerAddr : SocketAddr) (outside : Outside)
  | receiveBypassed (peerAddr : SocketAddr) (family : AddrFamily)
      (received : Except IoError (SocketAddr × Bytes))
  | receiveFromServer (peerAddr : SocketAddr) (method : CipherKind)
      (received : Except IoError Bytes)
  | keepaliveTick (peerAddr : SocketAddr)
  | keepAlive
  | cleanupExpired
  | advance (time : Time)

def udpServiceStep [Idna] (s : UdpService) : UdpServiceEvent D → Option UdpService
  | .receive peerAddr datagram clientSessionId =>
    some (receiveDatagram cfg peerAddr datagram clientSessionId s)
  | .dispatch peerAddr outside => dispatchNext cfg peerAddr outside s
  | .receiveBypassed peerAddr family received => receiveBypassed cfg peerAddr family received s
  | .receiveFromServer peerAddr method received =>
    receiveFromServer cfg crypto suite peerAddr method received s
  | .keepaliveTick peerAddr => keepaliveTick peerAddr s
  | .keepAlive =>
    match s.keepalive with
    | [] => none
    | peerAddr :: keepalive =>
      some { s with assocMap := (s.assocMap.get s.now peerAddr).2, keepalive := keepalive }
  | .cleanupExpired => some { s with assocMap := s.assocMap.removeExpired s.now }
  | .advance time => some { s with now := s.now + time }

end Shadowsocks.Local
