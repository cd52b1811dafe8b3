import Shadowsocks.Lib.Reachable
import Shadowsocks.Server.Context
import Shadowsocks.Udp.PacketWindow
import Shadowsocks.Udp.ProxySocket

/-! # Associations of the UDP server

`UdpAssociationContext`: a client's packets come in with the address they were sent
from, and what comes back on the outbound sockets goes to the address on record.

A packet that the access control list or the packet window refuses still moves that
address (`refused_unchanged_iff`), so the responses that follow go to whoever sent
the refused packet.
-/

namespace Shadowsocks.Server

open Shadowsocks.Lib Shadowsocks.Net Shadowsocks.Udp

/-! ## Data -/

/-- `UdpAssociationSendMessage`: a packet on its way to its association. -/
structure UdpAssociationSendMessage where
  peerAddr : SocketAddr
  targetAddr : Address
  data : Bytes
  control : Option UdpSocketControlData
deriving DecidableEq

inductive NatKey where
  | peerAddr (addr : SocketAddr)
  | sessionId (id : Nat)
deriving DecidableEq, Repr

structure ClientSessionContext where
  clientSessionId : Nat
  packetWindowFilter : PacketWindowFilter
  clientUser : Option ServerUser

def ClientSessionContext.new (clientSessionId : Nat) : ClientSessionContext :=
  { clientSessionId := clientSessionId, packetWindowFilter := .new, clientUser := none }

/-- An outbound socket is known by its number. -/
structure UdpAssociationContext where
  peerAddr : SocketAddr
  outboundIpv4Socket : Option Nat
  outboundIpv6Socket : Option Nat
  keepaliveFlag : Bool
  clientSession : Option ClientSessionContext
  serverSessionId : Nat
  serverPacketId : Nat

/-- `UdpAssociationContext::create`; the server session id is drawn at random. -/
def UdpAssociationContext.create (peerAddr : SocketAddr) (clientSessionId : Option Nat)
    (serverSessionId : Nat) : UdpAssociationContext :=
  { peerAddr := peerAddr
    outboundIpv4Socket := none
    outboundIpv6Socket := none
    keepaliveFlag := false
    clientSession := clientSessionId.map .new
    serverSessionId := serverSessionId
    serverPacketId := 0 }

/-- How the system answers when a socket is opened. -/
inductive OpenOutcome where
  | opened
  | familyNotSupported
  | failed (e : IoError)
deriving DecidableEq

/-- What an association meets outside: the resolver's answers, whether sockets are
    taken to be dual-stack (`UDP_SOCKET_SUPPORT_DUAL_STACK`), and how the system
    answers to opening a socket and to sending.  `sent` logs the datagrams given to
    `send_to`. -/
structure Outbound where
  answers : List Answer
  dualStack : Bool
  openOutcome : Nat → OpenOutcome
  opened : Nat
  sendOutcome : Nat → SocketAddr → Except IoError Unit
  sent : List (SocketAddr × Bytes)

/-- An association at work on a packet. -/
structure Relay where
  assoc : UdpAssociationContext
  net : Outbound

/-! ## Packets from the client -/

namespace UdpAssociationContext

/-- A session follows its client to another address. -/
def followPeer (peerAddr : SocketAddr) (assoc : UdpAssociationContext) : UdpAssociationContext :=
  match assoc.clientSession with
  | some _ => { assoc with peerAddr := peerAddr }
  | none => assoc

/-- `u64::MAX`. -/
def packetIdLimit : Nat := 2 ^ 64 - 1

/-- The checks of `dispatch_received_packet`: whether the packet is relayed, and what
    they leave of the association and of the resolver's answers. -/
def admitReceivedPacket [Idna] (context : ServiceContext) (message : UdpAssociationSendMessage)
    (assoc : UdpAssociationContext) (answers : List Answer) :
    Bool × UdpAssociationContext × List Answer :=
  let assoc := assoc.followPeer message.peerAddr
  let (blocked, answers) := context.checkOutboundBlocked message.targetAddr answers
  if blocked then (false, assoc, answers)
  else
    match message.control with
    | none => (true, assoc, answers)
    | some control =>
      let session := assoc.clientSession.getD (.new control.clientSessionId)
      let (valid, filter) :=
        session.packetWindowFilter.validatePacketId control.packetId packetIdLimit
      let session := { session with packetWindowFilter := filter }
      if valid then
        (true, { assoc with clientSession := some { session with clientUser := control.user } },
          answers)
      else (false, { assoc with clientSession := some session }, answers)

end UdpAssociationContext

def setOutboundIpv4Socket (socket : Nat) (r : Relay) : Relay :=
  { r with assoc := { r.assoc with outboundIpv4Socket := some socket } }

def setOutboundIpv6Socket (socket : Nat) (r : Relay) : Relay :=
  { r with assoc := { r.assoc with outboundIpv6Socket := some socket } }

/-- `UDP_SOCKET_SUPPORT_DUAL_STACK.store(false, ..)`. -/
def disableDualStack (r : Relay) : Relay :=
  { r with net := { r.net with dualStack := false } }

/-- Asks the system for a socket, known by its number from now on. -/
def openSocket : PollM Relay IoError (OpenOutcome × Nat) := fun r =>
  (.ready (r.net.openOutcome r.net.opened, r.net.opened),
    { r with net := { r.net with opened := r.net.opened + 1 } })

/-- `OutboundUdpSocket::connect_any_with_opts` with `?`. -/
def connectAny : PollM Relay IoError Nat :=
  openSocket >>= fun (outcome, socket) =>
    match outcome with
    | .opened => pure socket
    | .familyNotSupported => PollM.fail (.other "address family not supported")
    | .failed e => PollM.fail e

/-- The socket of the target's own family. -/
def familySocket (targetAddr : SocketAddr) : PollM Relay IoError Unit :=
  PollM.get >>= fun r =>
    match targetAddr with
    | .v4 _ _ =>
      match r.assoc.outboundIpv4Socket with
      | some _ => pure ()
      | none => connectAny >>= fun socket => PollM.update (setOutboundIpv4Socket socket)
    | .v6 _ _ _ _ =>
      match r.assoc.outboundIpv6Socket with
      | some _ => pure ()
      | none => connectAny >>= fun socket => PollM.update (setOutboundIpv6Socket socket)

/-- The loop of `send_received_outbound_packet` that finds the socket.  It goes round
    again only once it has given up on dual-stack sockets. -/
def outboundSocket (targetAddr : SocketAddr) : PollM Relay IoError Unit :=
  PollM.get >>= fun r =>
    if r.net.dualStack then
      match r.assoc.outboundIpv6Socket with
      | some _ => pure ()
      | none =>
        openSocket >>= fun (outcome, socket) =>
          match outcome with
          | .opened => PollM.update (setOutboundIpv6Socket socket)
          | .familyNotSupported =>
            PollM.update disableDualStack >>= fun _ => familySocket targetAddr
          | .failed e => PollM.fail e
    else familySocket targetAddr

/-- The address as a dual-stack socket takes it. -/
def mappedTarget (dualStack : Bool) (targetAddr : SocketAddr) : SocketAddr :=
  match dualStack, targetAddr with
  | true, .v4 ip port => .v6 (toIpv6Mapped ip) port 0 0
  | _, targetAddr => targetAddr

/-- `socket.send_to`, which logs the datagram. -/
def sendTo (data : Bytes) (targetAddr : SocketAddr) : PollM Relay IoError Unit := fun r =>
  let sent := r.net.sent ++ [(targetAddr, data)]
  match r.net.sendOutcome r.net.sent.length targetAddr with
  | .ok () => (.ready (), { r with net := { r.net with sent := sent } })
  | .error e => (.failed e, { r with net := { r.net with sent := sent } })

def sendReceivedOutboundPacket (targetAddr : SocketAddr) (data : Bytes) :
    PollM Relay IoError Unit :=
  outboundSocket targetAddr >>= fun _ =>
    PollM.get >>= fun r => sendTo data (mappedTarget r.net.dualStack targetAddr)

/-- `dns_resolve` with `?`. -/
def resolveTarget : PollM Relay IoError (List SocketAddr) := fun r =>
  let (answer, answers) := dnsResolve r.net.answers
  match answer with
  | .ok addrs => (.ready addrs, { r with net := { r.net with answers := answers } })
  | .error e => (.failed e, { r with net := { r.net with answers := answers } })

def dispatchReceivedOutboundPacket (context : ServiceContext) (targetAddr : Address)
    (data : Bytes) : PollM Relay IoError Unit :=
  match targetAddr with
  | .socketAddress sa => sendReceivedOutboundPacket sa data
  | .domainNameAddress _ _ =>
    resolveTarget >>= fun addrs =>
      lookupThen context.ipv6First addrs (fun sa => sendReceivedOutboundPacket sa data) >>= fun _ =>
        pure ()

/-- An error is logged, and that is all. -/
def logError (x : PollM Relay IoError Unit) : PollM Relay IoError Unit :=
  orElse x (pure ())

/-- `dispatch_received_packet`. -/
def dispatchReceivedPacket [Idna] (context : ServiceContext)
    (message : UdpAssociationSendMessage) : PollM Relay IoError Unit := fun r =>
  match r.assoc.admitReceivedPacket context message r.net.answers with
  | (false, assoc, answers) =>
    (.ready (), { assoc := assoc, net := { r.net with answers := answers } })
  | (true, assoc, answers) =>
    logError (dispatchReceivedOutboundPacket context message.targetAddr message.data)
      { assoc := assoc, net := { r.net with answers := answers } }

/-! ## Responses -/

/-- A response as it leaves the inbound socket: whom it is sent to, the key it is
    sealed under, and what is sealed. -/
structure Response where
  peerAddr : SocketAddr
  key : Bytes
  addr : Address
  control : UdpSocketControlData
  data : Bytes
deriving DecidableEq

/-- An IPv4-mapped sender is named by its IPv4 address. -/
def respondAddr : SocketAddr → SocketAddr
  | .v6 ip port flowinfo scopeId =>
    match toIpv4Mapped ip with
    | some v4 => .v4 v4 port
    | none => .v6 ip port flowinfo scopeId
  | addr => addr

/-- `send_received_respond_packet`, on a server with the key `key`. -/
def sendReceivedRespondPacket (key : Bytes) (addr : SocketAddr) (data : Bytes)
    (assoc : UdpAssociationContext) : Option Response × UdpAssociationContext :=
  -- keeps the association alive in the map
  let assoc := { assoc with keepaliveFlag := true }
  let addr := Address.socketAddress (respondAddr addr)
  match assoc.clientSession with
  | none =>
    (some { peerAddr := assoc.peerAddr, key := serverSendKey key defaultSocketControl, addr := addr
            control := defaultSocketControl, data := data }, assoc)
  | some session =>
    if assoc.serverPacketId + 1 < 2 ^ 64 then
      let assoc := { assoc with serverPacketId := assoc.serverPacketId + 1 }
      let control : UdpSocketControlData :=
        { clientSessionId := session.clientSessionId, serverSessionId := assoc.serverSessionId
          packetId := assoc.serverPacketId, user := session.clientUser }
      (some { peerAddr := assoc.peerAddr, key := serverSendKey key control, addr := addr
              control := control, data := data }, assoc)
    -- the server's packet ids have run out
    else (none, assoc)

namespace UdpAssociationContext

/-- The association's key in the server's map. -/
def natKey (assoc : UdpAssociationContext) : NatKey :=
  match assoc.clientSession with
  | none => .peerAddr assoc.peerAddr
  | some session => .sessionId session.clientSessionId

/-- The tick of `keepalive_interval`: the key to keep alive, if there is one to send
    and the channel has room for it. -/
def keepaliveTick (room : Bool) (assoc : UdpAssociationContext) :
    Option NatKey × UdpAssociationContext :=
  if assoc.keepaliveFlag && room then (some assoc.natKey, { assoc with keepaliveFlag := false })
  else (none, assoc)

end UdpAssociationContext

end Shadowsocks.Server
