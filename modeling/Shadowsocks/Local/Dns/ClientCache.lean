import Mathlib.Logic.Function.Basic
import Shadowsocks.Lib.Reachable
import Shadowsocks.Local.Dns.Upstream

/-! # The DNS client cache

A lookup takes a client from the cache, or makes one, asks its question and puts the client back once
it has the answer; a client whose lookup fails, or is given up, is gone.  The name servers answer
what they are asked, at any time: a datagram may come late, more than once or not at all, and a
stream carries one answer for each question, in order.

`S` are the configurations of shadowsocks servers.
-/

namespace Shadowsocks.Local.Dns

open Shadowsocks.Lib Shadowsocks.Net

inductive DnsClientKey where
  | tcpLocal (ns : SocketAddr)
  | udpLocal (ns : SocketAddr)
  | tcpRemote (ns : Address)
  | udpRemote (ns : Address)
deriving DecidableEq, Repr

variable {S : Type}

/-- The key that a client is kept under. -/
def DnsClient.key : DnsClient S → DnsClientKey
  | tcpLocal ns => .tcpLocal ns
  | udpLocal ns => .udpLocal ns
  | tcpRemote _ ns => .tcpRemote ns
  | udpRemote _ ns => .udpRemote ns

/-- `lookup_local` and `lookup_remote`. -/
inductive Call (S : Type) where
  | lookupLocal (ns : SocketAddr) (isUdp : Bool)
  | lookupRemote (svrCfg : S) (ns : Address) (isUdp : Bool)
deriving DecidableEq, Repr

namespace Call

def key : Call S → DnsClientKey
  | lookupLocal ns true => .udpLocal ns
  | lookupLocal ns false => .tcpLocal ns
  | lookupRemote _ ns true => .udpRemote ns
  | lookupRemote _ ns false => .tcpRemote ns

/-- The client that `lookup_dns` connects. -/
def connect : Call S → DnsClient S
  | lookupLocal ns true => .udpLocal ns
  | lookupLocal ns false => .tcpLocal ns
  | lookupRemote svrCfg ns true => .udpRemote svrCfg ns
  | lookupRemote svrCfg ns false => .tcpRemote svrCfg ns

end Call

/-! ## Connections -/

/-- A datagram that waits to be received: the number of the question that it answers, the reply
    as the name server sent it, and what is in the socket. -/
structure Datagram where
  number : Nat
  reply : Bytes
  packet : Bytes
deriving DecidableEq

/-- The connection of a client. -/
structure Connection (S : Type) where
  client : DnsClient S
  /-- The name server has not closed it. -/
  connected : Bool
  /-- The questions that were sent on it. -/
  queries : List Message
  datagrams : List Datagram
  /-- What has been sent back on the stream and is not read. -/
  stream : Bytes
  /-- The questions that were answered on the stream. -/
  replied : Nat
  /-- The question of the lookup that has the client. -/
  waiting : Option Message

namespace Connection

def new (client : DnsClient S) : Connection S where
  client := client
  connected := true
  queries := []
  datagrams := []
  stream := []
  replied := 0
  waiting := none

/-- `check_connected`: the end of a stream is only seen where nothing is left to read. -/
def checkConnected (c : Connection S) : Bool :=
  c.client.isUdp || c.connected || c.stream ≠ []

def send (c : Connection S) (query : Message) : Connection S :=
  { c with queries := c.queries ++ [query], waiting := some query }

/-- The lookup is over. -/
def release (c : Connection S) : Connection S := { c with waiting := none }

end Connection

variable [ProxyServers S] [Hickory]

/-- A message with its length before it. -/
def frame (message : Bytes) : Bytes := bigEndian 2 message.length ++ message

/-- Reads a message and its length, if all of it is there. -/
def readFrame (stream : Bytes) : Option (Bytes × Bytes) :=
  let length := fromBigEndian (stream.take 2)
  if stream.length < 2 + length then none
  else some ((stream.drop 2).take length, stream.drop (2 + length))

/-- The size of the buffer that datagrams are received into. -/
def recvBufSize : Nat := 256

/-- The size of a datagram that carries a DNS message. -/
def maxDatagram : Nat := 512

/-- What a name server sends is for the question: if it is a message at all, it has the question's id
    and repeats it. -/
def answers (query : Message) (reply : Bytes) : Bool :=
  match Hickory.fromVec reply with
  | .ok message => message.id = query.id && message.queries = query.queries
  | .error _ => true

namespace Connection

/-- `inner_lookup`, from where it receives: the reply as the name server sent it, and what is read
    as a message, if there is something to read.  Nothing if it still waits. -/
def receive (now : Time) (c : Connection S) : Option (Bytes × Option Bytes × Connection S) :=
  if c.client.isUdp then
    match c.datagrams with
    | [] => none
    | d :: datagrams =>
      some (d.reply, c.client.opened now (d.packet.take recvBufSize), { c with datagrams })
  else
    match readFrame c.stream with
    | none => none
    | some (reply, stream) => some (reply, some reply, { c with stream })

/-- The name server answers the question of the number; a server on the way to the client seals the
    answer. -/
def reply (c : Connection S) (number : Nat) (message : Bytes) (sealing : Sealing) :
    Option (Connection S) :=
  match c.queries[number]? with
  | none => none
  | some query =>
    if answers query message then
      if c.client.isUdp then
        if message.length ≤ maxDatagram then
          (c.client.datagram sealing message).map fun packet =>
            { c with datagrams := c.datagrams ++ [{ number, reply := message, packet }] }
        else none
      else if number = c.replied ∧ message.length < 2 ^ 16 then
        some { c with stream := c.stream ++ frame message, replied := c.replied + 1 }
      else none
    else none

end Connection

/-! ## Lookups -/

/-- A question and the client that it was sent over. -/
structure Asked (S : Type) where
  call : Call S
  client : DnsClient S
deriving DecidableEq

/-- A message that a lookup returned. -/
structure Answered where
  query : Message
  /-- As the name server sent it. -/
  reply : Bytes
  message : Message
deriving DecidableEq

/-- The cache and the clients that there ever were. -/
structure DnsClientCache (S : Type) where
  cache : DnsClientKey → Option (List Nat)
  maxClientPerAddr : Nat
  connections : Nat → Connection S
  created : Nat
  asked : List (Asked S)
  answered : List Answered

inductive DnsEvent (S : Type) where
  /-- A lookup begins, with the id that it chooses; `connects` is whether it can connect a client. -/
  | lookup (call : Call S) (msg : Message) (id : BitVec 16) (connects : Bool)
  /-- The name server answers a question that was sent over a client. -/
  | reply (client number : Nat) (message : Bytes) (sealing : Sealing)
  /-- The name server closes a connection. -/
  | close (client : Nat)
  /-- A lookup receives its answer. -/
  | receive (client : Nat) (now : Time)
  /-- A lookup fails, or is given up. -/
  | abandon (client : Nat)

namespace DnsClientCache

variable (s : DnsClientCache S)

/-- A cache without clients; no connection is meant by the numbers from `created` on. -/
def new (maxClientPerAddr : Nat) (unused : DnsClient S) : DnsClientCache S where
  cache _ := none
  maxClientPerAddr := maxClientPerAddr
  connections _ := .new unused
  created := 0
  asked := []
  answered := []

def setConnection (client : Nat) (c : Connection S) : DnsClientCache S :=
  { s with connections := Function.update s.connections client c }

def queue (key : DnsClientKey) : List Nat := (s.cache key).getD []

def setQueue (key : DnsClientKey) (queue : List Nat) : DnsClientCache S :=
  { s with cache := Function.update s.cache key (some queue) }

/-- Leaves clients in the queue of a key, if it has one. -/
def leaveQueue (key : DnsClientKey) (queue : List Nat) : DnsClientCache S :=
  if (s.cache key).isSome then s.setQueue key queue else s

/-- The first client in a queue that is still connected, and what stays in the queue. -/
def takeConnected : List Nat → Option Nat × List Nat
  | [] => (none, [])
  | client :: queue =>
    if (s.connections client).checkConnected then (some client, queue) else takeConnected queue

/-- Sends the question, or drops the client where it has no wire form. -/
def ask (call : Call S) (client : Nat) (query : Message) : DnsClientCache S :=
  match Hickory.toVec query with
  | .error _ => s
  | .ok _ =>
    { s.setConnection client ((s.connections client).send query) with
      asked := s.asked ++ [{ call, client := (s.connections client).client }] }

def create (client : DnsClient S) : DnsClientCache S :=
  { s.setConnection s.created (.new client) with created := s.created + 1 }

/-- `get_client_or_create`: a client that was connected in vain is not noticed. -/
def getClientOrCreate (call : Call S) (connects : Bool) : Option Nat × DnsClientCache S :=
  let (found, queue) := s.takeConnected (s.queue call.key)
  let s := s.leaveQueue call.key queue
  match found with
  | some client => (some client, s)
  | none => if connects then (some s.created, s.create call.connect) else (none, s)

def lookup (call : Call S) (query : Message) (connects : Bool) : DnsClientCache S :=
  match s.getClientOrCreate call connects with
  | (some client, s) => s.ask call client query
  | (none, s) => s

/-- `save_client`. -/
def saveClient (client : Nat) : DnsClientCache S :=
  let key := (s.connections client).client.key
  match s.cache key with
  | some queue =>
    let queue := queue ++ [client]
    s.setQueue key (if s.maxClientPerAddr < queue.length then queue.tail else queue)
  | none => s.setQueue key [client]

/-- A client whose answer cannot be opened or read is dropped, also where that panics. -/
def receive (client : Nat) (now : Time) : Option (DnsClientCache S) := do
  let query ← (s.connections client).waiting
  let (reply, received, c) ← (s.connections client).receive now
  let s := s.setConnection client c.release
  match received.map Hickory.fromVec with
  | some (.ok message) =>
    some { s.saveClient client with answered := s.answered ++ [{ query, reply, message }] }
  | _ => some s

def step (s : DnsClientCache S) : DnsEvent S → Option (DnsClientCache S)
  | .lookup call msg id connects => some (s.lookup call { msg with id } connects)
  | .reply client number message sealing =>
    ((s.connections client).reply number message sealing).map (s.setConnection client)
  | .close client =>
    some (s.setConnection client { s.connections client with connected := false })
  | .receive client now => s.receive client now
  | .abandon client => some (s.setConnection client (s.connections client).release)

end DnsClientCache

end Shadowsocks.Local.Dns
