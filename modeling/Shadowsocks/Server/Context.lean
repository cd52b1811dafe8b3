import Shadowsocks.Acl

/-! # The server's service context

The parts of `ServiceContext` that decide what a server relays: the access control
list and the address family that is tried first.
-/

namespace Shadowsocks.Server

open Shadowsocks.Net

structure ServiceContext where
  acl : Option AccessControl
  ipv6First : Bool

namespace ServiceContext

def checkClientBlocked (context : ServiceContext) (addr : SocketAddr) : Bool :=
  match context.acl with
  | none => false
  | some acl => acl.checkClientBlocked addr

def checkOutboundBlocked [Idna] (context : ServiceContext) (addr : Address)
    (answers : List Answer) : Bool × List Answer :=
  match context.acl with
  | none => (false, answers)
  | some acl => acl.checkOutboundBlocked addr answers

/-! ## What the outbound rules match -/

/-- The outbound block rules match an IP address. -/
def blocksIp (context : ServiceContext) (ip : IpAddr) : Bool :=
  context.acl.any fun acl => acl.outboundBlock.checkIpMatched ip

/-- The outbound block rules match a host. -/
def blocksHost [Idna] (context : ServiceContext) (host : String) : Bool :=
  context.acl.any fun acl => acl.outboundBlock.checkHostMatched (AccessControl.convertToAscii host)

/-- The outbound block rules match an address of an answer. -/
def blocksAnswer (context : ServiceContext) : Answer → Bool
  | .error _ => false
  | .ok vaddr => vaddr.any fun addr => context.blocksIp addr.ip

/-- Both forms of an IPv4 address are blocked alike. -/
@[simp] theorem blocksIp_mapped (context : ServiceContext) (ip : BitVec 32) :
    context.blocksIp (.v6 (toIpv6Mapped ip)) = context.blocksIp (.v4 ip) := by
  unfold blocksIp
  cases context.acl with
  | none => rfl
  | some acl => exact acl.outboundBlock.checkIpMatched_mapped ip

variable [Idna] {context : ServiceContext}

/-- An IP address is checked against the rules, and the resolver is not asked. -/
theorem checkOutboundBlocked_socketAddress (saddr : SocketAddr) (answers : List Answer) :
    context.checkOutboundBlocked (.socketAddress saddr) answers =
      (context.blocksIp saddr.ip, answers) := by
  unfold checkOutboundBlocked blocksIp
  cases context.acl <;> rfl

/-- A name is checked against the host rules and then against an answer. -/
theorem checkOutboundBlocked_domainNameAddress {acl : AccessControl} (hacl : context.acl = some acl)
    (host : String) (port : Nat) (answers : List Answer) :
    context.checkOutboundBlocked (.domainNameAddress host port) answers =
      if context.blocksHost host then (true, answers)
      else (context.blocksAnswer (dnsResolve answers).1, (dnsResolve answers).2) := by
  have hanswer : ∀ answer, acl.checkAnswerBlocked answer = context.blocksAnswer answer := by
    intro answer
    cases answer with
    | error e => rfl
    | ok vaddr => simp [AccessControl.checkAnswerBlocked, blocksAnswer, blocksIp, hacl]
  simp only [checkOutboundBlocked, AccessControl.checkOutboundBlocked, blocksHost, hacl,
    Option.any_some, hanswer]

end ServiceContext

end Shadowsocks.Server
