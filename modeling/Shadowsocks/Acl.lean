import Shadowsocks.Net.Resolve

/-! # Access control

The rules of an access control list and the checks that a server makes with them.
A rule for an IPv4 network also covers the IPv4-mapped IPv6 addresses and the other
way round (`checkIpMatched_mapped`), so what an address is matched by does not
depend on the form it is written in.

How the rules are read from a file is left out.  The regular expressions stand as
the hosts they match, and the conversion of internationalised names is the `idna`
crate's.
-/

namespace Shadowsocks

open Shadowsocks.Net

/-! ## IP networks -/

/-- `IpNet`: a network of addresses of some width. -/
structure IpNet (width : Nat) where
  addr : BitVec width
  prefixLen : Nat
deriving DecidableEq, Repr

/-- The addresses that agree with the network's own in its leading bits. -/
def IpNet.contains {width : Nat} (net : IpNet width) (ip : BitVec width) : Bool :=
  ip >>> (width - net.prefixLen) = net.addr >>> (width - net.prefixLen)

/-- `IpRange`, as far as it is asked: how its networks are kept, merged or not, makes no difference
    to the answers. -/
structure IpRange (width : Nat) where
  contains : BitVec width → Bool
  isEmpty : Bool

namespace IpRange

variable {width : Nat}

def new : IpRange width where
  contains _ := false
  isEmpty := true

/-- The range that one more network is in. -/
def add (range : IpRange width) (net : IpNet width) : IpRange width where
  contains ip := net.contains ip || range.contains ip
  isEmpty := false

end IpRange

/-! ## Domain names -/

/-- A label of a domain name with the labels that may stand before it. -/
inductive DomainPart where
  | mk (included : Bool) (children : List (String × DomainPart))

namespace DomainPart

def included : DomainPart → Bool
  | mk included _ => included

def children : DomainPart → List (String × DomainPart)
  | mk _ children => children

end DomainPart

/-- `SubDomainsTree`: the last labels of the names it holds. -/
abbrev SubDomainsTree := List (String × DomainPart)

namespace SubDomainsTree

/-- Walks the labels of a name from the last one. -/
def containsLabels : SubDomainsTree → List String → Bool
  | _, [] => false
  | currentMap, part :: parts =>
    match currentMap.lookup part with
    | some el => el.included || containsLabels el.children parts
    | none => false

/-- The labels of a domain name, as `split('.')` gives them. -/
def labels (value : String) : List String :=
  (value.toList.splitOn '.').map String.ofList

def contains (tree : SubDomainsTree) (value : String) : Bool :=
  tree.containsLabels (labels value).reverse

@[simp] theorem contains_nil (value : String) : contains [] value = false := by
  unfold contains
  cases (labels value).reverse <;> rfl

end SubDomainsTree

/-- `trim_end_matches('.')`. -/
def trimEndDots (host : String) : String :=
  String.ofList (host.toList.reverse.dropWhile (· = '.')).reverse

/-! ## Rules -/

structure Rules where
  ipv4 : IpRange 32
  ipv6 : IpRange 128
  ruleRegex : String → Bool
  ruleSet : List String
  ruleTree : SubDomainsTree

namespace Rules

def empty : Rules :=
  { ipv4 := .new, ipv6 := .new, ruleRegex := fun _ => false, ruleSet := [], ruleTree := [] }

def checkIpMatched (rules : Rules) : IpAddr → Bool
  | .v4 v4 => rules.ipv4.contains v4 || rules.ipv6.contains (toIpv6Mapped v4)
  | .v6 v6 =>
    rules.ipv6.contains v6 ||
      match toIpv4Mapped v6 with
      | some mappedIpv4 => rules.ipv4.contains mappedIpv4
      | none => false

/-- An IPv4 address and its IPv4-mapped form are matched by the same rules. -/
@[simp] theorem checkIpMatched_mapped (rules : Rules) (ip : BitVec 32) :
    rules.checkIpMatched (.v6 (toIpv6Mapped ip)) = rules.checkIpMatched (.v4 ip) := by
  simp only [checkIpMatched, toIpv4Mapped_toIpv6Mapped]
  exact Bool.or_comm ..

/-- Checks an ASCII host, with or without the dot of a fully qualified name. -/
def checkHostMatched (rules : Rules) (host : String) : Bool :=
  let host := trimEndDots host
  rules.ruleSet.contains host || rules.ruleTree.contains host || rules.ruleRegex host

def isIpEmpty (rules : Rules) : Bool := rules.ipv4.isEmpty && rules.ipv6.isEmpty

end Rules

/-! ## Access control lists -/

inductive Mode where
  | blackList
  | whiteList
deriving DecidableEq, Repr

structure AccessControl where
  outboundBlock : Rules
  blackList : Rules
  whiteList : Rules
  mode : Mode

/-- The `idna` crate. -/
class Idna where
  domainToAscii : String → Option String

namespace AccessControl

def checkClientBlocked (acl : AccessControl) (addr : SocketAddr) : Bool :=
  match acl.mode with
  -- only clients in the black list are blocked
  | .blackList => acl.blackList.checkIpMatched addr.ip
  -- only clients in the white list are served
  | .whiteList => !acl.whiteList.checkIpMatched addr.ip

/-- Whether a host is in the proxy list; `none` if no rule matches it. -/
def checkAsciiHostInProxyList (acl : AccessControl) (host : String) : Option Bool :=
  if acl.whiteList.checkHostMatched host then some true
  else if acl.blackList.checkHostMatched host then some false
  else none

def isIpEmpty (acl : AccessControl) : Bool :=
  match acl.mode with
  | .blackList => acl.blackList.isIpEmpty
  | .whiteList => acl.whiteList.isIpEmpty

def checkIpInProxyList (acl : AccessControl) (ip : IpAddr) : Bool :=
  match acl.mode with
  | .blackList => !acl.blackList.checkIpMatched ip
  | .whiteList => acl.whiteList.checkIpMatched ip

/-- What is done with hosts that are not configured: whether they are proxied. -/
def isDefaultInProxyList (acl : AccessControl) : Bool :=
  match acl.mode with
  | .blackList => true
  | .whiteList => false

variable [Idna]

/-- A name that cannot be converted stays as it is. -/
def convertToAscii (host : String) : String :=
  (Idna.domainToAscii host).getD host

def checkHostInProxyList (acl : AccessControl) (host : String) : Option Bool :=
  acl.checkAsciiHostInProxyList (convertToAscii host)

/-- `check_target_bypassed`, which makes a lookup for a name that no rule matches. -/
def checkTargetBypassed (acl : AccessControl) (addr : Address) (answers : List Answer) :
    Bool × List Answer :=
  match addr with
  | .socketAddress addr => (!acl.checkIpInProxyList addr.ip, answers)
  | .domainNameAddress host _ =>
    match acl.checkHostInProxyList host with
    | some value => (!value, answers)
    | none =>
      if acl.isIpEmpty then (!acl.isDefaultInProxyList, answers)
      else
        let (answer, answers) := dnsResolve answers
        match answer with
        | .ok vaddr => (vaddr.any fun addr => !acl.checkIpInProxyList addr.ip, answers)
        | .error _ => (false, answers)

/-- An address that the resolver answered with is blocked. -/
def checkAnswerBlocked (acl : AccessControl) : Answer → Bool
  -- no answer blocks nothing
  | .error _ => false
  | .ok vaddr => vaddr.any fun addr => acl.outboundBlock.checkIpMatched addr.ip

/-- `check_outbound_blocked`, which makes a lookup of its own for a name whose host
    no rule matches. -/
def checkOutboundBlocked (acl : AccessControl) (outbound : Address) (answers : List Answer) :
    Bool × List Answer :=
  match outbound with
  | .socketAddress saddr => (acl.outboundBlock.checkIpMatched saddr.ip, answers)
  | .domainNameAddress host _ =>
    if acl.outboundBlock.checkHostMatched (convertToAscii host) then (true, answers)
    else
      let (answer, answers) := dnsResolve answers
      (acl.checkAnswerBlocked answer, answers)

end AccessControl

end Shadowsocks
