import Shadowsocks.Local.Dns.Message

/-! # The DNS server

A query is answered by a local or by a remote name server.  The access control list decides by the
name that is asked for; where no rule says anything, it is what the local server answers that
decides, while the remote one is asked at the same time (`aclLookup`).

A panic is `none`, or says which one it is.
-/

namespace Shadowsocks.Local.Dns

open Shadowsocks.Lib Shadowsocks.Net

/-- An access control list with the sizes of its `RegexSet`s. -/
structure DnsAcl extends AccessControl where
  blackListRegexes : Nat
  whiteListRegexes : Nat
  blackListNone : blackListRegexes = 0 → ∀ host, blackList.ruleRegex host = false
  whiteListNone : whiteListRegexes = 0 → ∀ host, whiteList.ruleRegex host = false

/-- `is_host_empty`. -/
def DnsAcl.isHostEmpty (acl : DnsAcl) : Bool :=
  let noHosts := fun (rules : Rules) (regexes : Nat) =>
    rules.ruleSet.isEmpty && rules.ruleTree.isEmpty && regexes == 0
  noHosts acl.blackList acl.blackListRegexes && noHosts acl.whiteList acl.whiteListRegexes

variable [Hickory]

/-! ## Deciding by the query -/

/-- Takes the next label, from the root on; missing labels are filled with zeros. -/
def nextLabel : List Label → Text × List Label
  | [] => ("0".toList, [])
  | label :: labels => ((decodeUtf8 label).getD "*".toList, labels)

/-- An unsigned integer's `from_str_radix`. -/
def fromStrRadix (radix bound : Nat) (s : Text) : Option Nat :=
  let ds := if s.head? = some '+' then s.tail else s
  if ds ≠ [] ∧ ds.all (isDigit radix) ∧ digitsValue radix ds < bound then
    some (digitsValue radix ds)
  else none

/-- Reads `n` octets from as many labels. -/
def readOctetLabels : Nat → List Label → Option (List Nat)
  | 0, _ => some []
  | n + 1, labels =>
    let (octet, labels) := nextLabel labels
    (fromStrRadix 10 256 octet).bind fun octet => (readOctetLabels n labels).map (octet :: ·)

/-- Reads `n` segments, each from four labels. -/
def readSegmentLabels : Nat → List Label → Option (List Nat)
  | 0, _ => some []
  | n + 1, labels =>
    let (first, labels) := nextLabel labels
    let (second, labels) := nextLabel labels
    let (third, labels) := nextLabel labels
    let (fourth, labels) := nextLabel labels
    (fromStrRadix 16 65536 (first ++ (second ++ (third ++ fourth)))).bind fun segment =>
      (readSegmentLabels n labels).map (segment :: ·)

def shouldForwardByPtrName (acl : AccessControl) (name : DnsName) : Bool :=
  let (root, labels) := nextLabel name.labels.reverse
  if lower root ≠ "arpa".toList then acl.isDefaultInProxyList
  else
    let (family, labels) := nextLabel labels
    if lower family = "in-addr".toList then
      match readOctetLabels 4 labels with
      | some octets => acl.checkIpInProxyList (.v4 (BitVec.ofNat 32 (ofGroups 256 octets)))
      | none => acl.isDefaultInProxyList
    else if lower family = "ip6".toList then
      match readSegmentLabels 8 labels with
      | some segments => acl.checkIpInProxyList (.v6 (BitVec.ofNat 128 (ofGroups 65536 segments)))
      | none => acl.isDefaultInProxyList
    else acl.isDefaultInProxyList

/-- The query asks for the name of a server. -/
def asksForServer (servers : List ServerAddr) (query : Query) : Bool :=
  servers.any fun
    | .domainName dn _ =>
      match Hickory.nameFromStr dn with
      | some name => decide (query.name.Same name)
      | none => false
    | .socketAddr _ => false

/-- `servers` are the addresses of the balancer's servers. -/
def shouldForwardByQuery (acl : Option DnsAcl) (servers : List ServerAddr) (query : Query) :
    Option Bool :=
  if servers.isEmpty then some false
  else if asksForServer servers query then some false
  else
    match acl with
    | none => some true
    | some acl =>
      if query.queryClass ≠ .internet then some acl.isDefaultInProxyList
      else if query.queryType = .ptr then
        some (shouldForwardByPtrName acl.toAccessControl query.name)
      else
        let result := acl.checkNameInProxyList query.name.seen
        if result.isNone && acl.isIpEmpty && acl.isHostEmpty then some acl.isDefaultInProxyList
        else result

/-! ## Deciding by the local response -/

/-- What comes of a record, or of some: the decision, or the names that are known then. -/
inductive Examined where
  | decided (forward : Bool)
  | undecided (names : List DnsName)
  | unreachable

/-- `names.contains`. -/
def Known (names : List DnsName) (name : DnsName) : Prop := ∃ known ∈ names, name.Same known

instance (names : List DnsName) (name : DnsName) : Decidable (Known names name) :=
  inferInstanceAs (Decidable (∃ known ∈ names, name.Same known))

/-- `examine_name!`. -/
def examineName (acl : AccessControl) (isAnswer : Bool) (name : DnsName) : Bool :=
  if isAnswer then (acl.checkNameInProxyList name.seen).getD acl.isDefaultInProxyList
  else acl.isDefaultInProxyList

/-- `examine_record!`. -/
def examineRecord (acl : AccessControl) (query : Query) (isAnswer : Bool) (names : List DnsName)
    (rec : Record) : Examined :=
  let forwardOr := fun (forward : Bool) (names : List DnsName) =>
    if forward then Examined.undecided names else .decided false
  match rec.data with
  | some (.cname name) =>
    match if isAnswer then acl.checkNameInProxyList name.seen else none with
    | some value => .decided value
    | none => .undecided (name :: names)
  | data =>
    if isAnswer ∧ query.queryType ≠ .any ∧ rec.recordType ≠ query.queryType then .decided true
    else
      match data with
      | some (.a ip) => forwardOr (acl.checkIpInProxyList (.v4 ip)) names
      | some (.aaaa ip) => forwardOr (acl.checkIpInProxyList (.v6 ip)) names
      | some (.mx _ exchange) => forwardOr (examineName acl isAnswer exchange) (exchange :: names)
      | some (.ns name) => forwardOr (examineName acl isAnswer name) (name :: names)
      | some (.ptr _) => .unreachable
      | _ => forwardOr acl.isDefaultInProxyList names

/-- An answer must be for a name that is known; other records are passed over if they are not. -/
def examineRecords (acl : AccessControl) (query : Query) (isAnswer : Bool) (names : List DnsName) :
    List Record → Examined
  | [] => .undecided names
  | rec :: recs =>
    if Known names rec.name then
      match examineRecord acl query isAnswer names rec with
      | .undecided names => examineRecords acl query isAnswer names recs
      | examined => examined
    else if isAnswer then .decided true
    else examineRecords acl query isAnswer names recs

def shouldForwardByResponse (acl : Option AccessControl) (localResponse : Except IoError Message)
    (query : Query) : Option Bool :=
  match acl, localResponse with
  | none, _ => none
  | some _, .error _ => some true
  | some acl, .ok response =>
    match examineRecords acl query true [query.name] response.answers with
    | .decided forward => some forward
    | .unreachable => none
    | .undecided names =>
      match examineRecords acl query false names response.additionals with
      | .decided forward => some forward
      | .unreachable => none
      | .undecided _ => some true

/-! ## Asking both -/

/-- The futures that `select!` polls. -/
inductive Branch where
  | remoteResponseFut
  | decider
deriving DecidableEq, Repr

inductive LookupPanic where
  /-- A future is polled again that has completed. -/
  | resumed
  /-- `else => unreachable!()`. -/
  | noBranch
  /-- The examination of the local response panics. -/
  | examination
deriving DecidableEq, Repr

/-- What the loop keeps, and which futures have completed. -/
structure SelectLoop where
  useRemote : Bool
  remoteResponse : Option (Except IoError Message)
  completed : Branch → Bool

inductive AclLookup where
  | waiting (s : SelectLoop)
  | returned (response : Except IoError Message) (forward : Bool)
  | panicked (p : LookupPanic)

namespace SelectLoop

def init : SelectLoop := { useRemote := false, remoteResponse := none, completed := fun _ => false }

/-- The conditions of the branches. -/
def enabled (s : SelectLoop) : Branch → Bool
  | .remoteResponseFut => s.remoteResponse.isNone
  | .decider => !s.useRemote

/-- Goes to `select!`. -/
def enter (s : SelectLoop) : AclLookup :=
  if s.enabled .remoteResponseFut || s.enabled .decider then .waiting s else .panicked .noBranch

def complete (s : SelectLoop) (branch : Branch) : SelectLoop :=
  { s with completed := fun b => b = branch || s.completed b }

/-- The lookup that a future has completed for: `select!` polls it unless its branch is disabled. -/
def poll (acl : Option AccessControl) (query : Query)
    (localResponse remoteResponse : Except IoError Message) (s : SelectLoop) (branch : Branch) :
    AclLookup :=
  if !s.enabled branch then .waiting s
  else if s.completed branch then .panicked .resumed
  else
    let s := s.complete branch
    match branch with
    | .remoteResponseFut =>
      if s.useRemote then .returned remoteResponse true
      else enter { s with remoteResponse := some remoteResponse }
    | .decider =>
      match shouldForwardByResponse acl localResponse query with
      | none => .panicked .examination
      | some false => .returned localResponse false
      | some true =>
        match s.remoteResponse with
        | some response => .returned response true
        | none => enter { s with useRemote := true }

end SelectLoop

/-- A lookup that has ended is not polled again. -/
def AclLookup.poll (acl : Option AccessControl) (query : Query)
    (localResponse remoteResponse : Except IoError Message) : AclLookup → Branch → AclLookup
  | .waiting s, branch => s.poll acl query localResponse remoteResponse branch
  | ended, _ => ended

/-- `acl_lookup`, with what the two lookups come to; `polls` are the futures whose lookup has come
    to it, in the order in which they are polled. -/
def aclLookup (acl : Option DnsAcl) (servers : List ServerAddr) (query : Query)
    (localResponse remoteResponse : Except IoError Message) (polls : List Branch) : AclLookup :=
  match shouldForwardByQuery acl servers query with
  | some true => .returned remoteResponse true
  | some false => .returned localResponse false
  | none =>
    polls.foldl (AclLookup.poll (acl.map (·.toAccessControl)) query localResponse remoteResponse)
      SelectLoop.init.enter

end Shadowsocks.Local.Dns
