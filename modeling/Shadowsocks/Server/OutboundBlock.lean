import Shadowsocks.Server.TcpServer
import Shadowsocks.Server.UdpServer

/-! # Blocked addresses

Whether a server keeps away from the addresses that its outbound rules match.  For a
target that is an IP address it does.  A name is resolved once for each check and once
more to send or to connect, and nothing checks the last answer: the server keeps away
from blocked addresses exactly if a check refuses the name or the last answer holds no
blocked address (`outbound_unblocked_iff`).
-/

namespace Shadowsocks.Server

open Shadowsocks.Lib Shadowsocks.Net Shadowsocks.Udp

/-- The answer to one of the lookups. -/
def answerAt (answers : List Answer) (k : Nat) : Answer :=
  answers[k]?.getD (.error noAnswer)

/-- With `checks` lookups before the one that is used, the target is harmless: it is an
    IP address, or a check refuses it, or the answer that is used holds no blocked
    address. -/
def Shielded [Idna] (context : ServiceContext) (answers : List Answer) (checks : Nat) :
    Address → Prop
  | .socketAddress _ => True
  | .domainNameAddress host _ =>
    context.blocksHost host = true ∨
      (∃ k < checks, context.blocksAnswer (answerAt answers k) = true) ∨
      context.blocksAnswer (answerAt answers checks) = false

/-- A datagram on its way through the UDP server: `recv_one_packet` and then the
    association's `dispatch_received_packet`. -/
def relayDatagram [Idna] (context : ServiceContext) (message : UdpAssociationSendMessage)
    (r : Relay) : Relay :=
  let (admitted, answers) :=
    admitsDatagram context message.peerAddr message.data message.targetAddr r.net.answers
  let r := { r with net := { r.net with answers := answers } }
  if admitted then (dispatchReceivedPacket context message r).2 else r

theorem dnsResolve_fst (answers : List Answer) : (dnsResolve answers).1 = answerAt answers 0 := by
  cases answers <;> rfl

theorem answerAt_dnsResolve (answers : List Answer) (k : Nat) :
    answerAt (dnsResolve answers).2 k = answerAt answers (k + 1) := by
  cases answers <;> rfl

section Checks

variable [Idna] {context : ServiceContext} {answers answers' : List Answer}

/-- A check that lets a name through has used up one harmless answer. -/
theorem shielded_of_check {acl : AccessControl} (hacl : context.acl = some acl) {checks : Nat}
    {target : Address} (hcheck : context.checkOutboundBlocked target answers = (false, answers'))
    (h : Shielded context answers (checks + 1) target) :
    Shielded context answers' checks target := by
  cases target with
  | socketAddress saddr => trivial
  | domainNameAddress host port =>
    rw [ServiceContext.checkOutboundBlocked_domainNameAddress hacl] at hcheck
    split at hcheck
    · cases hcheck
    · next hhost =>
      obtain ⟨hanswer, rfl⟩ := Prod.mk.inj hcheck
      rw [dnsResolve_fst] at hanswer
      rcases h with h | ⟨k, hk, h⟩ | h
      · exact absurd h hhost
      · cases k with
        | zero =>
          rw [hanswer] at h
          cases h
        | succ k =>
          exact .inr (.inl ⟨k, Nat.lt_of_succ_lt_succ hk, (answerAt_dnsResolve ..).symm ▸ h⟩)
      · exact .inr (.inr ((answerAt_dnsResolve ..).symm ▸ h))

/-- Where no check refuses a name, each uses up an answer. -/
theorem check_of_not_shielded {acl : AccessControl} (hacl : context.acl = some acl) {checks : Nat}
    {host : String} {port : Nat}
    (h : ¬ Shielded context answers (checks + 1) (.domainNameAddress host port)) :
    context.checkOutboundBlocked (.domainNameAddress host port) answers =
        (false, (dnsResolve answers).2) ∧
      ¬ Shielded context (dnsResolve answers).2 checks (.domainNameAddress host port) := by
  unfold Shielded at h
  push Not at h
  obtain ⟨hhost, hchecks, hlast⟩ := h
  constructor
  · rw [ServiceContext.checkOutboundBlocked_domainNameAddress hacl, if_neg hhost, dnsResolve_fst,
      Bool.eq_false_iff.2 (hchecks 0 (Nat.succ_pos _))]
  · rintro (h | ⟨k, hk, h⟩ | h)
    · exact hhost h
    · rw [answerAt_dnsResolve] at h
      exact hchecks (k + 1) (Nat.succ_lt_succ hk) h
    · rw [answerAt_dnsResolve] at h
      exact hlast h

end Checks

/-! ## Datagrams -/

/-- Nothing was sent to a blocked address. -/
def OnlySent (context : ServiceContext) (r : Relay) : Prop :=
  ∀ sent ∈ r.net.sent, context.blocksIp sent.1.ip = false

section Datagrams

variable {context : ServiceContext}

theorem onlySent_stable (context : ServiceContext) : SocketStable (OnlySent context) where
  opened _ _ h := h
  answers _ _ h := h
  ipv4 _ _ h := h
  ipv6 _ _ h := h
  dualStack _ h := h

/-- The form in which a dual-stack socket takes an address is blocked as the address is. -/
theorem blocksIp_mappedTarget (dualStack : Bool) (sa : SocketAddr) :
    context.blocksIp (mappedTarget dualStack sa).ip = context.blocksIp sa.ip := by
  cases dualStack with
  | false => rfl
  | true =>
    cases sa with
    | v4 ip port => exact context.blocksIp_mapped ip
    | v6 ip port flowinfo scopeId => rfl

theorem onlySent_logSent {sa : SocketAddr} (h : context.blocksIp sa.ip = false) (dualStack : Bool)
    (data : Bytes) {r : Relay} (hr : OnlySent context r) :
    OnlySent context (logSent (mappedTarget dualStack sa) data r) := by
  intro sent hsent
  rcases List.mem_append.1 hsent with hsent | hsent
  · exact hr sent hsent
  · rw [List.mem_singleton.1 hsent, blocksIp_mappedTarget]
    exact h

/-! ### Shielded datagrams -/

variable [Idna] {message : UdpAssociationSendMessage} {answers answers' : List Answer}

/-- A packet that is let through has passed the check of its target. -/
theorem check_of_admitReceivedPacket {assoc assoc' : UdpAssociationContext}
    (h : assoc.admitReceivedPacket context message answers = (true, assoc', answers')) :
    context.checkOutboundBlocked message.targetAddr answers = (false, answers') := by
  unfold UdpAssociationContext.admitReceivedPacket at h
  rcases hcheck : context.checkOutboundBlocked message.targetAddr answers with ⟨blocked, left⟩
  simp only [hcheck] at h
  cases blocked with
  | true => simp at h
  | false =>
    cases hc : message.control with
    | none =>
      simp only [hc, Bool.false_eq_true, if_false, Prod.mk.injEq, true_and] at h
      rw [h.2]
    | some control =>
      simp only [hc, Bool.false_eq_true, if_false] at h
      split at h
      · simp only [Prod.mk.injEq, true_and] at h
        rw [h.2]
      · simp at h

/-- What passes a check may only be sent to addresses that are not blocked, if it was
    shielded. -/
theorem targets_of_check {acl : AccessControl} (hacl : context.acl = some acl) {target : Address}
    (hcheck : context.checkOutboundBlocked target answers = (false, answers'))
    (h : Shielded context answers 1 target) :
    TargetsSatisfy (fun sa => context.blocksIp sa.ip = false) target answers' := by
  have hleft := shielded_of_check hacl hcheck h
  cases target with
  | socketAddress sa =>
    rw [ServiceContext.checkOutboundBlocked_socketAddress] at hcheck
    exact (Prod.mk.inj hcheck).1
  | domainNameAddress host port =>
    rw [ServiceContext.checkOutboundBlocked_domainNameAddress hacl] at hcheck
    have hhost : ¬ context.blocksHost host = true := fun hhost => by
      rw [if_pos hhost] at hcheck
      cases hcheck
    intro addrs hanswer sa hsa
    rcases hleft with hleft | ⟨k, hk, -⟩ | hleft
    · exact absurd hleft hhost
    · exact absurd hk (Nat.not_lt_zero k)
    · rw [← dnsResolve_fst, hanswer] at hleft
      exact Bool.eq_false_iff.2 fun hblocked =>
        absurd (List.any_eq_true.2 ⟨sa, hsa, hblocked⟩) (Bool.eq_false_iff.1 hleft)

theorem dispatchReceivedPacket_onlySent {acl : AccessControl} (hacl : context.acl = some acl)
    {r : Relay} (hr : OnlySent context r)
    (h : Shielded context r.net.answers 1 message.targetAddr) :
    OnlySent context (dispatchReceivedPacket context message r).2 := by
  unfold dispatchReceivedPacket
  rcases hchecked : r.assoc.admitReceivedPacket context message r.net.answers with ⟨ok, assoc', answers'⟩
  cases ok with
  | false => exact hr
  | true =>
    have htargets := targets_of_check hacl (check_of_admitReceivedPacket hchecked) h
    have hkeep := logError_keeping (dispatchReceivedOutboundPacket_keeping (onlySent_stable context)
      (fun sa hsa dualStack data r hr => onlySent_logSent hsa dualStack data hr) context
      message.targetAddr message.data)
    exact keeping_holds
      (hkeep { assoc := assoc', net := { r.net with answers := answers' } } ⟨hr, htargets⟩)

/-- A datagram whose target is shielded is sent to no blocked address. -/
theorem relayDatagram_onlySent {acl : AccessControl} (hacl : context.acl = some acl) {r : Relay}
    (hr : OnlySent context r)
    (h : context.checkClientBlocked message.peerAddr = true ∨
      Shielded context r.net.answers 2 message.targetAddr) :
    OnlySent context (relayDatagram context message r) := by
  unfold relayDatagram admitsDatagram
  by_cases hempty : message.data.isEmpty = true
  · rw [if_pos hempty]
    exact hr
  · rw [if_neg hempty]
    by_cases hclient : context.checkClientBlocked message.peerAddr = true
    · rw [if_pos hclient]
      exact hr
    · rw [if_neg hclient]
      have hshielded := h.resolve_left hclient
      rcases hcheck : context.checkOutboundBlocked message.targetAddr r.net.answers with
        ⟨blocked, answers'⟩
      cases blocked with
      | true => exact hr
      | false =>
        exact dispatchReceivedPacket_onlySent hacl
          (r := { r with net := { r.net with answers := answers' } }) hr
          (shielded_of_check hacl hcheck hshielded)

/-! ### Datagrams that reach a blocked address -/

/-- Sockets open, and only what is sent to the target is sent. -/
structure SeeksTarget (target : SocketAddr) (r : Relay) : Prop where
  dualStack : r.net.dualStack = false
  openOutcome : ∀ n, r.net.openOutcome n = .opened
  sendOutcome : ∀ n sa, r.net.sendOutcome n sa =
    if sa = target then .ok () else .error (.other "network unreachable")

def HasSent (target : SocketAddr) (r : Relay) : Prop := ∃ data, (target, data) ∈ r.net.sent

omit [Idna] in
theorem connectAny_seeks {target : SocketAddr} : Triple (SeeksTarget target) connectAny
    { ready := fun _ => SeeksTarget target, pending := fun _ => False, failed := fun _ _ => False } := by
  intro r hr
  unfold connectAny
  rw [PollM.bind_ready (s := r) (a := (.opened, r.net.opened)) (by rw [openSocket, hr.openOutcome])]
  exact ⟨hr.dualStack, hr.openOutcome, hr.sendOutcome⟩

omit [Idna] in
theorem outboundSocket_seeks {target : SocketAddr} (sa : SocketAddr) :
    Triple (SeeksTarget target) (outboundSocket sa)
      { ready := fun _ => SeeksTarget target, pending := fun _ => False
        failed := fun _ _ => False } := by
  have hset : ∀ u : Nat → Relay → Relay, (∀ n r, SeeksTarget target r → SeeksTarget target (u n r)) →
      Triple (SeeksTarget target) (connectAny >>= fun socket => PollM.update (u socket))
        { ready := fun _ => SeeksTarget target, pending := fun _ => False
          failed := fun _ _ => False } :=
    fun u hu => Triple.bind connectAny_seeks fun socket r hr => hu socket r hr
  apply Triple.get
  intro r hr
  rw [if_neg (by rw [hr.dualStack]; exact Bool.false_ne_true)]
  cases sa with
  | v4 ip port =>
    refine Triple.get (P := SeeksTarget target) ?_ r hr
    intro r hr
    dsimp only
    cases r.assoc.outboundIpv4Socket with
    | some _ => exact hr
    | none =>
      exact hset setOutboundIpv4Socket
        (fun _ _ h => ⟨h.dualStack, h.openOutcome, h.sendOutcome⟩) r hr
  | v6 ip port flowinfo scopeId =>
    refine Triple.get (P := SeeksTarget target) ?_ r hr
    intro r hr
    dsimp only
    cases r.assoc.outboundIpv6Socket with
    | some _ => exact hr
    | none =>
      exact hset setOutboundIpv6Socket
        (fun _ _ h => ⟨h.dualStack, h.openOutcome, h.sendOutcome⟩) r hr

omit [Idna] in
theorem sendReceivedOutboundPacket_other {target sa : SocketAddr} (hne : sa ≠ target)
    (data : Bytes) : Triple (SeeksTarget target) (sendReceivedOutboundPacket sa data)
      (failing (SeeksTarget target)) := by
  refine Triple.seq (outboundSocket_seeks sa) (fun _ => ?_) (fun _ h => h) (fun _ _ h => h.elim)
    fun _ h => h
  apply Triple.get
  intro r hr
  simp only [sendTo, hr.dualStack, mappedTarget, hr.sendOutcome, hne, if_false]
  exact ⟨rfl, hr.openOutcome, hr.sendOutcome⟩

omit [Idna] in
theorem sendReceivedOutboundPacket_target (target : SocketAddr) (data : Bytes) :
    Triple (SeeksTarget target) (sendReceivedOutboundPacket target data)
      (reaching (HasSent target)) := by
  refine Triple.seq (outboundSocket_seeks target) (fun _ => ?_) (fun _ h => h) (fun _ _ h => h)
    fun _ h => h
  apply Triple.get
  intro r hr
  simp only [sendTo, hr.dualStack, mappedTarget, hr.sendOutcome, if_true]
  exact ⟨data, List.mem_append_right _ (List.mem_singleton_self _)⟩

/-- A packet without control data that passes its check is sent to whichever address of
    the next answer can be sent to. -/
theorem dispatchReceivedPacket_reaches {host : String} {port : Nat} {target : SocketAddr}
    {addrs : List SocketAddr} {r : Relay} (htarget : message.targetAddr = .domainNameAddress host port)
    (hcontrol : message.control = none)
    (hcheck : context.checkOutboundBlocked message.targetAddr r.net.answers = (false, answers'))
    (hanswer : (dnsResolve answers').1 = .ok addrs) (hmem : target ∈ addrs)
    (hseeks : SeeksTarget target r) :
    HasSent target (dispatchReceivedPacket context message r).2 := by
  have hchecked : r.assoc.admitReceivedPacket context message r.net.answers =
      (true, r.assoc.followPeer message.peerAddr, answers') := by
    simp [UdpAssociationContext.admitReceivedPacket, hcheck, hcontrol]
  have hreach : Triple (fun r => r.net.answers = answers' ∧ SeeksTarget target r)
      (logError (dispatchReceivedOutboundPacket context message.targetAddr message.data))
      (reaching (HasSent target)) := by
    apply Triple.orElse_left
    rw [htarget]
    refine Triple.bind (M := fun as r => as = addrs ∧ SeeksTarget target r) ?_ fun as r hr => ?_
    · rintro r ⟨rfl, hr⟩
      simp only [resolveTarget, hanswer]
      exact ⟨rfl, hr.dualStack, hr.openOutcome, hr.sendOutcome⟩
    · obtain ⟨rfl, hr⟩ := hr
      exact Triple.bind (lookupThen_reaching
        (fun sa hne => sendReceivedOutboundPacket_other hne message.data)
        (sendReceivedOutboundPacket_target target message.data) context.ipv6First hmem)
        (fun _ => Triple.pure fun _ h => h) r hr
  have hholds := hreach
    { assoc := r.assoc.followPeer message.peerAddr, net := { r.net with answers := answers' } }
    ⟨rfl, hseeks.dualStack, hseeks.openOutcome, hseeks.sendOutcome⟩
  unfold dispatchReceivedPacket
  rw [hchecked]
  exact reaching_holds hholds

/-- A system on which sockets open and only one address can be sent to. -/
def seekingNet (target : SocketAddr) (answers : List Answer) : Outbound :=
  { answers := answers, dualStack := false, openOutcome := fun _ => .opened, opened := 0, sent := []
    sendOutcome := fun _ sa =>
      if sa = target then .ok () else .error (.other "network unreachable") }

/-- A datagram whose target is not shielded can reach a blocked address. -/
theorem relayDatagram_reaches {acl : AccessControl} (hacl : context.acl = some acl)
    {peerAddr : SocketAddr} (hclient : ¬ context.checkClientBlocked peerAddr = true)
    {target : Address} (h : ¬ Shielded context answers 2 target) :
    ∃ (message : UdpAssociationSendMessage) (r : Relay) (sa : SocketAddr),
      message.peerAddr = peerAddr ∧ message.targetAddr = target ∧ r.net.answers = answers ∧
        r.net.sent = [] ∧ HasSent sa (relayDatagram context message r) ∧
        context.blocksIp sa.ip = true := by
  cases target with
  | socketAddress sa => exact absurd trivial h
  | domainNameAddress host port =>
    obtain ⟨hfirst, h⟩ := check_of_not_shielded hacl h
    obtain ⟨hsecond, h⟩ := check_of_not_shielded hacl h
    have hlast : context.blocksAnswer (answerAt (dnsResolve (dnsResolve answers).2).2 0) = true :=
      Bool.not_eq_false _ ▸ fun hfalse => h (.inr (.inr hfalse))
    rw [← dnsResolve_fst] at hlast
    cases hanswer : (dnsResolve (dnsResolve (dnsResolve answers).2).2).1 with
    | error e =>
      rw [hanswer] at hlast
      cases hlast
    | ok addrs =>
      rw [hanswer] at hlast
      obtain ⟨sa, hmem, hblocked⟩ := List.any_eq_true.1 hlast
      -- the last of the lookups is the one that nothing looks at
      let message : UdpAssociationSendMessage :=
        { peerAddr := peerAddr, targetAddr := .domainNameAddress host port, data := [0]
          control := none }
      let assoc : UdpAssociationContext := .create peerAddr none 0
      refine ⟨message, { assoc := assoc, net := seekingNet sa answers }, sa, rfl, rfl, rfl, rfl, ?_,
        hblocked⟩
      have hadmitted : admitsDatagram context message.peerAddr message.data message.targetAddr answers =
          (true, (dnsResolve answers).2) := by
        simp [message, admitsDatagram, hclient, hfirst]
      let relay : Relay := { assoc := assoc, net := seekingNet sa (dnsResolve answers).2 }
      have hreached : HasSent sa (dispatchReceivedPacket context message relay).2 :=
        dispatchReceivedPacket_reaches rfl rfl hsecond hanswer hmem ⟨rfl, fun _ => rfl, fun _ _ => rfl⟩
      simp only [relayDatagram, seekingNet, hadmitted, if_true]
      exact hreached

end Datagrams

/-! ## Connections -/

section Connections

variable {context : ServiceContext}

/-- No connection was attempted to a blocked address. -/
abbrev OnlyConnected (context : ServiceContext) : Dialer → Prop :=
  OnlyTried fun addr => context.blocksIp addr.ip = false

theorem connectRemote_onlyConnected (ipv6First : Bool) (target : Address) {d : Dialer}
    (hd : OnlyConnected context d)
    (h : TargetsSatisfy (fun sa => context.blocksIp sa.ip = false) target d.answers) :
    OnlyConnected context (connectRemote ipv6First target d).2 := by
  cases target with
  | socketAddress sa =>
    exact keeping_holds
      (Triple.bind (connect_keeping h) (fun _ => Triple.pure fun _ hd => hd) d hd)
  | domainNameAddress host port =>
    simp only [connectRemote]
    split
    · next addrs hanswer =>
      exact keeping_holds (lookupThenConnect_keeping ipv6First (h addrs hanswer)
        { d with answers := (dnsResolve d.answers).2 } hd)
    · exact hd

variable [Idna]

/-- A client whose target is shielded is connected to no blocked address. -/
theorem acceptClient_onlyConnected {acl : AccessControl} (hacl : context.acl = some acl)
    {peerAddr : SocketAddr} {target : Address} {d : Dialer} (hd : OnlyConnected context d)
    (h : context.checkClientBlocked peerAddr = true ∨ Shielded context d.answers 1 target) :
    OnlyConnected context (acceptClient context peerAddr target d).2 := by
  unfold acceptClient
  by_cases hclient : context.checkClientBlocked peerAddr = true
  · rw [if_pos hclient]
    exact hd
  · rw [if_neg hclient]
    unfold serve
    rcases hcheck : context.checkOutboundBlocked target d.answers with ⟨blocked, answers'⟩
    cases blocked with
    | true => exact hd
    | false =>
      have htargets := targets_of_check hacl hcheck (h.resolve_left hclient)
      have hconnect := connectRemote_onlyConnected context.ipv6First target
        (d := { d with answers := answers' }) hd htargets
      simp only [Bool.false_eq_true, if_false]
      rcases hr : connectRemote context.ipv6First target { d with answers := answers' } with ⟨r, d'⟩
      rw [hr] at hconnect
      cases r with
      | ready addr =>
        rw [PollM.bind_ready hr]
        exact hconnect
      | pending =>
        rw [PollM.bind_pending hr]
        exact hconnect
      | failed e =>
        rw [PollM.bind_failed hr]
        exact hconnect
      | panicked =>
        rw [PollM.bind_panicked hr]
        exact hconnect

/-- A client whose target is not shielded can be connected to a blocked address. -/
theorem acceptClient_reaches {acl : AccessControl} (hacl : context.acl = some acl)
    {peerAddr : SocketAddr} (hclient : ¬ context.checkClientBlocked peerAddr = true)
    {answers : List Answer} {target : Address} (h : ¬ Shielded context answers 1 target) :
    ∃ (d : Dialer) (sa : SocketAddr), d.answers = answers ∧ d.tried = [] ∧
      sa ∈ (acceptClient context peerAddr target d).2.tried ∧ context.blocksIp sa.ip = true := by
  cases target with
  | socketAddress sa => exact absurd trivial h
  | domainNameAddress host port =>
    obtain ⟨hfirst, h⟩ := check_of_not_shielded hacl h
    have hlast : context.blocksAnswer (answerAt (dnsResolve answers).2 0) = true :=
      Bool.not_eq_false _ ▸ fun hfalse => h (.inr (.inr hfalse))
    rw [← dnsResolve_fst] at hlast
    cases hanswer : (dnsResolve (dnsResolve answers).2).1 with
    | error e =>
      rw [hanswer] at hlast
      cases hlast
    | ok addrs =>
      rw [hanswer] at hlast
      obtain ⟨sa, hmem, hblocked⟩ := List.any_eq_true.1 hlast
      -- a network in which the blocked address is the only one that answers
      let d : Dialer :=
        { answers := answers, connectOutcome := onlyTo sa
          schedule := patientSchedule context.ipv6First addrs, tried := [] }
      refine ⟨d, sa, rfl, rfl, ?_, hblocked⟩
      have hreach := lookupThenConnect_target context.ipv6First hmem
        { d with answers := (dnsResolve (dnsResolve answers).2).2 } ⟨rfl, rfl⟩
      simp only [acceptClient, hclient, if_false, serve, d, hfirst, Bool.false_eq_true]
      have hconnect : connectRemote context.ipv6First (.domainNameAddress host port)
          { d with answers := (dnsResolve answers).2 } =
          lookupThenConnect context.ipv6First addrs
            { d with answers := (dnsResolve (dnsResolve answers).2).2 } := by
        simp only [connectRemote, hanswer]
      rcases hr : lookupThenConnect context.ipv6First addrs
        { d with answers := (dnsResolve (dnsResolve answers).2).2 } with ⟨r, d'⟩
      rw [hr] at hreach hconnect
      cases r with
      | ready addr =>
        rw [PollM.bind_ready hconnect]
        exact hreach
      | pending => exact hreach.elim
      | failed e => exact hreach.elim
      | panicked => exact hreach.elim

end Connections

/-! ## Both servers -/

/-- **The outbound block list** keeps a server away from blocked addresses, whatever its
    sockets and its clients do, exactly if the client is blocked or the target is
    shielded: from datagrams, whose target is checked twice, and from connections, whose
    target is checked once. -/
theorem outbound_unblocked_iff [Idna] (context : ServiceContext) (peerAddr : SocketAddr)
    (target : Address) (answers : List Answer) :
    ((∀ (message : UdpAssociationSendMessage) (r : Relay), message.peerAddr = peerAddr →
        message.targetAddr = target → r.net.answers = answers → r.net.sent = [] →
        ∀ sent ∈ (relayDatagram context message r).net.sent,
          context.blocksIp sent.1.ip = false) ↔
      context.checkClientBlocked peerAddr = true ∨ Shielded context answers 2 target) ∧
    ((∀ d : Dialer, d.answers = answers → d.tried = [] →
        ∀ addr ∈ (acceptClient context peerAddr target d).2.tried,
          context.blocksIp addr.ip = false) ↔
      context.checkClientBlocked peerAddr = true ∨ Shielded context answers 1 target) := by
  cases hacl : context.acl with
  | none =>
    -- without a list nothing is blocked
    have hip : ∀ ip, context.blocksIp ip = false := fun ip => by simp [ServiceContext.blocksIp, hacl]
    have hshielded : ∀ checks, Shielded context answers checks target := fun checks => by
      cases target with
      | socketAddress sa => trivial
      | domainNameAddress host port =>
        refine .inr (.inr ?_)
        cases answerAt answers checks with
        | error e => rfl
        | ok addrs => simp [ServiceContext.blocksAnswer, hip]
    exact ⟨⟨fun _ => .inr (hshielded 2), fun _ _ _ _ _ _ _ _ _ => hip _⟩,
      ⟨fun _ => .inr (hshielded 1), fun _ _ _ _ _ _ => hip _⟩⟩
  | some acl =>
    constructor
    · constructor
      · intro hsafe
        by_contra hno
        rw [not_or] at hno
        obtain ⟨message, r, sa, hpeer, htarget, hanswers, hsent, ⟨data, hmem⟩, hblocked⟩ :=
          relayDatagram_reaches hacl hno.1 hno.2
        have := hsafe message r hpeer htarget hanswers hsent (sa, data) hmem
        rw [hblocked] at this
        cases this
      · rintro h message r rfl rfl rfl hsent
        apply relayDatagram_onlySent hacl _ h
        intro sent hmem
        rw [hsent] at hmem
        cases hmem
    · constructor
      · intro hsafe
        by_contra hno
        rw [not_or] at hno
        obtain ⟨d, sa, hanswers, htried, hmem, hblocked⟩ := acceptClient_reaches hacl hno.1 hno.2
        have := hsafe d hanswers htried sa hmem
        rw [hblocked] at this
        cases this
      · rintro h d rfl htried
        apply acceptClient_onlyConnected hacl _ h
        intro addr hmem
        rw [htried] at hmem
        cases hmem

/-! ### A sample run -/

/-- A list that blocks one address. -/
def blockingServer (ip : BitVec 32) : ServiceContext :=
  { acl := some
      { outboundBlock := { Rules.empty with ipv4 := .add .new { addr := ip, prefixLen := 32 } }
        blackList := .empty, whiteList := .empty, mode := .blackList }
    ipv6First := false }

def innerAddr : SocketAddr := .v4 0x0a000007#32 80

def outerAddr : SocketAddr := .v4 0x01020304#32 80

def rebindingTarget : Address := .domainNameAddress "rebind" 80

/-- The resolver fails, or names a harmless address, until the last lookup. -/
def rebindingAnswers (checks : Nat) : List Answer :=
  (.error noAnswer :: List.replicate checks (.ok [outerAddr])).take checks ++ [.ok [innerAddr]]

/-- A name that is resolved to a blocked address after the checks: the payload is sent
    there, and a connection is made. -/
theorem outbound_rebinding :
    (blockingServer 0x0a000007#32).blocksIp innerAddr.ip = true ∧
      (@relayDatagram keepNames (blockingServer 0x0a000007#32)
          { peerAddr := clientAddr, targetAddr := rebindingTarget, data := [1], control := none }
          { assoc := .create clientAddr none 0
            net := { quietNet with answers := rebindingAnswers 2, dualStack := false } }).net.sent =
        [(innerAddr, [1])] ∧
      (@acceptClient keepNames (blockingServer 0x0a000007#32) clientAddr rebindingTarget
          { answers := rebindingAnswers 1, connectOutcome := fun _ _ => some (.ok ())
            schedule := [], tried := [] }).1 = .ready (some innerAddr) :=
  ⟨by decide +kernel, by decide +kernel, by decide +kernel⟩

end Shadowsocks.Server
