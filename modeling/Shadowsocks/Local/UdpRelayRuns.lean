import Shadowsocks.Local.UdpRelay

/-! # Runs of the local UDP service

What stands in the map of associations is said once (`Serves`): an association holds sockets that
were opened for its client only, and its channel holds what the client has sent since the last
packet taken from it.  Every step keeps that, whichever client it is about.  So what is taken for a
client is what it sent, in order (`relayed_in_order`), no socket is shared by two clients
(`sockets_isolated`), and where the service drops nothing, nothing is lost (`relayed_all`).
-/

namespace Shadowsocks.Local

open Shadowsocks.Lib Shadowsocks.Net Shadowsocks.Udp
open Shadowsocks.Server (mappedTarget udpAssociationSendChannelSize)
open Shadowsocks.Tcp.Stream (StreamSuite)

/-! ## Sockets -/

namespace UdpAssociationTask

/-- The sockets that a task holds, by their numbers. -/
def sockets (task : UdpAssociationTask) : List Nat :=
  task.bypassedIpv4Socket.toList ++ task.bypassedIpv6Socket.toList ++
    (task.context.proxiedSocket.map ProxySocket.id).toList

variable {task : UdpAssociationTask} {n : Nat}

theorem mem_sockets : n ∈ task.sockets ↔ task.bypassedIpv4Socket = some n ∨
    task.bypassedIpv6Socket = some n ∨ ∃ socket, task.context.proxiedSocket = some socket ∧
      socket.id = n := by
  simp only [sockets, List.mem_append, Option.mem_toList, Option.map_eq_some_iff, or_assoc]

theorem bypassedSocket_mem {family : AddrFamily} (h : task.bypassedSocket family = some n) :
    n ∈ task.sockets := by
  cases family with
  | ipv4 => exact mem_sockets.2 (.inl h)
  | ipv6 => exact mem_sockets.2 (.inr (.inl h))

end UdpAssociationTask

/-- The task is the client's, and so is every socket that it holds. -/
structure Owns (opened : List SocketAddr) (client : SocketAddr) (task : UdpAssociationTask) :
    Prop where
  peerAddr : task.context.peerAddr = client
  sockets : ∀ n ∈ task.sockets, opened[n]? = some client

section Owns

variable {opened opened' : List SocketAddr} {peerAddr : SocketAddr} {task : UdpAssociationTask}

theorem getElem?_of_grown {n : Nat} (h : opened <+: opened') (hn : opened[n]? = some peerAddr) :
    opened'[n]? = some peerAddr := by
  obtain ⟨rest, rfl⟩ := h
  obtain ⟨hlt, -⟩ := List.getElem?_eq_some_iff.1 hn
  rw [List.getElem?_append_left hlt, hn]

theorem getElem?_opened (opened : List SocketAddr) (peerAddr : SocketAddr) :
    (opened ++ [peerAddr])[opened.length]? = some peerAddr := by
  rw [List.getElem?_append_right (le_refl _), Nat.sub_self, List.getElem?_cons_zero]

theorem Owns.mono (h : Owns opened peerAddr task) (hgrows : opened <+: opened') :
    Owns opened' peerAddr task :=
  ⟨h.peerAddr, fun n hn => getElem?_of_grown hgrows (h.sockets n hn)⟩

theorem owns_create (opened : List SocketAddr) (peerAddr : SocketAddr) (clientSessionId : Nat)
    (expiry : Time) : Owns opened peerAddr (.create peerAddr clientSessionId expiry) :=
  ⟨rfl, fun n hn => by cases hn⟩

/-- A socket opened for the client, or none, may take the place of one of its sockets. -/
theorem Owns.setBypassedSocket (h : Owns opened peerAddr task) {socket : Option Nat}
    (hsocket : ∀ n, socket = some n → opened[n]? = some peerAddr) (family : AddrFamily) :
    Owns opened peerAddr (task.setBypassedSocket family socket) := by
  cases family with
  | ipv4 =>
    refine ⟨h.peerAddr, fun m hm => ?_⟩
    rcases UdpAssociationTask.mem_sockets.1 hm with h4 | hrest
    · exact hsocket m h4
    · exact h.sockets m (UdpAssociationTask.mem_sockets.2 (.inr hrest))
  | ipv6 =>
    refine ⟨h.peerAddr, fun m hm => ?_⟩
    rcases UdpAssociationTask.mem_sockets.1 hm with h4 | h6 | hrest
    · exact h.sockets m (UdpAssociationTask.mem_sockets.2 (.inl h4))
    · exact hsocket m h6
    · exact h.sockets m (UdpAssociationTask.mem_sockets.2 (.inr (.inr hrest)))

/-- The session may go on with another proxied socket of the client's, or without one. -/
theorem Owns.setContext (h : Owns opened peerAddr task) {context : UdpAssociationContext}
    (hpeer : context.peerAddr = task.context.peerAddr)
    (hsocket : ∀ socket, context.proxiedSocket = some socket →
      opened[socket.id]? = some peerAddr) :
    Owns opened peerAddr { task with context := context } := by
  refine ⟨hpeer.trans h.peerAddr, fun n hn => ?_⟩
  rcases UdpAssociationTask.mem_sockets.1 hn with h4 | h6 | ⟨socket, hproxied, rfl⟩
  · exact h.sockets n (UdpAssociationTask.mem_sockets.2 (.inl h4))
  · exact h.sockets n (UdpAssociationTask.mem_sockets.2 (.inr (.inl h6)))
  · exact hsocket socket hproxied

theorem Owns.proxied (h : Owns opened peerAddr task) {socket : ProxySocket}
    (hsocket : task.context.proxiedSocket = some socket) : opened[socket.id]? = some peerAddr :=
  h.sockets socket.id (UdpAssociationTask.mem_sockets.2 (.inr (.inr ⟨socket, hsocket, rfl⟩)))

/-- Changing the session keeps the sockets, but for the proxied one, which may be given up. -/
theorem Owns.keepSocket (h : Owns opened peerAddr task) {context : UdpAssociationContext}
    (hpeer : context.peerAddr = task.context.peerAddr)
    (hsocket : context.proxiedSocket = task.context.proxiedSocket ∨ context.proxiedSocket = none) :
    Owns opened peerAddr { task with context := context } := by
  refine h.setContext hpeer fun socket hproxied => ?_
  rcases hsocket with hsame | hgone
  · exact h.proxied (hsame.symm.trans hproxied)
  · cases hgone.symm.trans hproxied

end Owns

/-! ## A packet on its way -/

/-- The target is the address, or a name for which the resolver has named it. -/
def LeadsTo (answers : List Answer) (target : Address) (addr : SocketAddr) : Prop :=
  match target with
  | .socketAddress sa => addr = sa
  | .domainNameAddress _ _ => ∃ addrs, .ok addrs ∈ answers ∧ addr ∈ addrs

/-- The packet's payload, to where its target leads. -/
def Carries (dualStack : Bool) (answers : List Answer) (packet : UdpPacket) : Sent → Prop
  | .bypassed _ addr data =>
    data = packet.data ∧
      ∃ sa, LeadsTo answers packet.target sa ∧ addr = mappedTarget dualStack sa
  | .proxied _ datagram => datagram.data = packet.data ∧ datagram.addr = packet.target

theorem LeadsTo.mono {answers answers' : List Answer} {target : Address} {addr : SocketAddr}
    (h : LeadsTo answers target addr) (hsub : answers ⊆ answers') :
    LeadsTo answers' target addr := by
  cases target with
  | socketAddress sa => exact h
  | domainNameAddress host port =>
    obtain ⟨addrs, hanswer, hmem⟩ := h
    exact ⟨addrs, hsub hanswer, hmem⟩

/-- A packet of a client that an association is at work on, and what the resolver answers to it. -/
structure Job where
  dualStack : Bool
  client : SocketAddr
  packet : UdpPacket
  answers : List Answer

/-- What is sent for a packet of a client, on a socket of the client's own. -/
structure SentFor (job : Job) (opened : List SocketAddr) (x : Sent) : Prop where
  socket : opened[x.socket]? = some job.client
  carries : Carries job.dualStack job.answers job.packet x

/-- A packet of a client leaves every socket where it belongs. -/
structure AfterPacket.IsFor (job : Job) (before : List SocketAddr) (after : AfterPacket) : Prop where
  opened : before <+: after.opened
  owned : ∀ task, after.task = some task → Owns after.opened job.client task
  sent : ∀ x ∈ after.sent, SentFor job after.opened x

/-- An association at work on a packet of its client. -/
structure BypassRelay.IsFor (job : Job) (before : List SocketAddr) (r : BypassRelay) : Prop where
  opened : before <+: r.opened
  owned : Owns r.opened job.client r.task
  answers : r.answers ⊆ job.answers
  sent : ∀ x ∈ r.sent, SentFor job r.opened x

theorem SentFor.mono {job : Job} {opened opened' : List SocketAddr} {x : Sent}
    (h : SentFor job opened x) (hgrows : opened <+: opened') : SentFor job opened' x :=
  ⟨getElem?_of_grown hgrows h.socket, h.carries⟩

theorem dnsResolve_sub (answers : List Answer) : (dnsResolve answers).2 ⊆ answers := by
  cases answers with
  | nil => exact List.Subset.refl _
  | cons answer answers => exact List.subset_cons_self _ _

theorem dnsResolve_mem {answers : List Answer} {addrs : List SocketAddr}
    (h : (dnsResolve answers).1 = .ok addrs) : .ok addrs ∈ answers := by
  cases answers with
  | nil => cases h
  | cons answer answers =>
    obtain rfl : answer = .ok addrs := h
    exact List.mem_cons_self

/-- The list's check leaves the answers that it does not ask for. -/
theorem checkTargetBypassed_sub [Idna] (context : ServiceContext) (now : Time) (addr : Address)
    (answers : List Answer) : (context.checkTargetBypassed now addr answers).2.2 ⊆ answers := by
  have hacl : ∀ acl : AccessControl, (acl.checkTargetBypassed addr answers).2 ⊆ answers := by
    intro acl
    unfold AccessControl.checkTargetBypassed
    split
    · exact List.Subset.refl _
    · split
      · exact List.Subset.refl _
      · split
        · exact List.Subset.refl _
        · have hsub := dnsResolve_sub answers
          dsimp only
          split <;> exact hsub
  unfold ServiceContext.checkTargetBypassed
  split
  · exact List.Subset.refl _
  · next acl _ =>
    cases addr with
    | socketAddress saddr =>
      dsimp only
      split
      · exact List.Subset.refl _
      · exact hacl acl
    | domainNameAddress host port => exact hacl acl

section Bypass

variable {outside : Outside} {job : Job} {before : List SocketAddr}

/-- Whatever the outcome the relay is the client's, and a socket that is taken is, too. -/
abbrev taking (job : Job) (before : List SocketAddr) : Post BypassRelay IoError Nat :=
  (keeping (BypassRelay.IsFor job before) : Post BypassRelay IoError Unit).onReady fun n r =>
    r.IsFor job before ∧ r.opened[n]? = some job.client

theorem openBypassed_taking : Triple (BypassRelay.IsFor job before) (openBypassed outside)
    (taking job before) := by
  intro r hr
  unfold openBypassed
  split
  · have hgrown : r.opened <+: r.opened ++ [r.task.context.peerAddr] := List.prefix_append _ _
    refine ⟨⟨hr.opened.trans hgrown, hr.owned.mono hgrown, hr.answers,
      fun x hx => (hr.sent x hx).mono hgrown⟩, ?_⟩
    dsimp only
    rw [hr.owned.peerAddr, getElem?_opened]
  · exact hr

theorem takeBypassed_taking (family : AddrFamily) :
    Triple (BypassRelay.IsFor job before) (takeBypassed outside family) (taking job before) := by
  apply Triple.get
  intro r hr
  cases hsocket : r.task.bypassedSocket family with
  | some n => exact ⟨hr, hr.owned.sockets n (UdpAssociationTask.bypassedSocket_mem hsocket)⟩
  | none =>
    refine Triple.bind (R := taking job before) openBypassed_taking (fun n => ?_) r hr
    refine Triple.update ?_ (Triple.pure fun _ h => h)
    rintro r ⟨hr, hn⟩
    refine ⟨⟨hr.opened, hr.owned.setBypassedSocket (fun m hm => ?_) family, hr.answers, hr.sent⟩, hn⟩
    rw [← Option.some.inj hm, hn]

theorem sendBypassed_keeping {n : Nat} {targetAddr : SocketAddr}
    (htarget : LeadsTo job.answers job.packet.target targetAddr) :
    Triple (fun r => r.IsFor job before ∧ r.opened[n]? = some job.client)
      (sendBypassed outside n (mappedTarget job.dualStack targetAddr) job.packet.data)
      (keeping (BypassRelay.IsFor job before)) := by
  rintro r ⟨hr, hn⟩
  have hsent : BypassRelay.IsFor job before
      { r with sent := r.sent ++
        [.bypassed n (mappedTarget job.dualStack targetAddr) job.packet.data] } := by
    refine ⟨hr.opened, hr.owned, hr.answers, fun x hx => ?_⟩
    rcases List.mem_append.1 hx with hold | hnew
    · exact hr.sent x hold
    · rw [List.mem_singleton.1 hnew]
      exact ⟨hn, rfl, targetAddr, htarget, rfl⟩
  unfold sendBypassed
  dsimp only
  split <;> exact hsent

theorem sendReceivedBypassedPacket_keeping {targetAddr : SocketAddr}
    (htarget : LeadsTo job.answers job.packet.target targetAddr) :
    Triple (BypassRelay.IsFor job before)
      (sendReceivedBypassedPacket outside job.dualStack targetAddr job.packet.data)
      (keeping (BypassRelay.IsFor job before)) :=
  Triple.bind (takeBypassed_taking _) fun _ => sendBypassed_keeping htarget

/-- What a name is resolved to are addresses that the resolver has named. -/
theorem resolveBypassed_names : Triple (BypassRelay.IsFor job before) resolveBypassed
    ((keeping (BypassRelay.IsFor job before) : Post BypassRelay IoError Unit).onReady fun addrs r =>
      r.IsFor job before ∧ .ok addrs ∈ job.answers) := by
  intro r hr
  have hleft : BypassRelay.IsFor job before { r with answers := (dnsResolve r.answers).2 } :=
    ⟨hr.opened, hr.owned, List.Subset.trans (dnsResolve_sub r.answers) hr.answers, hr.sent⟩
  unfold resolveBypassed
  dsimp only
  split
  · next addrs hanswer => exact ⟨hleft, hr.answers (dnsResolve_mem hanswer)⟩
  · exact hleft

variable {D : Type} {cfg : UdpServiceConfig D}

theorem dispatchReceivedBypassedPacket_keeping (hdual : job.dualStack = cfg.dualStack) :
    Triple (BypassRelay.IsFor job before) (dispatchReceivedBypassedPacket cfg outside job.packet)
      (keeping (BypassRelay.IsFor job before)) := by
  unfold dispatchReceivedBypassedPacket
  rw [← hdual]
  cases htarget : job.packet.target with
  | socketAddress sa =>
    refine sendReceivedBypassedPacket_keeping ?_
    rw [htarget]
    rfl
  | domainNameAddress host port =>
    refine Triple.bind resolveBypassed_names fun addrs => ?_
    rintro r ⟨hr, hanswer⟩
    have hbody : ∀ sa ∈ addrs, Triple (BypassRelay.IsFor job before)
        (sendReceivedBypassedPacket outside job.dualStack sa job.packet.data)
        (keeping (BypassRelay.IsFor job before)) := by
      intro sa hsa
      refine sendReceivedBypassedPacket_keeping ?_
      rw [htarget]
      exact ⟨addrs, hanswer, hsa⟩
    exact Triple.bind (lookupThen_keeping cfg.ipv6First hbody)
      (fun _ => Triple.pure fun _ hr => hr) r hr

/-- The packet goes out directly. -/
theorem bypassPacket_isFor (hdual : job.dualStack = cfg.dualStack) {answers : List Answer}
    (hanswers : answers ⊆ job.answers) {task : UdpAssociationTask}
    (hown : Owns before job.client task) :
    (bypassPacket cfg outside answers job.packet before task).IsFor job before := by
  have hstart : BypassRelay.IsFor job before
      { task := task, opened := before, answers := answers, sent := [] } :=
    ⟨List.prefix_rfl, hown, hanswers, fun x hx => by cases hx⟩
  have hkeeping : Triple (BypassRelay.IsFor job before)
      (dispatchReceivedBypassedPacket cfg outside job.packet)
      (keeping (BypassRelay.IsFor job before)) := dispatchReceivedBypassedPacket_keeping hdual
  have hrun := keeping_holds (hkeeping _ hstart)
  unfold bypassPacket
  rcases hres : dispatchReceivedBypassedPacket cfg outside job.packet
    { task := task, opened := before, answers := answers, sent := [] } with ⟨res, r⟩
  rw [hres] at hrun
  split
  · next hpanicked =>
    cases hpanicked
    exact ⟨hrun.opened, fun task htask => (Option.some_ne_none _ htask.symm).elim, hrun.sent⟩
  · next hother =>
    cases hother
    refine ⟨hrun.opened, fun task htask => ?_, hrun.sent⟩
    obtain rfl := Option.some.inj htask
    exact hrun.owned

end Bypass

section Proxied

variable {outside : Outside} {job : Job} {before : List SocketAddr} {task : UdpAssociationTask}

theorem increasePacketId_peerAddr (newSessionId : Nat) (assoc : UdpAssociationContext) :
    (assoc.increasePacketId newSessionId).peerAddr = assoc.peerAddr := by
  unfold UdpAssociationContext.increasePacketId
  split <;> rfl

/-- The datagram is the packet's, and the socket kept is the one that was there or a new one. -/
theorem dispatchReceivedProxiedPacket_kept (newSessionId : Nat)
    (connect : Except IoError ProxySocket) (sending : Except IoError Unit) (targetAddr : Address)
    (data : Bytes) (assoc : UdpAssociationContext) {datagram : Option SentDatagram}
    {context : UdpAssociationContext}
    (h : dispatchReceivedProxiedPacket newSessionId connect sending targetAddr data assoc =
      (datagram, context)) :
    (∀ d ∈ datagram, d.data = data ∧ d.addr = targetAddr) ∧ context.peerAddr = assoc.peerAddr ∧
      ∀ socket, context.proxiedSocket = some socket →
        (assoc.increasePacketId newSessionId).proxiedSocket = some socket ∨
          (assoc.increasePacketId newSessionId).proxiedSocket = none ∧ connect = .ok socket := by
  have hpeer := increasePacketId_peerAddr newSessionId assoc
  unfold dispatchReceivedProxiedPacket at h
  dsimp only at h
  have hsent : ∀ d : SentDatagram, ∀ d' ∈ some d, d' = d := by
    intro d d' hd'
    exact (Option.some.inj hd').symm
  cases hsocket : (assoc.increasePacketId newSessionId).proxiedSocket with
  | some socket =>
    rw [hsocket] at h
    cases h
    refine ⟨fun d hd => by rw [hsent _ d hd]; exact ⟨rfl, rfl⟩, hpeer, fun kept hkept => ?_⟩
    cases sending with
    | ok _ => exact .inl hkept
    | error _ => cases hkept
  | none =>
    rw [hsocket] at h
    cases connect with
    | error e =>
      cases h
      refine ⟨fun d hd => (by cases hd), hpeer, fun kept hkept => .inl ?_⟩
      rw [← hkept, hsocket]
    | ok socket =>
      cases h
      refine ⟨fun d hd => by rw [hsent _ d hd]; exact ⟨rfl, rfl⟩, hpeer, fun kept hkept => ?_⟩
      cases sending with
      | ok _ => exact .inr ⟨rfl, congrArg Except.ok (Option.some.inj hkept)⟩
      | error _ => cases hkept

/-- The packet goes out through a server. -/
theorem proxyPacket_isFor (hown : Owns before job.client task) :
    (proxyPacket outside job.packet before task).IsFor job before := by
  have hold : ∀ socket,
      (task.context.increasePacketId outside.newSessionId).proxiedSocket = some socket →
        before[socket.id]? = some job.client := by
    intro socket hsocket
    unfold UdpAssociationContext.increasePacketId at hsocket
    split at hsocket
    · exact hown.proxied hsocket
    · cases hsocket
  unfold proxyPacket
  dsimp only
  cases hdispatch : dispatchReceivedProxiedPacket outside.newSessionId
    (outside.connect.map fun key => { id := before.length, key := key }) outside.sending
    job.packet.target job.packet.data task.context with
  | mk datagram context =>
  obtain ⟨hdatagram, hpeer, hkept⟩ := dispatchReceivedProxiedPacket_kept _ _ _ _ _ _ hdispatch
  have hcarries : ∀ n, ∀ x ∈ datagram.toList.map (Sent.proxied n),
      x.socket = n ∧ Carries job.dualStack job.answers job.packet x := by
    intro n x hx
    obtain ⟨d, hd, rfl⟩ := List.mem_map.1 hx
    exact ⟨rfl, hdatagram d (Option.mem_toList.1 hd)⟩
  have hcontext : ∀ {opened : List SocketAddr}, before <+: opened →
      (∀ socket, context.proxiedSocket = some socket → opened[socket.id]? = some job.client) →
      ∀ after, some { task with context := context } = some after →
        Owns opened job.client after := by
    intro opened hgrows hsockets after hafter
    obtain rfl := Option.some.inj hafter
    exact (hown.mono hgrows).setContext hpeer hsockets
  -- the socket that is there after the count, or a new one; a failed send gives it up
  cases hsocket : (task.context.increasePacketId outside.newSessionId).proxiedSocket with
  | some socket =>
    refine ⟨List.prefix_rfl, hcontext List.prefix_rfl fun kept hkept' => ?_, fun x hx => ?_⟩
    · rcases hkept kept hkept' with hsame | ⟨hnone, -⟩
      · exact hold kept hsame
      · cases hsocket.symm.trans hnone
    · obtain ⟨hid, hfor⟩ := hcarries socket.id x hx
      exact ⟨by rw [hid]; exact hold socket hsocket, hfor⟩
  | none =>
    cases hconnect : outside.connect with
    | error e =>
      refine ⟨List.prefix_rfl, hcontext List.prefix_rfl fun kept hkept' => ?_,
        fun x hx => by cases hx⟩
      rcases hkept kept hkept' with hsame | ⟨-, hnew⟩
      · exact hold kept hsame
      · rw [hconnect] at hnew
        cases hnew
    | ok key =>
      have hgrown : before <+: before ++ [task.context.peerAddr] := List.prefix_append _ _
      have hid : (before ++ [task.context.peerAddr])[before.length]? = some job.client := by
        rw [hown.peerAddr, getElem?_opened]
      refine ⟨hgrown, hcontext hgrown fun kept hkept' => ?_, fun x hx => ?_⟩
      · rcases hkept kept hkept' with hsame | ⟨-, hnew⟩
        · exact getElem?_of_grown hgrown (hold kept hsame)
        · rw [hconnect] at hnew
          obtain rfl := Except.ok.inj hnew
          exact hid
      · obtain ⟨hsock, hfor⟩ := hcarries before.length x hx
        exact ⟨by rw [hsock]; exact hid, hfor⟩

end Proxied

section Dispatch

variable {D : Type} {cfg : UdpServiceConfig D} {before : List SocketAddr} {client : SocketAddr}
  {task : UdpAssociationTask}

/-- The packet at work on, when the service dispatches it. -/
def UdpServiceConfig.job (cfg : UdpServiceConfig D) (client : SocketAddr) (packet : UdpPacket)
    (answers : List Answer) : Job :=
  { dualStack := cfg.dualStack, client := client, packet := packet, answers := answers }

theorem dispatchReceivedPacket_isFor [Idna] (now : Time) (outside : Outside) (packet : UdpPacket)
    (hown : Owns before client task) :
    (dispatchReceivedPacket cfg now outside packet before task).IsFor
      (cfg.job client packet outside.answers) before := by
  have hbypass : ∀ answers ⊆ outside.answers,
      (bypassPacket cfg outside answers packet before task).IsFor
        (cfg.job client packet outside.answers) before :=
    fun answers hsub => @bypassPacket_isFor outside (cfg.job client packet outside.answers) before D
      cfg rfl answers hsub task hown
  unfold dispatchReceivedPacket
  dsimp only
  split
  · exact hbypass _ (List.Subset.refl _)
  · split
    · exact hbypass _ (checkTargetBypassed_sub _ _ _ _)
    · exact @proxyPacket_isFor outside (cfg.job client packet outside.answers) before task hown

end Dispatch

/-! ## What stands in the map -/

namespace UdpService

/-- What a client has sent, as far as the front end let it through. -/
def sentBy (client : SocketAddr) (s : UdpService) : List UdpPacket :=
  (s.accepted.filter (·.1 = client)).map Prod.snd

/-- What has been taken from a client's channels. -/
def takenFor (client : SocketAddr) (s : UdpService) : List UdpPacket :=
  (s.dispatched.filter (·.peerAddr = client)).map Dispatched.packet

end UdpService

/-- An association of a client: its sockets are the client's, and what waits in its channel was
    sent since the last packet was taken. -/
structure Serves (s : UdpService) (client : SocketAddr) (assoc : UdpAssociation) : Prop where
  owned : ∀ task, assoc.task = some task → Owns s.opened client task
  inOrder : (s.takenFor client ++ assoc.channel).Sublist (s.sentBy client)

variable {D K S : Type} {cfg : UdpServiceConfig D} {crypto : CryptoSuite K} {suite : StreamSuite S}
  {s t : UdpService} {client peerAddr : SocketAddr}

/-- The datagram is what the front end writes for what has come on a socket of the peer's. -/
structure Answers (cfg : UdpServiceConfig D) (opened : List SocketAddr) (r : Responded) : Prop where
  socket : opened[r.socket]? = some r.peerAddr
  written : cfg.frontEnd.sendTo r.peerAddr r.respond.addr r.respond.data = .ready r.datagram

/-- The invariant of the service. -/
structure Relays (cfg : UdpServiceConfig D) (s : UdpService) : Prop where
  served : s.assocMap.Forall (Serves s)
  inOrder : ∀ client, (s.takenFor client).Sublist (s.sentBy client)
  dispatched : ∀ d ∈ s.dispatched, ∀ x ∈ d.sent,
    SentFor (cfg.job d.peerAddr d.packet d.answers) s.opened x
  responded : ∀ r ∈ s.responded, Answers cfg s.opened r

theorem relays_new (now : Time) : Relays cfg (.new cfg now) where
  served := LruCache.forall_empty _ _
  inOrder _ := List.Sublist.refl _
  dispatched d hd := by cases hd
  responded r hr := by cases hr

theorem Serves.mono {assoc : UdpAssociation} (h : Serves s client assoc)
    (hopened : s.opened <+: t.opened) (htaken : t.takenFor client = s.takenFor client)
    (hsent : (s.sentBy client).Sublist (t.sentBy client)) : Serves t client assoc :=
  ⟨fun task htask => (h.owned task htask).mono hopened, htaken ▸ h.inOrder.trans hsent⟩

/-- Whatever a step does to the map alone. -/
theorem Relays.setMap (hs : Relays cfg s) {assocMap : LruCache SocketAddr UdpAssociation}
    (hmap : assocMap.Forall (Serves s)) : Relays cfg { s with assocMap := assocMap } where
  served := hmap.imp fun _ _ h => ⟨h.owned, h.inOrder⟩
  inOrder := hs.inOrder
  dispatched := hs.dispatched
  responded := hs.responded

/-- The time and what is to be kept alive are of no account. -/
theorem Relays.setKeepalive (hs : Relays cfg s) (now : Time) (keepalive : List SocketAddr) :
    Relays cfg { s with now := now, keepalive := keepalive } where
  served := hs.served.imp fun _ _ h => ⟨h.owned, h.inOrder⟩
  inOrder := hs.inOrder
  dispatched := hs.dispatched
  responded := hs.responded

theorem UdpService.taskOf?_eq_some {task : UdpAssociationTask}
    (h : s.taskOf? peerAddr = some task) :
    ∃ e, s.assocMap.lookup? peerAddr = some e ∧ e.value.task = some task :=
  Option.bind_eq_some_iff.1 h

theorem Relays.owns (hs : Relays cfg s) {task : UdpAssociationTask}
    (h : s.taskOf? peerAddr = some task) : Owns s.opened peerAddr task := by
  obtain ⟨e, he, htask⟩ := UdpService.taskOf?_eq_some h
  exact (hs.served peerAddr e he).owned task htask

/-- An association whose task goes on keeps its channel, and one whose task ends loses it. -/
theorem Serves.setTask {assoc : UdpAssociation} (h : Serves s client assoc)
    {task : Option UdpAssociationTask}
    (hown : ∀ after, task = some after → Owns s.opened client after) :
    Serves s client (assoc.setTask task) := by
  cases task with
  | some task => exact ⟨fun after hafter => hown after hafter, h.inOrder⟩
  | none =>
    refine ⟨fun after hafter => (Option.some_ne_none _ hafter.symm).elim, ?_⟩
    exact ((List.nil_sublist _).append_left _).trans h.inOrder

theorem Relays.setTask (hs : Relays cfg s) {task : Option UdpAssociationTask}
    (hown : ∀ after, task = some after → Owns s.opened peerAddr after) :
    Relays cfg (s.setTask peerAddr task) :=
  hs.setMap (hs.served.modify fun e he => (hs.served peerAddr e he).setTask hown)

theorem Relays.keepTask (hs : Relays cfg s) {task : UdpAssociationTask}
    (hown : Owns s.opened peerAddr task) : Relays cfg (s.setTask peerAddr (some task)) := by
  refine hs.setTask fun after hafter => ?_
  obtain rfl := Option.some.inj hafter
  exact hown

/-- A task that has ended holds no sockets. -/
theorem Relays.endTask (hs : Relays cfg s) : Relays cfg (s.setTask peerAddr none) :=
  hs.setTask fun _ hafter => by cases hafter

/-! ### Datagrams from clients -/

theorem trySend_task (packet : UdpPacket) (assoc : UdpAssociation) :
    (assoc.trySend packet).task = assoc.task := by
  unfold UdpAssociation.trySend
  split <;> rfl

theorem trySend_channel (packet : UdpPacket) (assoc : UdpAssociation) :
    (assoc.trySend packet).channel = assoc.channel ∨
      (assoc.trySend packet).channel = assoc.channel ++ [packet] := by
  unfold UdpAssociation.trySend
  split
  · exact .inr rfl
  · exact .inl rfl

/-- A new association takes its first packet. -/
theorem trySend_new (packet : UdpPacket) (task : UdpAssociationTask) :
    (UdpAssociation.trySend packet { task := some task, channel := [] }).channel = [packet] := rfl

/-- The state with one more packet accepted. -/
def UdpService.accepting (peerAddr : SocketAddr) (packet : UdpPacket) (s : UdpService) :
    UdpService :=
  { s with accepted := s.accepted ++ [(peerAddr, packet)] }

theorem sentBy_accepting (client peerAddr : SocketAddr) (packet : UdpPacket) :
    (s.accepting peerAddr packet).sentBy client =
      s.sentBy client ++ if peerAddr = client then [packet] else [] := by
  unfold UdpService.sentBy UdpService.accepting
  rw [List.filter_append, List.map_append]
  by_cases heq : peerAddr = client <;> simp [heq]

theorem sentBy_sublist_accepting (client peerAddr : SocketAddr) (packet : UdpPacket) :
    (s.sentBy client).Sublist ((s.accepting peerAddr packet).sentBy client) := by
  rw [sentBy_accepting]
  exact List.sublist_append_left _ _

theorem Relays.accepting (hs : Relays cfg s) (packet : UdpPacket) :
    Relays cfg (s.accepting peerAddr packet) where
  served := hs.served.imp fun client _ h =>
    h.mono List.prefix_rfl rfl (sentBy_sublist_accepting client peerAddr packet)
  inOrder client := (hs.inOrder client).trans (sentBy_sublist_accepting client peerAddr packet)
  dispatched := hs.dispatched
  responded := hs.responded

/-- Handing the packet over leaves the channel in order. -/
theorem Serves.trySend {assoc : UdpAssociation} (h : Serves s peerAddr assoc)
    (packet : UdpPacket) :
    Serves (s.accepting peerAddr packet) peerAddr (assoc.trySend packet) := by
  refine ⟨fun task htask => h.owned task (trySend_task packet assoc ▸ htask), ?_⟩
  rw [sentBy_accepting, if_pos rfl]
  rcases trySend_channel packet assoc with hsame | htaken
  · rw [hsame]
    exact h.inOrder.trans (List.sublist_append_left _ _)
  · rw [htaken, ← List.append_assoc]
    exact h.inOrder.append (List.Sublist.refl _)

theorem receiveDatagram_relays (hs : Relays cfg s) (datagram : D) (clientSessionId : Nat) :
    Relays cfg (receiveDatagram cfg peerAddr datagram clientSessionId s) := by
  unfold receiveDatagram
  split
  · exact hs
  · next packet _ =>
    have hfound : (s.assocMap.get s.now peerAddr).2.Forall (Serves s) := hs.served.get
    have haccepting : (s.assocMap.get s.now peerAddr).2.Forall
        (Serves (s.accepting peerAddr packet)) := (hs.accepting packet).served.get
    change Relays cfg (managerSendTo cfg peerAddr packet clientSessionId
      (s.accepting peerAddr packet))
    unfold managerSendTo
    have hmap : (s.accepting peerAddr packet).assocMap = s.assocMap := rfl
    have hnow : (s.accepting peerAddr packet).now = s.now := rfl
    rw [hmap, hnow]
    split
    · next hget =>
      rw [hget] at hfound haccepting
      exact (hs.accepting packet).setMap
        (haccepting.modify fun e he => (hfound peerAddr e he).trySend packet)
    · next hget =>
      rw [hget] at haccepting
      refine (hs.accepting packet).setMap (haccepting.insert (Serves.trySend ⟨?_, ?_⟩ packet))
      · intro task htask
        obtain rfl := Option.some.inj htask
        exact owns_create _ _ _ _
      · rw [List.append_nil]
        exact hs.inOrder peerAddr

/-! ### Packets from the channels -/

/-- The state with one more packet dispatched. -/
def UdpService.dispatching (d : Dispatched) (s : UdpService) : UdpService :=
  { s with dispatched := s.dispatched ++ [d] }

theorem takenFor_dispatching (client : SocketAddr) (d : Dispatched) :
    (s.dispatching d).takenFor client =
      s.takenFor client ++ if d.peerAddr = client then [d.packet] else [] := by
  unfold UdpService.takenFor UdpService.dispatching
  rw [List.filter_append, List.map_append]
  by_cases heq : d.peerAddr = client <;> simp [heq]

/-- What dispatching takes from the channel, and what it leaves behind. -/
theorem dispatchNext_cases [Idna] {outside : Outside}
    (h : dispatchNext cfg peerAddr outside s = some t) :
    ∃ e task packet channel, s.assocMap.lookup? peerAddr = some e ∧ e.value.task = some task ∧
      e.value.channel = packet :: channel ∧ ∃ after,
        after = dispatchReceivedPacket cfg s.now outside packet s.opened task ∧
        t =
          { s with
            assocMap := s.assocMap.modify peerAddr fun assoc =>
              { assoc with channel := channel }.setTask after.task
            opened := after.opened
            dispatched := s.dispatched ++
              [{ peerAddr := task.context.peerAddr, packet := packet, answers := outside.answers
                 sent := after.sent }] } := by
  unfold dispatchNext at h
  split at h
  · cases h
  · next e he =>
    split at h
    · next task packet channel htask hchannel =>
      exact ⟨e, task, packet, channel, he, htask, hchannel, _, rfl, (Option.some.inj h).symm⟩
    · cases h

theorem dispatchNext_relays [Idna] (hs : Relays cfg s) {outside : Outside}
    (h : dispatchNext cfg peerAddr outside s = some t) : Relays cfg t := by
  obtain ⟨e, task, packet, channel, he, htask, hchannel, after, hafter, rfl⟩ :=
    dispatchNext_cases h
  have hserved : Serves s peerAddr e.value := hs.served peerAddr e he
  have hown : Owns s.opened peerAddr task := hserved.owned task htask
  have hfor : after.IsFor (cfg.job peerAddr packet outside.answers) s.opened := by
    rw [hafter]
    exact dispatchReceivedPacket_isFor s.now outside packet hown
  have hpeer : task.context.peerAddr = peerAddr := hown.peerAddr
  rw [hpeer]
  have hwaiting : (s.takenFor peerAddr ++ [packet] ++ channel).Sublist (s.sentBy peerAddr) := by
    rw [List.append_assoc, List.singleton_append, ← hchannel]
    exact hserved.inOrder
  have htaken : ∀ client, (s.dispatching ⟨peerAddr, packet, outside.answers, after.sent⟩).takenFor client =
      s.takenFor client ++ if peerAddr = client then [packet] else [] :=
    fun client => takenFor_dispatching client _
  constructor
  · -- the entry of the client, and the others
    intro client e' he'
    obtain ⟨e₀, he₀, ⟨rfl, rfl⟩ | ⟨hne, rfl⟩⟩ := LruCache.modify_sub he'
    · refine Serves.setTask ⟨?_, ?_⟩ hfor.owned
      · exact fun task htask => ((hs.served client e₀ he₀).owned task htask).mono hfor.opened
      · change ((s.dispatching ⟨client, packet, outside.answers, after.sent⟩).takenFor client ++
          channel).Sublist (s.sentBy client)
        rw [htaken, if_pos rfl]
        exact hwaiting
    · refine (hs.served client e' he₀).mono hfor.opened ?_ (List.Sublist.refl _)
      refine (htaken client).trans ?_
      rw [if_neg (Ne.symm hne), List.append_nil]
  · intro client
    change ((s.dispatching ⟨peerAddr, packet, outside.answers, after.sent⟩).takenFor client).Sublist
      (s.sentBy client)
    rw [htaken]
    split
    · next heq =>
      subst heq
      exact (List.sublist_append_left _ _).trans hwaiting
    · rw [List.append_nil]
      exact hs.inOrder client
  · intro d hd x hx
    rcases List.mem_append.1 hd with hold | hnew
    · exact (hs.dispatched d hold x hx).mono hfor.opened
    · obtain rfl := List.mem_singleton.1 hnew
      exact hfor.sent x hx
  · intro r hr
    exact ⟨getElem?_of_grown hfor.opened (hs.responded r hr).socket, (hs.responded r hr).written⟩

/-! ### Datagrams for clients -/

theorem respondTo_relays (hs : Relays cfg s) {task : UdpAssociationTask} {socket : Nat}
    (hown : Owns s.opened peerAddr task) (hsocket : s.opened[socket]? = some peerAddr)
    (respond : Respond) : Relays cfg (respondTo cfg peerAddr socket respond task s) := by
  have hset : Relays cfg (s.setTask peerAddr (some task)) := hs.keepTask hown
  unfold respondTo
  dsimp only
  split
  · next datagram hwritten =>
    refine ⟨hset.served.imp fun _ _ h => ⟨h.owned, h.inOrder⟩, hset.inOrder, hset.dispatched, ?_⟩
    intro r hr
    rcases List.mem_append.1 hr with hold | hnew
    · exact hset.responded r hold
    · obtain rfl := List.mem_singleton.1 hnew
      exact ⟨by rw [hown.peerAddr]; exact hsocket, hwritten⟩
  · -- the writer panics, and the task with it
    exact hs.endTask
  · exact hset
  · exact hset

theorem receiveBypassed_relays (hs : Relays cfg s) {family : AddrFamily}
    {received : Except IoError (SocketAddr × Bytes)}
    (h : receiveBypassed cfg peerAddr family received s = some t) : Relays cfg t := by
  unfold receiveBypassed at h
  split at h
  · cases h
  · next task htask =>
    have hown := hs.owns htask
    split at h
    · cases h
    · next socket addr data hsocket =>
      obtain rfl := Option.some.inj h
      have hkept : Owns s.opened peerAddr
          { task with context := task.context.sendReceivedRespondPacket } :=
        hown.keepSocket rfl (.inl rfl)
      exact respondTo_relays hs hkept
        (hown.sockets socket (UdpAssociationTask.bypassedSocket_mem hsocket)) _
    · -- a socket that failed is given up
      obtain rfl := Option.some.inj h
      exact hs.keepTask (hown.setBypassedSocket (fun n hn => by cases hn) family)

/-- Checking a packet of the server's touches no socket. -/
theorem checkServerPacket_kept (now : Time) (control : UdpSocketControlData)
    (assoc : UdpAssociationContext) :
    (assoc.checkServerPacket now control).2.peerAddr = assoc.peerAddr ∧
      (assoc.checkServerPacket now control).2.proxiedSocket = assoc.proxiedSocket := by
  unfold UdpAssociationContext.checkServerPacket
  dsimp only
  split <;> exact ⟨rfl, rfl⟩

/-- The proxied socket is given up if anything. -/
theorem dispatchProxied_kept {method : CipherKind} {now : Time} {datagram : Bytes}
    {assoc assoc' : UdpAssociationContext} {respond : Option Respond}
    (h : dispatchProxied crypto suite method now datagram assoc = some (respond, assoc')) :
    assoc'.peerAddr = assoc.peerAddr ∧
      (assoc'.proxiedSocket = assoc.proxiedSocket ∨ assoc'.proxiedSocket = none) := by
  unfold dispatchProxied at h
  split at h
  · cases h
  · split at h
    · next n addr control buf hrecv =>
      have hkept := checkServerPacket_kept now control assoc
      split at h
      · next checked hchecked =>
        rw [hchecked] at hkept
        cases h
        exact ⟨hkept.1, .inl hkept.2⟩
      · next checked hchecked =>
        rw [hchecked] at hkept
        cases h
        exact ⟨hkept.1, .inl hkept.2⟩
    · cases h
      exact ⟨rfl, .inl rfl⟩
    · cases h
      exact ⟨rfl, .inr rfl⟩
    · cases h
    · cases h

theorem receiveFromServer_relays (hs : Relays cfg s) {method : CipherKind}
    {received : Except IoError Bytes}
    (h : receiveFromServer cfg crypto suite peerAddr method received s = some t) :
    Relays cfg t := by
  unfold receiveFromServer at h
  split at h
  · cases h
  · next task htask =>
    have hown := hs.owns htask
    split at h
    · cases h
    · next socket datagram hsocket =>
      split at h
      · next respond context hdispatch =>
        obtain ⟨hpeer, hkept⟩ := dispatchProxied_kept hdispatch
        obtain rfl := Option.some.inj h
        exact respondTo_relays hs (hown.keepSocket hpeer hkept) (hown.proxied hsocket) _
      · next context hdispatch =>
        obtain ⟨hpeer, hkept⟩ := dispatchProxied_kept hdispatch
        obtain rfl := Option.some.inj h
        exact hs.keepTask (hown.keepSocket hpeer hkept)
      · obtain rfl := Option.some.inj h
        exact hs.endTask
    · obtain rfl := Option.some.inj h
      exact hs.keepTask (hown.keepSocket rfl (.inr rfl))

/-- A tick touches no socket. -/
theorem keepaliveTick_kept (room : Bool) (assoc : UdpAssociationContext) :
    (assoc.keepaliveTick room).2.peerAddr = assoc.peerAddr ∧
      (assoc.keepaliveTick room).2.proxiedSocket = assoc.proxiedSocket := by
  unfold UdpAssociationContext.keepaliveTick
  split <;> exact ⟨rfl, rfl⟩

theorem keepaliveTick_relays (hs : Relays cfg s) (h : keepaliveTick peerAddr s = some t) :
    Relays cfg t := by
  unfold keepaliveTick at h
  split at h
  · cases h
  · next task htask =>
    obtain ⟨hpeer, hsocket⟩ := keepaliveTick_kept
      (decide (s.keepalive.length < Server.udpAssociationKeepAliveChannelSize)) task.context
    have hticked := hs.keepTask ((hs.owns htask).keepSocket hpeer (.inl hsocket))
    dsimp only at h
    split at h
    · next context htick =>
      rw [htick] at hticked
      obtain rfl := Option.some.inj h
      exact hticked.setKeepalive s.now _
    · next context htick =>
      rw [htick] at hticked
      obtain rfl := Option.some.inj h
      exact hticked

/-! ### Every step -/

theorem udpServiceStep_relays [Idna] {event : UdpServiceEvent D} (hs : Relays cfg s)
    (h : udpServiceStep cfg crypto suite s event = some t) : Relays cfg t := by
  cases event with
  | receive peerAddr datagram clientSessionId =>
    obtain rfl := Option.some.inj h
    exact receiveDatagram_relays hs datagram clientSessionId
  | dispatch peerAddr outside => exact dispatchNext_relays hs h
  | receiveBypassed peerAddr family received => exact receiveBypassed_relays hs h
  | receiveFromServer peerAddr method received => exact receiveFromServer_relays hs h
  | keepaliveTick peerAddr => exact keepaliveTick_relays hs h
  | keepAlive =>
    unfold udpServiceStep at h
    dsimp only at h
    split at h
    · cases h
    · obtain rfl := Option.some.inj h
      exact (hs.setMap hs.served.get).setKeepalive s.now _
  | cleanupExpired =>
    obtain rfl := Option.some.inj h
    exact hs.setMap hs.served.removeExpired
  | advance time =>
    obtain rfl := Option.some.inj h
    exact hs.setKeepalive _ s.keepalive

theorem reachable_relays [Idna] {ok : UdpService → UdpServiceEvent D → Prop} {start : Time}
    (h : Reachable (udpServiceStep cfg crypto suite) ok (.new cfg start) s) : Relays cfg s :=
  h.invariant (Relays cfg) (relays_new start) fun hs _ hstep => udpServiceStep_relays hs hstep

/-! ## What comes for the clients -/

/-- Something for a client that has come on a socket of its association. -/
structure Receipt where
  peerAddr : SocketAddr
  socket : Nat
  respond : Respond

/-- The payload of a server's packet, where it opens and the window of its session accepts it; the
    older methods have no windows. -/
def payloadFor (crypto : CryptoSuite K) (suite : StreamSuite S) (method : CipherKind) (now : Time)
    (datagram : Bytes) (context : UdpAssociationContext) (socket : ProxySocket) : Option Respond :=
  match recvBuffer crypto suite method now socket datagram with
  | (.ready (n, addr, control), buf) =>
    if control.all fun control => (context.checkServerPacket now control).1 then
      some { addr := addr, data := buf.take n }
    else none
  | _ => none

/-- What comes for a client in a step. -/
def receipt (crypto : CryptoSuite K) (suite : StreamSuite S) (s : UdpService) :
    UdpServiceEvent D → Option Receipt
  | .receiveBypassed peerAddr family (.ok (addr, data)) =>
    (s.taskOf? peerAddr).bind fun task => (task.bypassedSocket family).map fun socket =>
      { peerAddr := peerAddr, socket := socket
        respond := { addr := .socketAddress addr, data := data } }
  | .receiveFromServer peerAddr method (.ok datagram) =>
    (s.taskOf? peerAddr).bind fun task => task.context.proxiedSocket.bind fun socket =>
      (payloadFor crypto suite method s.now datagram task.context socket).map fun respond =>
        { peerAddr := peerAddr, socket := socket.id, respond := respond }
  | _ => none

/-- What is written for it: the datagram of the front end, unless the writer fails or panics. -/
def FrontEnd.written (frontEnd : FrontEnd D) (r : Receipt) : Option Responded :=
  match frontEnd.sendTo r.peerAddr r.respond.addr r.respond.data with
  | .ready datagram =>
    some { peerAddr := r.peerAddr, socket := r.socket, respond := r.respond, datagram := datagram }
  | _ => none

theorem respondTo_responded (cfg : UdpServiceConfig D) (s : UdpService) (peerAddr : SocketAddr)
    (socket : Nat) (respond : Respond) (task : UdpAssociationTask) :
    (respondTo cfg peerAddr socket respond task s).responded =
      s.responded ++ (cfg.frontEnd.written
        { peerAddr := task.context.peerAddr, socket := socket, respond := respond }).toList := by
  unfold respondTo FrontEnd.written
  dsimp only
  cases cfg.frontEnd.sendTo task.context.peerAddr respond.addr respond.data with
  | ready datagram => rfl
  | pending => exact (List.append_nil _).symm
  | failed e => exact (List.append_nil _).symm
  | panicked => exact (List.append_nil _).symm

/-- What the proxied socket gives the client is the payload that is for it. -/
theorem dispatchProxied_respond {method : CipherKind} {now : Time} {datagram : Bytes}
    {assoc assoc' : UdpAssociationContext} {socket : ProxySocket} {respond : Option Respond}
    (hsocket : assoc.proxiedSocket = some socket)
    (h : dispatchProxied crypto suite method now datagram assoc = some (respond, assoc')) :
    respond = payloadFor crypto suite method now datagram assoc socket := by
  unfold dispatchProxied at h
  rw [hsocket] at h
  dsimp only at h
  unfold payloadFor
  split at h
  · next n addr control buf hrecv =>
    rw [hrecv]
    split at h
    · next checked hchecked =>
      cases h
      simp [hchecked]
    · next checked hchecked =>
      cases h
      simp [hchecked]
  · next n addr buf hrecv =>
    rw [hrecv]
    cases h
    rfl
  · next e buf hrecv =>
    rw [hrecv]
    cases h
    rfl
  · cases h
  · cases h

/-- A packet that is for the client does not end the task. -/
theorem dispatchProxied_isSome {method : CipherKind} {now : Time} {datagram : Bytes}
    {assoc : UdpAssociationContext} {socket : ProxySocket}
    (hsocket : assoc.proxiedSocket = some socket)
    (h : dispatchProxied crypto suite method now datagram assoc = none) :
    payloadFor crypto suite method now datagram assoc socket = none := by
  unfold dispatchProxied at h
  rw [hsocket] at h
  dsimp only at h
  unfold payloadFor
  split at h
  · split at h <;> cases h
  · cases h
  · cases h
  · next buf hrecv => rw [hrecv]
  · next buf hrecv => rw [hrecv]

/-- A step leaves what was written before, and adds what is written for what comes. -/
def Writes (cfg : UdpServiceConfig D) (r : Option Receipt) (s t : UdpService) : Prop :=
  t.responded = s.responded ++ (r.bind cfg.frontEnd.written).toList

theorem Writes.nothing (h : t.responded = s.responded) : Writes cfg none s t :=
  h.trans (List.append_nil _).symm

theorem receiveBypassed_writes (hs : Relays cfg s) {family : AddrFamily}
    {received : Except IoError (SocketAddr × Bytes)}
    (h : receiveBypassed cfg peerAddr family received s = some t) :
    Writes cfg (receipt crypto suite s (.receiveBypassed (D := D) peerAddr family received)) s t := by
  unfold receiveBypassed at h
  split at h
  · cases h
  · next task htask =>
    have hpeer : task.context.peerAddr = peerAddr := (hs.owns htask).peerAddr
    split at h
    · cases h
    · next socket addr data hsocket =>
      obtain rfl := Option.some.inj h
      simp only [receipt, htask, hsocket, Option.bind_some, Option.map_some, Writes]
      rw [respondTo_responded]
      exact congrArg (fun p => s.responded ++ (cfg.frontEnd.written
        { peerAddr := p, socket := socket
          respond := { addr := .socketAddress addr, data := data } }).toList) hpeer
    · obtain rfl := Option.some.inj h
      exact .nothing rfl

theorem receiveFromServer_writes (hs : Relays cfg s) {method : CipherKind}
    {received : Except IoError Bytes}
    (h : receiveFromServer cfg crypto suite peerAddr method received s = some t) :
    Writes cfg (receipt crypto suite s (.receiveFromServer (D := D) peerAddr method received)) s t := by
  unfold receiveFromServer at h
  split at h
  · cases h
  · next task htask =>
    have hpeer : task.context.peerAddr = peerAddr := (hs.owns htask).peerAddr
    split at h
    · cases h
    · next socket datagram hsocket =>
      simp only [receipt, htask, hsocket, Option.bind_some]
      split at h
      · next respond context hdispatch =>
        obtain rfl := Option.some.inj h
        rw [← dispatchProxied_respond hsocket hdispatch, Option.map_some, Writes,
          respondTo_responded]
        exact congrArg (fun p => s.responded ++ (cfg.frontEnd.written
          { peerAddr := p, socket := socket.id, respond := respond }).toList)
          ((dispatchProxied_kept hdispatch).1.trans hpeer)
      · next context hdispatch =>
        obtain rfl := Option.some.inj h
        rw [← dispatchProxied_respond hsocket hdispatch]
        exact .nothing rfl
      · next hdispatch =>
        obtain rfl := Option.some.inj h
        rw [dispatchProxied_isSome hsocket hdispatch]
        exact .nothing rfl
    · obtain rfl := Option.some.inj h
      exact .nothing rfl

/-- What comes for a client is answered by the task, and nothing else is written. -/
theorem udpServiceStep_writes [Idna] {event : UdpServiceEvent D} (hs : Relays cfg s)
    (h : udpServiceStep cfg crypto suite s event = some t) :
    Writes cfg (receipt crypto suite s event) s t := by
  -- only what comes on a socket of a task is answered
  cases event with
  | receive peerAddr datagram clientSessionId =>
    obtain rfl := Option.some.inj h
    refine .nothing ?_
    unfold receiveDatagram
    split
    · rfl
    · unfold managerSendTo
      split <;> rfl
  | dispatch peerAddr outside =>
    obtain ⟨_, _, _, _, _, _, _, _, _, rfl⟩ := dispatchNext_cases h
    exact .nothing rfl
  | receiveBypassed peerAddr family received => exact receiveBypassed_writes hs h
  | receiveFromServer peerAddr method received => exact receiveFromServer_writes hs h
  | keepaliveTick peerAddr =>
    refine .nothing ?_
    unfold udpServiceStep keepaliveTick at h
    dsimp only at h
    split at h
    · cases h
    · split at h <;>
        · obtain rfl := Option.some.inj h
          rfl
  | keepAlive =>
    unfold udpServiceStep at h
    dsimp only at h
    split at h
    · cases h
    · obtain rfl := Option.some.inj h
      exact .nothing rfl
  | cleanupExpired =>
    obtain rfl := Option.some.inj h
    exact .nothing rfl
  | advance time =>
    obtain rfl := Option.some.inj h
    exact .nothing rfl

/-- What comes for a client is taken by its task. -/
theorem udpServiceStep_receipt [Idna] {event : UdpServiceEvent D} {r : Receipt}
    (h : receipt crypto suite s event = some r) :
    ∃ t, udpServiceStep cfg crypto suite s event = some t := by
  unfold receipt at h
  split at h
  · next peerAddr family addr data =>
    obtain ⟨task, htask, hsocket⟩ := Option.bind_eq_some_iff.1 h
    obtain ⟨socket, hsocket, -⟩ := Option.map_eq_some_iff.1 hsocket
    simp only [udpServiceStep, receiveBypassed, htask, hsocket]
    exact ⟨_, rfl⟩
  · next peerAddr method datagram =>
    obtain ⟨task, htask, hsocket⟩ := Option.bind_eq_some_iff.1 h
    obtain ⟨socket, hsocket, -⟩ := Option.bind_eq_some_iff.1 hsocket
    simp only [udpServiceStep, receiveFromServer, htask, hsocket]
    split <;> exact ⟨_, rfl⟩
  · cases h

/-! ## Order and isolation -/

section Runs

variable [Idna] (cfg : UdpServiceConfig D) (crypto : CryptoSuite K) (suite : StreamSuite S)

/-- **Order.** What the service takes for a client is what the client sent, each packet at most
    once and in order, whatever happens to its associations in between; and what is sent for a
    packet is its payload, to its target or to an address that the resolver has named for it. -/
theorem relayed_in_order {start : Time} {s : UdpService}
    (h : Reachable (udpServiceStep cfg crypto suite) anyStep (.new cfg start) s) :
    (∀ client, (s.takenFor client).Sublist (s.sentBy client)) ∧
      ∀ d ∈ s.dispatched, ∀ x ∈ d.sent, Carries cfg.dualStack d.answers d.packet x := by
  have hrelays : Relays cfg s := reachable_relays h
  exact ⟨hrelays.inOrder, fun d hd x hx => (hrelays.dispatched d hd x hx).carries⟩

/-- **Isolation.** A socket carries what one client sends.  What comes on it, directly or in a
    packet that opens and that its window accepts, is written to that client, as the datagram that
    the front end makes of it unless that fails, and nothing else is written to anybody. -/
theorem sockets_isolated {start : Time} {s : UdpService}
    (h : Reachable (udpServiceStep cfg crypto suite) anyStep (.new cfg start) s) :
    (∀ d ∈ s.dispatched, ∀ x ∈ d.sent, ∀ d' ∈ s.dispatched, ∀ x' ∈ d'.sent,
      x.socket = x'.socket → d.peerAddr = d'.peerAddr) ∧
    (∀ r ∈ s.responded,
      cfg.frontEnd.sendTo r.peerAddr r.respond.addr r.respond.data = .ready r.datagram ∧
      ∀ d ∈ s.dispatched, ∀ x ∈ d.sent, x.socket = r.socket → d.peerAddr = r.peerAddr) ∧
    (∀ event r, receipt crypto suite s event = some r →
      ∃ t, udpServiceStep cfg crypto suite s event = some t) ∧
    ∀ event t, udpServiceStep cfg crypto suite s event = some t →
      t.responded = s.responded ++
        ((receipt crypto suite s event).bind cfg.frontEnd.written).toList := by
  have hrelays : Relays cfg s := reachable_relays h
  have hsocket : ∀ d ∈ s.dispatched, ∀ x ∈ d.sent, s.opened[x.socket]? = some d.peerAddr :=
    fun d hd x hx => (hrelays.dispatched d hd x hx).socket
  refine ⟨fun d hd x hx d' hd' x' hx' heq => ?_, fun r hr => ?_, ?_, ?_⟩
  · have hsame := hsocket d hd x hx
    rw [heq, hsocket d' hd' x' hx'] at hsame
    exact (Option.some.inj hsame).symm
  · have hanswers := hrelays.responded r hr
    refine ⟨hanswers.written, fun d hd x hx heq => ?_⟩
    have hsame := hsocket d hd x hx
    rw [heq, hanswers.socket] at hsame
    exact (Option.some.inj hsame).symm
  · exact fun event r hr => udpServiceStep_receipt hr
  · exact fun event t hstep => udpServiceStep_writes hrelays hstep

end Runs

/-! ### A sample run -/

def sampleClient : SocketAddr := .v4 0x0a000001#32 1000

def otherClient : SocketAddr := .v4 0x0a000002#32 1000

def sampleResolver : SocketAddr := .v4 0x01010101#32 53

/-- The tunnel's target, which the resolver finds at `sampleResolver`. -/
def sampleForward : Address := .domainNameAddress "dns.example" 53

def sampleConfig (frontEnd : FrontEnd Bytes) : UdpServiceConfig Bytes :=
  { frontEnd := frontEnd, dualStack := true, ipv6First := false
    timeToLive := 300 * Time.second, capacity := none }

/-- No server is configured, and every socket opens. -/
def sampleOutside : Outside :=
  { context := .new, balancerIsEmpty := true, answers := [.ok [sampleResolver]], newSessionId := 0
    connect := .error noAnswer, sending := .ok (), openSocket := fun _ => .ok ()
    sendTo := fun _ _ => .ok () }

/-- One client sends two datagrams and another one sends one, which go out directly; one is answered
    for each client. -/
def questionEvents (datagram : Bytes) : List (UdpServiceEvent Bytes) :=
  [.receive sampleClient datagram 7, .receive otherClient datagram 8,
    .receive sampleClient datagram 9, .dispatch sampleClient sampleOutside,
    .dispatch otherClient sampleOutside, .dispatch sampleClient sampleOutside,
    .receiveBypassed otherClient .ipv6 (.ok (mappedTarget true sampleResolver, [3])),
    .receiveBypassed sampleClient .ipv6 (.ok (mappedTarget true sampleResolver, [2]))]

def sampleStep (frontEnd : FrontEnd Bytes) :
    UdpService → UdpServiceEvent Bytes → Option UdpService :=
  @udpServiceStep _ _ _ (sampleConfig frontEnd) CryptoSuite.transparent StreamSuite.transparent
    Server.keepNames

/-- The tunnel's run. -/
def sampleTunnelRun : Option UdpService :=
  (questionEvents [1]).foldlM (sampleStep (tunnelFrontEnd sampleForward))
    (.new (sampleConfig (tunnelFrontEnd sampleForward)) (100 * Time.second))

theorem relayed_in_order_sample : ∃ s, sampleTunnelRun = some s ∧
    (s.dispatched.map fun d => (d.peerAddr, d.sent)) =
      [(sampleClient, [.bypassed 0 (mappedTarget true sampleResolver) [1]]),
        (otherClient, [.bypassed 1 (mappedTarget true sampleResolver) [1]]),
        (sampleClient, [.bypassed 0 (mappedTarget true sampleResolver) [1]])] ∧
    (∀ client, (s.takenFor client).Sublist (s.sentBy client)) ∧
      ∀ d ∈ s.dispatched, ∀ x ∈ d.sent, Carries true d.answers d.packet x := by
  obtain ⟨s, hs, htaken⟩ : ∃ s, sampleTunnelRun = some s ∧
      (s.dispatched.map fun d => (d.peerAddr, d.sent)) =
        [(sampleClient, [.bypassed 0 (mappedTarget true sampleResolver) [1]]),
          (otherClient, [.bypassed 1 (mappedTarget true sampleResolver) [1]]),
          (sampleClient, [.bypassed 0 (mappedTarget true sampleResolver) [1]])] :=
    Option.map_eq_some_iff.1 (by decide +kernel)
  exact ⟨s, hs, htaken, @relayed_in_order _ _ _ Server.keepNames
    (sampleConfig (tunnelFrontEnd sampleForward)) CryptoSuite.transparent
    StreamSuite.transparent _ s (.of_run hs)⟩

theorem sockets_isolated_sample : ∃ s, sampleTunnelRun = some s ∧
    (s.responded.map fun r => (r.peerAddr, r.socket, r.datagram)) =
      [(otherClient, 1, [3]), (sampleClient, 0, [2])] ∧
    (∀ d ∈ s.dispatched, ∀ x ∈ d.sent, ∀ d' ∈ s.dispatched, ∀ x' ∈ d'.sent,
      x.socket = x'.socket → d.peerAddr = d'.peerAddr) := by
  obtain ⟨s, hs, hsocket⟩ : ∃ s, sampleTunnelRun = some s ∧
      (s.responded.map fun r => (r.peerAddr, r.socket, r.datagram)) =
        [(otherClient, 1, [3]), (sampleClient, 0, [2])] :=
    Option.map_eq_some_iff.1 (by decide +kernel)
  exact ⟨s, hs, hsocket, (@sockets_isolated _ _ _ Server.keepNames
    (sampleConfig (tunnelFrontEnd sampleForward)) CryptoSuite.transparent
    StreamSuite.transparent _ s (.of_run hs)).1⟩

/-! ## Where nothing is dropped -/

/-- What waits in the channel of a client. -/
def UdpService.waitingFor (client : SocketAddr) (s : UdpService) : List UdpPacket :=
  ((s.assocMap.value? client).map UdpAssociation.channel).getD []

/-- The task of the association does not end in the step. -/
def GoesOn [Idna] (cfg : UdpServiceConfig D) (crypto : CryptoSuite K) (suite : StreamSuite S)
    (s : UdpService) (event : UdpServiceEvent D) (peerAddr : SocketAddr) : Prop :=
  ∀ t ∈ udpServiceStep cfg crypto suite s event, (t.taskOf? peerAddr).isSome

instance [Idna] (cfg : UdpServiceConfig D) (crypto : CryptoSuite K) (suite : StreamSuite S)
    (s : UdpService) (event : UdpServiceEvent D) (peerAddr : SocketAddr) :
    Decidable (GoesOn cfg crypto suite s event peerAddr) :=
  inferInstanceAs (Decidable (∀ t ∈ udpServiceStep cfg crypto suite s event, _))

/-- The step drops nothing: no association has expired or is evicted for a new one, one that is
    given a packet is at work and has room for it, and no task panics. -/
def KeepsAll [Idna] (cfg : UdpServiceConfig D) (crypto : CryptoSuite K) (suite : StreamSuite S)
    (s : UdpService) : UdpServiceEvent D → Prop
  | .receive peerAddr _ _ =>
    s.assocMap.AllAlive s.now ∧ (s.assocMap.value? peerAddr = none → s.assocMap.HasRoom) ∧
      ∀ assoc ∈ s.assocMap.value? peerAddr,
        assoc.task.isSome ∧ assoc.channel.length < udpAssociationSendChannelSize
  | .dispatch peerAddr outside => GoesOn cfg crypto suite s (.dispatch peerAddr outside) peerAddr
  | .receiveBypassed peerAddr family received =>
    GoesOn cfg crypto suite s (.receiveBypassed peerAddr family received) peerAddr
  | .receiveFromServer peerAddr method received =>
    GoesOn cfg crypto suite s (.receiveFromServer peerAddr method received) peerAddr
  | .keepAlive => s.assocMap.AllAlive s.now
  | .cleanupExpired => s.assocMap.AllAlive s.now
  | _ => True

instance [Idna] (cfg : UdpServiceConfig D) (crypto : CryptoSuite K) (suite : StreamSuite S)
    (s : UdpService) (event : UdpServiceEvent D) : Decidable (KeepsAll cfg crypto suite s event) := by
  cases event <;> unfold KeepsAll <;> infer_instance

/-- Every packet that was sent has been taken or waits. -/
def Conserves (s : UdpService) : Prop :=
  ∀ client, s.takenFor client ++ s.waitingFor client = s.sentBy client

/-- A step that is not about the channels. -/
structure SameQueues (s t : UdpService) : Prop where
  waiting : ∀ client, t.waitingFor client = s.waitingFor client
  dispatched : t.dispatched = s.dispatched
  accepted : t.accepted = s.accepted

theorem SameQueues.conserves (h : SameQueues s t) (hs : Conserves s) : Conserves t := by
  intro client
  unfold UdpService.takenFor UdpService.sentBy
  rw [h.waiting, h.dispatched, h.accepted]
  exact hs client

theorem sameQueues_setTask (task : UdpAssociationTask) :
    SameQueues s (s.setTask peerAddr (some task)) := by
  refine ⟨fun client => ?_, rfl, rfl⟩
  unfold UdpService.waitingFor UdpService.setTask
  rw [LruCache.value?_modify]
  split
  · next heq =>
    rw [heq, Option.map_map]
    rfl
  · rfl

theorem taskOf?_setTask_none : (s.setTask peerAddr none).taskOf? peerAddr = none := by
  unfold UdpService.taskOf? UdpService.setTask
  rw [LruCache.lookup?_modify_self]
  cases s.assocMap.lookup? peerAddr <;> rfl

theorem respondTo_cases (cfg : UdpServiceConfig D) (s : UdpService) (peerAddr : SocketAddr)
    (socket : Nat) (respond : Respond) (task : UdpAssociationTask) :
    SameQueues s (respondTo cfg peerAddr socket respond task s) ∨
      respondTo cfg peerAddr socket respond task s = s.setTask peerAddr none := by
  have hset : ∀ task, SameQueues s (s.setTask peerAddr (some task)) := sameQueues_setTask
  unfold respondTo
  dsimp only
  split
  · exact .inl ⟨(hset _).waiting, rfl, rfl⟩
  · exact .inr rfl
  · exact .inl (hset _)
  · exact .inl (hset _)

/-- What comes for a client touches no channel, unless the task of its association panics. -/
theorem receiveBypassed_cases {family : AddrFamily}
    {received : Except IoError (SocketAddr × Bytes)}
    (h : receiveBypassed cfg peerAddr family received s = some t) :
    SameQueues s t ∨ t = s.setTask peerAddr none := by
  unfold receiveBypassed at h
  split at h
  · cases h
  · split at h
    · cases h
    · obtain rfl := Option.some.inj h
      exact respondTo_cases _ _ _ _ _ _
    · obtain rfl := Option.some.inj h
      exact .inl (sameQueues_setTask _)

theorem receiveFromServer_cases {method : CipherKind} {received : Except IoError Bytes}
    (h : receiveFromServer cfg crypto suite peerAddr method received s = some t) :
    SameQueues s t ∨ t = s.setTask peerAddr none := by
  unfold receiveFromServer at h
  split at h
  · cases h
  · split at h
    · cases h
    · split at h
      · obtain rfl := Option.some.inj h
        exact respondTo_cases _ _ _ _ _ _
      · obtain rfl := Option.some.inj h
        exact .inl (sameQueues_setTask _)
      · obtain rfl := Option.some.inj h
        exact .inr rfl
    · obtain rfl := Option.some.inj h
      exact .inl (sameQueues_setTask _)

theorem keepaliveTick_sameQueues (h : keepaliveTick peerAddr s = some t) : SameQueues s t := by
  unfold keepaliveTick at h
  split at h
  · cases h
  · dsimp only at h
    split at h
    · obtain rfl := Option.some.inj h
      exact ⟨(sameQueues_setTask _).waiting, rfl, rfl⟩
    · obtain rfl := Option.some.inj h
      exact sameQueues_setTask _

/-- A task that goes on has not panicked. -/
theorem GoesOn.sameQueues [Idna] {event : UdpServiceEvent D}
    (hgoes : GoesOn cfg crypto suite s event peerAddr)
    (h : udpServiceStep cfg crypto suite s event = some t)
    (hcases : SameQueues s t ∨ t = s.setTask peerAddr none) : SameQueues s t := by
  refine hcases.resolve_right fun hended => ?_
  have hsome := hgoes t h
  rw [hended, taskOf?_setTask_none] at hsome
  cases hsome

theorem trySend_pushes {packet : UdpPacket} {assoc : UdpAssociation} (htask : assoc.task.isSome)
    (hlen : assoc.channel.length < udpAssociationSendChannelSize) :
    (assoc.trySend packet).channel = assoc.channel ++ [packet] := by
  unfold UdpAssociation.trySend
  rw [if_pos (by rw [htask, Bool.true_and]; exact decide_eq_true hlen)]

/-- Where nothing is dropped, the packet waits behind the others of its client. -/
theorem managerSendTo_waiting (halive : s.assocMap.AllAlive s.now)
    (hroom : s.assocMap.value? peerAddr = none → s.assocMap.HasRoom)
    (htakes : ∀ assoc ∈ s.assocMap.value? peerAddr,
      assoc.task.isSome ∧ assoc.channel.length < udpAssociationSendChannelSize)
    (packet : UdpPacket) (clientSessionId : Nat) (client : SocketAddr) :
    (managerSendTo cfg peerAddr packet clientSessionId s).waitingFor client =
      s.waitingFor client ++ if peerAddr = client then [packet] else [] := by
  have hfst : (s.assocMap.get s.now peerAddr).1 = s.assocMap.value? peerAddr := halive.get_fst
  unfold managerSendTo UdpService.waitingFor
  split
  · next assoc assocMap hget =>
    rw [hget] at hfst
    have hsome : s.assocMap.value? peerAddr = some assoc := hfst.symm
    obtain ⟨htask, hlen⟩ := htakes assoc hsome
    -- a hit only moves the entry to the end of the map
    have hvalue : ∀ k, assocMap.value? k = s.assocMap.value? k := by
      intro k
      have hsame : (s.assocMap.get s.now peerAddr).2.value? k = s.assocMap.value? k :=
        halive.value?_get
      rwa [hget] at hsame
    dsimp only
    rw [LruCache.value?_modify, hvalue]
    by_cases heq : client = peerAddr
    · subst heq
      rw [if_pos rfl, if_pos rfl, hsome, Option.map_some, Option.map_some, Option.map_some,
        Option.getD_some, Option.getD_some, trySend_pushes htask hlen]
    · rw [if_neg heq, if_neg (Ne.symm heq), List.append_nil]
  · next assocMap hget =>
    rw [hget] at hfst
    have hnone : s.assocMap.value? peerAddr = none := hfst.symm
    -- a miss removes what has expired, which is nothing here
    have hsame : assocMap = s.assocMap := by
      have hsnd : (s.assocMap.get s.now peerAddr).2 = s.assocMap.removeExpired s.now :=
        LruCache.get_snd_of_none (by rw [hget])
      rwa [hget, halive.removeExpired] at hsnd
    dsimp only
    rw [hsame, halive.value?_insert hroom]
    by_cases heq : client = peerAddr
    · subst heq
      rw [if_pos rfl, if_pos rfl, hnone, Option.map_some, Option.getD_some, Option.map_none,
        Option.getD_none, List.nil_append, trySend_new]
    · rw [if_neg heq, if_neg (Ne.symm heq), List.append_nil]

theorem managerSendTo_takenFor (packet : UdpPacket) (clientSessionId : Nat) (client : SocketAddr) :
    (managerSendTo cfg peerAddr packet clientSessionId s).takenFor client = s.takenFor client ∧
      (managerSendTo cfg peerAddr packet clientSessionId s).sentBy client = s.sentBy client := by
  unfold managerSendTo
  split <;> exact ⟨rfl, rfl⟩

/-- A packet that is let in waits in the channel of its client. -/
theorem receiveDatagram_conserves (hs : Conserves s) {datagram : D} {clientSessionId : Nat}
    (halive : s.assocMap.AllAlive s.now)
    (hroom : s.assocMap.value? peerAddr = none → s.assocMap.HasRoom)
    (htakes : ∀ assoc ∈ s.assocMap.value? peerAddr,
      assoc.task.isSome ∧ assoc.channel.length < udpAssociationSendChannelSize) :
    Conserves (receiveDatagram cfg peerAddr datagram clientSessionId s) := by
  unfold receiveDatagram
  split
  · exact hs
  · next packet _ =>
    intro client
    change (managerSendTo cfg peerAddr packet clientSessionId
        (s.accepting peerAddr packet)).takenFor client ++
      (managerSendTo cfg peerAddr packet clientSessionId
        (s.accepting peerAddr packet)).waitingFor client =
      (managerSendTo cfg peerAddr packet clientSessionId
        (s.accepting peerAddr packet)).sentBy client
    have hkept := @managerSendTo_takenFor D cfg (s.accepting peerAddr packet) peerAddr packet
      clientSessionId client
    have hwaiting := @managerSendTo_waiting D cfg (s.accepting peerAddr packet) peerAddr halive
      hroom htakes packet clientSessionId client
    have htaken : (s.accepting peerAddr packet).takenFor client = s.takenFor client := rfl
    have hwaited : (s.accepting peerAddr packet).waitingFor client = s.waitingFor client := rfl
    have hbefore : s.takenFor client ++ s.waitingFor client = s.sentBy client := hs client
    rw [hkept.1, hkept.2, hwaiting, sentBy_accepting, htaken, hwaited, ← hbefore,
      List.append_assoc]

theorem dispatchNext_conserves [Idna] (hrelays : Relays cfg s) (hs : Conserves s)
    {outside : Outside} (hgoes : ∀ t ∈ dispatchNext cfg peerAddr outside s, (t.taskOf? peerAddr).isSome)
    (h : dispatchNext cfg peerAddr outside s = some t) : Conserves t := by
  have hsome := hgoes t h
  obtain ⟨e, task, packet, channel, he, htask, hchannel, after, -, rfl⟩ := dispatchNext_cases h
  have hpeer : task.context.peerAddr = peerAddr :=
    ((hrelays.served peerAddr e he).owned task htask).peerAddr
  have hwaiting : s.waitingFor peerAddr = packet :: channel := by
    rw [UdpService.waitingFor, LruCache.value?, he]
    exact hchannel
  -- the task has not panicked, so that the channel is kept
  obtain ⟨left, hleft⟩ : ∃ left, after.task = some left := by
    rw [UdpService.taskOf?, LruCache.lookup?_modify_self, he] at hsome
    cases hafter : after.task with
    | some left => exact ⟨left, rfl⟩
    | none =>
      rw [hafter] at hsome
      cases hsome
  rw [hpeer, hleft]
  intro client
  have hbefore := hs client
  have htaken := takenFor_dispatching (s := s) client
    { peerAddr := peerAddr, packet := packet, answers := outside.answers, sent := after.sent }
  change (s.dispatching
    { peerAddr := peerAddr, packet := packet, answers := outside.answers, sent := after.sent }).takenFor
    client ++ (((s.assocMap.modify peerAddr fun assoc =>
      { assoc with channel := channel }.setTask (some left)).value? client).map
        UdpAssociation.channel).getD [] = s.sentBy client
  rw [htaken, LruCache.value?_modify, ← hbefore]
  by_cases heq : client = peerAddr
  · subst heq
    rw [if_pos rfl, if_pos rfl, hwaiting, LruCache.value?, he]
    simp [UdpAssociation.setTask]
  · rw [if_neg heq, if_neg (Ne.symm heq), List.append_nil]
    rfl

theorem udpServiceStep_conserves [Idna] {event : UdpServiceEvent D} (hrelays : Relays cfg s)
    (hs : Conserves s) (hkeeps : KeepsAll cfg crypto suite s event)
    (h : udpServiceStep cfg crypto suite s event = some t) : Conserves t := by
  cases event with
  | receive peerAddr datagram clientSessionId =>
    obtain rfl := Option.some.inj h
    exact receiveDatagram_conserves hs hkeeps.1 hkeeps.2.1 hkeeps.2.2
  | dispatch peerAddr outside => exact dispatchNext_conserves hrelays hs hkeeps h
  | receiveBypassed peerAddr family received =>
    exact (GoesOn.sameQueues hkeeps h (receiveBypassed_cases h)).conserves hs
  | receiveFromServer peerAddr method received =>
    exact (GoesOn.sameQueues hkeeps h (receiveFromServer_cases h)).conserves hs
  | keepaliveTick peerAddr => exact (keepaliveTick_sameQueues h).conserves hs
  | keepAlive =>
    unfold udpServiceStep at h
    dsimp only at h
    split at h
    · cases h
    · obtain rfl := Option.some.inj h
      have halive : s.assocMap.AllAlive s.now := hkeeps
      intro client
      unfold UdpService.waitingFor
      rw [halive.value?_get]
      exact hs client
  | cleanupExpired =>
    obtain rfl := Option.some.inj h
    have halive : s.assocMap.AllAlive s.now := hkeeps
    intro client
    unfold UdpService.waitingFor
    rw [halive.removeExpired]
    exact hs client
  | advance time =>
    obtain rfl := Option.some.inj h
    exact hs

/-- **Nothing lost.** In a run whose steps drop nothing, what was taken for a client and what waits
    for it are together all that the client sent, in order. -/
theorem relayed_all [Idna] (cfg : UdpServiceConfig D) (crypto : CryptoSuite K)
    (suite : StreamSuite S) {start : Time} {s : UdpService}
    (h : Reachable (udpServiceStep cfg crypto suite) (KeepsAll cfg crypto suite) (.new cfg start) s)
    (client : SocketAddr) : s.takenFor client ++ s.waitingFor client = s.sentBy client := by
  have hboth : Relays cfg s ∧ Conserves s := by
    refine h.invariant (fun s => Relays cfg s ∧ Conserves s) ⟨relays_new start, fun _ => rfl⟩ ?_
    rintro s t event ⟨hrelays, hs⟩ hkeeps hstep
    exact ⟨udpServiceStep_relays hrelays hstep,
      udpServiceStep_conserves hrelays hs hkeeps hstep⟩
  exact hboth.2 client

/-- The step of the sample drops nothing. -/
def sampleKeeps (s : UdpService) (event : UdpServiceEvent Bytes) : Bool :=
  @decide (@KeepsAll _ _ _ Server.keepNames (sampleConfig (tunnelFrontEnd sampleForward))
    CryptoSuite.transparent StreamSuite.transparent s event)
    (@instDecidableKeepsAll _ _ _ Server.keepNames _ _ _ s event)

/-- One packet is still waiting for its turn. -/
theorem relayed_all_sample : ∃ s,
    Reachable (sampleStep (tunnelFrontEnd sampleForward)) (fun s e => sampleKeeps s e = true)
      (.new (sampleConfig (tunnelFrontEnd sampleForward)) (100 * Time.second)) s ∧
    (s.takenFor sampleClient).length = 2 ∧ (s.waitingFor otherClient).length = 1 ∧
    ∀ client, s.takenFor client ++ s.waitingFor client = s.sentBy client := by
  obtain ⟨s, hs, hlengths⟩ : ∃ s,
      (questionEvents [1] ++ [UdpServiceEvent.receive otherClient [4] 10]).foldlM (fun s e =>
        if sampleKeeps s e = true then sampleStep (tunnelFrontEnd sampleForward) s e else none)
      (.new (sampleConfig (tunnelFrontEnd sampleForward)) (100 * Time.second)) = some s ∧
        ((s.takenFor sampleClient).length, (s.waitingFor otherClient).length) = (2, 1) :=
    Option.map_eq_some_iff.1 (by decide +kernel)
  have hreach := Reachable.of_checked hs
  refine ⟨s, hreach, congrArg Prod.fst hlengths, congrArg Prod.snd hlengths, ?_⟩
  exact @relayed_all _ _ _ Server.keepNames
    (sampleConfig (tunnelFrontEnd sampleForward)) CryptoSuite.transparent
    StreamSuite.transparent _ s (hreach.weaken fun _ _ h => of_decide_eq_true h)

/-! ## Packets that are let in -/

/-- What a step lets in. -/
theorem udpServiceStep_accepted [Idna] {event : UdpServiceEvent D}
    (h : udpServiceStep cfg crypto suite s event = some t) :
    t.accepted = s.accepted ∨ ∃ peerAddr datagram clientSessionId packet,
      event = .receive peerAddr datagram clientSessionId ∧
        cfg.frontEnd.accept datagram = some packet ∧
        t.accepted = s.accepted ++ [(peerAddr, packet)] := by
  -- only a datagram of a client lets anything in
  cases event with
  | receive peerAddr datagram clientSessionId =>
    obtain rfl := Option.some.inj h
    unfold receiveDatagram
    cases haccept : cfg.frontEnd.accept datagram with
    | none => exact .inl rfl
    | some packet =>
      refine .inr ⟨peerAddr, datagram, clientSessionId, packet, rfl, haccept, ?_⟩
      dsimp only
      unfold managerSendTo
      dsimp only
      split <;> rfl
  | dispatch peerAddr outside =>
    obtain ⟨_, _, _, _, _, _, _, _, _, rfl⟩ := dispatchNext_cases h
    exact .inl rfl
  | receiveBypassed peerAddr family received =>
    rcases receiveBypassed_cases h with hsame | rfl
    · exact .inl hsame.accepted
    · exact .inl rfl
  | receiveFromServer peerAddr method received =>
    rcases receiveFromServer_cases h with hsame | rfl
    · exact .inl hsame.accepted
    · exact .inl rfl
  | keepaliveTick peerAddr => exact .inl (keepaliveTick_sameQueues h).accepted
  | keepAlive =>
    unfold udpServiceStep at h
    dsimp only at h
    split at h
    · cases h
    · obtain rfl := Option.some.inj h
      exact .inl rfl
  | cleanupExpired =>
    obtain rfl := Option.some.inj h
    exact .inl rfl
  | advance time =>
    obtain rfl := Option.some.inj h
    exact .inl rfl

/-- What holds of every packet that is let in holds of every packet that is dispatched. -/
theorem dispatched_satisfy [Idna] {ok : UdpService → UdpServiceEvent D → Prop}
    {P : SocketAddr → UdpPacket → Prop}
    (hok : ∀ s peerAddr datagram clientSessionId packet,
      ok s (.receive peerAddr datagram clientSessionId) →
        cfg.frontEnd.accept datagram = some packet → P peerAddr packet)
    {start : Time} (h : Reachable (udpServiceStep cfg crypto suite) ok (.new cfg start) s) :
    ∀ d ∈ s.dispatched, P d.peerAddr d.packet := by
  -- a packet that is dispatched was let in, since what is taken is a part of what was sent
  have haccepted : ∀ a ∈ s.accepted, P a.1 a.2 := by
    refine h.invariant (fun s => ∀ a ∈ s.accepted, P a.1 a.2) (fun a ha => by cases ha) ?_
    intro s t event hs hevent hstep
    rcases udpServiceStep_accepted hstep with
      hsame | ⟨peerAddr, datagram, id, packet, rfl, hin, heq⟩
    · rwa [hsame]
    · rw [heq]
      intro a ha
      rcases List.mem_append.1 ha with hold | hnew
      · exact hs a hold
      · rw [List.mem_singleton.1 hnew]
        exact hok s peerAddr datagram id packet hevent hin
  intro d hd
  have htaken : d.packet ∈ s.takenFor d.peerAddr :=
    List.mem_map_of_mem (List.mem_filter.2 ⟨hd, decide_eq_true rfl⟩)
  have hsent : d.packet ∈ s.sentBy d.peerAddr :=
    ((reachable_relays h).inOrder d.peerAddr).subset htaken
  obtain ⟨a, ha, hpacket⟩ := List.mem_map.1 hsent
  obtain ⟨hmem, hpeer⟩ := List.mem_filter.1 ha
  rw [← hpacket, ← of_decide_eq_true hpeer]
  exact haccepted a hmem

end Shadowsocks.Local
