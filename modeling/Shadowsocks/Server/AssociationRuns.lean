import Shadowsocks.Server.UdpAssociation

/-! # Runs of an association

What a packet does to an association is said once (`dispatchReceivedPacket_spec`): a
refused one moves the address on record and nothing else, an accepted one is new to
the packet window, and sets the session's user.
-/

namespace Shadowsocks.Server

open Shadowsocks.Lib Shadowsocks.Net Shadowsocks.Udp

/-! ## One packet -/

namespace UdpAssociationContext

variable {assoc : UdpAssociationContext} {message : UdpAssociationSendMessage}

/-- The packets that the server's map hands to an association: with the session's id
    if it has a session, and from its client's address if it has none. -/
def expects (assoc : UdpAssociationContext) (message : UdpAssociationSendMessage) : Bool :=
  match assoc.clientSession, message.control with
  | none, none => message.peerAddr = assoc.peerAddr
  | some session, some control => control.clientSessionId = session.clientSessionId
  | _, _ => false

/-- The packet ids that the session's window has accepted. -/
def HasAccepted (assoc : UdpAssociationContext) (accepted : Set Nat) : Prop :=
  ∀ session, assoc.clientSession = some session → session.packetWindowFilter.Represents accepted

theorem hasAccepted_create (peerAddr : SocketAddr) (clientSessionId : Option Nat)
    (serverSessionId : Nat) : (create peerAddr clientSessionId serverSessionId).HasAccepted ∅ := by
  intro session h
  obtain ⟨id, -, rfl⟩ := Option.map_eq_some_iff.1 h
  exact PacketWindowFilter.represents_new

/-- What an accepted packet leaves of a session. -/
def AcceptedSession (accepted : Set Nat) (control : UdpSocketControlData)
    (session session' : ClientSessionContext) : Prop :=
  control.packetId ∉ accepted ∧ session'.clientSessionId = session.clientSessionId ∧
    session'.clientUser = control.user ∧
    session'.packetWindowFilter.Represents (insert control.packetId accepted)

/-- What an accepted packet leaves of an association, its sockets apart. -/
structure Accepted (accepted : Set Nat) (message : UdpAssociationSendMessage)
    (assoc assoc' : UdpAssociationContext) : Prop where
  peerAddr : assoc'.peerAddr = message.peerAddr
  keepaliveFlag : assoc'.keepaliveFlag = assoc.keepaliveFlag
  serverSessionId : assoc'.serverSessionId = assoc.serverSessionId
  serverPacketId : assoc'.serverPacketId = assoc.serverPacketId
  noSession : assoc.clientSession = none → assoc'.clientSession = none
  session : ∀ session, assoc.clientSession = some session → ∃ control session',
    message.control = some control ∧ assoc'.clientSession = some session' ∧
      AcceptedSession accepted control session session'

/-- Only the sockets differ. -/
structure SameSession (assoc assoc' : UdpAssociationContext) : Prop where
  peerAddr : assoc'.peerAddr = assoc.peerAddr
  keepaliveFlag : assoc'.keepaliveFlag = assoc.keepaliveFlag
  clientSession : assoc'.clientSession = assoc.clientSession
  serverSessionId : assoc'.serverSessionId = assoc.serverSessionId
  serverPacketId : assoc'.serverPacketId = assoc.serverPacketId

theorem SameSession.refl (assoc : UdpAssociationContext) : SameSession assoc assoc :=
  ⟨rfl, rfl, rfl, rfl, rfl⟩

theorem Accepted.sameSession {accepted : Set Nat} {a b c : UdpAssociationContext}
    (h : Accepted accepted message a b) (hsame : SameSession b c) :
    Accepted accepted message a c where
  peerAddr := hsame.peerAddr.trans h.peerAddr
  keepaliveFlag := hsame.keepaliveFlag.trans h.keepaliveFlag
  serverSessionId := hsame.serverSessionId.trans h.serverSessionId
  serverPacketId := hsame.serverPacketId.trans h.serverPacketId
  noSession hnone := hsame.clientSession.trans (h.noSession hnone)
  session session hsome := by
    rw [hsame.clientSession]
    exact h.session session hsome

@[simp] theorem followPeer_clientSession (peerAddr : SocketAddr) :
    (assoc.followPeer peerAddr).clientSession = assoc.clientSession := by
  unfold followPeer
  split <;> rfl

/-- Following the client changes nothing exactly if there is no session or the packet
    came from the address on record. -/
theorem followPeer_eq_self_iff (peerAddr : SocketAddr) :
    assoc.followPeer peerAddr = assoc ↔
      assoc.clientSession = none ∨ peerAddr = assoc.peerAddr := by
  unfold followPeer
  split
  · next hs =>
    constructor
    · intro h
      exact .inr (congrArg UdpAssociationContext.peerAddr h)
    · intro h
      obtain rfl := h.resolve_left (by simp [hs])
      rfl
  · next hs => simp [hs]

variable [Idna] (context : ServiceContext)

/-- The checks of a packet that the map hands to the association. -/
theorem admitReceivedPacket_spec {accepted : Set Nat} (hacc : assoc.HasAccepted accepted)
    (hexp : assoc.expects message = true) (answers : List Answer) :
    let r := assoc.admitReceivedPacket context message answers
    (r.1 = false → r.2.1 = assoc.followPeer message.peerAddr) ∧
      (r.1 = true → Accepted accepted message assoc r.2.1) := by
  unfold admitReceivedPacket
  cases hb : (context.checkOutboundBlocked message.targetAddr answers).1 with
  | true => simp [hb]
  | false =>
    unfold expects at hexp
    cases hs : assoc.clientSession with
    | none =>
      cases hc : message.control with
      | some control => simp [hs, hc] at hexp
      | none =>
        simp only [hs, hc, decide_eq_true_eq] at hexp
        have haccepted : Accepted accepted message assoc assoc :=
          ⟨hexp.symm, rfl, rfl, rfl, fun _ => hs, fun session h => by simp [hs] at h⟩
        simpa [hb, followPeer, hs] using haccepted
    | some session =>
      cases hc : message.control with
      | none => simp [hs, hc] at hexp
      | some control =>
        obtain ⟨hvalid, hadmits, hrefused⟩ :=
          PacketWindowFilter.validatePacketId_spec (hacc session hs) control.packetId packetIdLimit
        by_cases h : session.packetWindowFilter.Admits accepted control.packetId packetIdLimit
        · have haccepted := (hadmits h).1
          simp only [hb, followPeer, hs, Option.getD_some, hvalid.2 h, if_true, Bool.false_eq_true,
            if_false, reduceCtorEq, false_implies, true_and, forall_const]
          refine ⟨rfl, rfl, rfl, rfl, fun hnone => by simp [hs] at hnone, fun other hother => ?_⟩
          obtain rfl := Option.some.inj (hs.symm.trans hother)
          exact ⟨control, _, hc, rfl, h.2.1, rfl, rfl, haccepted⟩
        · -- a refused packet id leaves the window, and so the session, as it was
          have hfst : (session.packetWindowFilter.validatePacketId control.packetId
              packetIdLimit).1 = false := Bool.eq_false_iff.2 fun hv => h (hvalid.1 hv)
          simp [hb, followPeer, hs, hfst, hrefused h]

end UdpAssociationContext

/-! ## Sending a packet on -/

/-- Notes a datagram in the log of `send_to`. -/
def logSent (targetAddr : SocketAddr) (data : Bytes) (r : Relay) : Relay :=
  { r with net := { r.net with sent := r.net.sent ++ [(targetAddr, data)] } }

/-- What neither opening sockets nor asking the resolver can change. -/
structure SocketStable (I : Relay → Prop) : Prop where
  opened : ∀ r n, I r → I { r with net := { r.net with opened := n } }
  answers : ∀ r answers, I r → I { r with net := { r.net with answers := answers } }
  ipv4 : ∀ r socket, I r → I (setOutboundIpv4Socket socket r)
  ipv6 : ∀ r socket, I r → I (setOutboundIpv6Socket socket r)
  dualStack : ∀ r, I r → I (disableDualStack r)

section Sending

variable {I : Relay → Prop} (hI : SocketStable I)
include hI

theorem openSocket_keeping : Triple I openSocket (keeping I) :=
  fun r hr => hI.opened r _ hr

theorem connectAny_keeping : Triple I connectAny (keeping I) := by
  apply Triple.bind (openSocket_keeping hI)
  intro outcome
  rcases outcome with ⟨outcome, socket⟩
  cases outcome with
  | opened => exact Triple.pure fun _ hr => hr
  | familyNotSupported => exact Triple.fail fun _ hr => hr
  | failed e => exact Triple.fail fun _ hr => hr

theorem familySocket_keeping (targetAddr : SocketAddr) :
    Triple I (familySocket targetAddr) (keeping I) := by
  have hconnect : ∀ u : Nat → Relay → Relay, (∀ n r, I r → I (u n r)) →
      Triple I (connectAny >>= fun socket => PollM.update (u socket)) (keeping I) :=
    fun u hu => Triple.bind (connectAny_keeping hI) fun socket r hr => hu socket r hr
  apply Triple.get
  intro r hr
  cases targetAddr with
  | v4 ip port =>
    dsimp only
    cases r.assoc.outboundIpv4Socket with
    | some _ => exact hr
    | none => exact hconnect _ (fun n r h => hI.ipv4 r n h) r hr
  | v6 ip port flowinfo scopeId =>
    dsimp only
    cases r.assoc.outboundIpv6Socket with
    | some _ => exact hr
    | none => exact hconnect _ (fun n r h => hI.ipv6 r n h) r hr

theorem outboundSocket_keeping (targetAddr : SocketAddr) :
    Triple I (outboundSocket targetAddr) (keeping I) := by
  apply Triple.get
  intro r hr
  split
  · cases r.assoc.outboundIpv6Socket with
    | some _ => exact hr
    | none =>
      refine Triple.bind (openSocket_keeping hI) (fun outcome => ?_) r hr
      rcases outcome with ⟨outcome, socket⟩
      cases outcome with
      | opened => exact fun r hr => hI.ipv6 r socket hr
      | familyNotSupported =>
        exact Triple.update hI.dualStack (familySocket_keeping hI targetAddr)
      | failed e => exact Triple.fail fun _ h => h
  · exact familySocket_keeping hI targetAddr r hr

variable {P : SocketAddr → Prop}
  (hsend : ∀ sa, P sa → ∀ dualStack data r, I r → I (logSent (mappedTarget dualStack sa) data r))
include hsend

theorem sendReceivedOutboundPacket_keeping {targetAddr : SocketAddr} (h : P targetAddr)
    (data : Bytes) : Triple I (sendReceivedOutboundPacket targetAddr data) (keeping I) := by
  apply Triple.bind (outboundSocket_keeping hI targetAddr)
  intro _
  apply Triple.get
  intro r hr
  have hlogged := hsend targetAddr h r.net.dualStack data r hr
  unfold sendTo
  dsimp only
  split <;> exact hlogged

/-- Every address that a packet may be sent to satisfies `P`. -/
def TargetsSatisfy (P : SocketAddr → Prop) (targetAddr : Address) (answers : List Answer) : Prop :=
  match targetAddr with
  | .socketAddress sa => P sa
  | .domainNameAddress _ _ =>
    ∀ addrs, (dnsResolve answers).1 = .ok addrs → ∀ sa ∈ addrs, P sa

theorem dispatchReceivedOutboundPacket_keeping (context : ServiceContext) (targetAddr : Address)
    (data : Bytes) :
    Triple (fun r => I r ∧ TargetsSatisfy P targetAddr r.net.answers)
      (dispatchReceivedOutboundPacket context targetAddr data) (keeping I) := by
  cases targetAddr with
  | socketAddress sa =>
    exact fun r hr => sendReceivedOutboundPacket_keeping hI hsend hr.2 data r hr.1
  | domainNameAddress host port =>
    have hresolve : Triple (fun r => I r ∧ TargetsSatisfy P (.domainNameAddress host port)
          r.net.answers) resolveTarget
        ((keeping I : Post Relay IoError Unit).onReady fun addrs r => I r ∧ ∀ sa ∈ addrs, P sa) := by
      intro r hr
      unfold resolveTarget
      dsimp only
      split
      · next addrs hanswer => exact ⟨hI.answers r _ hr.1, hr.2 addrs hanswer⟩
      · exact hI.answers r _ hr.1
    refine Triple.bind hresolve fun addrs r hr => ?_
    exact Triple.bind (lookupThen_keeping context.ipv6First fun sa hsa =>
      sendReceivedOutboundPacket_keeping hI hsend (hr.2 sa hsa) data)
      (fun _ => Triple.pure fun _ hr => hr) r hr.1

end Sending

theorem logError_keeping {P I : Relay → Prop} {x : PollM Relay IoError Unit}
    (h : Triple P x (keeping I)) : Triple P (logError x) (keeping I) :=
  Triple.orElse h (Triple.pure fun _ hr => hr)

/-- Sending has only changed sockets. -/
def OnlySockets (a : UdpAssociationContext) (r : Relay) : Prop :=
  UdpAssociationContext.SameSession a r.assoc

theorem onlySockets_stable (a : UdpAssociationContext) : SocketStable (OnlySockets a) where
  opened _ _ h := h
  answers _ _ h := h
  ipv4 _ _ h := ⟨h.peerAddr, h.keepaliveFlag, h.clientSession, h.serverSessionId, h.serverPacketId⟩
  ipv6 _ _ h := ⟨h.peerAddr, h.keepaliveFlag, h.clientSession, h.serverSessionId, h.serverPacketId⟩
  dualStack _ h := h

/-! ## A packet, relayed or refused -/

/-- Whether the checks of a packet let it through. -/
def admits [Idna] (context : ServiceContext) (message : UdpAssociationSendMessage) (r : Relay) :
    Bool :=
  (r.assoc.admitReceivedPacket context message r.net.answers).1

section Dispatch

variable [Idna] {context : ServiceContext} {message : UdpAssociationSendMessage}

/-- A packet that is refused has no effect but on the address on record. -/
theorem dispatchReceivedPacket_refused {accepted : Set Nat} {r : Relay}
    (hacc : r.assoc.HasAccepted accepted) (hexp : r.assoc.expects message = true)
    (hrefused : admits context message r = false) :
    ∃ answers, dispatchReceivedPacket context message r =
      (.ready (), { assoc := r.assoc.followPeer message.peerAddr
                    net := { r.net with answers := answers } }) := by
  have hspec := (UdpAssociationContext.admitReceivedPacket_spec context hacc hexp
    r.net.answers).1 hrefused
  unfold admits at hrefused
  unfold dispatchReceivedPacket
  rcases hchecked : r.assoc.admitReceivedPacket context message r.net.answers with ⟨ok, assoc', answers⟩
  rw [hchecked] at hspec hrefused
  obtain rfl : ok = false := hrefused
  exact ⟨answers, by rw [show assoc' = _ from hspec]⟩

/-- A packet that is let through is accepted, whatever becomes of sending it on. -/
theorem dispatchReceivedPacket_accepted {accepted : Set Nat} {r : Relay}
    (hacc : r.assoc.HasAccepted accepted) (hexp : r.assoc.expects message = true)
    (hadmits : admits context message r = true) :
    UdpAssociationContext.Accepted accepted message r.assoc
      (dispatchReceivedPacket context message r).2.assoc := by
  have hspec := (UdpAssociationContext.admitReceivedPacket_spec context hacc hexp
    r.net.answers).2 hadmits
  unfold admits at hadmits
  unfold dispatchReceivedPacket
  rcases hchecked : r.assoc.admitReceivedPacket context message r.net.answers with ⟨ok, assoc', answers⟩
  rw [hchecked] at hspec hadmits
  obtain rfl : ok = true := hadmits
  dsimp only
  have hkeep := logError_keeping (dispatchReceivedOutboundPacket_keeping
    (onlySockets_stable assoc') (P := fun _ => True) (fun _ _ _ _ _ hr => hr) context
    message.targetAddr message.data)
  have hall : TargetsSatisfy (fun _ => True) message.targetAddr answers := by
    cases message.targetAddr with
    | socketAddress sa => trivial
    | domainNameAddress host port => exact fun _ _ _ _ => trivial
  have hholds := hkeep { assoc := assoc', net := { r.net with answers := answers } }
    ⟨UdpAssociationContext.SameSession.refl assoc', hall⟩
  exact hspec.sameSession (keeping_holds hholds)

end Dispatch

/-! ## Runs -/

namespace UdpAssociationContext

/-- The outbound socket of a family. -/
def socketOf (assoc : UdpAssociationContext) : AddrFamily → Option Nat
  | .ipv4 => assoc.outboundIpv4Socket
  | .ipv6 => assoc.outboundIpv6Socket

/-- A socket that failed is given up, to be opened again. -/
def resetSocket (family : AddrFamily) (assoc : UdpAssociationContext) : UdpAssociationContext :=
  match family with
  | .ipv4 => { assoc with outboundIpv4Socket := none }
  | .ipv6 => { assoc with outboundIpv6Socket := none }

/-- The session and the address are left as they are, and no socket is opened. -/
structure Unmoved (a b : UdpAssociationContext) : Prop where
  clientSession : b.clientSession = a.clientSession
  peerAddr : b.peerAddr = a.peerAddr
  socketOf : ∀ family, (b.socketOf family).isSome → (a.socketOf family).isSome

theorem Unmoved.refl (a : UdpAssociationContext) : Unmoved a a := ⟨rfl, rfl, fun _ h => h⟩

theorem resetSocket_unmoved (family : AddrFamily) (assoc : UdpAssociationContext) :
    Unmoved assoc (assoc.resetSocket family) := by
  cases family with
  | ipv4 =>
    refine ⟨rfl, rfl, fun family h => ?_⟩
    cases family with
    | ipv4 => cases h
    | ipv6 => exact h
  | ipv6 =>
    refine ⟨rfl, rfl, fun family h => ?_⟩
    cases family with
    | ipv4 => exact h
    | ipv6 => cases h

theorem keepaliveTick_unmoved (room : Bool) (assoc : UdpAssociationContext) :
    Unmoved assoc (assoc.keepaliveTick room).2 := by
  unfold keepaliveTick
  split
  · exact ⟨rfl, rfl, fun family h => by cases family <;> exact h⟩
  · exact Unmoved.refl assoc

end UdpAssociationContext

/-- What `dispatch_packet` selects from: a packet from its channel, with what it meets
    outside, a failure or a datagram on an outbound socket, or a tick. -/
inductive AssociationEvent where
  | packet (message : UdpAssociationSendMessage) (net : Outbound)
  | socketFailed (family : AddrFamily)
  | response (family : AddrFamily) (addr : SocketAddr) (data : Bytes)
  | keepaliveTick (room : Bool)

/-- An association and the address of the last packet it has accepted. -/
structure AssociationRun where
  assoc : UdpAssociationContext
  lastAccepted : Option SocketAddr

/-- A new association, before its first packet. -/
def AssociationRun.create (peerAddr : SocketAddr) (clientSessionId : Option Nat)
    (serverSessionId : Nat) : AssociationRun :=
  { assoc := .create peerAddr clientSessionId serverSessionId, lastAccepted := none }

/-- A response goes to the address on record. -/
theorem sendReceivedRespondPacket_peerAddr {key : Bytes} {addr : SocketAddr} {data : Bytes}
    {assoc : UdpAssociationContext} {response : Response}
    (h : (sendReceivedRespondPacket key addr data assoc).1 = some response) :
    response.peerAddr = assoc.peerAddr := by
  unfold sendReceivedRespondPacket at h
  dsimp only at h
  split at h
  · cases h
    rfl
  · split at h
    · cases h
      rfl
    · cases h

theorem sendReceivedRespondPacket_unmoved (key : Bytes) (addr : SocketAddr) (data : Bytes)
    (assoc : UdpAssociationContext) :
    UdpAssociationContext.Unmoved assoc (sendReceivedRespondPacket key addr data assoc).2 := by
  unfold sendReceivedRespondPacket
  dsimp only
  split
  · exact ⟨rfl, rfl, fun family h => by cases family <;> exact h⟩
  · split <;> exact ⟨rfl, rfl, fun family h => by cases family <;> exact h⟩

section Runs

variable [Idna] (context : ServiceContext) (key : Bytes)

/-- One round of `dispatch_packet`, with the packets that the server's map hands over. -/
def associationStep (s : AssociationRun) : AssociationEvent → Option AssociationRun
  | .packet message net =>
    if s.assoc.expects message then
      match dispatchReceivedPacket context message { assoc := s.assoc, net := net } with
      | (.ready (), r) =>
        some
          { assoc := r.assoc
            lastAccepted :=
              if admits context message { assoc := s.assoc, net := net } then
                some message.peerAddr
              else s.lastAccepted }
      -- a panic ends the association's task
      | _ => none
    else none
  | .socketFailed family => some { s with assoc := s.assoc.resetSocket family }
  | .response family addr data =>
    if (s.assoc.socketOf family).isSome then
      some { s with assoc := (sendReceivedRespondPacket key addr data s.assoc).2 }
    else none
  | .keepaliveTick room => some { s with assoc := (s.assoc.keepaliveTick room).2 }

/-- A packet that the checks refuse comes from the address on record, or there is no
    session to move. -/
def RefusedFromPeer (s : AssociationRun) : AssociationEvent → Prop
  | .packet message net =>
    admits context message { assoc := s.assoc, net := net } = false →
      s.assoc.clientSession = none ∨ message.peerAddr = s.assoc.peerAddr
  | _ => True

variable {context key}

/-- The events that are no packet leave the session and the address as they are, and
    open no socket. -/
structure Untouched (s t : AssociationRun) : Prop where
  assoc : UdpAssociationContext.Unmoved s.assoc t.assoc
  lastAccepted : t.lastAccepted = s.lastAccepted

/-- What a step can do. -/
theorem associationStep_cases {s t : AssociationRun} {e : AssociationEvent} {accepted : Set Nat}
    (hacc : s.assoc.HasAccepted accepted) (h : associationStep context key s e = some t) :
    (∃ message, UdpAssociationContext.Accepted accepted message s.assoc t.assoc ∧
        t.lastAccepted = some message.peerAddr) ∨
      (∃ message net, e = .packet message net ∧
        admits context message { assoc := s.assoc, net := net } = false ∧
        t = { s with assoc := s.assoc.followPeer message.peerAddr }) ∨
      Untouched s t := by
  cases e with
  | packet message net =>
    simp only [associationStep] at h
    by_cases hexp : s.assoc.expects message = true
    · rw [if_pos hexp] at h
      by_cases hadmits : admits context message { assoc := s.assoc, net := net } = true
      · have haccepted := dispatchReceivedPacket_accepted hacc hexp hadmits
        split at h
        · next hr =>
          cases h
          rw [hr] at haccepted
          exact .inl ⟨message, haccepted, if_pos hadmits⟩
        · cases h
      · -- a packet that is refused moves nothing but the peer's address
        have hrefused := Bool.eq_false_iff.2 hadmits
        obtain ⟨answers, hr⟩ := dispatchReceivedPacket_refused hacc hexp hrefused
        rw [hr] at h
        cases h
        exact .inr (.inl ⟨message, net, rfl, hrefused, by rw [if_neg hadmits]⟩)
    · rw [if_neg hexp] at h
      cases h
  | socketFailed family =>
    cases h
    exact .inr (.inr ⟨UdpAssociationContext.resetSocket_unmoved family s.assoc, rfl⟩)
  | response family addr data =>
    simp only [associationStep] at h
    split at h
    · cases h
      exact .inr (.inr ⟨sendReceivedRespondPacket_unmoved key addr data s.assoc, rfl⟩)
    · cases h
  | keepaliveTick room =>
    cases h
    exact .inr (.inr ⟨UdpAssociationContext.keepaliveTick_unmoved room s.assoc, rfl⟩)

/-- The window of an association stands for the packet ids it has accepted. -/
theorem associationStep_hasAccepted {s t : AssociationRun} {e : AssociationEvent}
    (hacc : ∃ accepted, s.assoc.HasAccepted accepted)
    (h : associationStep context key s e = some t) : ∃ accepted, t.assoc.HasAccepted accepted := by
  obtain ⟨accepted, hacc⟩ := hacc
  rcases associationStep_cases hacc h with ⟨message, haccepted, -⟩ | ⟨message, net, -, -, rfl⟩ | hsame
  · cases hs : s.assoc.clientSession with
    | none =>
      refine ⟨accepted, fun session hsession => ?_⟩
      rw [haccepted.noSession hs] at hsession
      cases hsession
    | some session =>
      obtain ⟨control, session', -, hsession', -, -, -, hrep⟩ := haccepted.session session hs
      refine ⟨insert control.packetId accepted, fun other hother => ?_⟩
      obtain rfl := Option.some.inj (hsession'.symm.trans hother)
      exact hrep
  · refine ⟨accepted, fun session hsession => hacc session ?_⟩
    rw [← hsession]
    exact (UdpAssociationContext.followPeer_clientSession ..).symm
  · exact ⟨accepted, fun session hsession => hacc session (hsame.assoc.clientSession ▸ hsession)⟩

theorem reachable_hasAccepted {ok : AssociationRun → AssociationEvent → Prop}
    {peerAddr : SocketAddr} {clientSessionId : Option Nat} {serverSessionId : Nat}
    {s : AssociationRun}
    (h : Reachable (associationStep context key) ok
      (.create peerAddr clientSessionId serverSessionId) s) :
    ∃ accepted, s.assoc.HasAccepted accepted :=
  h.invariant (fun s => ∃ accepted, s.assoc.HasAccepted accepted)
    ⟨∅, UdpAssociationContext.hasAccepted_create peerAddr clientSessionId serverSessionId⟩
    fun hacc _ hstep => associationStep_hasAccepted hacc hstep

/-- The address on record is the one of the last packet accepted, and no socket is
    open before there is one. -/
structure Directed (s : AssociationRun) : Prop where
  window : ∃ accepted, s.assoc.HasAccepted accepted
  address : ∀ peerAddr, s.lastAccepted = some peerAddr → s.assoc.peerAddr = peerAddr
  opened : ∀ family, (s.assoc.socketOf family).isSome → s.lastAccepted.isSome

theorem associationStep_directed {s t : AssociationRun} {e : AssociationEvent} (hs : Directed s)
    (hok : RefusedFromPeer context s e) (h : associationStep context key s e = some t) :
    Directed t := by
  refine ⟨associationStep_hasAccepted hs.window h, ?_, ?_⟩ <;>
    obtain ⟨accepted, hacc⟩ := hs.window <;>
    rcases associationStep_cases hacc h with
      ⟨message, haccepted, hlast⟩ | ⟨message, net, rfl, hrefused, rfl⟩ | hsame
  · intro peerAddr hpeer
    rw [hlast] at hpeer
    exact haccepted.peerAddr.trans (Option.some.inj hpeer)
  · have hstay := (UdpAssociationContext.followPeer_eq_self_iff message.peerAddr).2 (hok hrefused)
    rw [hstay]
    exact hs.address
  · intro peerAddr hpeer
    rw [hsame.assoc.peerAddr]
    exact hs.address peerAddr (hsame.lastAccepted ▸ hpeer)
  · intro _ _
    rw [hlast]
    rfl
  · have hstay := (UdpAssociationContext.followPeer_eq_self_iff message.peerAddr).2 (hok hrefused)
    rw [hstay]
    exact hs.opened
  · intro family hfamily
    rw [hsame.lastAccepted]
    exact hs.opened family (hsame.assoc.socketOf family hfamily)

variable (context key)

/-- **A refused packet** leaves an association as it was exactly if it comes from the
    address on record, or there is no session to move.  Where that is so of all refused
    packets of a run, every response goes to the address of the last packet accepted. -/
theorem refused_unchanged_iff (peerAddr : SocketAddr) (clientSessionId : Option Nat)
    (serverSessionId : Nat) :
    (∀ (s : AssociationRun) (message : UdpAssociationSendMessage) (net : Outbound),
      Reachable (associationStep context key) anyStep
        (.create peerAddr clientSessionId serverSessionId) s →
      s.assoc.expects message = true →
      admits context message { assoc := s.assoc, net := net } = false →
      ((dispatchReceivedPacket context message { assoc := s.assoc, net := net }).2.assoc = s.assoc ↔
        s.assoc.clientSession = none ∨ message.peerAddr = s.assoc.peerAddr)) ∧
    ∀ (s : AssociationRun) (family : AddrFamily) (addr : SocketAddr) (data : Bytes)
      (response : Response),
      Reachable (associationStep context key) (RefusedFromPeer context)
        (.create peerAddr clientSessionId serverSessionId) s →
      (s.assoc.socketOf family).isSome →
      (sendReceivedRespondPacket key addr data s.assoc).1 = some response →
      s.lastAccepted = some response.peerAddr := by
  constructor
  · intro s message net hreach hexp hrefused
    obtain ⟨accepted, hacc⟩ := reachable_hasAccepted hreach
    obtain ⟨answers, hr⟩ := dispatchReceivedPacket_refused
      (r := { assoc := s.assoc, net := net }) hacc hexp hrefused
    rw [hr]
    exact UdpAssociationContext.followPeer_eq_self_iff message.peerAddr
  · intro s family addr data response hreach hopen hresponse
    -- in such a run the address on record is that of the last packet accepted
    have hdirected : Directed s := hreach.invariant Directed
      { window := ⟨∅, UdpAssociationContext.hasAccepted_create peerAddr clientSessionId
          serverSessionId⟩
        address := fun _ h => by cases h
        opened := fun family h => by cases family <;> cases h }
      fun hs hok hstep => associationStep_directed hs hok hstep
    obtain ⟨last, hlast⟩ := Option.isSome_iff_exists.1 (hdirected.opened family hopen)
    rw [hlast, sendReceivedRespondPacket_peerAddr hresponse, hdirected.address last hlast]

end Runs

/-! ### A sample run -/

/-- A conversion of names that changes nothing. -/
@[reducible] def keepNames : Idna := { domainToAscii := some }

def openServer : ServiceContext := { acl := none, ipv6First := false }

/-- A system on which every socket opens and every datagram is sent. -/
def quietNet : Outbound :=
  { answers := [], dualStack := true, openOutcome := fun _ => .opened, opened := 0
    sendOutcome := fun _ _ => .ok (), sent := [] }

def clientAddr : SocketAddr := .v4 0x0a000001#32 1000

def attackerAddr : SocketAddr := .v4 0x06060606#32 2000

def resolverAddr : SocketAddr := .v4 0x01010101#32 53

/-- The first packet of the session 7, sent from some address. -/
def firstPacket (peerAddr : SocketAddr) : AssociationEvent :=
  .packet
    { peerAddr := peerAddr, targetAddr := .socketAddress resolverAddr, data := [1]
      control := some { clientSessionId := 7, serverSessionId := 0, packetId := 1, user := none } }
    quietNet

/-- The addresses that matter after a run: of the last packet accepted, on record, and of
    the next response. -/
def addressesAfter (events : List AssociationEvent) :
    Option (Option SocketAddr × SocketAddr × Option SocketAddr) :=
  (events.foldlM (@associationStep keepNames openServer [])
      (AssociationRun.create clientAddr (some 7) 9)).map fun s =>
    (s.lastAccepted, s.assoc.peerAddr,
      (sendReceivedRespondPacket [] resolverAddr [2] s.assoc).1.map Response.peerAddr)

/-- A copy of the client's packet, sent by someone else, is refused; the next response
    goes to the sender of the copy. -/
theorem refused_moves_address :
    addressesAfter [firstPacket clientAddr] = some (some clientAddr, clientAddr, some clientAddr) ∧
      addressesAfter [firstPacket clientAddr, firstPacket attackerAddr] =
        some (some clientAddr, attackerAddr, some attackerAddr) :=
  ⟨by decide +kernel, by decide +kernel⟩

end Shadowsocks.Server
