import Shadowsocks.Local.UdpSenders
import Shadowsocks.Server.AssociationRuns

/-! # Reordered packets

One client association and one server association, each of which numbers what it sends and
keeps a window of what it has received.  Between them packets are lost, copied and reordered,
as long as none arrives for the first time behind the window.

The server takes the first copy of each packet and no other.  So does the client while the
window of the server session is kept; an entry of its session map that has expired takes the
packets once more (`copies_judged`).
-/

namespace Shadowsocks.Udp

open Shadowsocks.Lib Shadowsocks.Net

/-! ## Windows that end at an accepted id -/

namespace PacketWindowFilter

/-- The filter stands for the accepted ids, and its window ends at one of them. -/
structure Tracks (f : PacketWindowFilter) (accepted : Set Nat) : Prop where
  represents : f.Represents accepted
  last_mem : f.lastPacketId = 0 ∨ f.lastPacketId ∈ accepted

variable {f : PacketWindowFilter} {accepted : Set Nat} {packetId limit : Nat}

theorem tracks_new : Tracks new ∅ where
  represents := represents_new
  last_mem := .inl rfl

/-- An id that is no further behind any accepted one than the window reaches is admitted if it
    is new. -/
theorem Tracks.admits_iff (h : f.Tracks accepted) (hlimit : packetId < limit)
    (hreach : packetId ∉ accepted → ∀ id ∈ accepted, id ≤ packetId + windowSize) :
    f.Admits accepted packetId limit ↔ packetId ∉ accepted := by
  constructor
  · exact fun hadmits => hadmits.2.1
  · intro hnew
    refine ⟨hlimit, hnew, ?_⟩
    obtain hzero | hmem := h.last_mem
    · omega
    · have := hreach hnew _ hmem
      omega

/-- An id that the filter admits is tracked from then on. -/
theorem Tracks.validate_admitted (h : f.Tracks accepted) (hadmits : f.Admits accepted packetId limit) :
    (f.validatePacketId packetId limit).1 = true ∧
      (f.validatePacketId packetId limit).2.Tracks (insert packetId accepted) := by
  obtain ⟨hfst, haccepted, -⟩ := validatePacketId_spec h.represents packetId limit
  obtain ⟨hrepresents, hlast⟩ := haccepted hadmits
  refine ⟨hfst.2 hadmits, hrepresents, ?_⟩
  rw [hlast]
  obtain hle | hle := Nat.le_total f.lastPacketId packetId
  · rw [Nat.max_eq_right hle]
    exact .inr (Set.mem_insert _ _)
  · rw [Nat.max_eq_left hle]
    exact h.last_mem.imp_right fun hmem => Set.mem_insert_of_mem _ hmem

theorem Tracks.validate_refused (h : f.Tracks accepted)
    (hrefused : ¬f.Admits accepted packetId limit) :
    (f.validatePacketId packetId limit).1 = false ∧
      (f.validatePacketId packetId limit).2.Tracks accepted := by
  obtain ⟨hfst, -, hsame⟩ := validatePacketId_spec h.represents packetId limit
  rw [hsame hrefused]
  exact ⟨Bool.eq_false_iff.2 fun hvalid => hrefused (hfst.1 hvalid), h⟩

/-- One packet id at the window, and what the check says of it. -/
theorem Tracks.judges (h : f.Tracks accepted) (hlimit : packetId < limit)
    (hreach : packetId ∉ accepted → ∀ id ∈ accepted, id ≤ packetId + windowSize) :
    ((f.validatePacketId packetId limit).1 = true ↔ packetId ∉ accepted) ∧
      (f.validatePacketId packetId limit).2.Tracks (insert packetId accepted) := by
  have hiff := h.admits_iff hlimit hreach
  by_cases hmem : packetId ∈ accepted
  · obtain ⟨hfst, htracks⟩ := h.validate_refused fun hadmits => hiff.1 hadmits hmem
    rw [Set.insert_eq_of_mem hmem, hfst]
    exact ⟨⟨fun h => absurd h Bool.false_ne_true, fun hnew => absurd hmem hnew⟩, htracks⟩
  · obtain ⟨hfst, htracks⟩ := h.validate_admitted (hiff.2 hmem)
    exact ⟨⟨fun _ => hmem, fun _ => hfst⟩, htracks⟩

end PacketWindowFilter

/-! ## Verdicts -/

/-- What a window check says of a packet. -/
structure Verdict where
  packetId : Nat
  accepted : Bool
deriving DecidableEq, Repr

/-- The packets that have reached a check. -/
def judged (log : List Verdict) : Set Nat := {packetId | ∃ v ∈ log, v.packetId = packetId}

@[simp] theorem judged_nil : judged [] = ∅ := by
  simp [judged]

@[simp] theorem judged_concat (log : List Verdict) (v : Verdict) :
    judged (log ++ [v]) = insert v.packetId (judged log) := by
  ext packetId
  simp only [judged, List.mem_append, List.mem_singleton, Set.mem_insert_iff, Set.mem_ofPred_eq]
  constructor
  · rintro ⟨w, hw | rfl, rfl⟩
    · exact .inr ⟨w, hw, rfl⟩
    · exact .inl rfl
  · rintro (rfl | ⟨w, hw, rfl⟩)
    · exact ⟨v, .inr rfl, rfl⟩
    · exact ⟨w, .inl hw, rfl⟩

/-- Each verdict of a log stands in a relation to the log before it. -/
def EachAfter (P : List Verdict → Verdict → Prop) (log : List Verdict) : Prop :=
  ∀ before v after, log = before ++ v :: after → P before v

theorem eachAfter_nil (P : List Verdict → Verdict → Prop) : EachAfter P [] := by
  intro before v after h
  simp at h

theorem EachAfter.concat {P : List Verdict → Verdict → Prop} {log : List Verdict} {v : Verdict}
    (h : EachAfter P log) (hv : P log v) : EachAfter P (log ++ [v]) := by
  intro before w after heq
  obtain rfl | ⟨rest, last, rfl⟩ := List.eq_nil_or_concat after
  · obtain ⟨rfl, hlast⟩ := List.append_inj' heq rfl
    obtain rfl := List.singleton_inj.1 hlast
    exact hv
  · rw [List.concat_eq_append, ← List.cons_append, ← List.append_assoc] at heq
    exact h before w rest (List.append_inj' heq rfl).1

theorem EachAfter.append {P : List Verdict → Verdict → Prop} {log : List Verdict}
    {verdict : Option Verdict} (h : EachAfter P log) (hv : ∀ v, verdict = some v → P log v) :
    EachAfter P (log ++ verdict.toList) := by
  cases verdict with
  | none => simpa using h
  | some v => exact h.concat (hv v rfl)

/-- The first copy of each packet is accepted. -/
def FirstCopies : List Verdict → Prop :=
  EachAfter fun before v => v.packetId ∉ judged before → v.accepted = true

/-- Further copies are refused. -/
def FurtherCopies : List Verdict → Prop :=
  EachAfter fun before v => v.packetId ∈ judged before → v.accepted = false

/-- A packet that arrives for the first time is not more than the window behind one that has
    arrived. -/
def Orderly (log : List Verdict) (packetId : Nat) : Prop :=
  packetId ∉ judged log → ∀ v ∈ log, v.packetId ≤ packetId + windowSize

theorem Orderly.reach {log : List Verdict} {packetId : Nat} (h : Orderly log packetId)
    (hfirst : packetId ∉ judged log) : ∀ id ∈ judged log, id ≤ packetId + windowSize := by
  rintro id ⟨v, hv, rfl⟩
  exact h hfirst v hv

instance (log : List Verdict) (packetId : Nat) : Decidable (packetId ∈ judged log) :=
  inferInstanceAs (Decidable (∃ v ∈ log, v.packetId = packetId))

instance (log : List Verdict) (packetId : Nat) : Decidable (Orderly log packetId) :=
  inferInstanceAs (Decidable (packetId ∉ judged log → ∀ v ∈ log, v.packetId ≤ packetId + windowSize))

/-! ## A client and a server association -/

/-- The two associations, what each has sent to the other, and the verdicts of their window
    checks.  `lastHeard` is when a packet of the server last reached the client's check. -/
structure Link where
  client : Local.AssociationRun
  server : Server.AssociationRun
  requestsMade : Nat
  requests : List UdpSocketControlData
  responses : List UdpSocketControlData
  serverLog : List Verdict
  clientLog : List Verdict
  lastHeard : Option Time

inductive LinkEvent where
  | client (event : Local.AssociationEvent)
  | server (event : Server.AssociationEvent)

/-- Both associations at the start of a session; `time_to_live` is also how long the client
    keeps a server session. -/
def Link.create (now : Time) (clientAddr peerAddr : SocketAddr) (clientSessionId serverSessionId : Nat)
    (timeToLive : Time) : Link :=
  { client := .create now clientAddr clientSessionId timeToLive
    server := .create peerAddr (some clientSessionId) serverSessionId
    requestsMade := 0, requests := [], responses := [], serverLog := [], clientLog := []
    lastHeard := none }

/-- A packet that the client wants sent, whatever becomes of it. -/
def isSend : Local.AssociationEvent → Bool
  | .send .. => true
  | _ => false

/-- What a server association puts on the wire. -/
def respondsWith (key : Bytes) (assoc : Server.UdpAssociationContext) :
    Server.AssociationEvent → Option UdpSocketControlData
  | .response _ addr data =>
    (Server.sendReceivedRespondPacket key addr data assoc).1.map Server.Response.control
  | _ => none

section Step

variable [Idna] {K : Type} (crypto : CryptoSuite K) (method : CipherKind)
  (context : Server.ServiceContext) (key : Bytes)

/-- The verdict of the server's window check; a packet that the access control list blocks does
    not reach it. -/
def serverVerdict (assoc : Server.UdpAssociationContext) : Server.AssociationEvent → Option Verdict
  | .packet message net =>
    if (context.checkOutboundBlocked message.targetAddr net.answers).1 then none
    else
      message.control.map fun control =>
        { packetId := control.packetId
          accepted := Server.admits context message { assoc := assoc, net := net } }
  | _ => none

/-- The verdict of the client's window check, on packets of one server session. -/
def clientVerdict (serverSessionId : Nat) (run : Local.AssociationRun) :
    Local.AssociationEvent → Option Verdict
  | .receive datagram =>
    run.assoc.proxiedSocket.bind fun socket =>
      match Local.recvWithCtrl crypto method run.now datagram socket with
      | .ready p =>
        if p.control.serverSessionId = serverSessionId then
          some
            { packetId := p.control.packetId
              accepted := (run.assoc.checkServerPacket run.now p.control).1 }
        else none
      | _ => none
  | _ => none

def linkStep (s : Link) : LinkEvent → Option Link
  | .client event =>
    (Local.associationStep crypto method s.client event).map fun client =>
      let verdict := clientVerdict crypto method s.server.assoc.serverSessionId s.client event
      { s with
        client := client
        requestsMade := if isSend event then s.requestsMade + 1 else s.requestsMade
        requests := s.requests ++
          ((event.sends s.client.assoc).map Local.SentDatagram.control).toList
        clientLog := s.clientLog ++ verdict.toList
        lastHeard := if verdict.isSome then some s.client.now else s.lastHeard }
  | .server event =>
    (Server.associationStep context key s.server event).map fun server =>
      { s with
        server := server
        responses := s.responses ++ (respondsWith key s.server.assoc event).toList
        serverLog := s.serverLog ++ (serverVerdict context s.server.assoc event).toList }

/-- The network delivers copies of what was sent, and none for the first time too late. -/
def carried (s : Link) : LinkEvent → Bool
  | .client event =>
    (clientVerdict crypto method s.server.assoc.serverSessionId s.client event).all fun v =>
      decide ((∃ control ∈ s.responses, control.packetId = v.packetId) ∧
        Orderly s.clientLog v.packetId)
  | .server event =>
    (serverVerdict context s.server.assoc event).all fun v =>
      decide ((∃ control ∈ s.requests, control.packetId = v.packetId) ∧
        Orderly s.serverLog v.packetId)

/-- When a packet of the server arrives, the client still keeps the session. -/
def windowKept (timeToLive : Time) (s : Link) : LinkEvent → Bool
  | .client event =>
    (clientVerdict crypto method s.server.assoc.serverSessionId s.client event).isNone ||
      s.lastHeard.all fun heard => decide (s.client.now ≤ heard + timeToLive)
  | .server _ => true

end Step

/-! ## The server's window -/

section ServerWindow

variable [Idna] {context : Server.ServiceContext} {key : Bytes}

open Server in
/-- The checks of a packet with control data: the access control list, then the window. -/
theorem admitReceivedPacket_window (context : ServiceContext) {assoc : Server.UdpAssociationContext}
    {session : ClientSessionContext} {message : UdpAssociationSendMessage}
    {control : UdpSocketControlData} (hsession : assoc.clientSession = some session)
    (hcontrol : message.control = some control) (answers : List Answer) :
    let checked := assoc.admitReceivedPacket context message answers
    let window :=
      session.packetWindowFilter.validatePacketId control.packetId
        Server.UdpAssociationContext.packetIdLimit
    if (context.checkOutboundBlocked message.targetAddr answers).1 then
      checked.2.1.clientSession = some session
    else checked.1 = window.1 ∧ ∃ session', checked.2.1.clientSession = some session' ∧
      session'.packetWindowFilter = window.2 := by
  unfold UdpAssociationContext.admitReceivedPacket
  have hfollow : (assoc.followPeer message.peerAddr).clientSession = assoc.clientSession :=
    UdpAssociationContext.followPeer_clientSession message.peerAddr
  cases hblocked : (context.checkOutboundBlocked message.targetAddr answers).1 with
  | true => simpa [hblocked, hfollow] using hsession
  | false =>
    cases hvalid : (session.packetWindowFilter.validatePacketId control.packetId
        UdpAssociationContext.packetIdLimit).1 <;>
      simp [hblocked, hcontrol, hsession, hvalid]

open Server in
/-- Whatever becomes of a packet that is sent on, the association is as the checks have left it,
    its sockets apart. -/
theorem dispatchReceivedPacket_sameSession (context : ServiceContext)
    (message : UdpAssociationSendMessage) (r : Relay) :
    UdpAssociationContext.SameSession
      (r.assoc.admitReceivedPacket context message r.net.answers).2.1
      (dispatchReceivedPacket context message r).2.assoc := by
  unfold dispatchReceivedPacket
  rcases r.assoc.admitReceivedPacket context message r.net.answers with ⟨ok, assoc', answers⟩
  cases ok with
  | false => exact UdpAssociationContext.SameSession.refl assoc'
  | true =>
    have hall : TargetsSatisfy (fun _ => True) message.targetAddr answers := by
      cases message.targetAddr with
      | socketAddress sa => trivial
      | domainNameAddress host port => exact fun _ _ _ _ => trivial
    have hkeep := logError_keeping (dispatchReceivedOutboundPacket_keeping
      (onlySockets_stable assoc') (P := fun _ => True) (fun _ _ _ _ _ hr => hr) context
      message.targetAddr message.data)
    have hholds := hkeep { assoc := assoc', net := { r.net with answers := answers } }
      ⟨UdpAssociationContext.SameSession.refl assoc', hall⟩
    exact keeping_holds hholds

/-- The window of the session has followed the packets that reached it. -/
def ServerTracks (assoc : Server.UdpAssociationContext) (log : List Verdict) : Prop :=
  ∃ session, assoc.clientSession = some session ∧
    session.packetWindowFilter.Tracks (judged log)

/-- Only packets meet the window. -/
theorem serverStep_quiet (context : Server.ServiceContext) {s t : Server.AssociationRun}
    {event : Server.AssociationEvent}
    (h : Server.associationStep context key s event = some t) :
    (∃ message net, event = .packet message net) ∨
      serverVerdict context s.assoc event = none ∧
        t.assoc.clientSession = s.assoc.clientSession := by
  cases event with
  | packet message net => exact .inl ⟨message, net, rfl⟩
  | socketFailed family =>
    cases h
    exact .inr ⟨rfl, (Server.UdpAssociationContext.resetSocket_unmoved family s.assoc).clientSession⟩
  | response family addr data =>
    simp only [Server.associationStep] at h
    split at h
    · cases h
      exact .inr
        ⟨rfl, (Server.sendReceivedRespondPacket_unmoved key addr data s.assoc).clientSession⟩
    · cases h
  | keepaliveTick room =>
    cases h
    exact .inr ⟨rfl, (Server.UdpAssociationContext.keepaliveTick_unmoved room s.assoc).clientSession⟩

/-- What the server's window makes of a step. -/
theorem serverStep_tracks {s t : Server.AssociationRun} {event : Server.AssociationEvent}
    {log : List Verdict} (hs : ServerTracks s.assoc log)
    (hstep : Server.associationStep context key s event = some t)
    (hcarried : ∀ v, serverVerdict context s.assoc event = some v →
      v.packetId < Server.UdpAssociationContext.packetIdLimit ∧ Orderly log v.packetId) :
    ServerTracks t.assoc (log ++ (serverVerdict context s.assoc event).toList) ∧
      ∀ v, serverVerdict context s.assoc event = some v →
        (v.accepted = true ↔ v.packetId ∉ judged log) := by
  obtain ⟨session, hsession, htracks⟩ := hs
  obtain ⟨message, net, rfl⟩ | ⟨hnone, hsame⟩ := serverStep_quiet context hstep
  · simp only [Server.associationStep] at hstep
    split at hstep
    · next hexpects =>
      -- the map hands over packets with control data only
      obtain ⟨control, hcontrol⟩ : ∃ control, message.control = some control := by
        cases hc : message.control with
        | some control => exact ⟨control, rfl⟩
        | none => simp [Server.UdpAssociationContext.expects, hsession, hc] at hexpects
      have hwindow := admitReceivedPacket_window context hsession hcontrol net.answers
      have hleft := (dispatchReceivedPacket_sameSession context message
        { assoc := s.assoc, net := net }).clientSession
      split at hstep
      · next r hdispatch =>
        rw [hdispatch] at hleft
        obtain rfl := Option.some.inj hstep
        dsimp only at hleft hwindow ⊢
        simp only [ServerTracks, hleft]
        cases hblocked : (context.checkOutboundBlocked message.targetAddr net.answers).1 with
        | true =>
          rw [hblocked, if_pos rfl] at hwindow
          have hnone : serverVerdict context s.assoc (.packet message net) = none := by
            simp [serverVerdict, hblocked]
          rw [hnone]
          exact ⟨⟨session, hwindow, by simpa using htracks⟩, fun v hv => by cases hv⟩
        | false =>
          rw [hblocked, if_neg Bool.false_ne_true] at hwindow
          have hverdict : serverVerdict context s.assoc (.packet message net) =
              some { packetId := control.packetId
                     accepted :=
                      Server.admits context message { assoc := s.assoc, net := net } } := by
            simp [serverVerdict, hblocked, hcontrol]
          obtain ⟨hlimit, horderly⟩ := hcarried _ hverdict
          obtain ⟨hiff, htracks'⟩ := htracks.judges hlimit horderly.reach
          obtain ⟨hvalid, session', hsession', hfilter⟩ := hwindow
          rw [hverdict, Option.toList_some, judged_concat]
          refine ⟨⟨session', hsession', hfilter ▸ htracks'⟩, fun v hv => ?_⟩
          obtain rfl := Option.some.inj hv
          simp only [Server.admits, hvalid]
          exact hiff
      · cases hstep
    · cases hstep
  · rw [hnone]
    exact ⟨⟨session, hsame.trans hsession, by simpa using htracks⟩, fun v hv => by cases hv⟩

end ServerWindow

/-! ## The client's windows -/

section ClientWindow

variable {K : Type} {crypto : CryptoSuite K} {method : CipherKind}

/-- A packet on the proxied socket meets the check; nothing else touches the session map. -/
inductive ClientStep (crypto : CryptoSuite K) (method : CipherKind) (serverSessionId : Nat)
    (s t : Local.AssociationRun) (event : Local.AssociationEvent) : Prop where
  | checked (control : UdpSocketControlData) (now : t.now = s.now)
      (map : t.assoc.serverSessionMap =
        (s.assoc.checkServerPacket s.now control).2.serverSessionMap)
      (verdict : clientVerdict crypto method serverSessionId s event =
        if control.serverSessionId = serverSessionId then
          some
            { packetId := control.packetId
              accepted := (s.assoc.checkServerPacket s.now control).1 }
        else none)
  | quiet (now : s.now ≤ t.now) (map : t.assoc.serverSessionMap = s.assoc.serverSessionMap)
      (verdict : clientVerdict crypto method serverSessionId s event = none)

theorem clientVerdict_receive (serverSessionId : Nat) (run : Local.AssociationRun) (datagram : Bytes) :
    clientVerdict crypto method serverSessionId run (.receive datagram) =
      (Local.opens crypto method run datagram).bind fun p =>
        if p.control.serverSessionId = serverSessionId then
          some
            { packetId := p.control.packetId
              accepted := (run.assoc.checkServerPacket run.now p.control).1 }
        else none := by
  simp only [clientVerdict, Local.opens, Option.bind_assoc]
  congr
  funext socket
  cases Local.recvWithCtrl crypto method run.now datagram socket <;> rfl

theorem clientStep_cases {s t : Local.AssociationRun} {event : Local.AssociationEvent}
    (serverSessionId : Nat) (h : Local.associationStep crypto method s event = some t) :
    ClientStep crypto method serverSessionId s t event := by
  cases Local.associationStep_cases h with
  | heard datagram p isReceive opened now map _ =>
    subst isReceive
    refine .checked p.control now map ?_
    rw [clientVerdict_receive, opened, Option.bind_some]
  | quiet hears now map _ =>
    refine .quiet now map ?_
    cases event with
    | receive datagram =>
      rw [clientVerdict_receive, Option.map_eq_none_iff.1 hears, Option.bind_none]
    | _ => rfl

open Local (ServerContext) in
/-- The map keeps sessions for `d`, and the window kept for a session, if any, has accepted only
    packets of the log. -/
structure ClientTracks (d : Time) (serverSessionId : Nat) (m : LruCache Nat ServerContext)
    (log : List Verdict) : Prop where
  expiry : m.expiry = some d
  capacity : m.capacity = none
  window : ∀ e, m.lookup? serverSessionId = some e →
    ∃ accepted ⊆ judged log, e.value.packetWindowFilter.Tracks accepted

open Local (ServerContext) in
/-- The window of a session that was heard lately is kept, and has followed the whole log. -/
def ClientKeeps (d now : Time) (serverSessionId : Nat) (m : LruCache Nat ServerContext)
    (log : List Verdict) : Option Time → Prop
  | none => log = []
  | some heard => now ≤ heard + d → ∃ e, m.lookup? serverSessionId = some e ∧ e.touched = heard ∧
    e.value.packetWindowFilter.Tracks (judged log)

/-- What the client's windows make of a step. -/
theorem clientStep_tracks {d : Time} {serverSessionId : Nat} {s t : Local.AssociationRun}
    {event : Local.AssociationEvent} {log : List Verdict}
    (hs : ClientTracks d serverSessionId s.assoc.serverSessionMap log)
    (hstep : Local.associationStep crypto method s event = some t)
    (hcarried : ∀ v, clientVerdict crypto method serverSessionId s event = some v →
      v.packetId < Local.packetIdLimit ∧ Orderly log v.packetId) :
    ClientTracks d serverSessionId t.assoc.serverSessionMap
        (log ++ (clientVerdict crypto method serverSessionId s event).toList) ∧
      ∀ v, clientVerdict crypto method serverSessionId s event = some v →
        v.packetId ∉ judged log → v.accepted = true := by
  cases clientStep_cases serverSessionId hstep with
  | quiet hnow hmap hnone =>
    rw [hnone, hmap]
    exact ⟨by simpa using hs, fun v hv => by cases hv⟩
  | checked control hnow hmap hverdict =>
    have hchecks := Local.checkServerPacket_checks s.now control s.assoc hs.capacity
    have hwindow := Local.windowAt_cases s.now control.serverSessionId s.assoc.serverSessionMap
    generalize Local.windowAt s.now control.serverSessionId s.assoc.serverSessionMap = window
      at hchecks hwindow
    rw [← hmap] at hchecks
    by_cases hsession : control.serverSessionId = serverSessionId
    · subst hsession
      rw [if_pos rfl] at hverdict
      obtain ⟨hlimit, horderly⟩ := hcarried _ hverdict
      dsimp only at hlimit horderly
      -- a window that is new has accepted nothing
      obtain ⟨accepted, hsub, htracks⟩ : ∃ accepted ⊆ judged log, window.Tracks accepted := by
        obtain ⟨e, he, -, rfl⟩ | ⟨-, rfl⟩ := hwindow
        · exact hs.window e he
        · exact ⟨∅, Set.empty_subset _, PacketWindowFilter.tracks_new⟩
      have hnew : control.packetId ∉ judged log →
          window.Admits accepted control.packetId Local.packetIdLimit := fun hfirst =>
        (htracks.admits_iff hlimit fun _ id hid => horderly.reach hfirst id (hsub hid)).2
          fun hmem => hfirst (hsub hmem)
      rw [hverdict, Option.toList_some]
      refine ⟨⟨hchecks.expiry.trans hs.expiry, hchecks.capacity.trans hs.capacity, ?_⟩, ?_⟩
      · intro e he
        obtain rfl := Option.some.inj (hchecks.entry.symm.trans he)
        rw [judged_concat]
        by_cases hadmits : window.Admits accepted control.packetId Local.packetIdLimit
        · exact ⟨_, Set.insert_subset_insert hsub, (htracks.validate_admitted hadmits).2⟩
        · exact ⟨accepted, hsub.trans (Set.subset_insert _ _), (htracks.validate_refused hadmits).2⟩
      · intro v hv hfirst
        obtain rfl := Option.some.inj hv
        exact hchecks.verdict.trans (htracks.validate_admitted (hnew hfirst)).1
    · rw [if_neg hsession] at hverdict
      rw [hverdict]
      refine ⟨⟨hchecks.expiry.trans hs.expiry, hchecks.capacity.trans hs.capacity, ?_⟩,
        fun v hv => by cases hv⟩
      intro e he
      simpa using hs.window e (hchecks.was_kept (Ne.symm hsession) he)

theorem ClientKeeps.later {d now now' : Time} {serverSessionId : Nat}
    {m : LruCache Nat Local.ServerContext} {log : List Verdict} {lastHeard : Option Time}
    (h : ClientKeeps d now serverSessionId m log lastHeard) (hle : now ≤ now') :
    ClientKeeps d now' serverSessionId m log lastHeard := by
  cases lastHeard with
  | none => exact h
  | some heard => exact fun hin => h (Nat.le_trans hle hin)

/-- While the window is kept, it tells copies from new packets. -/
theorem clientStep_keeps {d : Time} {serverSessionId : Nat} {s t : Local.AssociationRun}
    {event : Local.AssociationEvent} {log : List Verdict} {lastHeard : Option Time}
    (hs : ClientTracks d serverSessionId s.assoc.serverSessionMap log)
    (hkeeps : ClientKeeps d s.now serverSessionId s.assoc.serverSessionMap log lastHeard)
    (hstep : Local.associationStep crypto method s event = some t)
    (hcarried : ∀ v, clientVerdict crypto method serverSessionId s event = some v →
      v.packetId < Local.packetIdLimit ∧ Orderly log v.packetId)
    (hheard : (clientVerdict crypto method serverSessionId s event).isSome →
      ∀ heard, lastHeard = some heard → s.now ≤ heard + d) :
    ClientKeeps d t.now serverSessionId t.assoc.serverSessionMap
        (log ++ (clientVerdict crypto method serverSessionId s event).toList)
        (if (clientVerdict crypto method serverSessionId s event).isSome then some s.now
          else lastHeard) ∧
      ∀ v, clientVerdict crypto method serverSessionId s event = some v →
        (v.accepted = true ↔ v.packetId ∉ judged log) := by
  cases clientStep_cases serverSessionId hstep with
  | quiet hnow hmap hnone =>
    rw [hnone, hmap]
    exact ⟨by simpa using hkeeps.later hnow, fun v hv => by cases hv⟩
  | checked control hnow hmap hverdict =>
    have hchecks := Local.checkServerPacket_checks s.now control s.assoc hs.capacity
    have hwindow := Local.windowAt_cases s.now control.serverSessionId s.assoc.serverSessionMap
    generalize Local.windowAt s.now control.serverSessionId s.assoc.serverSessionMap = window
      at hchecks hwindow
    rw [← hmap] at hchecks
    by_cases hsession : control.serverSessionId = serverSessionId
    · subst hsession
      rw [if_pos rfl] at hverdict
      obtain ⟨hlimit, horderly⟩ := hcarried _ hverdict
      have hkept := hheard (by rw [hverdict]; rfl)
      have htracks : window.Tracks (judged log) := by
        cases lastHeard with
        | none =>
          -- nothing of the session was heard, and so nothing was accepted
          obtain rfl : log = [] := hkeeps
          obtain ⟨e, he, -, rfl⟩ | ⟨-, rfl⟩ := hwindow
          · obtain ⟨accepted, hsub, htracks⟩ := hs.window e he
            rw [judged_nil] at hsub ⊢
            exact Set.subset_empty_iff.1 hsub ▸ htracks
          · rw [judged_nil]
            exact PacketWindowFilter.tracks_new
        | some heard =>
          obtain ⟨e, he, htouched, htracks⟩ := hkeeps (hkept heard rfl)
          obtain ⟨e', he', -, rfl⟩ | ⟨hdead, -⟩ := hwindow
          · obtain rfl := Option.some.inj (he.symm.trans he')
            exact htracks
          · have halive : LruCache.alive s.assoc.serverSessionMap.expiry s.now e = true := by
              simpa [LruCache.alive, hs.expiry, htouched] using hkept heard rfl
            exact absurd (hdead e he) (by rw [halive]; exact Bool.noConfusion)
      obtain ⟨hiff, htracks'⟩ := htracks.judges hlimit horderly.reach
      rw [hverdict]
      simp only [Option.toList_some, Option.isSome_some, if_true, ClientKeeps, judged_concat]
      refine ⟨fun _ => ⟨_, hchecks.entry, rfl, htracks'⟩, fun v hv => ?_⟩
      obtain rfl := Option.some.inj hv
      dsimp only
      rw [hchecks.verdict]
      exact hiff
    · rw [if_neg hsession] at hverdict
      rw [hverdict, hnow]
      refine ⟨?_, fun v hv => by cases hv⟩
      simp only [Option.toList_none, List.append_nil, Option.isSome_none, Bool.false_eq_true, if_false]
      cases lastHeard with
      | none => exact hkeeps
      | some heard =>
        intro hin
        obtain ⟨e, he, htouched, htracks⟩ := hkeeps hin
        refine ⟨e, hchecks.keeps (Ne.symm hsession) he ?_, htouched, htracks⟩
        simpa [LruCache.alive, hs.expiry, htouched] using hin

end ClientWindow

/-! ## Counters -/

/-- The packet ids of what was sent go up, and reach at most the counter. -/
structure NumberedUpTo (sent : List UdpSocketControlData) (counter : Nat) : Prop where
  increasing : sent.Pairwise fun a b => a.packetId < b.packetId
  bounded : ∀ control ∈ sent, control.packetId ≤ counter

theorem numberedUpTo_nil : NumberedUpTo [] 0 := ⟨.nil, fun _ h => nomatch h⟩

theorem NumberedUpTo.mono {sent : List UdpSocketControlData} {counter counter' : Nat}
    (h : NumberedUpTo sent counter) (hle : counter ≤ counter') : NumberedUpTo sent counter' :=
  ⟨h.increasing, fun control hmem => Nat.le_trans (h.bounded control hmem) hle⟩

/-- The next packet takes the next id. -/
theorem NumberedUpTo.next {sent : List UdpSocketControlData} {counter : Nat}
    {control : Option UdpSocketControlData} (h : NumberedUpTo sent counter)
    (hcontrol : ∀ c, control = some c → c.packetId = counter + 1) :
    NumberedUpTo (sent ++ control.toList) (counter + 1) := by
  cases control with
  | none => simpa using h.mono (Nat.le_succ counter)
  | some c =>
    have hc := hcontrol c rfl
    constructor
    · refine List.pairwise_append.2 ⟨h.increasing, List.pairwise_singleton _ _, ?_⟩
      intro a ha b hb
      obtain rfl := List.mem_singleton.1 hb
      have := h.bounded a ha
      omega
    · intro a ha
      obtain hold | hnew := List.mem_append.1 ha
      · exact Nat.le_succ_of_le (h.bounded a hold)
      · obtain rfl := List.mem_singleton.1 hnew
        exact hc.le

theorem clientStep_counter {K : Type} {crypto : CryptoSuite K} {method : CipherKind}
    {s t : Local.AssociationRun} {event : Local.AssociationEvent}
    (h : Local.associationStep crypto method s event = some t)
    (hroom : s.assoc.clientPacketId + 1 < 2 ^ 64) :
    (isSend event = true ∧ t.assoc.clientPacketId = s.assoc.clientPacketId + 1) ∨
      (isSend event = false ∧ event.sends s.assoc = none ∧
        t.assoc.clientPacketId = s.assoc.clientPacketId) := by
  cases event with
  | send newSessionId connect sending targetAddr data =>
    cases h
    refine .inl ⟨rfl, ?_⟩
    have hnumbers := Local.dispatch_numbers newSessionId connect sending targetAddr data s.assoc
    simp only [Local.UdpAssociationContext.increasePacketId, hroom, if_true] at hnumbers
    exact hnumbers.2
  | receive datagram =>
    obtain ⟨⟨packet, assoc'⟩, hreceive, rfl⟩ := Option.map_eq_some_iff.1 h
    exact .inr ⟨rfl, rfl, Local.receiveProxied_clientPacketId hreceive⟩
  | bypassed =>
    cases h
    exact .inr ⟨rfl, rfl, rfl⟩
  | keepaliveTick room =>
    cases h
    refine .inr ⟨rfl, rfl, ?_⟩
    simp only [Local.UdpAssociationContext.keepaliveTick]
    split <;> rfl
  | advance time =>
    cases h
    exact .inr ⟨rfl, rfl, rfl⟩

section ServerCounter

variable [Idna] {context : Server.ServiceContext} {key : Bytes}

/-- The server's counter counts its responses, and its session id stays. -/
structure ServerCounts (s t : Server.AssociationRun) (responds : Option UdpSocketControlData) :
    Prop where
  serverSessionId : t.assoc.serverSessionId = s.assoc.serverSessionId
  counter : t.assoc.serverPacketId = s.assoc.serverPacketId + responds.toList.length
  packetId : ∀ control, responds = some control → control.packetId = s.assoc.serverPacketId + 1

omit [Idna] in
theorem ServerCounts.quiet {s t : Server.AssociationRun}
    (hsession : t.assoc.serverSessionId = s.assoc.serverSessionId)
    (hcounter : t.assoc.serverPacketId = s.assoc.serverPacketId) : ServerCounts s t none :=
  ⟨hsession, hcounter, fun _ h => nomatch h⟩

open Server UdpAssociationContext in
theorem admitReceivedPacket_counter (context : ServiceContext) (message : UdpAssociationSendMessage)
    (assoc : Server.UdpAssociationContext) (answers : List Answer) :
    let checked := (assoc.admitReceivedPacket context message answers).2.1
    checked.serverSessionId = assoc.serverSessionId ∧
      checked.serverPacketId = assoc.serverPacketId := by
  have hfollow : (assoc.followPeer message.peerAddr).serverSessionId = assoc.serverSessionId ∧
      (assoc.followPeer message.peerAddr).serverPacketId = assoc.serverPacketId := by
    unfold followPeer
    split <;> exact ⟨rfl, rfl⟩
  unfold admitReceivedPacket
  dsimp only
  split
  · exact hfollow
  · split
    · exact hfollow
    · split <;> exact hfollow

theorem serverStep_counts {s t : Server.AssociationRun} {event : Server.AssociationEvent}
    {session : Server.ClientSessionContext} (hsession : s.assoc.clientSession = some session)
    (h : Server.associationStep context key s event = some t) :
    ServerCounts s t (respondsWith key s.assoc event) := by
  cases event with
  | packet message net =>
    have hchecked := admitReceivedPacket_counter context message s.assoc net.answers
    have hsame := dispatchReceivedPacket_sameSession context message
      { assoc := s.assoc, net := net }
    simp only [Server.associationStep] at h
    split at h
    · split at h
      · next r hdispatch =>
        rw [hdispatch] at hsame
        obtain rfl := Option.some.inj h
        exact .quiet (hsame.serverSessionId.trans hchecked.1) (hsame.serverPacketId.trans hchecked.2)
      · cases h
    · cases h
  | socketFailed family =>
    cases h
    cases family <;> exact .quiet rfl rfl
  | response family addr data =>
    simp only [Server.associationStep] at h
    split at h
    · cases h
      simp only [respondsWith, Server.sendReceivedRespondPacket, hsession]
      split
      · refine ⟨rfl, rfl, fun control hcontrol => ?_⟩
        obtain rfl := Option.some.inj hcontrol
        rfl
      · -- the packet ids have run out, and nothing is sent
        exact .quiet rfl rfl
    · cases h
  | keepaliveTick room =>
    cases h
    simp only [Server.UdpAssociationContext.keepaliveTick]
    split <;> exact .quiet rfl rfl

end ServerCounter

/-! ## Runs of both -/

/-- Each side has sent fewer packets than there are ids below the limit of the window. -/
def Link.Few (s : Link) : Prop :=
  s.requestsMade < 2 ^ 64 - 1 ∧ s.responses.length < 2 ^ 64 - 1

structure LinkInv (d : Time) (serverSessionId : Nat) (s : Link) : Prop where
  serverSession : s.server.assoc.serverSessionId = serverSessionId
  serverTracks : ServerTracks s.server.assoc s.serverLog
  serverJudges : FirstCopies s.serverLog ∧ FurtherCopies s.serverLog
  clientTracks : ClientTracks d serverSessionId s.client.assoc.serverSessionMap s.clientLog
  clientJudges : FirstCopies s.clientLog
  requests : s.client.assoc.clientPacketId = s.requestsMade ∧ NumberedUpTo s.requests s.requestsMade
  responses : s.server.assoc.serverPacketId = s.responses.length ∧
    NumberedUpTo s.responses s.responses.length

/-- Moreover the client has told copies from new packets. -/
structure LinkKept (d : Time) (serverSessionId : Nat) (s : Link) : Prop
    extends LinkInv d serverSessionId s where
  clientKeeps : ClientKeeps d s.client.now serverSessionId s.client.assoc.serverSessionMap s.clientLog
    s.lastHeard
  clientRefuses : FurtherCopies s.clientLog

section LinkRuns

variable [Idna] {K : Type} {crypto : CryptoSuite K} {method : CipherKind}
  {context : Server.ServiceContext} {key : Bytes} {d : Time} {serverSessionId : Nat} {s t : Link}
  {e : LinkEvent}

theorem linkStep_few (h : linkStep crypto method context key s e = some t) (ht : t.Few) : s.Few := by
  cases e with
  | client event =>
    obtain ⟨client, -, rfl⟩ := Option.map_eq_some_iff.1 h
    obtain ⟨hmade, hresponses⟩ := ht
    refine ⟨?_, hresponses⟩
    dsimp only at hmade
    split at hmade <;> omega
  | server event =>
    obtain ⟨server, -, rfl⟩ := Option.map_eq_some_iff.1 h
    obtain ⟨hmade, hresponses⟩ := ht
    rw [List.length_append] at hresponses
    exact ⟨hmade, by omega⟩

omit [Idna] in
/-- A copy of a packet carries an id below the limit. -/
theorem carried_below {sent : List UdpSocketControlData} {counter packetId : Nat}
    (hnumbered : NumberedUpTo sent counter) (hfew : counter < 2 ^ 64 - 1)
    (h : ∃ control ∈ sent, control.packetId = packetId) : packetId < 2 ^ 64 - 1 := by
  obtain ⟨control, hmem, rfl⟩ := h
  exact Nat.lt_of_le_of_lt (hnumbered.bounded control hmem) hfew

theorem carried_client {event : Local.AssociationEvent} (hs : LinkInv d serverSessionId s)
    (hfew : s.Few) (hcarried : carried crypto method context s (.client event) = true) :
    ∀ v, clientVerdict crypto method serverSessionId s.client event = some v →
      v.packetId < Local.packetIdLimit ∧ Orderly s.clientLog v.packetId := by
  intro v hv
  simp only [carried, hs.serverSession, hv, Option.all_some, decide_eq_true_eq] at hcarried
  exact ⟨carried_below hs.responses.2 hfew.2 hcarried.1, hcarried.2⟩

theorem carried_server {event : Server.AssociationEvent} (hs : LinkInv d serverSessionId s)
    (hfew : s.Few) (hcarried : carried crypto method context s (.server event) = true) :
    ∀ v, serverVerdict context s.server.assoc event = some v →
      v.packetId < Server.UdpAssociationContext.packetIdLimit ∧ Orderly s.serverLog v.packetId := by
  intro v hv
  simp only [carried, hv, Option.all_some, decide_eq_true_eq] at hcarried
  exact ⟨carried_below hs.requests.2 hfew.1 hcarried.1, hcarried.2⟩

theorem linkStep_inv (hs : LinkInv d serverSessionId s) (hfew : s.Few)
    (hcarried : carried crypto method context s e = true)
    (h : linkStep crypto method context key s e = some t) : LinkInv d serverSessionId t := by
  cases e with
  | client event =>
    have hbelow := carried_client hs hfew hcarried
    obtain ⟨client, hstep, rfl⟩ := Option.map_eq_some_iff.1 h
    obtain ⟨htracks, hfirst⟩ := clientStep_tracks hs.clientTracks hstep hbelow
    -- the counter does not wrap around
    have hroom : s.client.assoc.clientPacketId + 1 < 2 ^ 64 := by
      have := hfew.1
      have := hs.requests.1
      omega
    constructor
    case serverSession => exact hs.serverSession
    case serverTracks => exact hs.serverTracks
    case serverJudges => exact hs.serverJudges
    case clientTracks =>
      dsimp only
      rw [hs.serverSession]
      exact htracks
    case clientJudges =>
      dsimp only
      rw [hs.serverSession]
      exact hs.clientJudges.append hfirst
    case requests =>
      dsimp only
      -- an event that sends counts one packet, others leave the requests alone
      obtain ⟨hsend, hcounter⟩ | ⟨hsend, hnone, hcounter⟩ := clientStep_counter hstep hroom
      · rw [if_pos hsend, hcounter, hs.requests.1]
        refine ⟨rfl, hs.requests.2.next fun c hc => ?_⟩
        obtain ⟨datagram, hsends, rfl⟩ := Option.map_eq_some_iff.1 hc
        rw [(Local.associationStep_sends hstep hsends).2, hcounter, hs.requests.1]
      · rw [if_neg (by rw [hsend]; exact Bool.false_ne_true), hcounter, hnone]
        simpa using hs.requests
    case responses => exact hs.responses
  | server event =>
    have hbelow := carried_server hs hfew hcarried
    obtain ⟨server, hstep, rfl⟩ := Option.map_eq_some_iff.1 h
    obtain ⟨htracks, hjudges⟩ := serverStep_tracks hs.serverTracks hstep hbelow
    obtain ⟨session, hsession, -⟩ := hs.serverTracks
    have hcounts := serverStep_counts hsession hstep
    constructor
    case serverSession => exact hcounts.serverSessionId.trans hs.serverSession
    case serverTracks => exact htracks
    case serverJudges =>
      -- what the server judges is new or a copy of what it judged before
      refine ⟨hs.serverJudges.1.append fun v hv hfirst => (hjudges v hv).2 hfirst,
        hs.serverJudges.2.append fun v hv hcopy => ?_⟩
      exact Bool.eq_false_iff.2 fun haccepted => (hjudges v hv).1 haccepted hcopy
    case clientTracks => exact hs.clientTracks
    case clientJudges => exact hs.clientJudges
    case requests => exact hs.requests
    case responses =>
      dsimp only
      refine ⟨by rw [hcounts.counter, hs.responses.1, List.length_append], ?_⟩
      cases hresponds : respondsWith key s.server.assoc event with
      | none => simpa using hs.responses.2
      | some control =>
        rw [List.length_append]
        have hnext : ∀ c, some control = some c → c.packetId = s.responses.length + 1 := by
          intro c hc
          rw [hcounts.packetId c (hresponds.trans hc), hs.responses.1]
        exact hs.responses.2.next hnext

theorem linkStep_kept (hs : LinkKept d serverSessionId s) (hfew : s.Few)
    (hcarried : carried crypto method context s e = true)
    (hkept : windowKept crypto method d s e = true)
    (h : linkStep crypto method context key s e = some t) : LinkKept d serverSessionId t := by
  have ht := linkStep_inv hs.toLinkInv hfew hcarried h
  cases e with
  | client event =>
    have hbelow := carried_client hs.toLinkInv hfew hcarried
    obtain ⟨client, hstep, rfl⟩ := Option.map_eq_some_iff.1 h
    -- a packet that is judged comes before the client forgets the session
    have hheard : (clientVerdict crypto method serverSessionId s.client event).isSome →
        ∀ heard, s.lastHeard = some heard → s.client.now ≤ heard + d := by
      intro hsome heard hlast
      simpa [windowKept, hs.serverSession, hlast, Option.isNone_eq_false_iff.2 hsome] using hkept
    obtain ⟨hkeeps, hjudges⟩ :=
      clientStep_keeps hs.clientTracks hs.clientKeeps hstep hbelow hheard
    constructor
    case toLinkInv => exact ht
    case clientKeeps =>
      dsimp only
      rw [hs.serverSession]
      exact hkeeps
    case clientRefuses =>
      dsimp only
      rw [hs.serverSession]
      refine hs.clientRefuses.append fun v hv hcopy => ?_
      exact Bool.eq_false_iff.2 fun haccepted => (hjudges v hv).1 haccepted hcopy
  | server event =>
    obtain ⟨server, -, rfl⟩ := Option.map_eq_some_iff.1 h
    exact { toLinkInv := ht, clientKeeps := hs.clientKeeps, clientRefuses := hs.clientRefuses }

end LinkRuns

variable {K : Type}

/-- **Copies and first arrivals.** In every run of a client and a server association that send
    each other fewer packets than there are ids below the limit, each side numbers its packets
    apart from each other.  If no packet arrives for the first time more than the window behind
    another, the server's check accepts the first copy of each packet and refuses the further
    ones.  The client's check accepts the first copies too, and it refuses the further ones if no
    packet of the server arrives later than `timeToLive` after the one before. -/
theorem copies_judged [Idna] (crypto : CryptoSuite K) (method : CipherKind)
    (context : Server.ServiceContext) (key : Bytes) (now : Time) (clientAddr peerAddr : SocketAddr)
    (clientSessionId serverSessionId : Nat) (timeToLive : Time) :
    (∀ s, Reachable (linkStep crypto method context key)
        (fun s e => carried crypto method context s e = true)
        (.create now clientAddr peerAddr clientSessionId serverSessionId timeToLive) s → s.Few →
      (s.requests.Pairwise (fun a b => a.packetId ≠ b.packetId) ∧
        s.responses.Pairwise fun a b => a.packetId ≠ b.packetId) ∧
      FirstCopies s.serverLog ∧ FurtherCopies s.serverLog ∧ FirstCopies s.clientLog) ∧
    ∀ s, Reachable (linkStep crypto method context key)
        (fun s e => carried crypto method context s e = true ∧
          windowKept crypto method timeToLive s e = true)
        (.create now clientAddr peerAddr clientSessionId serverSessionId timeToLive) s → s.Few →
      FurtherCopies s.clientLog := by
  have hinit : LinkKept timeToLive serverSessionId
      (.create now clientAddr peerAddr clientSessionId serverSessionId timeToLive) := by
    constructor
    case toLinkInv =>
      exact
        { serverSession := rfl
          serverTracks := by
            refine ⟨_, rfl, ?_⟩
            rw [Link.create, judged_nil]
            exact PacketWindowFilter.tracks_new
          serverJudges := ⟨eachAfter_nil _, eachAfter_nil _⟩
          clientTracks := ⟨rfl, rfl, fun e he => nomatch he⟩
          clientJudges := eachAfter_nil _
          requests := ⟨rfl, numberedUpTo_nil⟩
          responses := ⟨rfl, numberedUpTo_nil⟩ }
    case clientKeeps => exact rfl
    case clientRefuses => exact eachAfter_nil _
  constructor
  · intro s h hfew
    -- few packets in a state means few in those before it
    have hs : s.Few → LinkInv timeToLive serverSessionId s :=
      h.invariant (fun s => s.Few → LinkInv timeToLive serverSessionId s)
        (fun _ => hinit.toLinkInv) fun ih hcarried hstep hfew =>
          have hbefore := linkStep_few hstep hfew
          linkStep_inv (ih hbefore) hbefore hcarried hstep
    have hinv := hs hfew
    exact ⟨⟨hinv.requests.2.increasing.imp fun hlt => hlt.ne,
      hinv.responses.2.increasing.imp fun hlt => hlt.ne⟩,
      hinv.serverJudges.1, hinv.serverJudges.2, hinv.clientJudges⟩
  · intro s h hfew
    have hs : s.Few → LinkKept timeToLive serverSessionId s :=
      h.invariant (fun s => s.Few → LinkKept timeToLive serverSessionId s)
        (fun _ => hinit) fun ih hok hstep hfew =>
          have hbefore := linkStep_few hstep hfew
          linkStep_kept (ih hbefore) hbefore hok.1 hok.2 hstep
    exact (hs hfew).clientRefuses

/-! ### Sample runs -/

section Samples

open Server

/-- A packet of session 7 arrives and a copy of it, the server answers, and the answer arrives
    and once more after two pauses, between which the client sends another packet. -/
def sampleLinkEvents (pause : Time) : List LinkEvent :=
  let send := Local.AssociationEvent.send 0 (.ok (Local.proxySocket 0)) (.ok ())
    (.socketAddress resolverAddr) [1]
  let receive := Local.AssociationEvent.receive (Local.serverDatagram 7 9 1)
  [.client send, .server (firstPacket clientAddr), .server (firstPacket clientAddr),
    .server (.response .ipv6 resolverAddr [1]), .client receive, .client (.advance pause),
    .client send, .client (.advance pause), .client receive]

/-- The link of the sample, with sessions kept for 10 seconds. -/
def sampleLink : Link :=
  .create (100 * Time.second) clientAddr clientAddr 7 9 (10 * Time.second)

def sampleLinkStep : Link → LinkEvent → Option Link :=
  @linkStep keepNames _ CryptoSuite.transparent .aead2022Blake3Aes128Gcm openServer []

def sampleCarried : Link → LinkEvent → Bool :=
  @carried keepNames _ CryptoSuite.transparent .aead2022Blake3Aes128Gcm openServer

def sampleKept : Link → LinkEvent → Bool :=
  windowKept CryptoSuite.transparent .aead2022Blake3Aes128Gcm (10 * Time.second)

/-- The sample, as far as its steps meet a condition. -/
def sampleLinkRun (ok : Link → LinkEvent → Bool) (pause : Time) : Option Link :=
  (sampleLinkEvents pause).foldlM (fun s e => if ok s e then sampleLinkStep s e else none) sampleLink

def verdictsOf (s : Link) : List (Nat × Bool) × List (Nat × Bool) :=
  (s.serverLog.map fun v => (v.packetId, v.accepted), s.clientLog.map fun v => (v.packetId, v.accepted))

/-- The copies of the packet and of its answer are refused, the answer's after 8 seconds. -/
theorem copies_judged_sample : ∃ s,
    sampleLinkRun (fun s e => sampleCarried s e && sampleKept s e) (4 * Time.second) = some s ∧
      verdictsOf s = ([(1, true), (1, false)], [(1, true), (1, false)]) ∧
      FirstCopies s.serverLog ∧ FurtherCopies s.serverLog ∧ FirstCopies s.clientLog ∧
      FurtherCopies s.clientLog := by
  have hrun : (sampleLinkRun (fun s e => sampleCarried s e && sampleKept s e) (4 * Time.second)).map
      (fun s => (verdictsOf s, s.requestsMade, s.responses.length)) =
        some (([(1, true), (1, false)], [(1, true), (1, false)]), 2, 1) := by
    decide +kernel
  obtain ⟨s, hs, hresult⟩ := Option.map_eq_some_iff.1 hrun
  obtain ⟨hverdicts, hrequests, hresponses⟩ := by simpa only [Prod.mk.injEq] using hresult
  have hreach := Reachable.of_checked hs
  have hfew : s.Few := by
    rw [Link.Few, hrequests, hresponses]
    decide
  obtain ⟨hall, hkept⟩ := @copies_judged _ keepNames CryptoSuite.transparent
    .aead2022Blake3Aes128Gcm openServer [] (100 * Time.second) clientAddr clientAddr 7 9
    (10 * Time.second)
  obtain ⟨-, hserver⟩ := hall s (hreach.weaken fun s e hok => (Bool.and_eq_true_iff.1 hok).1) hfew
  exact ⟨s, hs, hverdicts, hserver.1, hserver.2.1, hserver.2.2,
    hkept s (hreach.weaken fun s e hok => Bool.and_eq_true_iff.1 hok) hfew⟩

/-- After 16 seconds the client has forgotten the session, and accepts the copy. -/
theorem copy_accepted_later : ∃ s,
    Reachable sampleLinkStep (fun s e => sampleCarried s e = true) sampleLink s ∧ s.Few ∧
      ¬FurtherCopies s.clientLog := by
  have hrun : (sampleLinkRun sampleCarried (8 * Time.second)).map
      (fun s => (s.clientLog, s.requestsMade, s.responses.length)) =
        some ([⟨1, true⟩, ⟨1, true⟩], 2, 1) := by
    decide +kernel
  obtain ⟨s, hs, hresult⟩ := Option.map_eq_some_iff.1 hrun
  obtain ⟨hlog, hrequests, hresponses⟩ := by simpa only [Prod.mk.injEq] using hresult
  refine ⟨s, .of_checked hs, ?_, fun hcopies => ?_⟩
  · rw [Link.Few, hrequests, hresponses]
    decide
  · exact Bool.noConfusion (hcopies [⟨1, true⟩] ⟨1, true⟩ [] hlog (by decide))

end Samples

end Shadowsocks.Udp
