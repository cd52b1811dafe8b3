import Shadowsocks.Local.OwnSession

/-! # Everything the local service sends over UDP

Associations number their packets, probes draw a session id each, and the lookups of
`DnsClient::UdpRemote` send without control data.  Over AEAD-2022 the session and the packet
id make the nonce; no pair is used twice under a key exactly if no key is used for two
lookups (`pairs_distinct_iff`).
-/

namespace Shadowsocks.Local

open Shadowsocks.Lib Shadowsocks.Net Shadowsocks.Udp

/-! ## Senders -/

namespace ProxySocket

/-- `ProxySocket::send_with_ctrl`. -/
def sendWithCtrl (addr : Address) (control : UdpSocketControlData) (payload : Bytes)
    (socket : ProxySocket) : SentDatagram :=
  { key := socket.key, control := control, addr := addr, data := payload }

/-- `ProxySocket::send`. -/
def send (addr : Address) (payload : Bytes) (socket : ProxySocket) : SentDatagram :=
  socket.sendWithCtrl addr defaultSocketControl payload

end ProxySocket

/-- `DnsClient::inner_lookup` of a `UdpRemote`, with the bytes of the query. -/
def innerLookup (ns : Address) (bytes : Bytes) (socket : ProxySocket) : SentDatagram :=
  socket.send ns bytes

/-- The query for `firefox.com` that servers are probed with. -/
def dnsQuery : Bytes :=
  [0x12, 0x34, 0x01, 0x00, 0x00, 0x01, 0x00, 0x00, 0x00, 0x00, 0x00, 0x00, 0x07, 0x66, 0x69, 0x72,
    0x65, 0x66, 0x6f, 0x78, 0x03, 0x63, 0x6f, 0x6d, 0x00, 0x00, 0x01, 0x00, 0x01]

/-- What `check_request_udp` sends, with the session id that it draws. -/
def checkRequestUdp (sessionId : Nat) (socket : ProxySocket) : SentDatagram :=
  socket.sendWithCtrl (.socketAddress (.v4 0x08080808#32 53))
    { defaultSocketControl with clientSessionId := sessionId, packetId := 1 } dnsQuery

/-! ## Runs -/

inductive UdpSender where
  | association | lookup | probe
deriving DecidableEq

structure LoggedDatagram where
  sender : UdpSender
  datagram : SentDatagram
deriving DecidableEq

namespace LoggedDatagram

def key (d : LoggedDatagram) : Bytes := d.datagram.key

def sessionId (d : LoggedDatagram) : Nat := d.datagram.control.clientSessionId

def packetId (d : LoggedDatagram) : Nat := d.datagram.control.packetId

end LoggedDatagram

/-- The associations by the number of their task, the session ids drawn so far, and the
    datagrams that went out. -/
structure LocalService where
  associations : Nat → Option AssociationRun
  drawn : List Nat
  sent : List LoggedDatagram

/-- The sockets of lookups and probes are connected to any server; a cached `DnsClient` keeps
    the socket of an earlier lookup. -/
inductive LocalEvent where
  | create (task : Nat) (now : Time) (peerAddr : SocketAddr) (clientSessionId : Nat)
      (serverSessionExpireDuration : Time)
  | association (task : Nat) (event : AssociationEvent)
  | close (task : Nat)
  | lookup (socket : ProxySocket) (sending : Except IoError Unit) (ns : Address) (bytes : Bytes)
  | probe (socket : ProxySocket) (sending : Except IoError Unit) (sessionId : Nat)

/-- The session id that a step of an association draws. -/
def AssociationEvent.draws (assoc : UdpAssociationContext) : AssociationEvent → Option Nat
  | .send newSessionId _ _ _ _ =>
    if assoc.clientPacketId + 1 < 2 ^ 64 then none else some newSessionId
  | _ => none

/-- The datagram that a step of an association puts on the wire. -/
def AssociationEvent.sends (assoc : UdpAssociationContext) : AssociationEvent → Option SentDatagram
  | .send newSessionId connect (.ok ()) targetAddr data =>
    (dispatchReceivedProxiedPacket newSessionId connect (.ok ()) targetAddr data assoc).1
  | _ => none

/-- The session id that an event draws. -/
def LocalEvent.draws (s : LocalService) : LocalEvent → Option Nat
  | .create _ _ _ clientSessionId _ => some clientSessionId
  | .association task event => (s.associations task).bind fun run => event.draws run.assoc
  | .probe _ _ sessionId => some sessionId
  | _ => none

/-- A session id that is drawn was not drawn before. -/
def freshDraw (s : LocalService) (e : LocalEvent) : Bool :=
  (e.draws s).all fun sessionId => decide (sessionId ∉ s.drawn)

namespace LocalService

def empty : LocalService := { associations := fun _ => none, drawn := [], sent := [] }

def draw (sessionId : Option Nat) (s : LocalService) : LocalService :=
  { s with drawn := s.drawn ++ sessionId.toList }

def setTask (task : Nat) (run : Option AssociationRun) (s : LocalService) : LocalService :=
  { s with associations := Function.update s.associations task run }

/-- A datagram goes out, if sending it does not fail. -/
def log (sender : UdpSender) (datagram : Option SentDatagram) (s : LocalService) : LocalService :=
  { s with sent := s.sent ++ datagram.toList.map fun d => { sender := sender, datagram := d } }

end LocalService

def whenSent (sending : Except IoError Unit) (datagram : SentDatagram) : Option SentDatagram :=
  match sending with
  | .ok () => some datagram
  | .error _ => none

variable {K : Type} (crypto : CryptoSuite K) (method : CipherKind)

def localStep (s : LocalService) (e : LocalEvent) : Option LocalService :=
  let s := s.draw (e.draws s)
  match e with
  | .create task now peerAddr clientSessionId serverSessionExpireDuration =>
    if s.associations task = none then
      some (s.setTask task
        (some (.create now peerAddr clientSessionId serverSessionExpireDuration)))
    else none
  | .association task event =>
    (s.associations task).bind fun run =>
      (associationStep crypto method run event).map fun run' =>
        (s.setTask task (some run')).log .association (event.sends run.assoc)
  | .close task => some (s.setTask task none)
  | .lookup socket sending ns bytes =>
    some (s.log .lookup (whenSent sending (innerLookup ns bytes socket)))
  | .probe socket sending sessionId =>
    some (s.log .probe (whenSent sending (checkRequestUdp sessionId socket)))

/-! ## Numbering -/

/-- What one association does to its numbers: they stay, and nothing is sent, or the next
    packet id is taken, in this session or as the first of a session just drawn. -/
inductive Numbers (assoc assoc' : UdpAssociationContext) (event : AssociationEvent) : Prop where
  | same (session : assoc'.clientSessionId = assoc.clientSessionId)
      (packet : assoc'.clientPacketId = assoc.clientPacketId)
      (quiet : event.sends assoc = none) (draws : event.draws assoc = none)
  | next (session : assoc'.clientSessionId = assoc.clientSessionId)
      (packet : assoc'.clientPacketId = assoc.clientPacketId + 1)
      (draws : event.draws assoc = none)
  | renewed (draws : event.draws assoc = some assoc'.clientSessionId)
      (packet : assoc'.clientPacketId = 1)

/-- A datagram carries the numbers that the association has after sending it. -/
theorem sends_control {assoc : UdpAssociationContext} {newSessionId : Nat}
    {connect : Except IoError ProxySocket} {sending : Except IoError Unit} {targetAddr : Address}
    {data : Bytes} {d : SentDatagram}
    (h : (AssociationEvent.send newSessionId connect sending targetAddr data).sends assoc = some d) :
    d.control.clientSessionId = (assoc.increasePacketId newSessionId).clientSessionId ∧
      d.control.packetId = (assoc.increasePacketId newSessionId).clientPacketId := by
  cases sending with
  | error e => cases h
  | ok u =>
    simp only [AssociationEvent.sends, dispatchReceivedProxiedPacket] at h
    split at h
    · cases h
    · cases h
      exact ⟨rfl, rfl⟩

theorem dispatch_numbers (newSessionId : Nat) (connect : Except IoError ProxySocket)
    (sending : Except IoError Unit) (targetAddr : Address) (data : Bytes)
    (assoc : UdpAssociationContext) :
    let assoc' :=
      (dispatchReceivedProxiedPacket newSessionId connect sending targetAddr data assoc).2
    assoc'.clientSessionId = (assoc.increasePacketId newSessionId).clientSessionId ∧
      assoc'.clientPacketId = (assoc.increasePacketId newSessionId).clientPacketId := by
  simp only [dispatchReceivedProxiedPacket]
  split <;> exact ⟨rfl, rfl⟩

@[simp] theorem checkServerPacket_clientPacketId (now : Time) (control : UdpSocketControlData)
    (assoc : UdpAssociationContext) :
    (assoc.checkServerPacket now control).2.clientPacketId = assoc.clientPacketId := by
  unfold UdpAssociationContext.checkServerPacket
  dsimp only
  split <;> rfl

theorem receiveProxied_clientPacketId {crypto : CryptoSuite K} {method : CipherKind} {now : Time}
    {datagram : Bytes} {assoc assoc' : UdpAssociationContext}
    {packet : Option Aead2022.OpenedPacket}
    (h : receiveProxied crypto method now datagram assoc = some (packet, assoc')) :
    assoc'.clientPacketId = assoc.clientPacketId := by
  unfold receiveProxied at h
  split at h
  · cases h
  · split at h
    · next p hp =>
      have hsame := checkServerPacket_clientPacketId now p.control assoc
      split at h <;> (next assoc₁ hcheck => rw [hcheck] at hsame; cases h; exact hsame)
    · cases h
      rfl
    · cases h
    · cases h

theorem associationStep_numbers {crypto : CryptoSuite K} {method : CipherKind}
    {run run' : AssociationRun} {event : AssociationEvent}
    (h : associationStep crypto method run event = some run') :
    Numbers run.assoc run'.assoc event := by
  cases event with
  | send newSessionId connect sending targetAddr data =>
    cases h
    have hnumbers :=
      dispatch_numbers newSessionId connect sending targetAddr data run.assoc
    by_cases hroom : run.assoc.clientPacketId + 1 < 2 ^ 64
    · simp only [UdpAssociationContext.increasePacketId, hroom, if_true] at hnumbers
      exact .next hnumbers.1 hnumbers.2 (if_pos hroom)
    · -- the packet ids of the session are used up
      simp only [UdpAssociationContext.increasePacketId, hroom, if_false] at hnumbers
      exact .renewed ((if_neg hroom).trans (congrArg some hnumbers.1.symm)) hnumbers.2
  | receive datagram =>
    obtain ⟨⟨packet, assoc'⟩, hreceive, rfl⟩ := Option.map_eq_some_iff.1 h
    exact .same (receiveProxied_cases hreceive).1 (receiveProxied_clientPacketId hreceive) rfl rfl
  | bypassed =>
    cases h
    exact .same rfl rfl rfl rfl
  | keepaliveTick room =>
    cases h
    have hsame : (run.assoc.keepaliveTick room).2.clientSessionId = run.assoc.clientSessionId ∧
        (run.assoc.keepaliveTick room).2.clientPacketId = run.assoc.clientPacketId := by
      simp only [UdpAssociationContext.keepaliveTick]
      split <;> exact ⟨rfl, rfl⟩
    exact .same hsame.1 hsame.2 rfl rfl
  | advance time =>
    cases h
    exact .same rfl rfl rfl rfl

/-- What a datagram that an association sends is numbered with. -/
theorem associationStep_sends {crypto : CryptoSuite K} {method : CipherKind}
    {run run' : AssociationRun} {event : AssociationEvent} {d : SentDatagram}
    (h : associationStep crypto method run event = some run') (hd : event.sends run.assoc = some d) :
    d.control.clientSessionId = run'.assoc.clientSessionId ∧
      d.control.packetId = run'.assoc.clientPacketId := by
  cases event with
  | send newSessionId connect sending targetAddr data =>
    cases h
    have hcontrol := sends_control hd
    have hnumbers := dispatch_numbers newSessionId connect sending targetAddr data run.assoc
    exact ⟨hcontrol.1.trans hnumbers.1.symm, hcontrol.2.trans hnumbers.2.symm⟩
  | receive datagram => cases hd
  | bypassed => cases hd
  | keepaliveTick room => cases hd
  | advance time => cases hd

/-! ## The invariant -/

/-- The datagrams of associations and probes carry drawn session ids, each association is
    alone in its session and ahead of all that was sent in it. -/
structure Numbered (s : LocalService) : Prop where
  current_drawn : ∀ {task run}, s.associations task = some run →
    run.assoc.clientSessionId ∈ s.drawn
  current_alone : ∀ {task task' run run'}, s.associations task = some run →
    s.associations task' = some run' → run.assoc.clientSessionId = run'.assoc.clientSessionId →
    task = task'
  sent_drawn : ∀ d ∈ s.sent, d.sender ≠ .lookup → d.sessionId ∈ s.drawn ∧ 0 < d.packetId
  sent_behind : ∀ d ∈ s.sent, d.sender ≠ .lookup → ∀ {task run}, s.associations task = some run →
    d.sessionId = run.assoc.clientSessionId → d.packetId ≤ run.assoc.clientPacketId
  lookup_default : ∀ d ∈ s.sent, d.sender = .lookup → d.datagram.control = defaultSocketControl
  sent_distinct : s.sent.Pairwise fun d e =>
    d.sender ≠ .lookup → e.sender ≠ .lookup → ¬(d.sessionId = e.sessionId ∧ d.packetId = e.packetId)

namespace Numbered

variable {s : LocalService}

theorem empty : Numbered .empty where
  current_drawn h := nomatch h
  current_alone h := nomatch h
  sent_drawn _ h := nomatch h
  sent_behind _ h := nomatch h
  lookup_default _ h := nomatch h
  sent_distinct := .nil

theorem draw (hs : Numbered s) (sessionId : Option Nat) : Numbered (s.draw sessionId) where
  current_drawn h := List.mem_append_left _ (hs.current_drawn h)
  current_alone := hs.current_alone
  sent_drawn d hd hsender :=
    ⟨List.mem_append_left _ (hs.sent_drawn d hd hsender).1, (hs.sent_drawn d hd hsender).2⟩
  sent_behind := hs.sent_behind
  lookup_default := hs.lookup_default
  sent_distinct := hs.sent_distinct

theorem close (hs : Numbered s) (task : Nat) : Numbered (s.setTask task none) := by
  have hold : ∀ {task' run}, (s.setTask task none).associations task' = some run →
      s.associations task' = some run := by
    intro task' run h
    by_cases htask : task' = task
    · subst htask
      simp [LocalService.setTask] at h
    · simpa [LocalService.setTask, Function.update_of_ne htask] using h
  exact
    { current_drawn := fun h => hs.current_drawn (hold h)
      current_alone := fun h h' => hs.current_alone (hold h) (hold h')
      sent_drawn := hs.sent_drawn
      sent_behind := fun d hd hsender _ _ h => hs.sent_behind d hd hsender (hold h)
      lookup_default := hs.lookup_default
      sent_distinct := hs.sent_distinct }

/-- An association may take any numbers that no other one has and that are not behind what
    was sent. -/
theorem setTask (hs : Numbered s) {task : Nat} {run : AssociationRun}
    (hdrawn : run.assoc.clientSessionId ∈ s.drawn)
    (halone : ∀ task' run', task' ≠ task → s.associations task' = some run' →
      run'.assoc.clientSessionId ≠ run.assoc.clientSessionId)
    (hahead : ∀ d ∈ s.sent, d.sender ≠ .lookup → d.sessionId = run.assoc.clientSessionId →
      d.packetId ≤ run.assoc.clientPacketId) :
    Numbered (s.setTask task (some run)) := by
  -- a task has what it is given now, or what it had
  have hcases : ∀ {task' run'}, (s.setTask task (some run)).associations task' = some run' →
      (task' = task ∧ run' = run) ∨ (task' ≠ task ∧ s.associations task' = some run') := by
    intro task' run' h
    by_cases htask : task' = task
    · subst htask
      simp only [LocalService.setTask, Function.update_self, Option.some.injEq] at h
      exact .inl ⟨rfl, h.symm⟩
    · simp only [LocalService.setTask, Function.update_of_ne htask] at h
      exact .inr ⟨htask, h⟩
  constructor
  case current_drawn =>
    intro task' run' h
    obtain ⟨rfl, rfl⟩ | ⟨-, hold⟩ := hcases h
    · exact hdrawn
    · exact hs.current_drawn hold
  case current_alone =>
    intro task₁ task₂ run₁ run₂ h₁ h₂ hsame
    obtain ⟨rfl, rfl⟩ | ⟨hne₁, hold₁⟩ := hcases h₁
    · obtain ⟨rfl, rfl⟩ | ⟨hne₂, hold₂⟩ := hcases h₂
      · rfl
      · exact absurd hsame.symm (halone _ _ hne₂ hold₂)
    · obtain ⟨rfl, rfl⟩ | ⟨hne₂, hold₂⟩ := hcases h₂
      · exact absurd hsame (halone _ _ hne₁ hold₁)
      · exact hs.current_alone hold₁ hold₂ hsame
  case sent_drawn => exact hs.sent_drawn
  case sent_behind =>
    intro d hd hsender task' run' h hsame
    obtain ⟨rfl, rfl⟩ | ⟨-, hold⟩ := hcases h
    · exact hahead d hd hsender hsame
    · exact hs.sent_behind d hd hsender hold hsame
  case lookup_default => exact hs.lookup_default
  case sent_distinct => exact hs.sent_distinct

/-- A datagram may go out with numbers that were not used. -/
theorem log (hs : Numbered s) {sender : UdpSender} {d : SentDatagram} (hsender : sender ≠ .lookup)
    (hdrawn : d.control.clientSessionId ∈ s.drawn) (hpos : 0 < d.control.packetId)
    (hnew : ∀ d' ∈ s.sent, d'.sender ≠ .lookup →
      ¬(d'.sessionId = d.control.clientSessionId ∧ d'.packetId = d.control.packetId))
    (hbehind : ∀ {task run}, s.associations task = some run →
      d.control.clientSessionId = run.assoc.clientSessionId →
      d.control.packetId ≤ run.assoc.clientPacketId) :
    Numbered (s.log sender (some d)) := by
  have hmem : ∀ {d'}, d' ∈ (s.log sender (some d)).sent →
      d' ∈ s.sent ∨ d' = { sender := sender, datagram := d } := by
    intro d' h
    simpa [LocalService.log] using h
  constructor
  case current_drawn => exact hs.current_drawn
  case current_alone => exact hs.current_alone
  case sent_drawn =>
    intro d' hd' hsender'
    obtain hold | rfl := hmem hd'
    · exact hs.sent_drawn d' hold hsender'
    · exact ⟨hdrawn, hpos⟩
  case sent_behind =>
    intro d' hd' hsender' task run h hsame
    obtain hold | rfl := hmem hd'
    · exact hs.sent_behind d' hold hsender' h hsame
    · exact hbehind h hsame
  case lookup_default =>
    intro d' hd' hlookup
    obtain hold | rfl := hmem hd'
    · exact hs.lookup_default d' hold hlookup
    · exact absurd hlookup hsender
  case sent_distinct =>
    simp only [LocalService.log, Option.toList_some, List.map_cons, List.map_nil]
    refine List.pairwise_append.2 ⟨hs.sent_distinct, List.pairwise_singleton _ _, ?_⟩
    intro d' hd' e he hsender' _
    obtain rfl := List.mem_singleton.1 he
    exact hnew d' hd' hsender'

theorem log_none (hs : Numbered s) (sender : UdpSender) : Numbered (s.log sender none) := by
  simpa [LocalService.log] using hs

theorem log_lookup (hs : Numbered s) {d : SentDatagram} (hcontrol : d.control = defaultSocketControl) :
    Numbered (s.log .lookup (some d)) := by
  have hmem : ∀ {d'}, d' ∈ (s.log .lookup (some d)).sent →
      d' ∈ s.sent ∨ d' = { sender := .lookup, datagram := d } := by
    intro d' h
    simpa [LocalService.log] using h
  constructor
  case current_drawn => exact hs.current_drawn
  case current_alone => exact hs.current_alone
  case sent_drawn =>
    intro d' hd' hsender
    obtain hold | rfl := hmem hd'
    · exact hs.sent_drawn d' hold hsender
    · exact absurd rfl hsender
  case sent_behind =>
    intro d' hd' hsender
    obtain hold | rfl := hmem hd'
    · exact hs.sent_behind d' hold hsender
    · exact absurd rfl hsender
  case lookup_default =>
    intro d' hd' hlookup
    obtain hold | rfl := hmem hd'
    · exact hs.lookup_default d' hold hlookup
    · exact hcontrol
  case sent_distinct =>
    simp only [LocalService.log, Option.toList_some, List.map_cons, List.map_nil]
    refine List.pairwise_append.2 ⟨hs.sent_distinct, List.pairwise_singleton _ _, ?_⟩
    intro d' _ e he _ hsender
    obtain rfl := List.mem_singleton.1 he
    exact absurd rfl hsender

end Numbered

section Runs

variable {crypto : CryptoSuite K} {method : CipherKind} {s t : LocalService}

/-- A session id that was just drawn is in no datagram and in no association. -/
theorem Numbered.fresh (hs : Numbered s) {sessionId : Nat} (hfresh : sessionId ∉ s.drawn) :
    (∀ task run, s.associations task = some run → run.assoc.clientSessionId ≠ sessionId) ∧
      ∀ d ∈ s.sent, d.sender ≠ .lookup → d.sessionId ≠ sessionId :=
  ⟨fun _ _ hrun hsame => hfresh (hsame ▸ hs.current_drawn hrun),
    fun d hd hsender hsame => hfresh (hsame ▸ (hs.sent_drawn d hd hsender).1)⟩

/-- Before an association takes its next numbers, they are unused and nobody else's. -/
theorem Numbered.next (hs : Numbered s) {task : Nat} {run run' : AssociationRun}
    {event : AssociationEvent} (hrun : s.associations task = some run)
    (hfresh : ∀ sessionId, event.draws run.assoc = some sessionId → sessionId ∉ s.drawn)
    (hnumbers : Numbers run.assoc run'.assoc event) :
    run'.assoc.clientSessionId ∈ (s.draw (event.draws run.assoc)).drawn ∧
      (∀ task₂ run₂, task₂ ≠ task → s.associations task₂ = some run₂ →
        run₂.assoc.clientSessionId ≠ run'.assoc.clientSessionId) ∧
      (∀ d ∈ s.sent, d.sender ≠ .lookup → d.sessionId = run'.assoc.clientSessionId →
        d.packetId ≤ run'.assoc.clientPacketId) ∧
      ((event.sends run.assoc).isSome → 0 < run'.assoc.clientPacketId ∧
        ∀ d ∈ s.sent, d.sender ≠ .lookup → d.sessionId = run'.assoc.clientSessionId →
          d.packetId < run'.assoc.clientPacketId) := by
  have hmine : ∀ task₂ run₂, task₂ ≠ task → s.associations task₂ = some run₂ →
      run₂.assoc.clientSessionId ≠ run.assoc.clientSessionId :=
    fun task₂ run₂ hne h₂ hsame => hne (hs.current_alone h₂ hrun hsame)
  cases hnumbers with
  | same session packet quiet draws =>
    rw [session, packet, draws, quiet]
    exact ⟨List.mem_append_left _ (hs.current_drawn hrun), hmine,
      fun d hd hsender hsame => hs.sent_behind d hd hsender hrun hsame, fun h => nomatch h⟩
  | next session packet draws =>
    rw [session, packet, draws]
    have hbehind : ∀ d ∈ s.sent, d.sender ≠ .lookup → d.sessionId = run.assoc.clientSessionId →
        d.packetId < run.assoc.clientPacketId + 1 := fun d hd hsender hsame =>
      Nat.lt_succ_of_le (hs.sent_behind d hd hsender hrun hsame)
    exact ⟨List.mem_append_left _ (hs.current_drawn hrun), hmine,
      fun d hd hsender hsame => (hbehind d hd hsender hsame).le, fun _ => ⟨Nat.succ_pos _, hbehind⟩⟩
  | renewed draws packet =>
    -- an id that is drawn afresh is nobody's, and nothing was sent with it
    obtain ⟨hassociations, hsent⟩ := hs.fresh (hfresh _ draws)
    rw [draws]
    exact ⟨List.mem_append_right _ (List.mem_singleton_self _), fun task₂ run₂ _ => hassociations _ _,
      fun d hd hsender hsame => absurd hsame (hsent d hd hsender),
      fun _ => ⟨by omega, fun d hd hsender hsame => absurd hsame (hsent d hd hsender)⟩⟩

theorem localStep_numbered {e : LocalEvent} (hs : Numbered s) (hfresh : freshDraw s e = true)
    (h : localStep crypto method s e = some t) : Numbered t := by
  have hdraw : ∀ sessionId, e.draws s = some sessionId → sessionId ∉ s.drawn := by
    intro sessionId hdraws
    simpa [freshDraw, hdraws] using hfresh
  -- the ids drawn so far grow first, whatever the event does with them
  have hs' := hs.draw (e.draws s)
  cases e with
  | create task now peerAddr clientSessionId serverSessionExpireDuration =>
    simp only [localStep] at h
    split at h
    · cases h
      -- nobody has used the id that is drawn
      obtain ⟨hassociations, hsent⟩ := hs.fresh (hdraw clientSessionId rfl)
      exact hs'.setTask (List.mem_append_right _ (List.mem_singleton_self _))
        (fun task' run' _ => hassociations task' run')
        fun d hd hsender hsame => absurd hsame (hsent d hd hsender)
    · cases h
  | association task event =>
    obtain ⟨run, hrun, hmap⟩ := Option.bind_eq_some_iff.1 h
    obtain ⟨run', hstep, rfl⟩ := Option.map_eq_some_iff.1 hmap
    have hrun : s.associations task = some run := hrun
    have hdraws : LocalEvent.draws s (.association task event) = event.draws run.assoc := by
      simp [LocalEvent.draws, hrun]
    rw [hdraws] at hdraw hs'
    obtain ⟨hdrawn, halone, hahead, hsends⟩ :=
      hs.next hrun hdraw (associationStep_numbers hstep)
    have hset := hs'.setTask hdrawn halone hahead
    rw [hdraws]
    cases hd : event.sends run.assoc with
    | none => exact hset.log_none .association
    | some d =>
      obtain ⟨hsession, hpacket⟩ := associationStep_sends hstep hd
      obtain ⟨hpos, hunused⟩ := hsends (by simp [hd])
      refine hset.log (by decide) (hsession ▸ hdrawn) (hpacket ▸ hpos) ?_ ?_
      · -- all that was sent in the session has a lower packet id
        intro d' hd' hsender hsame
        rw [hsession, hpacket] at hsame
        exact absurd hsame.2 (hunused d' hd' hsender hsame.1).ne
      · -- and the association is alone in it
        intro task₂ run₂ h₂ hsame
        have htask : (((s.draw (event.draws run.assoc)).setTask task (some run')).associations task) =
            some run' := Function.update_self ..
        obtain rfl := hset.current_alone h₂ htask (hsame.symm.trans hsession)
        obtain rfl := Option.some.inj (h₂.symm.trans htask)
        exact hpacket.le
  | close task =>
    cases h
    exact hs'.close task
  | lookup socket sending ns bytes =>
    cases h
    cases sending with
    | ok u => exact hs'.log_lookup rfl
    | error err => exact hs'.log_none .lookup
  | probe socket sending sessionId =>
    cases h
    cases sending with
    | ok u =>
      obtain ⟨hassociations, hsent⟩ := hs.fresh (hdraw sessionId rfl)
      exact hs'.log (by decide) (List.mem_append_right _ (List.mem_singleton_self _)) Nat.one_pos
        (fun d' hd' hsender hsame => hsent d' hd' hsender hsame.1)
        fun hrun hsame => absurd hsame.symm (hassociations _ _ hrun)
    | error err => exact hs'.log_none .probe

theorem reachable_numbered
    (h : Reachable (localStep crypto method) (fun s e => freshDraw s e = true) .empty s) :
    Numbered s :=
  h.invariant Numbered .empty localStep_numbered

end Runs

/-! ## Pairs of session and packet id -/

/-- No two datagrams under one key carry the same client session id and packet id. -/
def PairsDistinct (s : LocalService) : Prop :=
  s.sent.Pairwise fun d e => d.key = e.key → ¬(d.sessionId = e.sessionId ∧ d.packetId = e.packetId)

/-- No two lookups were sent under one key. -/
def LookupsDistinct (s : LocalService) : Prop :=
  s.sent.Pairwise fun d e => d.sender = .lookup → e.sender = .lookup → d.key ≠ e.key

instance (s : LocalService) : Decidable (PairsDistinct s) :=
  inferInstanceAs (Decidable (List.Pairwise _ _))

/-- **Pairs under a key.** While the session ids that are drawn do not repeat, no two datagrams
    under one key carry the same session and packet id exactly if no two lookups through
    `DnsClient::UdpRemote` are sent under one key. -/
theorem pairs_distinct_iff (crypto : CryptoSuite K) (method : CipherKind) (s : LocalService)
    (h : Reachable (localStep crypto method) (fun s e => freshDraw s e = true) .empty s) :
    PairsDistinct s ↔ LookupsDistinct s := by
  have hs := reachable_numbered h
  constructor
  · intro hpairs
    refine hpairs.imp_of_mem fun {d e} hd he hpair hlookup hlookup' hkey => hpair hkey ?_
    -- lookups all carry the default control data
    simp only [LoggedDatagram.sessionId, LoggedDatagram.packetId, hs.lookup_default d hd hlookup,
      hs.lookup_default e he hlookup', and_self]
  · intro hlookups
    refine (hs.sent_distinct.and hlookups).imp_of_mem ?_
    rintro d e hd he ⟨hdistinct, hlookup⟩ hkey hsame
    have hzero : ∀ d ∈ s.sent, d.sender = .lookup → d.packetId = 0 := by
      intro d hd hsender
      simp only [LoggedDatagram.packetId, hs.lookup_default d hd hsender]
      rfl
    by_cases hd' : d.sender = .lookup
    · by_cases he' : e.sender = .lookup
      · exact hlookup hd' he' hkey
      · have := (hs.sent_drawn e he he').2
        have := hzero d hd hd'
        omega
    · by_cases he' : e.sender = .lookup
      · have := (hs.sent_drawn d hd hd').2
        have := hzero e he he'
        omega
      · exact hdistinct hd' he' hsame

/-! ### Sample runs -/

/-- A socket to the server, whose key is 16 bytes. -/
def proxySocket (id : Nat) : ProxySocket := { id := id, key := List.replicate 16 1 }

/-- A run in which the session ids that are drawn do not repeat. -/
def sampleRun (events : List LocalEvent) : Option LocalService :=
  events.foldlM (fun s e =>
    if freshDraw s e then localStep CryptoSuite.transparent .aead2022Blake3Aes128Gcm s e else none)
    .empty

/-- The pairs that went out in a run, in order. -/
def pairsOf (s : LocalService) : List (Nat × Nat) :=
  s.sent.map fun d => (d.sessionId, d.packetId)

def dnsAddr : Address := .socketAddress (.v4 0x01010101#32 53)

/-- Two associations, a probe and a lookup. -/
def sampleEvents : List LocalEvent :=
  let send := AssociationEvent.send 9 (.ok (proxySocket 0)) (.ok ()) dnsAddr [1]
  [.create 0 0 (.v4 0x0a000001#32 1000) 7 (300 * Time.second),
    .create 1 0 (.v4 0x0a000002#32 1000) 8 (300 * Time.second),
    .association 0 send, .association 1 send, .association 0 send,
    .probe (proxySocket 2) (.ok ()) 5, .lookup (proxySocket 3) (.ok ()) dnsAddr [2]]

theorem pairs_distinct_iff_sample :
    ∃ s, sampleRun sampleEvents = some s ∧
      pairsOf s = [(7, 1), (8, 1), (7, 2), (5, 1), (0, 0)] ∧ (PairsDistinct s ↔ LookupsDistinct s) := by
  have hrun : (sampleRun sampleEvents).map pairsOf = some [(7, 1), (8, 1), (7, 2), (5, 1), (0, 0)] := by
    decide +kernel
  obtain ⟨s, hs, hpairs⟩ := Option.map_eq_some_iff.1 hrun
  exact ⟨s, hs, hpairs, pairs_distinct_iff _ _ s (.of_checked hs)⟩

/-- Two lookups over one server carry the same pair. -/
theorem pairs_repeated :
    ∃ s, Reachable (localStep CryptoSuite.transparent .aead2022Blake3Aes128Gcm)
      (fun s e => freshDraw s e = true) .empty s ∧ ¬PairsDistinct s := by
  have hrun : (sampleRun [.lookup (proxySocket 0) (.ok ()) dnsAddr [1],
      .lookup (proxySocket 0) (.ok ()) dnsAddr [2]]).map (fun s => decide (PairsDistinct s)) =
      some false := by
    decide +kernel
  obtain ⟨s, hs, hpairs⟩ := Option.map_eq_some_iff.1 hrun
  exact ⟨s, .of_checked hs, of_decide_eq_false hpairs⟩

end Shadowsocks.Local
