import Shadowsocks.Server.UdpServer

/-! # Runs of the UDP server

What a step of the server does to its associations is said once
(`udpServerStep_cases`): it touches or drops them, hands one a packet, or has one take a
packet from its channel.  From it follows what each association stands for in a run
(`Served`): its packets are those of its client session, and its window holds the ids
of the packets that it has relayed.
-/

namespace Shadowsocks.Server

open Shadowsocks.Lib Shadowsocks.Net Shadowsocks.Udp

variable {K : Type} {crypto : CryptoSuite K}

/-! ## What a step can do -/

/-- A packet as `recv_one_packet` lets it through. -/
structure Fresh (now : Time) (r : Received) : Prop where
  receivedAt : r.receivedAt = now
  inRange : absDiff now.unixSecs r.timestamp ≤ Aead2022.serverPacketTimestampMaxDiff
  control : r.message.control.isSome

/-- When the entry of an association was touched. -/
def TouchedBy (now : Time) (e e' : Entry Nat UdpAssociation) : Prop :=
  e'.touched = e.touched ∨ e'.touched = now

/-- Time passes, packets come in, and what is alive is dropped only for want of
    capacity. -/
structure Advances (s t : UdpServer) : Prop where
  now : s.now ≤ t.now
  received : ∀ r ∈ t.received, r ∈ s.received ∨ Fresh s.now r
  expiry : t.assocMap.expiry = s.assocMap.expiry
  capacity : t.assocMap.capacity = s.assocMap.capacity
  survives : s.assocMap.capacity = none → ∀ k e, s.assocMap.lookup? k = some e →
    LruCache.alive s.assocMap.expiry s.now e = true →
    ∃ e', t.assocMap.lookup? k = some e' ∧ e'.value.handle = e.value.handle ∧
      TouchedBy s.now e e'

/-- An association that no packet has come to. -/
structure SameAssociation (a b : UdpAssociation) : Prop where
  handle : b.handle = a.handle
  channel : b.channel = a.channel
  task : ∀ c', b.task = some c' → ∃ c, a.task = some c ∧ c.Unmoved c'

theorem SameAssociation.refl (a : UdpAssociation) : SameAssociation a a :=
  ⟨rfl, rfl, fun c hc => ⟨c, hc, .refl c⟩⟩

/-- Every association was there before, as it is or touched. -/
def Carried (s t : UdpServer) : Prop :=
  ∀ k e', t.assocMap.lookup? k = some e' → ∃ e, s.assocMap.lookup? k = some e ∧
    SameAssociation e.value e'.value ∧ TouchedBy s.now e e'

/-- A response from an open socket of an association. -/
structure Responds (cfg : UdpServerConfig crypto) (s : UdpServer) (handle : Nat)
    (response : Response) : Prop where
  source : ∃ k e c family addr data, s.assocMap.lookup? k = some e ∧ e.value.handle = handle ∧
    e.value.task = some c ∧ (c.socketOf family).isSome ∧
    (sendReceivedRespondPacket cfg.key addr data c).1 = some response

/-- A step that takes no packet further. -/
structure Quiet (cfg : UdpServerConfig crypto) (s t : UdpServer) : Prop where
  relayed : t.relayed = s.relayed
  nextHandle : t.nextHandle = s.nextHandle
  carried : Carried s t
  responded : t.responded = s.responded ∨ ∃ handle response,
    t.responded = s.responded ++ [(handle, response)] ∧ Responds cfg s handle response

/-- A new association, for a packet that none was found for. -/
structure NewFor (r : Received) (s : UdpServer) (a : UdpAssociation) : Prop where
  handle : a.handle = s.nextHandle
  channel : a.channel = [r]
  task : ∃ serverSessionId, a.task =
    some (.create r.message.peerAddr (some r.control.clientSessionId) serverSessionId)

/-- An association that was there, and its channel may have taken the packet. -/
structure MayTake (r : Received) (a b : UdpAssociation) : Prop where
  handle : b.handle = a.handle
  task : b.task = a.task
  channel : b.channel = a.channel ∨ b.channel = a.channel ++ [r]

/-- A step that hands a packet over. -/
structure HandsOver (r : Received) (s t : UdpServer) : Prop where
  mem : r ∈ s.received
  relayed : t.relayed = s.relayed
  responded : t.responded = s.responded
  now : t.now = s.now
  self : ∀ e', t.assocMap.lookup? r.control.clientSessionId = some e' → e'.touched = s.now ∧
    ((∃ e, s.assocMap.lookup? r.control.clientSessionId = some e ∧ MayTake r e.value e'.value ∧
        t.nextHandle = s.nextHandle) ∨
      NewFor r s e'.value ∧ t.nextHandle = s.nextHandle + 1)
  others : ∀ k e', k ≠ r.control.clientSessionId → t.assocMap.lookup? k = some e' →
    s.assocMap.lookup? k = some e'
  nextHandle : s.nextHandle ≤ t.nextHandle

/-- A step in which an association takes a packet from its channel. -/
structure Dispatches [Idna] (cfg : UdpServerConfig crypto) (k : Nat)
    (e : Entry Nat UdpAssociation) (r : Received) (relay : Relay) (s t : UdpServer) : Prop where
  entry : s.assocMap.lookup? k = some e
  task : e.value.task = some relay.assoc
  channel : ∃ channel, e.value.channel = r :: channel ∧ ∃ task,
    (∀ c, task = some c → c = (dispatchReceivedPacket cfg.context r.message relay).2.assoc) ∧
    ((dispatchReceivedPacket cfg.context r.message relay).1 = .ready () → task.isSome) ∧
    t.assocMap.lookup? k =
      some { e with value := { handle := e.value.handle, task := task, channel := channel } }
  others : ∀ k', k' ≠ k → t.assocMap.lookup? k' = s.assocMap.lookup? k'
  now : t.now = s.now
  received : t.received = s.received
  nextHandle : t.nextHandle = s.nextHandle
  responded : t.responded = s.responded
  relayed : ∃ sent, t.relayed = s.relayed ++
    if admits cfg.context r.message relay then
      [{ handle := e.value.handle, packet := r, relayedAt := s.now, sent := sent }]
    else []

/-! ### Maps of associations -/

section Maps

variable {s : UdpServer} {c : LruCache Nat UdpAssociation} {now : Time}

/-- Changing associations in place drops none. -/
theorem modify_survives (now : Time) {k k' : Nat} {f : UdpAssociation → UdpAssociation}
    (hf : ∀ a, (f a).handle = a.handle) {e : Entry Nat UdpAssociation} (h : c.lookup? k' = some e) :
    ∃ e', (c.modify k f).lookup? k' = some e' ∧ e'.value.handle = e.value.handle ∧
      TouchedBy now e e' := by
  by_cases hk : k' = k
  · subst hk
    exact ⟨{ e with value := f e.value }, by rw [LruCache.lookup?_modify_self, h]; rfl,
      hf e.value, .inl rfl⟩
  · exact ⟨e, by rw [LruCache.lookup?_modify_of_ne f hk, h], rfl, .inl rfl⟩

/-- A lookup drops nothing that is alive. -/
theorem get_keeps {k k' : Nat} {e : Entry Nat UdpAssociation} (h : c.lookup? k' = some e)
    (ha : LruCache.alive c.expiry now e = true) :
    ∃ e', (c.get now k).2.lookup? k' = some e' ∧ e'.value.handle = e.value.handle ∧
      TouchedBy now e e' := by
  obtain ⟨e', he', hvalue, htouched⟩ := LruCache.get_survives (k := k) h ha
  exact ⟨e', he', by rw [hvalue], htouched⟩

theorem carried_of_eq {t : UdpServer} (h : t.assocMap = s.assocMap) : Carried s t :=
  fun _ e' he' => ⟨e', h ▸ he', .refl _, .inl rfl⟩

theorem advances_of_eq {t : UdpServer} (hnow : s.now ≤ t.now) (hmap : t.assocMap = s.assocMap)
    (hreceived : ∀ r ∈ t.received, r ∈ s.received ∨ Fresh s.now r) : Advances s t where
  now := hnow
  received := hreceived
  expiry := by rw [hmap]
  capacity := by rw [hmap]
  survives _ k e he _ := ⟨e, hmap ▸ he, rfl, .inl rfl⟩

theorem setTask_carried {k : Nat} {e : Entry Nat UdpAssociation} {assoc assoc' : UdpAssociationContext}
    (he : s.assocMap.lookup? k = some e) (htask : e.value.task = some assoc)
    (h : assoc.Unmoved assoc') : Carried s (s.setTask k (some assoc')) := by
  intro k' e' he'
  obtain ⟨e₀, he₀, ⟨rfl, rfl⟩ | ⟨-, rfl⟩⟩ := LruCache.modify_sub he'
  · obtain rfl := Option.some.inj (he.symm.trans he₀)
    refine ⟨e, he, ⟨rfl, rfl, fun c' hc' => ⟨assoc, htask, ?_⟩⟩, .inl rfl⟩
    obtain rfl := Option.some.inj hc'
    exact h
  · exact ⟨e', he₀, .refl _, .inl rfl⟩

theorem setTask_advances (k : Nat) (task : Option UdpAssociationContext) :
    Advances s (s.setTask k task) where
  now := Nat.le_refl _
  received _ hr := .inl hr
  expiry := rfl
  capacity := rfl
  survives _ _ _ he _ := modify_survives _ (f := fun a => { a with task := task }) (fun _ => rfl) he

end Maps

/-! ### The steps -/

section Steps

variable {cfg : UdpServerConfig crypto} {s t : UdpServer}

theorem trySend_mayTake (r : Received) (a : UdpAssociation) : MayTake r a (a.trySend r) := by
  unfold UdpAssociation.trySend
  split
  · exact ⟨rfl, rfl, .inr rfl⟩
  · exact ⟨rfl, rfl, .inl rfl⟩

theorem newSession_newFor (r : Received) (serverSessionId : Nat) :
    NewFor r s (newSession r serverSessionId s) :=
  ⟨rfl, rfl, serverSessionId, rfl⟩

/-- Handing a packet over, to the association of its client session id. -/
theorem sendPacket_cases {r : Received} (serverSessionId : Nat) (hmem : r ∈ s.received)
    {received : List Received} (hsub : received ⊆ s.received) :
    Advances s (sendPacket r serverSessionId { s with received := received }) ∧
      HandsOver r s (sendPacket r serverSessionId { s with received := received }) := by
  let k := r.control.clientSessionId
  unfold sendPacket
  dsimp only
  split
  · next a m hget =>
    -- the association is there: its entry is touched, and its channel may take the packet
    have hm : m = (s.assocMap.get s.now k).2 := (congrArg Prod.snd hget).symm
    obtain ⟨e, he, rfl, hself⟩ := LruCache.get_found (congrArg Prod.fst hget)
    have htake := trySend_mayTake r
    rw [← hm] at hself
    refine ⟨⟨Nat.le_refl _, fun x hx => .inl (hsub hx), ?_, ?_, fun _ k' e' he' ha => ?_⟩,
      ⟨hmem, rfl, rfl, rfl, fun e' he' => ?_, fun k' e' hne he' => ?_, Nat.le_refl _⟩⟩
    · simp [hm]
    · simp [hm]
    · obtain ⟨e₁, he₁, hhandle₁, htouched₁⟩ := get_keeps (k := k) he' ha
      rw [← hm] at he₁
      obtain ⟨e₂, he₂, hhandle₂, htouched₂⟩ :=
        modify_survives s.now (k := k) (fun a => (htake a).handle) he₁
      refine ⟨e₂, he₂, hhandle₂.trans hhandle₁, ?_⟩
      unfold TouchedBy at *
      omega
    · rw [LruCache.lookup?_modify_self, hself] at he'
      obtain rfl := Option.some.inj he'
      exact ⟨rfl, .inl ⟨e, he, htake e.value, rfl⟩⟩
    · rw [LruCache.lookup?_modify_of_ne _ hne, hm, LruCache.lookup?_get_of_ne hne] at he'
      exact (Option.filter_eq_some_iff.1 he').1
  · next m hget =>
    -- the association is not there, or not any more
    have hm : m = s.assocMap.removeExpired s.now :=
      (congrArg Prod.snd hget).symm.trans (LruCache.get_snd_of_none (congrArg Prod.fst hget))
    refine ⟨⟨Nat.le_refl _, fun x hx => .inl (hsub hx), ?_, ?_, fun hcap k' e he ha => ?_⟩,
      ⟨hmem, rfl, rfl, rfl, fun e' he' => ?_, fun k' e' hne he' => ?_, Nat.le_succ _⟩⟩
    · simp [hm]
    · simp [hm]
    · by_cases hk : k' = k
      · subst hk
        rw [LruCache.get_missed (congrArg Prod.fst hget) he] at ha
        cases ha
      · have hm' : m.lookup? k' = some e := hm ▸ LruCache.removeExpired_survives he ha
        have halive : LruCache.alive m.expiry s.now e = true := by
          rw [hm]
          exact ha
        exact ⟨e, LruCache.insert_survives (by rw [hm]; exact hcap) hk hm' halive, rfl, .inl rfl⟩
    · rw [LruCache.lookup?_insert_self] at he'
      obtain rfl := Option.some.inj he'
      exact ⟨rfl, .inr ⟨newSession_newFor r serverSessionId, rfl⟩⟩
    · rcases LruCache.insert_sub he' with ⟨hk, -⟩ | ⟨-, hold⟩
      · exact absurd hk hne
      · rw [hm] at hold
        exact LruCache.removeExpired_sub hold

theorem respond_cases {k : Nat} {family : AddrFamily} {addr : SocketAddr} {data : Bytes}
    (h : respond cfg k family addr data s = some t) : Advances s t ∧ Quiet cfg s t := by
  unfold respond at h
  split at h
  · cases h
  · next e he =>
    split at h
    · cases h
    · next assoc htask =>
      split at h
      · next hopen =>
        generalize hresponse : sendReceivedRespondPacket cfg.key addr data assoc = result at h
        obtain ⟨response, assoc'⟩ := result
        have hmoved : assoc.Unmoved assoc' := by
          have := sendReceivedRespondPacket_unmoved cfg.key addr data assoc
          rwa [hresponse] at this
        cases h
        refine ⟨⟨Nat.le_refl _, fun _ hr => .inl hr, rfl, rfl, (setTask_advances k _).survives⟩,
          ⟨rfl, rfl, setTask_carried he htask hmoved, ?_⟩⟩
        cases response with
        | none => exact .inl (List.append_nil _)
        | some response =>
          exact .inr ⟨e.value.handle, response, rfl, ⟨k, e, assoc, family, addr, data, he, rfl, htask,
            hopen, by rw [hresponse]⟩⟩
      · cases h

theorem socketFailed_cases {k : Nat} {family : AddrFamily} (h : socketFailed k family s = some t) :
    Advances s t ∧ Quiet cfg s t := by
  unfold socketFailed at h
  split at h
  · cases h
  · next e he =>
    split at h
    · cases h
    · next assoc htask =>
      cases h
      exact ⟨setTask_advances k _,
        ⟨rfl, rfl, setTask_carried he htask (assoc.resetSocket_unmoved family), .inl rfl⟩⟩

theorem keepaliveTick_cases {k : Nat} (h : keepaliveTick k s = some t) :
    Advances s t ∧ Quiet cfg s t := by
  unfold keepaliveTick at h
  split at h
  · cases h
  · next e he =>
    split at h
    · cases h
    · next assoc htask =>
      generalize hroom : decide (s.keepalive.length < udpAssociationKeepAliveChannelSize) = room at h
      have hmoved := assoc.keepaliveTick_unmoved room
      dsimp only at h
      split at h <;> next htick =>
        rw [htick] at hmoved
        cases h
        exact ⟨⟨Nat.le_refl _, fun _ hr => .inl hr, rfl, rfl, (setTask_advances k _).survives⟩,
          ⟨rfl, rfl, setTask_carried he htask hmoved, .inl rfl⟩⟩

/-- A lookup of the map touches what it finds, and drops what has expired. -/
theorem get_cases (k : Nat) (keepalive : List Nat) :
    let t := { s with assocMap := (s.assocMap.get s.now k).2, keepalive := keepalive }
    Advances s t ∧ Quiet cfg s t := by
  refine ⟨⟨Nat.le_refl _, fun _ hr => .inl hr, LruCache.get_expiry, LruCache.get_capacity,
    fun _ k' e he ha => get_keeps he ha⟩, ⟨rfl, rfl, fun k' e' he' => ?_, .inl rfl⟩⟩
  obtain ⟨e, he, hvalue, htouched⟩ := LruCache.get_sub he'
  exact ⟨e, he, hvalue ▸ .refl _, htouched⟩

theorem removeExpired_cases :
    let t := { s with assocMap := s.assocMap.removeExpired s.now }
    Advances s t ∧ Quiet cfg s t := by
  refine ⟨⟨Nat.le_refl _, fun _ hr => .inl hr, rfl, rfl, fun _ k e he ha => ?_⟩,
    ⟨rfl, rfl, fun k e' he' => ?_, .inl rfl⟩⟩
  · exact ⟨e, LruCache.removeExpired_survives he ha, rfl, .inl rfl⟩
  · exact ⟨e', LruCache.removeExpired_sub he', .refl _, .inl rfl⟩

variable [Idna]

theorem recvOnePacket_cases {peerAddr : SocketAddr} {datagram : Bytes} {answers : List Answer}
    (h : recvOnePacket cfg peerAddr datagram answers s = some t) :
    Advances s t ∧ Quiet cfg s t := by
  have hstay : Advances s s ∧ Quiet cfg s s :=
    ⟨advances_of_eq (Nat.le_refl _) rfl fun _ hr => .inl hr,
      ⟨rfl, rfl, carried_of_eq rfl, .inl rfl⟩⟩
  unfold recvOnePacket at h
  split at h
  · next p hp =>
    split at h
    · cases h
      refine ⟨advances_of_eq (Nat.le_refl _) rfl fun r hr => ?_, ⟨rfl, rfl, carried_of_eq rfl, .inl rfl⟩⟩
      rcases List.mem_append.1 hr with hr | hr
      · exact .inl hr
      · obtain rfl := List.mem_singleton.1 hr
        exact .inr ⟨rfl, Aead2022.decryptClientPayload_timestamp _ hp, rfl⟩
    · cases h
      exact hstay
  · cases h
    exact hstay
  · cases h
  · cases h

/-- A packet taken from a channel. -/
theorem dispatchNext_cases {k : Nat} {net : Outbound} (h : dispatchNext cfg k net s = some t) :
    Advances s t ∧ ∃ e r assoc,
      Dispatches cfg k e r { assoc := assoc, net := { net with sent := [] } } s t := by
  unfold dispatchNext at h
  split at h
  · cases h
  · next e he =>
    split at h
    · next assoc r channel htask hchannel =>
      dsimp only at h
      generalize hrelay : ({ assoc := assoc, net := { net with sent := [] } } : Relay) = relay at h
      have hassoc : assoc = relay.assoc := by rw [← hrelay]
      generalize hafter : dispatchReceivedPacket cfg.context r.message relay = result at h
      obtain ⟨outcome, after⟩ := result
      generalize htask' : (if outcome = .ready () then some after.assoc else none) = task' at h
      -- a panic leaves no task, so one that is left is the one after the packet
      have hleft : ∀ c, task' = some c →
          c = (dispatchReceivedPacket cfg.context r.message relay).2.assoc := by
        intro c hc
        subst htask'
        split at hc
        · rw [hafter]
          exact (Option.some.inj hc).symm
        · cases hc
      have hready : (dispatchReceivedPacket cfg.context r.message relay).1 = .ready () →
          task'.isSome := by
        intro hr
        rw [hafter] at hr
        rw [← htask', if_pos hr]
        rfl
      let f (a : UdpAssociation) : UdpAssociation := { a with task := task', channel := channel }
      have hself : (s.assocMap.modify k f).lookup? k =
          some { e with value := { handle := e.value.handle, task := task', channel := channel } } := by
        rw [LruCache.lookup?_modify_self, he]
        rfl
      refine ⟨?_, e, r, assoc, ?_⟩
      · split at h <;> cases h <;>
          exact ⟨Nat.le_refl _, fun _ hr => .inl hr, rfl, rfl, fun _ k' e' he' _ =>
            modify_survives _ (f := f) (fun _ => rfl) he'⟩
      · rw [hrelay]
        split at h
        · next hadmits =>
          cases h
          exact ⟨he, htask.trans (congrArg some hassoc), ⟨channel, hchannel, task', hleft, hready, hself⟩,
            fun k' hne => LruCache.lookup?_modify_of_ne f hne, rfl, rfl, rfl, rfl,
            after.net.sent, by rw [if_pos hadmits]⟩
        · next hrefused =>
          cases h
          exact ⟨he, htask.trans (congrArg some hassoc), ⟨channel, hchannel, task', hleft, hready, hself⟩,
            fun k' hne => LruCache.lookup?_modify_of_ne f hne, rfl, rfl, rfl, rfl,
            [], by rw [if_neg hrefused]; exact (List.append_nil _).symm⟩
    · cases h

/-- **What a step can do.** -/
theorem udpServerStep_cases {event : UdpServerEvent} (h : udpServerStep cfg s event = some t) :
    Advances s t ∧ (Quiet cfg s t ∨ (∃ r, HandsOver r s t) ∨
      ∃ k net e r assoc, event = .dispatch k net ∧
        Dispatches cfg k e r { assoc := assoc, net := { net with sent := [] } } s t) := by
  cases event with
  | receive peerAddr datagram answers =>
    obtain ⟨hadvances, hquiet⟩ := recvOnePacket_cases h
    exact ⟨hadvances, .inl hquiet⟩
  | handOver i serverSessionId =>
    simp only [udpServerStep] at h
    split at h
    · cases h
    · next r hr =>
      cases h
      obtain ⟨hadvances, hhands⟩ := sendPacket_cases serverSessionId (List.mem_of_getElem? hr)
        (fun x hx => List.mem_of_mem_eraseIdx hx)
      exact ⟨hadvances, .inr (.inl ⟨r, hhands⟩)⟩
  | discard i =>
    cases h
    exact ⟨advances_of_eq (Nat.le_refl _) rfl fun r hr => .inl (List.mem_of_mem_eraseIdx hr),
      .inl ⟨rfl, rfl, carried_of_eq rfl, .inl rfl⟩⟩
  | dispatch k net =>
    obtain ⟨hadvances, e, r, assoc, hdispatch⟩ := dispatchNext_cases h
    exact ⟨hadvances, .inr (.inr ⟨k, net, e, r, assoc, rfl, hdispatch⟩)⟩
  | respond k family addr data =>
    obtain ⟨hadvances, hquiet⟩ := respond_cases h
    exact ⟨hadvances, .inl hquiet⟩
  | socketFailed k family =>
    obtain ⟨hadvances, hquiet⟩ := socketFailed_cases h
    exact ⟨hadvances, .inl hquiet⟩
  | keepaliveTick k =>
    obtain ⟨hadvances, hquiet⟩ := keepaliveTick_cases h
    exact ⟨hadvances, .inl hquiet⟩
  | keepAlive =>
    simp only [udpServerStep] at h
    split at h
    · cases h
    · next id keepalive _ =>
      cases h
      obtain ⟨hadvances, hquiet⟩ := get_cases id keepalive
      exact ⟨hadvances, .inl hquiet⟩
  | cleanupExpired =>
    cases h
    obtain ⟨hadvances, hquiet⟩ := removeExpired_cases
    exact ⟨hadvances, .inl hquiet⟩
  | advance time =>
    cases h
    exact ⟨advances_of_eq (Nat.le_add_right _ _) rfl fun _ hr => .inl hr,
      .inl ⟨rfl, rfl, carried_of_eq rfl, .inl rfl⟩⟩

end Steps

/-! ## What an association stands for -/

/-- The ids of the packets that an association has relayed. -/
def UdpServer.relayedIds (s : UdpServer) (handle : Nat) : Set Nat :=
  {id | ∃ x ∈ s.relayed, x.handle = handle ∧ x.packet.control.packetId = id}

/-- A packet of a client session. -/
structure OfSession (k : Nat) (r : Received) : Prop where
  control : r.message.control.isSome
  session : r.control.clientSessionId = k

theorem OfSession.control_eq {k : Nat} {r : Received} (h : OfSession k r) :
    r.message.control = some r.control := by
  obtain ⟨control, hcontrol⟩ := Option.isSome_iff_exists.1 h.control
  rw [Received.control, hcontrol, Option.getD_some]

/-- An association of the session `k`: its window holds what it has relayed. -/
structure ServedEntry (s : UdpServer) (k : Nat) (a : UdpAssociation) : Prop where
  handle : a.handle < s.nextHandle
  owned : ∀ x ∈ s.relayed, x.handle = a.handle → x.packet.control.clientSessionId = k
  channel : ∀ r ∈ a.channel, OfSession k r
  session : ∀ c, a.task = some c → ∃ session, c.clientSession = some session ∧
    session.clientSessionId = k ∧ session.packetWindowFilter.Represents (s.relayedIds a.handle)

/-- Each association serves one session, and has relayed no packet id twice. -/
structure Served (s : UdpServer) : Prop where
  entries : ∀ k e, s.assocMap.lookup? k = some e → ServedEntry s k e.value
  unique : ∀ k k' e e', s.assocMap.lookup? k = some e → s.assocMap.lookup? k' = some e' →
    e.value.handle = e'.value.handle → k = k'
  relayedHandle : ∀ x ∈ s.relayed, x.handle < s.nextHandle
  received : ∀ r ∈ s.received, r.message.control.isSome
  once : s.relayed.Pairwise fun a b =>
    a.handle = b.handle → a.packet.control.packetId ≠ b.packet.control.packetId

/-- What became of a packet that was taken from a channel. -/
inductive DispatchOutcome [Idna] (cfg : UdpServerConfig crypto) (e : Entry Nat UdpAssociation)
    (r : Received) (relay : Relay) (s t : UdpServer) (task : Option UdpAssociationContext) : Prop
  | refused
    (hadmits : admits cfg.context r.message relay = false)
    (hrelayed : t.relayed = s.relayed)
    (htask : task = some (relay.assoc.followPeer r.message.peerAddr))
  | accepted (x : Relayed)
    (hadmits : admits cfg.context r.message relay = true)
    (hrelayed : t.relayed = s.relayed ++ [x])
    (hhandle : x.handle = e.value.handle)
    (hpacket : x.packet = r)
    (htime : x.relayedAt = s.now)
    (hnew : r.control.packetId ∉ s.relayedIds e.value.handle)
    (htask : ∀ c, task = some c →
      UdpAssociationContext.Accepted (s.relayedIds e.value.handle) r.message relay.assoc c)

section Dispatching

variable [Idna] {cfg : UdpServerConfig crypto} {s t : UdpServer} {k : Nat}
  {e : Entry Nat UdpAssociation} {r : Received} {relay : Relay}

theorem Dispatches.outcome (hd : Dispatches cfg k e r relay s t) (he : ServedEntry s k e.value) :
    ∃ task channel, e.value.channel = r :: channel ∧
      t.assocMap.lookup? k =
        some { e with value := { handle := e.value.handle, task := task, channel := channel } } ∧
      DispatchOutcome cfg e r relay s t task := by
  obtain ⟨channel, hchannel, task, htask, hready, hself⟩ := hd.channel
  have hof : OfSession k r := he.channel r (by rw [hchannel]; exact List.mem_cons_self ..)
  obtain ⟨session, hsession, hid, hrep⟩ := he.session relay.assoc hd.task
  have hacc : relay.assoc.HasAccepted (s.relayedIds e.value.handle) := by
    intro other hother
    obtain rfl := Option.some.inj (hsession.symm.trans hother)
    exact hrep
  have hexp : relay.assoc.expects r.message = true := by
    unfold UdpAssociationContext.expects
    rw [hsession, hof.control_eq]
    exact decide_eq_true (hof.session.trans hid.symm)
  obtain ⟨sent, hrelayed⟩ := hd.relayed
  refine ⟨task, channel, hchannel, hself, ?_⟩
  by_cases hadmits : admits cfg.context r.message relay = true
  · have haccepted := dispatchReceivedPacket_accepted hacc hexp hadmits
    rw [if_pos hadmits] at hrelayed
    refine .accepted _ hadmits hrelayed rfl rfl rfl ?_ fun c hc => htask c hc ▸ haccepted
    obtain ⟨control, _, hcontrol, -, hnew, -⟩ := haccepted.session session hsession
    rw [hof.control_eq] at hcontrol
    exact Option.some.inj hcontrol ▸ hnew
  · have hrefused := Bool.eq_false_iff.2 hadmits
    obtain ⟨answers, hr⟩ := dispatchReceivedPacket_refused hacc hexp hrefused
    rw [if_neg hadmits, List.append_nil] at hrelayed
    obtain ⟨c, hc⟩ := Option.isSome_iff_exists.1 (hready (by rw [hr]))
    refine .refused hrefused hrelayed (hc.trans (congrArg some ?_))
    rw [htask c hc, hr]

end Dispatching

section Serving

variable {cfg : UdpServerConfig crypto} {s t : UdpServer} {k : Nat} {a b : UdpAssociation}

theorem relayedIds_of_eq (h : t.relayed = s.relayed) (handle : Nat) :
    t.relayedIds handle = s.relayedIds handle := by
  unfold UdpServer.relayedIds
  rw [h]

theorem relayedIds_append {x : Relayed} (h : t.relayed = s.relayed ++ [x]) :
    t.relayedIds x.handle = insert x.packet.control.packetId (s.relayedIds x.handle) := by
  ext id
  simp only [UdpServer.relayedIds, h, List.mem_append, List.mem_singleton, Set.mem_ofPred_eq,
    Set.mem_insert_iff]
  constructor
  · rintro ⟨y, hy | rfl, hhandle, rfl⟩
    · exact .inr ⟨y, hy, hhandle, rfl⟩
    · exact .inl rfl
  · rintro (rfl | ⟨y, hy, hhandle, rfl⟩)
    · exact ⟨x, .inr rfl, rfl, rfl⟩
    · exact ⟨y, .inl hy, hhandle, rfl⟩

theorem relayedIds_append_of_ne {x : Relayed} (h : t.relayed = s.relayed ++ [x]) {handle : Nat}
    (hne : x.handle ≠ handle) : t.relayedIds handle = s.relayedIds handle := by
  ext id
  simp only [UdpServer.relayedIds, h, List.mem_append, List.mem_singleton, Set.mem_ofPred_eq]
  constructor
  · rintro ⟨y, hy | rfl, hhandle, rfl⟩
    · exact ⟨y, hy, hhandle, rfl⟩
    · exact absurd hhandle hne
  · rintro ⟨y, hy, hhandle, rfl⟩
    exact ⟨y, .inl hy, hhandle, rfl⟩

/-- An entry may change as long as its packets and its window do not. -/
theorem ServedEntry.mono (h : ServedEntry s k a) (hrelayed : t.relayed = s.relayed)
    (hnext : s.nextHandle ≤ t.nextHandle) (hhandle : b.handle = a.handle)
    (hchannel : ∀ r ∈ b.channel, OfSession k r)
    (htask : ∀ c', b.task = some c' → ∃ c, a.task = some c ∧ c'.clientSession = c.clientSession) :
    ServedEntry t k b where
  handle := by
    rw [hhandle]
    exact Nat.lt_of_lt_of_le h.handle hnext
  owned x hx hx' := by
    rw [hhandle] at hx'
    exact h.owned x (hrelayed ▸ hx) hx'
  channel := hchannel
  session c' hc' := by
    obtain ⟨c, hc, hsession⟩ := htask c' hc'
    rw [hsession, hhandle, relayedIds_of_eq hrelayed]
    exact h.session c hc

theorem served_new (cfg : UdpServerConfig crypto) (now : Time) : Served (.new cfg now) where
  entries k e h := by cases h
  unique k k' e e' h := by cases h
  relayedHandle x hx := by cases hx
  received r hr := by cases hr
  once := .nil

/-- Packets that come in have control data. -/
theorem Served.received_of_advances (hs : Served s) (h : Advances s t) :
    ∀ r ∈ t.received, r.message.control.isSome := by
  intro r hr
  rcases h.received r hr with hold | hfresh
  · exact hs.received r hold
  · exact hfresh.control

theorem Quiet.served (hq : Quiet cfg s t) (ha : Advances s t) (hs : Served s) : Served t where
  entries k e' he' := by
    obtain ⟨e, he, hsame, -⟩ := hq.carried k e' he'
    refine (hs.entries k e he).mono hq.relayed hq.nextHandle.ge hsame.handle ?_ ?_
    · rw [hsame.channel]
      exact (hs.entries k e he).channel
    · intro c' hc'
      obtain ⟨c, hc, hmoved⟩ := hsame.task c' hc'
      exact ⟨c, hc, hmoved.clientSession⟩
  unique k k' e e' he he' heq := by
    obtain ⟨e₀, he₀, hsame, -⟩ := hq.carried k e he
    obtain ⟨e₁, he₁, hsame', -⟩ := hq.carried k' e' he'
    rw [hsame.handle, hsame'.handle] at heq
    exact hs.unique k k' e₀ e₁ he₀ he₁ heq
  relayedHandle := by
    rw [hq.relayed, hq.nextHandle]
    exact hs.relayedHandle
  received := hs.received_of_advances ha
  once := by
    rw [hq.relayed]
    exact hs.once

/-- Whoever has an entry after a packet was handed over had it before, or is new. -/
theorem HandsOver.entry_cases {r : Received} (hh : HandsOver r s t) {e' : Entry Nat UdpAssociation}
    (he' : t.assocMap.lookup? k = some e') :
    (∃ e, s.assocMap.lookup? k = some e ∧ MayTake r e.value e'.value ∧
        (e'.touched = e.touched ∨ e'.touched = s.now) ∧
        (k = r.control.clientSessionId ∧ e'.touched = s.now ∨
          e'.value.channel = e.value.channel)) ∨
      k = r.control.clientSessionId ∧ NewFor r s e'.value ∧ e'.touched = s.now ∧
        t.nextHandle = s.nextHandle + 1 := by
  by_cases hk : k = r.control.clientSessionId
  · subst hk
    obtain ⟨htouched, ⟨e, he, htake, -⟩ | ⟨hnew, hnext⟩⟩ := hh.self e' he'
    · exact .inl ⟨e, he, htake, .inr htouched, .inl ⟨rfl, htouched⟩⟩
    · exact .inr ⟨rfl, hnew, htouched, hnext⟩
  · have he := hh.others k e' hk he'
    exact .inl ⟨e', he, ⟨rfl, rfl, .inl rfl⟩, .inl rfl, .inr rfl⟩

theorem HandsOver.served {r : Received} (hh : HandsOver r s t) (ha : Advances s t) (hs : Served s) :
    Served t where
  entries k e' he' := by
    rcases hh.entry_cases he' with ⟨e, he, htake, -, hgiven⟩ | ⟨rfl, hnew, -, hnext⟩
    · have hentry := hs.entries k e he
      refine hentry.mono hh.relayed hh.nextHandle htake.handle (fun x hx => ?_) ?_
      · rcases htake.channel with hsame | htaken
        · exact hentry.channel x (hsame ▸ hx)
        · rcases hgiven with ⟨rfl, -⟩ | hsame
          · rw [htaken] at hx
            rcases List.mem_append.1 hx with hx | hx
            · exact hentry.channel x hx
            · obtain rfl := List.mem_singleton.1 hx
              exact ⟨hs.received x hh.mem, rfl⟩
          · exact hentry.channel x (hsame ▸ hx)
      · intro c hc
        exact ⟨c, htake.task ▸ hc, rfl⟩
    · -- a new association has relayed nothing
      have hfresh : ∀ x ∈ s.relayed, x.handle ≠ e'.value.handle := by
        intro x hx heq
        rw [hnew.handle] at heq
        exact absurd (hs.relayedHandle x hx) (by omega)
      refine ⟨by rw [hnew.handle, hnext]; exact Nat.lt_succ_self _, fun x hx hx' => ?_,
        fun x hx => ?_, fun c hc => ?_⟩
      · exact absurd hx' (hfresh x (hh.relayed ▸ hx))
      · rw [hnew.channel] at hx
        obtain rfl := List.mem_singleton.1 hx
        exact ⟨hs.received x hh.mem, rfl⟩
      · obtain ⟨serverSessionId, htask⟩ := hnew.task
        obtain rfl := Option.some.inj (htask.symm.trans hc)
        have hempty : t.relayedIds e'.value.handle = ∅ := by
          rw [relayedIds_of_eq hh.relayed]
          exact Set.eq_empty_of_forall_notMem fun id ⟨x, hx, hx', _⟩ => hfresh x hx hx'
        exact ⟨_, rfl, rfl, hempty ▸ PacketWindowFilter.represents_new⟩
  unique k k' e e' he he' heq := by
    have hlt : ∀ k₀ e₀, s.assocMap.lookup? k₀ = some e₀ → e₀.value.handle < s.nextHandle :=
      fun k₀ e₀ h₀ => (hs.entries k₀ e₀ h₀).handle
    rcases hh.entry_cases he with ⟨e₀, he₀, htake, -⟩ | ⟨rfl, hnew, -⟩ <;>
      rcases hh.entry_cases he' with ⟨e₁, he₁, htake', -⟩ | ⟨rfl, hnew', -⟩
    · rw [htake.handle, htake'.handle] at heq
      exact hs.unique k k' e₀ e₁ he₀ he₁ heq
    · rw [htake.handle, hnew'.handle] at heq
      exact absurd (hlt k e₀ he₀) (by omega)
    · rw [hnew.handle, htake'.handle] at heq
      exact absurd (hlt k' e₁ he₁) (by omega)
    · rfl
  relayedHandle x hx := Nat.lt_of_lt_of_le (hs.relayedHandle x (hh.relayed ▸ hx)) hh.nextHandle
  received := hs.received_of_advances ha
  once := by
    rw [hh.relayed]
    exact hs.once

variable [Idna]

theorem Dispatches.served {e : Entry Nat UdpAssociation} {r : Received} {relay : Relay}
    (hd : Dispatches cfg k e r relay s t) (ha : Advances s t) (hs : Served s) : Served t := by
  have hentry := hs.entries k e hd.entry
  obtain ⟨task, channel, hchannel, hself, houtcome⟩ := hd.outcome hentry
  have hrest : ∀ x ∈ channel, OfSession k x := fun x hx =>
    hentry.channel x (by rw [hchannel]; exact List.mem_cons_of_mem _ hx)
  -- every association keeps its handle
  have hold : ∀ k' e', t.assocMap.lookup? k' = some e' → ∃ e₀, s.assocMap.lookup? k' = some e₀ ∧
      e'.value.handle = e₀.value.handle := by
    intro k' e' he'
    by_cases hk : k' = k
    · subst hk
      obtain rfl := Option.some.inj (hself.symm.trans he')
      exact ⟨e, hd.entry, rfl⟩
    · exact ⟨e', hd.others k' hk ▸ he', rfl⟩
  have hunique : ∀ k₀ k' e₀ e', t.assocMap.lookup? k₀ = some e₀ → t.assocMap.lookup? k' = some e' →
      e₀.value.handle = e'.value.handle → k₀ = k' := by
    intro k₀ k' e₀ e' he₀ he' heq
    obtain ⟨f₀, hf₀, h₀⟩ := hold k₀ e₀ he₀
    obtain ⟨f', hf', h'⟩ := hold k' e' he'
    rw [h₀, h'] at heq
    exact hs.unique k₀ k' f₀ f' hf₀ hf' heq
  cases houtcome with
  | refused hadmits hrelayed htask =>
    refine ⟨fun k' e' he' => ?_, hunique, ?_, hs.received_of_advances ha, ?_⟩
    · by_cases hk : k' = k
      · subst hk
        obtain rfl := Option.some.inj (hself.symm.trans he')
        refine hentry.mono hrelayed hd.nextHandle.ge rfl hrest fun c' hc' => ?_
        obtain rfl := Option.some.inj (htask.symm.trans hc')
        exact ⟨relay.assoc, hd.task, UdpAssociationContext.followPeer_clientSession _⟩
      · have he₀ := hd.others k' hk ▸ he'
        exact (hs.entries k' e' he₀).mono hrelayed hd.nextHandle.ge rfl
          (hs.entries k' e' he₀).channel fun c' hc' => ⟨c', hc', rfl⟩
    · rw [hrelayed, hd.nextHandle]
      exact hs.relayedHandle
    · rw [hrelayed]
      exact hs.once
  | accepted x hadmits hrelayed hhandle hpacket htime hnew htask =>
    have hof : OfSession k r := hentry.channel r (by rw [hchannel]; exact List.mem_cons_self ..)
    refine ⟨fun k' e' he' => ?_, hunique, ?_, hs.received_of_advances ha, ?_⟩
    · by_cases hk : k' = k
      · subst hk
        obtain rfl := Option.some.inj (hself.symm.trans he')
        refine ⟨hd.nextHandle ▸ hentry.handle, fun y hy hy' => ?_, hrest, fun c' hc' => ?_⟩
        · rw [hrelayed] at hy
          rcases List.mem_append.1 hy with hy | hy
          · exact hentry.owned y hy hy'
          · obtain rfl := List.mem_singleton.1 hy
            rw [hpacket]
            exact hof.session
        · obtain ⟨session, hsession, hid, -⟩ := hentry.session relay.assoc hd.task
          obtain ⟨control, session', hcontrol, hsession', -, hid', -, hrep⟩ :=
            (htask c' hc').session session hsession
          rw [hof.control_eq] at hcontrol
          obtain rfl := Option.some.inj hcontrol
          refine ⟨session', hsession', hid'.trans hid, ?_⟩
          rw [show t.relayedIds e.value.handle = _ from hhandle ▸ relayedIds_append hrelayed,
            hpacket]
          exact hrep
      · have he₀ := hd.others k' hk ▸ he'
        have hne : x.handle ≠ e'.value.handle := fun heq =>
          hk (hs.unique k' k e' e he₀ hd.entry (heq.symm.trans hhandle))
        have hother := hs.entries k' e' he₀
        refine ⟨hd.nextHandle ▸ hother.handle, fun y hy hy' => ?_, hother.channel, fun c' hc' => ?_⟩
        · rw [hrelayed] at hy
          rcases List.mem_append.1 hy with hy | hy
          · exact hother.owned y hy hy'
          · obtain rfl := List.mem_singleton.1 hy
            exact absurd hy' hne
        · rw [relayedIds_append_of_ne hrelayed hne]
          exact hother.session c' hc'
    · intro y hy
      rw [hrelayed] at hy
      rw [hd.nextHandle]
      rcases List.mem_append.1 hy with hy | hy
      · exact hs.relayedHandle y hy
      · obtain rfl := List.mem_singleton.1 hy
        rw [hhandle]
        exact hentry.handle
    · rw [hrelayed, List.pairwise_append]
      refine ⟨hs.once, List.pairwise_singleton _ _, fun y hy z hz heq hids => hnew ?_⟩
      obtain rfl := List.mem_singleton.1 hz
      exact ⟨y, hy, heq.trans hhandle, by rw [hids, hpacket]⟩

theorem udpServerStep_served {event : UdpServerEvent} (hs : Served s)
    (h : udpServerStep cfg s event = some t) : Served t := by
  obtain ⟨ha, hq | ⟨r, hh⟩ | ⟨k, net, e, r, assoc, -, hd⟩⟩ := udpServerStep_cases h
  · exact hq.served ha hs
  · exact hh.served ha hs
  · exact hd.served ha hs

theorem reachable_served {ok : UdpServer → UdpServerEvent → Prop} {now : Time}
    (h : Reachable (udpServerStep cfg) ok (.new cfg now) s) : Served s :=
  h.invariant Served (served_new cfg now) fun hs _ hstep => udpServerStep_served hs hstep

end Serving

end Shadowsocks.Server
