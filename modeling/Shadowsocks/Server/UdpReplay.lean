import Shadowsocks.Server.UdpServerRuns

/-! # Replayed datagrams at the UDP server

An association never relays a packet id twice, but its window is dropped with it.  What
keeps a copy out after that is its timestamp, and only if associations live longer than
a timestamp stays in range: 61 seconds, and no capacity that would cut their lives
short (`relayed_at_most_once`).
-/

namespace Shadowsocks.Server

open Shadowsocks.Lib Shadowsocks.Net Shadowsocks.Udp

/-- The packet's timestamp is within the accepted difference. -/
def InRange (now : Time) (r : Received) : Prop :=
  absDiff now.unixSecs r.timestamp ≤ Aead2022.serverPacketTimestampMaxDiff

instance (now : Time) (r : Received) : Decidable (InRange now r) :=
  inferInstanceAs (Decidable (_ ≤ _))

/-- Two copies of one packet of a client. -/
structure SamePacket (a b : Received) : Prop where
  clientSessionId : a.control.clientSessionId = b.control.clientSessionId
  packetId : a.control.packetId = b.control.packetId
  timestamp : a.timestamp = b.timestamp

/-- A packet is out of range once 61 seconds have passed since it was received. -/
theorem not_inRange_of_lt {r a : Received} {timeToLive now : Time} (hr : InRange r.receivedAt r)
    (hsame : r.timestamp = a.timestamp) (hlive : 61 * Time.second ≤ timeToLive)
    (hlt : r.receivedAt + timeToLive < now) : ¬ InRange now a := by
  unfold InRange at *
  rw [absDiff_le] at hr ⊢
  rw [← hsame]
  unfold Time.unixSecs Time.second Aead2022.serverPacketTimestampMaxDiff Time at *
  omega

/-! ## Lives of associations -/

section Lives

variable {K : Type} {crypto : CryptoSuite K}

/-- A packet on its way to an association was received before the association was last
    touched. -/
structure TimelyEntry (now : Time) (e : Entry Nat UdpAssociation) : Prop where
  touched : e.touched ≤ now
  channel : ∀ r ∈ e.value.channel, r.receivedAt ≤ e.touched ∧ InRange r.receivedAt r

/-- The association that relayed the packet is still there, or its time has run out. -/
def Guarded (timeToLive : Time) (s : UdpServer) (x : Relayed) : Prop :=
  x.packet.receivedAt + timeToLive < s.now ∨
    ∃ e, s.assocMap.lookup? x.packet.control.clientSessionId = some e ∧
      e.value.handle = x.handle ∧ x.packet.receivedAt ≤ e.touched

/-- Without a capacity, an association lives for its time after each packet. -/
structure Timely (timeToLive : Time) (s : UdpServer) : Prop where
  served : Served s
  expiry : s.assocMap.expiry = some timeToLive
  capacity : s.assocMap.capacity = none
  received : ∀ r ∈ s.received, r.receivedAt ≤ s.now ∧ InRange r.receivedAt r
  entries : ∀ k e, s.assocMap.lookup? k = some e → TimelyEntry s.now e
  relayed : ∀ x ∈ s.relayed, InRange x.packet.receivedAt x.packet ∧ Guarded timeToLive s x
  once : s.relayed.Pairwise fun a b => SamePacket a.packet b.packet → ¬ InRange b.relayedAt b.packet

theorem timely_new {cfg : UdpServerConfig crypto} (hcap : cfg.capacity = none) (now : Time) :
    Timely cfg.timeToLive (.new cfg now) where
  served := served_new cfg now
  expiry := rfl
  capacity := hcap
  received r hr := by cases hr
  entries k e h := by cases h
  relayed x hx := by cases hx
  once := .nil

variable {cfg : UdpServerConfig crypto} {timeToLive : Time} {s t : UdpServer}

/-- An association that is not alive any more has outlived its packets by its time. -/
theorem Guarded.advances {x : Relayed} (h : Guarded timeToLive s x) (hs : Timely timeToLive s)
    (ha : Advances s t) : Guarded timeToLive t x := by
  rcases h with hlate | ⟨e, he, hhandle, htouched⟩
  · exact .inl (Nat.lt_of_lt_of_le hlate ha.now)
  · by_cases halive : LruCache.alive s.assocMap.expiry s.now e = true
    · obtain ⟨e', he', hhandle', htouched'⟩ := ha.survives hs.capacity _ e he halive
      refine .inr ⟨e', he', hhandle'.trans hhandle, ?_⟩
      have hnow := (hs.entries _ e he).touched
      rcases htouched' with hsame | hnow'
      · exact hsame ▸ htouched
      · rw [hnow']
        exact Nat.le_trans htouched hnow
    · left
      have hnow := ha.now
      simp only [LruCache.alive, hs.expiry, Option.all_some, decide_eq_true_eq] at halive
      unfold Time at *
      omega

theorem Timely.received_of_advances (hs : Timely timeToLive s) (ha : Advances s t) :
    ∀ r ∈ t.received, r.receivedAt ≤ t.now ∧ InRange r.receivedAt r := by
  intro r hr
  rcases ha.received r hr with hold | hfresh
  · exact ⟨Nat.le_trans (hs.received r hold).1 ha.now, (hs.received r hold).2⟩
  · refine ⟨hfresh.receivedAt ▸ ha.now, ?_⟩
    rw [hfresh.receivedAt]
    exact hfresh.inRange

/-- Steps that relay nothing. -/
theorem Timely.advances (hs : Timely timeToLive s) (ha : Advances s t) (ht : Served t)
    (hentries : ∀ k e, t.assocMap.lookup? k = some e → TimelyEntry t.now e)
    (hrelayed : t.relayed = s.relayed) : Timely timeToLive t where
  served := ht
  expiry := ha.expiry.trans hs.expiry
  capacity := ha.capacity.trans hs.capacity
  received := hs.received_of_advances ha
  entries := hentries
  relayed := by
    rw [hrelayed]
    exact fun x hx => ⟨(hs.relayed x hx).1, (hs.relayed x hx).2.advances hs ha⟩
  once := by
    rw [hrelayed]
    exact hs.once

/-- Touching an entry, or taking nothing new into its channel, keeps it timely. -/
theorem TimelyEntry.touch {now now' : Time} {e e' : Entry Nat UdpAssociation} (h : TimelyEntry now e)
    (hnow : now ≤ now') (htouched : e'.touched = e.touched ∨ e'.touched = now)
    (hchannel : ∀ r ∈ e'.value.channel, r ∈ e.value.channel) : TimelyEntry now' e' := by
  have hle := h.touched
  unfold Time at hnow hle
  refine ⟨show e'.touched ≤ now' by omega, fun r hr => ⟨?_, (h.channel r (hchannel r hr)).2⟩⟩
  have hr' := (h.channel r (hchannel r hr)).1
  unfold Time at hr' ⊢
  omega

theorem Quiet.timely (hq : Quiet cfg s t) (ha : Advances s t) (hs : Timely timeToLive s) :
    Timely timeToLive t := by
  apply hs.advances ha (hq.served ha hs.served) _ hq.relayed
  intro k e' he'
  obtain ⟨e, he, hsame, htouched⟩ := hq.carried k e' he'
  exact (hs.entries k e he).touch ha.now htouched fun r hr => hsame.channel ▸ hr

theorem HandsOver.timely {r : Received} (hh : HandsOver r s t) (ha : Advances s t)
    (hs : Timely timeToLive s) : Timely timeToLive t := by
  apply hs.advances ha (hh.served ha hs.served) _ hh.relayed
  intro k e' he'
  have hr := hs.received r hh.mem
  rcases hh.entry_cases he' with ⟨e, he, htake, htouched, ⟨-, hnow⟩ | hsame⟩ | ⟨-, hnew, hnow, -⟩
  · have hentry := hs.entries k e he
    have hle := hentry.touched
    refine ⟨by rw [hnow]; exact ha.now, fun x hx => ?_⟩
    rw [hnow]
    have hmem : x ∈ e.value.channel ∨ x = r := by
      rcases htake.channel with hsame | htaken
      · exact .inl (hsame ▸ hx)
      · simpa [htaken] using hx
    rcases hmem with hx | rfl
    · exact ⟨Nat.le_trans (hentry.channel x hx).1 hle, (hentry.channel x hx).2⟩
    · exact hr
  · exact (hs.entries k e he).touch ha.now htouched fun x hx => hsame ▸ hx
  · refine ⟨by rw [hnow]; exact ha.now, fun x hx => ?_⟩
    rw [hnew.channel] at hx
    obtain rfl := List.mem_singleton.1 hx
    rw [hnow]
    exact hr

variable [Idna]

/-- A packet that is relayed was never relayed before, or is out of range by now. -/
theorem Dispatches.timely {k : Nat} {e : Entry Nat UdpAssociation} {r : Received} {relay : Relay}
    (hd : Dispatches cfg k e r relay s t) (ha : Advances s t)
    (hlive : 61 * Time.second ≤ timeToLive) (hs : Timely timeToLive s) : Timely timeToLive t := by
  have hentry := hs.served.entries k e hd.entry
  have htimely := hs.entries k e hd.entry
  obtain ⟨task, channel, hchannel, hself, houtcome⟩ := hd.outcome hentry
  have hhead : r ∈ e.value.channel := by
    rw [hchannel]
    exact List.mem_cons_self ..
  have hentries : ∀ k e, t.assocMap.lookup? k = some e → TimelyEntry t.now e := by
    intro k' e' he'
    by_cases hk : k' = k
    · subst hk
      obtain rfl := Option.some.inj (hself.symm.trans he')
      refine htimely.touch ha.now (.inl rfl) fun x hx => ?_
      rw [hchannel]
      exact List.mem_cons_of_mem _ hx
    · exact (hs.entries k' e' (hd.others k' hk ▸ he')).touch ha.now (.inl rfl) fun _ hx => hx
  -- only a packet that is accepted adds to what was relayed
  cases houtcome with
  | refused hadmits hrelayed htask =>
    exact hs.advances ha (hd.served ha hs.served) hentries hrelayed
  | accepted x hadmits hrelayed hhandle hpacket htime hnew htask =>
    have hof : OfSession k r := hentry.channel r hhead
    have hguarded : ∀ y ∈ t.relayed,
        InRange y.packet.receivedAt y.packet ∧ Guarded timeToLive t y := by
      intro y hy
      rw [hrelayed] at hy
      rcases List.mem_append.1 hy with hy | hy
      · exact ⟨(hs.relayed y hy).1, (hs.relayed y hy).2.advances hs ha⟩
      · obtain rfl := List.mem_singleton.1 hy
        rw [hpacket]
        refine ⟨(htimely.channel r hhead).2, .inr ?_⟩
        rw [hpacket, hof.session]
        exact ⟨_, hself, hhandle.symm, (htimely.channel r hhead).1⟩
    have honce : s.relayed.Pairwise fun a b =>
        SamePacket a.packet b.packet → ¬ InRange b.relayedAt b.packet := hs.once
    refine
      { served := hd.served ha hs.served
        expiry := ha.expiry.trans hs.expiry
        capacity := ha.capacity.trans hs.capacity
        received := hs.received_of_advances ha
        entries := hentries
        relayed := hguarded
        once := ?_ }
    rw [hrelayed, List.pairwise_append]
    refine ⟨honce, List.pairwise_singleton _ _, fun y hy z hz hsame => ?_⟩
    obtain rfl := List.mem_singleton.1 hz
    rw [hpacket] at hsame ⊢
    rw [htime]
    -- a packet that was relayed before is out of range, or its association still lives
    obtain ⟨hrange, hlate | ⟨e', he', hhandle', -⟩⟩ := hs.relayed y hy
    · exact not_inRange_of_lt hrange hsame.timestamp hlive hlate
    · -- the association that relayed it is this one, whose window knows the packet
      rw [hsame.clientSessionId, hof.session] at he'
      obtain rfl := Option.some.inj (hd.entry.symm.trans he')
      exact absurd ⟨y, hy, hhandle'.symm, hsame.packetId⟩ hnew

theorem udpServerStep_timely {event : UdpServerEvent} (hlive : 61 * Time.second ≤ timeToLive)
    (hs : Timely timeToLive s) (h : udpServerStep cfg s event = some t) : Timely timeToLive t := by
  obtain ⟨ha, hq | ⟨r, hh⟩ | ⟨k, net, e, r, assoc, -, hd⟩⟩ := udpServerStep_cases h
  · exact hq.timely ha hs
  · exact hh.timely ha hs
  · exact hd.timely ha hlive hs

/-! ## Copies -/

/-- **Replays.** Whatever the configuration, no association relays a packet id twice.
    If associations live for at least 61 seconds and their number is not limited, a copy
    of a packet that was relayed before is relayed only when its timestamp is out of
    range. -/
theorem relayed_at_most_once (cfg : UdpServerConfig crypto) (now : Time) {s : UdpServer}
    (h : Reachable (udpServerStep cfg) anyStep (.new cfg now) s) :
    (s.relayed.Pairwise fun a b =>
      a.handle = b.handle → a.packet.control.packetId ≠ b.packet.control.packetId) ∧
    (cfg.capacity = none → 61 * Time.second ≤ cfg.timeToLive →
      s.relayed.Pairwise fun a b =>
        SamePacket a.packet b.packet → ¬ InRange b.relayedAt b.packet) := by
  constructor
  · exact (reachable_served h).once
  · intro hcap hlive
    exact (h.invariant (Timely cfg.timeToLive) (timely_new hcap now)
      fun hs _ hstep => udpServerStep_timely hlive hs hstep).once

end Lives

/-! ### A sample run -/

def sampleServer (timeToLive : Time) (capacity : Option Nat) : UdpServerConfig CryptoSuite.transparent :=
  { context := openServer, method := .aead2022Blake3Aes128Gcm, key := List.replicate 16 1
    userManager := none, timeToLive := timeToLive, capacity := capacity }

/-- The first datagram of a session, sealed 100 seconds after the epoch. -/
def sampleDatagram (clientSessionId : Nat) : Bytes :=
  (Aead2022.encryptClientPayload CryptoSuite.transparent .aead2022Blake3Aes128Gcm
    (100 * Time.second) (List.replicate 16 1) (.socketAddress resolverAddr)
    { clientSessionId := clientSessionId, serverSessionId := 0, packetId := 1, user := none }
    [] [1] [] []).getD []

/-- A datagram is received, handed over and relayed. -/
def deliver (peerAddr : SocketAddr) (clientSessionId : Nat) : List UdpServerEvent :=
  [.receive peerAddr (sampleDatagram clientSessionId) [], .handOver 0 9,
    .dispatch clientSessionId quietNet]

/-- A datagram of session 7, and a copy that someone else sends 15 seconds later. -/
def replayRun : List UdpServerEvent :=
  deliver clientAddr 7 ++ [.advance (15 * Time.second)] ++ deliver attackerAddr 7

/-- The server's state after a run that starts at second 100. -/
def afterRun (timeToLive : Time) (capacity : Option Nat) (events : List UdpServerEvent) :
    Option UdpServer :=
  events.foldlM (@udpServerStep _ _ (sampleServer timeToLive capacity) keepNames)
    (.new (sampleServer timeToLive capacity) (100 * Time.second))

/-- What a run has relayed: by which association, the session id, the packet id and the
    timestamp of the packet, and when. -/
def relayedIn (timeToLive : Time) (capacity : Option Nat) (events : List UdpServerEvent) :
    Option (List (Nat × Nat × Nat × Nat × Nat)) :=
  (afterRun timeToLive capacity events).map fun s =>
    s.relayed.map fun x =>
      (x.handle, x.packet.control.clientSessionId, x.packet.control.packetId, x.packet.timestamp,
        x.relayedAt.unixSecs)

theorem relayed_at_most_once_sample : ∃ s, afterRun (61 * Time.second) none replayRun = some s ∧
    (s.relayed.Pairwise fun a b =>
      a.handle = b.handle → a.packet.control.packetId ≠ b.packet.control.packetId) ∧
    s.relayed.Pairwise fun a b =>
      SamePacket a.packet b.packet → ¬ InRange b.relayedAt b.packet := by
  obtain ⟨s, hs⟩ : ∃ s, afterRun (61 * Time.second) none replayRun = some s :=
    Option.isSome_iff_exists.1 (by decide +kernel)
  obtain ⟨honce, hcopies⟩ := @relayed_at_most_once _ _ keepNames (sampleServer (61 * Time.second) none)
    (100 * Time.second) s (Reachable.of_run hs)
  exact ⟨s, hs, honce, hcopies rfl (Nat.le_refl _)⟩

/-- A copy that someone else sends 15 seconds later is relayed once more, its timestamp
    still in range, if associations live for 10 seconds; and one that is sent at once is,
    if the server has room for one association and another session came in between. -/
theorem relayed_twice :
    relayedIn (10 * Time.second) none replayRun =
      some [(0, 7, 1, 100, 100), (1, 7, 1, 100, 115)] ∧
    relayedIn (300 * Time.second) (some 1)
        (deliver clientAddr 7 ++ deliver clientAddr 8 ++ deliver attackerAddr 7) =
      some [(0, 7, 1, 100, 100), (1, 8, 1, 100, 100), (2, 7, 1, 100, 100)] :=
  ⟨by decide +kernel, by decide +kernel⟩

end Shadowsocks.Server
