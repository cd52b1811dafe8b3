import Shadowsocks.Lib.Reachable
import Shadowsocks.Local.UdpAssociation
import Shadowsocks.Udp.WindowRuns

/-! # Packets of other sessions

A server puts the client session id of the session it answers into each packet, and an
association reads it and compares it with nothing.  A packet of another session is
delivered unless its id is one that the packets heard of its server session rule out
(`delivers_own_session_iff`).
-/

namespace Shadowsocks.Local

open Shadowsocks.Lib Shadowsocks.Net Shadowsocks.Udp

/-! ## Runs -/

/-- A packet that went to the local client, with the session of the association then. -/
structure Delivered where
  packet : Aead2022.OpenedPacket
  clientSessionId : Nat
deriving DecidableEq

structure AssociationRun where
  now : Time
  assoc : UdpAssociationContext
  delivered : List Delivered

/-- What `dispatch_packet` selects from: a packet from the local client, a datagram on the
    proxied or on a bypassed socket, or a tick; and the clock. -/
inductive AssociationEvent where
  | send (newSessionId : Nat) (connect : Except IoError ProxySocket) (sending : Except IoError Unit)
      (targetAddr : Address) (data : Bytes)
  | receive (datagram : Bytes)
  | bypassed
  | keepaliveTick (room : Bool)
  | advance (time : Time)

def AssociationRun.create (now : Time) (peerAddr : SocketAddr) (clientSessionId : Nat)
    (serverSessionExpireDuration : Time) : AssociationRun :=
  { now := now, assoc := .create peerAddr clientSessionId serverSessionExpireDuration
    delivered := [] }

variable {K : Type} (crypto : CryptoSuite K) (method : CipherKind)

def associationStep (s : AssociationRun) : AssociationEvent → Option AssociationRun
  | .send newSessionId connect sending targetAddr data =>
    some
      { s with
        assoc :=
          (dispatchReceivedProxiedPacket newSessionId connect sending targetAddr data s.assoc).2 }
  | .receive datagram =>
    (receiveProxied crypto method s.now datagram s.assoc).map fun (packet, assoc) =>
      { s with
        assoc := assoc
        delivered := s.delivered ++
          packet.toList.map fun p => { packet := p, clientSessionId := assoc.clientSessionId } }
  | .bypassed => some { s with assoc := s.assoc.sendReceivedRespondPacket }
  | .keepaliveTick room => some { s with assoc := (s.assoc.keepaliveTick room).2 }
  | .advance time => some { s with now := s.now + time }

/-! ## What was heard -/

/-- A packet that opened on the proxied socket: when, of which server session, and its id. -/
structure Heard where
  time : Time
  serverSessionId : Nat
  packetId : Nat
deriving DecidableEq

/-- A run, with the packets that opened on the proxied socket, the latest first. -/
structure HeardRun where
  run : AssociationRun
  heard : List Heard

/-- The ids that count against a packet of a server session: those that counted when the
    session was last heard, with the id heard then if it was in the window of them.  When
    nothing was heard of the session for longer than the expiry, none do. -/
def counting (expiry : Time) (serverSessionId : Nat) : Time → List Heard → Finset Nat
  | _, [] => ∅
  | now, h :: earlier =>
    if h.serverSessionId = serverSessionId then
      if now ≤ h.time + expiry then
        (windowCall (counting expiry serverSessionId h.time earlier)
          (.validatePacketId h.packetId packetIdLimit)).2
      else ∅
    else counting expiry serverSessionId now earlier

/-- The packet that a datagram opens to on the proxied socket. -/
def opens (s : AssociationRun) (datagram : Bytes) : Option Aead2022.OpenedPacket :=
  s.assoc.proxiedSocket.bind fun socket =>
    match recvWithCtrl crypto method s.now datagram socket with
    | .ready p => some p
    | _ => none

def HeardRun.create (now : Time) (peerAddr : SocketAddr) (clientSessionId : Nat)
    (serverSessionExpireDuration : Time) : HeardRun :=
  { run := .create now peerAddr clientSessionId serverSessionExpireDuration, heard := [] }

/-- What a step lets the association hear. -/
def hears (s : AssociationRun) : AssociationEvent → Option Heard
  | .receive datagram =>
    (opens crypto method s datagram).map fun p =>
      { time := s.now, serverSessionId := p.control.serverSessionId, packetId := p.control.packetId }
  | _ => none

def heardStep (s : HeardRun) (e : AssociationEvent) : Option HeardRun :=
  (associationStep crypto method s.run e).map fun run =>
    { run := run, heard := (hears crypto method s.run e).toList ++ s.heard }

/-- The datagram opens to a packet of another client session, whose id the packets heard of
    its server session do not rule out. -/
def misdirects (expiry : Time) (s : HeardRun) : AssociationEvent → Bool
  | .receive datagram =>
    (opens crypto method s.run datagram).any fun p =>
      decide (p.control.clientSessionId ≠ s.run.assoc.clientSessionId ∧
        InWindow (counting expiry p.control.serverSessionId s.run.now s.heard) p.control.packetId
          packetIdLimit)
  | _ => false

variable {crypto method}

@[simp] theorem checkServerPacket_clientSessionId (now : Time) (control : UdpSocketControlData)
    (assoc : UdpAssociationContext) :
    (assoc.checkServerPacket now control).2.clientSessionId = assoc.clientSessionId := by
  unfold UdpAssociationContext.checkServerPacket
  dsimp only
  split <;> rfl

/-- What becomes of a datagram on the proxied socket: a packet that opens is checked, and
    delivered if the check accepts it. -/
theorem receiveProxied_cases {s : AssociationRun} {datagram : Bytes}
    {assoc' : UdpAssociationContext} {packet : Option Aead2022.OpenedPacket}
    (h : receiveProxied crypto method s.now datagram s.assoc = some (packet, assoc')) :
    assoc'.clientSessionId = s.assoc.clientSessionId ∧
      ((opens crypto method s datagram = none ∧ packet = none ∧
          assoc'.serverSessionMap = s.assoc.serverSessionMap) ∨
        ∃ p, opens crypto method s datagram = some p ∧
          packet = (if (s.assoc.checkServerPacket s.now p.control).1 then some p else none) ∧
          assoc'.serverSessionMap =
            (s.assoc.checkServerPacket s.now p.control).2.serverSessionMap) := by
  unfold receiveProxied at h
  split at h
  · cases h
  · next socket hsocket =>
    split at h
    · next p hp =>
      have hopens : opens crypto method s datagram = some p := by simp [opens, hsocket, hp]
      have hsession := checkServerPacket_clientSessionId s.now p.control s.assoc
      split at h
      · next assoc₁ hcheck =>
        cases h
        rw [hcheck] at hsession
        exact ⟨hsession, .inr ⟨p, hopens, by rw [hcheck, if_pos rfl], by rw [hcheck]; rfl⟩⟩
      · next assoc₁ hcheck =>
        cases h
        rw [hcheck] at hsession
        exact ⟨hsession, .inr ⟨p, hopens, by rw [hcheck, if_neg Bool.false_ne_true], by rw [hcheck]⟩⟩
    · next e he =>
      cases h
      exact ⟨rfl, .inl ⟨by simp [opens, hsocket, he], rfl, rfl⟩⟩
    · cases h
    · cases h

/-- What a step leaves: a datagram that opens is heard, and other steps leave the map of
    server sessions as it is, and the clock never goes back. -/
inductive HeardStep (crypto : CryptoSuite K) (method : CipherKind) (s t : AssociationRun)
    (e : AssociationEvent) : Prop where
  | heard (datagram : Bytes) (p : Aead2022.OpenedPacket) (event : e = .receive datagram)
      (opened : opens crypto method s datagram = some p) (now : t.now = s.now)
      (map : t.assoc.serverSessionMap =
        (s.assoc.checkServerPacket s.now p.control).2.serverSessionMap)
      (delivered : t.delivered = s.delivered ++
        if (s.assoc.checkServerPacket s.now p.control).1 then
          [{ packet := p, clientSessionId := s.assoc.clientSessionId }]
        else [])
  | quiet (hears : hears crypto method s e = none) (now : s.now ≤ t.now)
      (map : t.assoc.serverSessionMap = s.assoc.serverSessionMap)
      (delivered : t.delivered = s.delivered)

theorem associationStep_cases {s t : AssociationRun} {e : AssociationEvent}
    (h : associationStep crypto method s e = some t) : HeardStep crypto method s t e := by
  cases e with
  | receive datagram =>
    obtain ⟨⟨packet, assoc'⟩, hreceive, rfl⟩ := Option.map_eq_some_iff.1 h
    obtain ⟨hsession, ⟨hopens, rfl, hmap⟩ | ⟨p, hopens, rfl, hmap⟩⟩ := receiveProxied_cases hreceive
    · exact .quiet (by simp [hears, hopens]) (Nat.le_refl _) hmap (List.append_nil _)
    · refine .heard datagram p rfl hopens rfl hmap ?_
      dsimp only
      rw [hsession]
      split <;> rfl
  | send newSessionId connect sending targetAddr data =>
    cases h
    exact .quiet rfl (Nat.le_refl _) (dispatch_serverSessionMap ..) rfl
  | bypassed =>
    cases h
    exact .quiet rfl (Nat.le_refl _) rfl rfl
  | keepaliveTick room =>
    cases h
    refine .quiet rfl (Nat.le_refl _) ?_ rfl
    simp only [UdpAssociationContext.keepaliveTick]
    split <;> rfl
  | advance time =>
    cases h
    exact .quiet rfl (Nat.le_add_right _ _) rfl rfl

/-! ## The windows follow what was heard -/

/-- Whenever a packet of a server session may arrive, the window that judges it stands for the
    ids that count. -/
structure Follows (expiry : Time) (s : HeardRun) : Prop where
  expires : s.run.assoc.serverSessionMap.expiry = some expiry
  capacity : s.run.assoc.serverSessionMap.capacity = none
  window : ∀ serverSessionId t, s.run.now ≤ t →
    Stands (windowAt t serverSessionId s.run.assoc.serverSessionMap)
      (counting expiry serverSessionId t s.heard)

theorem create_follows (now : Time) (peerAddr : SocketAddr) (clientSessionId : Nat) (expiry : Time) :
    Follows expiry (.create now peerAddr clientSessionId expiry) where
  expires := rfl
  capacity := rfl
  window _ _ _ := stands_new

/-- The window of a session that was just heard, at any later time. -/
theorem Checks.windowAt_self {now t expiry : Time} {control : UdpSocketControlData}
    {m m' : LruCache Nat ServerContext} {window : PacketWindowFilter} {accepted : Bool}
    (h : Checks now control m m' window accepted) (hexpiry : m.expiry = some expiry) :
    windowAt t control.serverSessionId m' =
      if t ≤ now + expiry then (window.validatePacketId control.packetId packetIdLimit).2
      else .new := by
  rw [windowAt_eq, h.entry, h.expiry, hexpiry, Option.filter_some]
  simp only [LruCache.alive, Option.all_some, decide_eq_true_eq]
  split <;> rfl

theorem Checks.windowAt_of_ne {now t : Time} {control : UdpSocketControlData}
    {m m' : LruCache Nat ServerContext} {window : PacketWindowFilter} {accepted : Bool} {k : Nat}
    (h : Checks now control m m' window accepted) (hne : k ≠ control.serverSessionId)
    (hle : now ≤ t) : windowAt t k m' = windowAt t k m := by
  rw [windowAt_eq, windowAt_eq, h.others k hne, h.expiry, LruCache.filter_alive_of_le hle]

theorem heardStep_follows {expiry : Time} {s t : HeardRun} {e : AssociationEvent}
    (hs : Follows expiry s) (h : heardStep crypto method s e = some t) : Follows expiry t := by
  obtain ⟨run, hrun, rfl⟩ := Option.map_eq_some_iff.1 h
  cases associationStep_cases hrun with
  | quiet hears now map _ =>
    rw [hears]
    exact ⟨map ▸ hs.expires, map ▸ hs.capacity, fun id t hle => map ▸ hs.window id t (now.trans hle)⟩
  | heard datagram p event opened now map _ =>
    subst event
    have hchecks := checkServerPacket_checks s.run.now p.control s.run.assoc hs.capacity
    rw [← map] at hchecks
    refine ⟨hchecks.expiry.trans hs.expires, hchecks.capacity.trans hs.capacity, ?_⟩
    intro id t hle
    dsimp only at hle ⊢
    rw [now] at hle
    simp only [hears, opened, Option.map_some, Option.toList_some, List.singleton_append, counting]
    by_cases hid : p.control.serverSessionId = id
    · subst hid
      rw [if_pos rfl, hchecks.windowAt_self hs.expires]
      by_cases hkept : t ≤ s.run.now + expiry
      · rw [if_pos hkept, if_pos hkept]
        exact ((hs.window _ s.run.now (Nat.le_refl _)).call
          (.validatePacketId p.control.packetId packetIdLimit)).2
      · rw [if_neg hkept, if_neg hkept]
        exact stands_new
    · rw [if_neg hid, hchecks.windowAt_of_ne (Ne.symm hid) hle]
      exact hs.window id t hle

theorem reachable_follows {ok : HeardRun → AssociationEvent → Prop} {now expiry : Time}
    {peerAddr : SocketAddr} {clientSessionId : Nat} {s : HeardRun}
    (h : Reachable (heardStep crypto method) ok (.create now peerAddr clientSessionId expiry) s) :
    Follows expiry s :=
  h.invariant (Follows expiry) (create_follows now peerAddr clientSessionId expiry)
    fun hs _ hstep => heardStep_follows hs hstep

/-- The check accepts what the packets heard do not rule out. -/
theorem Follows.accepts_iff {expiry : Time} {s : HeardRun} (hs : Follows expiry s)
    (control : UdpSocketControlData) :
    (s.run.assoc.checkServerPacket s.run.now control).1 = true ↔
      InWindow (counting expiry control.serverSessionId s.run.now s.heard) control.packetId
        packetIdLimit := by
  have hstands := hs.window control.serverSessionId s.run.now (Nat.le_refl _)
  rw [(checkServerPacket_checks s.run.now control s.run.assoc hs.capacity).verdict,
    ← hstands.admits_iff]
  exact (PacketWindowFilter.validatePacketId_spec hstands.represents _ _).1

/-! ## Deliveries -/

theorem misdirects_receive {expiry : Time} {s : HeardRun} {datagram : Bytes}
    {p : Aead2022.OpenedPacket} (h : opens crypto method s.run datagram = some p) :
    misdirects crypto method expiry s (.receive datagram) = true ↔
      p.control.clientSessionId ≠ s.run.assoc.clientSessionId ∧
        InWindow (counting expiry p.control.serverSessionId s.run.now s.heard) p.control.packetId
          packetIdLimit := by
  simp only [misdirects, h, Option.any_some, decide_eq_true_eq]

/-- Every delivery is of the session that the association had. -/
def OwnDeliveries (s : AssociationRun) : Prop :=
  ∀ d ∈ s.delivered, d.packet.control.clientSessionId = d.clientSessionId

theorem heardStep_ownDeliveries {expiry : Time} {s t : HeardRun} {e : AssociationEvent}
    (hfollows : Follows expiry s) (hs : OwnDeliveries s.run)
    (hok : misdirects crypto method expiry s e = false)
    (h : heardStep crypto method s e = some t) : OwnDeliveries t.run := by
  obtain ⟨run, hrun, rfl⟩ := Option.map_eq_some_iff.1 h
  intro d hd
  cases associationStep_cases hrun with
  | quiet _ _ _ delivered => exact hs d (delivered ▸ hd)
  | heard datagram p event opened _ _ delivered =>
    subst event
    rw [delivered, List.mem_append] at hd
    rcases hd with hold | hnew
    · exact hs d hold
    · by_cases haccept : (s.run.assoc.checkServerPacket s.run.now p.control).1 = true
      · rw [if_pos haccept, List.mem_singleton] at hnew
        subst hnew
        by_contra hother
        rw [(misdirects_receive opened).2 ⟨hother, (hfollows.accepts_iff p.control).1 haccept⟩] at hok
        cases hok
      · rw [if_neg haccept] at hnew
        cases hnew

/-- **Packets of other sessions.** In every state reached, a datagram gives the local client
    a packet of another session exactly if it opens to one whose id the packets heard of its
    server session do not rule out; in a run without such datagrams, every packet delivered
    is of the session that the association has at that time. -/
theorem delivers_own_session_iff (crypto : CryptoSuite K) (method : CipherKind) (now : Time)
    (peerAddr : SocketAddr) (clientSessionId : Nat) (serverSessionExpireDuration : Time) :
    (∀ s : HeardRun, Reachable (heardStep crypto method) anyStep
      (.create now peerAddr clientSessionId serverSessionExpireDuration) s →
      ∀ (datagram : Bytes) (packet : Option Aead2022.OpenedPacket) (assoc' : UdpAssociationContext),
      receiveProxied crypto method s.run.now datagram s.run.assoc = some (packet, assoc') →
      ((∀ p, packet = some p → p.control.clientSessionId = s.run.assoc.clientSessionId) ↔
        misdirects crypto method serverSessionExpireDuration s (.receive datagram) = false)) ∧
    ∀ s : HeardRun, Reachable (heardStep crypto method)
      (fun s e => misdirects crypto method serverSessionExpireDuration s e = false)
      (.create now peerAddr clientSessionId serverSessionExpireDuration) s →
      OwnDeliveries s.run := by
  constructor
  · intro s hs datagram packet assoc' h
    have hfollows := reachable_follows hs
    obtain ⟨-, ⟨hopens, rfl, -⟩ | ⟨p, hopens, rfl, -⟩⟩ := receiveProxied_cases h
    · simp [misdirects, hopens]
    · rw [← Bool.not_eq_true, misdirects_receive hopens, ← hfollows.accepts_iff]
      by_cases haccept : (s.run.assoc.checkServerPacket s.run.now p.control).1 = true
      · simp [haccept]
      · simp [haccept]
  · intro s h
    have hboth : Follows serverSessionExpireDuration s ∧ OwnDeliveries s.run := by
      apply h.invariant fun s => Follows serverSessionExpireDuration s ∧ OwnDeliveries s.run
      · exact ⟨create_follows _ _ _ _, fun d hd => nomatch hd⟩
      · exact fun hs hok hstep =>
          ⟨heardStep_follows hs.1 hstep, heardStep_ownDeliveries hs.1 hs.2 hok hstep⟩
    exact hboth.2

/-! ### A sample run -/

/-- A server's packet for a client session, sealed under the key. -/
def serverDatagram (clientSessionId serverSessionId packetId : Nat) : Bytes :=
  (Aead2022.encryptServerPayload CryptoSuite.transparent .aead2022Blake3Aes128Gcm
    (100 * Time.second) (List.replicate 16 1) (.socketAddress (.v4 0x01010101#32 53))
    { clientSessionId := clientSessionId, serverSessionId := serverSessionId, packetId := packetId
      user := none } [1] [] []).getD []

/-- The association sends a packet, and then datagrams arrive. -/
def listen (datagrams : List Bytes) : List AssociationEvent :=
  .send 0 (.ok { id := 0, key := List.replicate 16 1 }) (.ok ())
      (.socketAddress (.v4 0x01010101#32 53)) [1] :: datagrams.map .receive

/-- The client session ids in the packets that an association of session 7 delivers. -/
def deliveredIn (datagrams : List Bytes) : Option (List (Nat × Nat)) :=
  ((listen datagrams).foldlM (associationStep CryptoSuite.transparent .aead2022Blake3Aes128Gcm)
      (.create (100 * Time.second) (.v4 0x0a000001#32 1000) 7 (300 * Time.second))).map fun s =>
    s.delivered.map fun d => (d.packet.control.clientSessionId, d.clientSessionId)

/-- The event misdirects no packet of the sample. -/
def directs (s : HeardRun) (e : AssociationEvent) : Bool :=
  !misdirects CryptoSuite.transparent .aead2022Blake3Aes128Gcm (300 * Time.second) s e

/-- The run of an association of session 7, while no datagram is misdirected. -/
def ownRun (datagrams : List Bytes) : Option HeardRun :=
  (listen datagrams).foldlM (fun s e =>
    if directs s e then heardStep CryptoSuite.transparent .aead2022Blake3Aes128Gcm s e else none)
    (.create (100 * Time.second) (.v4 0x0a000001#32 1000) 7 (300 * Time.second))

/-- A packet for session 8 whose id was heard before is refused between two packets that are
    delivered. -/
theorem delivers_own_session_iff_sample :
    ∃ s, ownRun [serverDatagram 7 9 1, serverDatagram 8 9 1, serverDatagram 7 9 2] = some s ∧
      s.run.delivered.map (fun d => (d.packet.control.clientSessionId, d.clientSessionId)) =
        [(7, 7), (7, 7)] ∧
      s.heard.length = 3 ∧ OwnDeliveries s.run := by
  have hrun : (ownRun [serverDatagram 7 9 1, serverDatagram 8 9 1, serverDatagram 7 9 2]).map
      (fun s => (s.run.delivered.map fun d => (d.packet.control.clientSessionId, d.clientSessionId),
        s.heard.length)) = some ([(7, 7), (7, 7)], 3) := by
    decide +kernel
  obtain ⟨s, hs, hresult⟩ := Option.map_eq_some_iff.1 hrun
  obtain ⟨hdelivered, hheard⟩ := Prod.mk.inj hresult
  have hreach := Reachable.of_checked hs
  refine ⟨s, hs, hdelivered, hheard, ?_⟩
  exact (delivers_own_session_iff _ _ _ _ _ _).2 s
    (hreach.weaken fun s e hok => by simpa only [directs, Bool.not_eq_true'] using hok)

/-- A packet for session 8 is delivered to the client of session 7. -/
theorem delivers_other_session :
    deliveredIn [serverDatagram 7 9 1, serverDatagram 8 9 2] = some [(7, 7), (8, 7)] := by
  decide +kernel

end Shadowsocks.Local
