import Shadowsocks.Server.UdpServerRuns
import Shadowsocks.Udp.RoundTrip

/-! # Key lengths on the UDP server

`Aes128::new_from_slice` and `Aes256::new_from_slice` refuse a key that is not of their length, and
the code expects them not to.  Datagrams are opened with the server's own key, but a response to a
user is sealed with the user's, whatever length it has (`userKey_panics`).  No other key comes to
AES: of the packets that come in, those of a user are of one that the server knows
(`KnownUsers`).
-/

namespace Shadowsocks.Server

open Shadowsocks.Lib Shadowsocks.Net Shadowsocks.Udp

/-- The length of an `Aes128` key, or of an `Aes256` key, for the methods that use one. -/
def aesKeyLen : CipherKind → Option Nat
  | .aead2022Blake3Aes128Gcm => some 16
  | .aead2022Blake3Aes256Gcm => some 32
  | _ => none

/-- `new_from_slice(key)` of the method's AES is `Ok`. -/
def aesTakes (method : CipherKind) (key : Bytes) : Bool :=
  (aesKeyLen method).all fun len => key.length = len

variable {K : Type} {crypto : CryptoSuite K}

/-- The keys that `encrypt_message` and `decrypt_message` give to `new_from_slice` in a step. -/
def aesKeys (cfg : UdpServerConfig crypto) (s : UdpServer) : UdpServerEvent → List Bytes
  | .receive _ _ _ => [cfg.key]
  | .respond clientSessionId family addr data =>
    match (s.assocMap.lookup? clientSessionId).bind fun e => e.value.task with
    | none => []
    | some assoc =>
      if (assoc.socketOf family).isSome then
        ((sendReceivedRespondPacket cfg.key addr data assoc).1.map Response.key).toList
      else []
  | _ => []

/-- "AES-128 init" or "AES-256 init". -/
def aesPanics (cfg : UdpServerConfig crypto) (s : UdpServer) (event : UdpServerEvent) : Bool :=
  (aesKeys cfg s event).any fun key => !aesTakes cfg.method key

/-- In no run does a step panic over the length of a key. -/
def NeverAesPanics (cfg : UdpServerConfig crypto) : Prop :=
  ∀ (_ : Idna) (now : Time) (s : UdpServer),
    Reachable (udpServerStep cfg) (fun s e => aesPanics cfg s e = false) (.new cfg now) s →
    ∀ event, aesPanics cfg s event = false

/-! ## Known users -/

/-- No user, or one of those that the server has. -/
def Known (cfg : UdpServerConfig crypto) (user : Option ServerUser) : Prop :=
  ∀ u, user = some u → methodSupportEih cfg.method = true ∧
    ∃ users, cfg.userManager = some users ∧ u ∈ users.users

/-- Every packet and every session is of a user that the server knows. -/
structure KnownUsers (cfg : UdpServerConfig crypto) (s : UdpServer) : Prop where
  served : Served s
  received : ∀ r ∈ s.received, Known cfg r.control.user
  channel : ∀ k e, s.assocMap.lookup? k = some e → ∀ r ∈ e.value.channel, Known cfg r.control.user
  session : ∀ k e c session, s.assocMap.lookup? k = some e → e.value.task = some c →
    c.clientSession = some session → Known cfg session.clientUser

theorem known_none (cfg : UdpServerConfig crypto) : Known cfg none := fun _ h => nomatch h

theorem knownUsers_new (cfg : UdpServerConfig crypto) (now : Time) :
    KnownUsers cfg (.new cfg now) where
  served := served_new cfg now
  received r hr := by cases hr
  channel k e h := by cases h
  session k e c session h := by cases h

section Steps

variable {cfg : UdpServerConfig crypto} {s t : UdpServer}

theorem recvOnePacket_known [Idna] {peerAddr : SocketAddr} {datagram : Bytes}
    {answers : List Answer} (h : recvOnePacket cfg peerAddr datagram answers s = some t) :
    ∀ r ∈ t.received, r ∈ s.received ∨ Known cfg r.control.user := by
  unfold recvOnePacket at h
  split at h
  · next p hp =>
    split at h
    · cases h
      intro r hr
      rcases List.mem_append.1 hr with hr | hr
      · exact .inl hr
      · obtain rfl := List.mem_singleton.1 hr
        exact .inr fun u hu => Aead2022.decryptClientPayload_known _ hp hu
    · cases h
      exact fun r hr => .inl hr
  · cases h
    exact fun r hr => .inl hr
  · cases h
  · cases h

theorem sendPacket_received (r : Received) (serverSessionId : Nat) (s : UdpServer) :
    (sendPacket r serverSessionId s).received = s.received := by
  unfold sendPacket
  dsimp only
  split
  · rfl
  · rfl

theorem respond_received {k : Nat} {family : AddrFamily} {addr : SocketAddr} {data : Bytes}
    (h : respond cfg k family addr data s = some t) : t.received = s.received := by
  unfold respond at h
  split at h
  · cases h
  split at h
  · cases h
  split at h
  · cases h
    rfl
  · cases h

theorem socketFailed_received {k : Nat} {family : AddrFamily}
    (h : socketFailed k family s = some t) : t.received = s.received := by
  unfold socketFailed at h
  split at h
  · cases h
  split at h
  · cases h
  · cases h
    rfl

theorem keepaliveTick_received {k : Nat} (h : keepaliveTick k s = some t) :
    t.received = s.received := by
  unfold keepaliveTick at h
  split at h
  · cases h
  split at h
  · cases h
  dsimp only at h
  split at h
  · cases h
    rfl
  · cases h
    rfl

theorem Quiet.knownUsers (hq : Quiet cfg s t) (ha : Advances s t) (hs : KnownUsers cfg s)
    (hreceived : ∀ r ∈ t.received, r ∈ s.received ∨ Known cfg r.control.user) :
    KnownUsers cfg t where
  served := hq.served ha hs.served
  received r hr := (hreceived r hr).elim (hs.received r) id
  channel k e' he' := by
    obtain ⟨e, he, hsame, -⟩ := hq.carried k e' he'
    rw [hsame.channel]
    exact hs.channel k e he
  session k e' c' session he' hc' hsession := by
    obtain ⟨e, he, hsame, -⟩ := hq.carried k e' he'
    obtain ⟨c, hc, hmoved⟩ := hsame.task c' hc'
    exact hs.session k e c session he hc (hmoved.clientSession ▸ hsession)

theorem HandsOver.knownUsers {r : Received} (hh : HandsOver r s t) (ha : Advances s t)
    (hs : KnownUsers cfg s)
    (hreceived : ∀ r ∈ t.received, r ∈ s.received ∨ Known cfg r.control.user) :
    KnownUsers cfg t where
  served := hh.served ha hs.served
  received r hr := (hreceived r hr).elim (hs.received r) id
  channel k e' he' x hx := by
    rcases hh.entry_cases he' with ⟨e, he, htake, -⟩ | ⟨-, hnew, -⟩
    · rcases htake.channel with hsame | htaken
      · exact hs.channel k e he x (hsame ▸ hx)
      · rw [htaken] at hx
        rcases List.mem_append.1 hx with hx | hx
        · exact hs.channel k e he x hx
        · obtain rfl := List.mem_singleton.1 hx
          exact hs.received x hh.mem
    · rw [hnew.channel] at hx
      obtain rfl := List.mem_singleton.1 hx
      exact hs.received x hh.mem
  session k e' c session he' hc hsession := by
    rcases hh.entry_cases he' with ⟨e, he, htake, -⟩ | ⟨-, hnew, -⟩
    · exact hs.session k e c session he (htake.task ▸ hc) hsession
    · -- a new session has no user yet
      obtain ⟨serverSessionId, htask⟩ := hnew.task
      obtain rfl := Option.some.inj (htask.symm.trans hc)
      cases hsession
      exact known_none cfg

/-- The key of a response is the server's, or the one of a user that it knows. -/
theorem sendReceivedRespondPacket_known {addr : SocketAddr} {data : Bytes}
    {c : UdpAssociationContext} {response : Response}
    (hsession : ∀ session, c.clientSession = some session → Known cfg session.clientUser)
    (h : (sendReceivedRespondPacket cfg.key addr data c).1 = some response) :
    response.key = cfg.key ∨ ∃ user, Known cfg (some user) ∧ response.key = user.key := by
  unfold sendReceivedRespondPacket at h
  dsimp only at h
  split at h
  · cases h
    exact .inl rfl
  · next session hc =>
    split at h
    · cases h
      cases huser : session.clientUser with
      | none => exact .inl rfl
      | some user => exact .inr ⟨user, huser ▸ hsession session hc, rfl⟩
    · cases h

/-- The keys that a step gives to AES are the server's, and those of users that it knows. -/
theorem KnownUsers.aesKeys (hs : KnownUsers cfg s) {event : UdpServerEvent} {key : Bytes}
    (hkey : key ∈ aesKeys cfg s event) :
    key = cfg.key ∨ ∃ user, Known cfg (some user) ∧ key = user.key := by
  cases event with
  | receive peerAddr datagram answers => exact .inl (List.mem_singleton.1 hkey)
  | respond k family addr data =>
    dsimp only [Server.aesKeys] at hkey
    split at hkey
    · cases hkey
    · next c hc =>
      split at hkey
      · obtain ⟨e, he, htask⟩ := Option.bind_eq_some_iff.1 hc
        obtain ⟨response, hresponse, rfl⟩ :=
          Option.map_eq_some_iff.1 (Option.mem_toList.1 hkey)
        exact sendReceivedRespondPacket_known (fun session => hs.session k e c session he htask)
          hresponse
      · cases hkey
  | _ => cases hkey

variable [Idna]

/-- Only `recv_one_packet` brings packets in. -/
theorem udpServerStep_received {event : UdpServerEvent} (h : udpServerStep cfg s event = some t) :
    ∀ r ∈ t.received, r ∈ s.received ∨ Known cfg r.control.user := by
  cases event with
  | receive peerAddr datagram answers => exact recvOnePacket_known h
  | handOver i serverSessionId =>
    simp only [udpServerStep] at h
    split at h
    · cases h
    · cases h
      intro r hr
      rw [sendPacket_received] at hr
      exact .inl (List.mem_of_mem_eraseIdx hr)
  | discard i =>
    cases h
    exact fun r hr => .inl (List.mem_of_mem_eraseIdx hr)
  | dispatch k net =>
    obtain ⟨-, e, r, assoc, hd⟩ := dispatchNext_cases h
    exact fun r hr => .inl (hd.received ▸ hr)
  | respond k family addr data => exact fun r hr => .inl (respond_received h ▸ hr)
  | socketFailed k family => exact fun r hr => .inl (socketFailed_received h ▸ hr)
  | keepaliveTick k => exact fun r hr => .inl (keepaliveTick_received h ▸ hr)
  | keepAlive =>
    simp only [udpServerStep] at h
    split at h
    · cases h
    · cases h
      exact fun r hr => .inl hr
  | cleanupExpired =>
    cases h
    exact fun r hr => .inl hr
  | advance time =>
    cases h
    exact fun r hr => .inl hr

theorem Dispatches.knownUsers {k : Nat} {e : Entry Nat UdpAssociation} {r : Received}
    {relay : Relay} (hd : Dispatches cfg k e r relay s t) (ha : Advances s t)
    (hs : KnownUsers cfg s) : KnownUsers cfg t := by
  have hentry := hs.served.entries k e hd.entry
  obtain ⟨task, channel, hchannel, hself, houtcome⟩ := hd.outcome hentry
  have hsession : ∀ c, task = some c → ∀ session, c.clientSession = some session →
      Known cfg session.clientUser := by
    intro c hc session hsession
    cases houtcome with
    | refused hadmits hrelayed htask =>
      obtain rfl := Option.some.inj (htask.symm.trans hc)
      rw [UdpAssociationContext.followPeer_clientSession] at hsession
      exact hs.session k e relay.assoc session hd.entry hd.task hsession
    | accepted x hadmits hrelayed hhandle hpacket htime hnew htask =>
      -- the session is now the packet's user's
      obtain ⟨before, hbefore, -⟩ := hentry.session relay.assoc hd.task
      obtain ⟨control, after, hcontrol, hafter, -, -, huser, -⟩ :=
        (htask c hc).session before hbefore
      obtain rfl := Option.some.inj (hafter.symm.trans hsession)
      have hmem : r ∈ e.value.channel := by rw [hchannel]; exact List.mem_cons_self
      have hr : r.control = control := by rw [Received.control, hcontrol, Option.getD_some]
      rw [huser, ← hr]
      exact hs.channel k e hd.entry r hmem
  refine ⟨hd.served ha hs.served, hd.received ▸ hs.received, fun k' e' he' x hx => ?_,
    fun k' e' c session he' hc => ?_⟩
  · by_cases hk : k' = k
    · subst hk
      obtain rfl := Option.some.inj (hself.symm.trans he')
      exact hs.channel k' e hd.entry x (by rw [hchannel]; exact List.mem_cons_of_mem _ hx)
    · exact hs.channel k' e' (hd.others k' hk ▸ he') x hx
  · by_cases hk : k' = k
    · subst hk
      obtain rfl := Option.some.inj (hself.symm.trans he')
      exact hsession c hc session
    · exact hs.session k' e' c session (hd.others k' hk ▸ he') hc

theorem udpServerStep_knownUsers {event : UdpServerEvent} (hs : KnownUsers cfg s)
    (h : udpServerStep cfg s event = some t) : KnownUsers cfg t := by
  have hreceived := udpServerStep_received h
  obtain ⟨ha, hq | ⟨r, hh⟩ | ⟨k, net, e, r, assoc, -, hd⟩⟩ := udpServerStep_cases h
  · exact hq.knownUsers ha hs hreceived
  · exact hh.knownUsers ha hs hreceived
  · exact hd.knownUsers ha hs

theorem reachable_knownUsers {ok : UdpServer → UdpServerEvent → Prop} {now : Time}
    (h : Reachable (udpServerStep cfg) ok (.new cfg now) s) : KnownUsers cfg s :=
  h.invariant (KnownUsers cfg) (knownUsers_new cfg now)
    fun hs _ hstep => udpServerStep_knownUsers hs hstep

end Steps

/-! ## Panics -/

/-- A server whose keys fit never panics over one. -/
theorem neverAesPanics_of_fit {cfg : UdpServerConfig crypto} (hkey : aesTakes cfg.method cfg.key = true)
    (husers : methodSupportEih cfg.method = true → ∀ users, cfg.userManager = some users →
      ∀ user ∈ users.users, aesTakes cfg.method user.key = true) : NeverAesPanics cfg := by
  intro _ now s h event
  rw [aesPanics, List.any_eq_false]
  intro key hmem
  suffices htakes : aesTakes cfg.method key = true by rw [htakes]; decide
  rcases (reachable_knownUsers h).aesKeys hmem with rfl | ⟨user, hknown, rfl⟩
  · exact hkey
  · obtain ⟨heih, users, hmanager, huser⟩ := hknown user rfl
    exact husers heih users hmanager user huser

/-! ### A user's response -/

/-- An AES-2022 server with users. -/
def usersServer (method : CipherKind) (key : Bytes) (users : ServerUserManager crypto) :
    UdpServerConfig crypto :=
  { context := openServer, method, key, userManager := some users
    timeToLive := 300 * Time.second, capacity := none }

/-- The first packet of a user's session 7. -/
def userPacket (user : ServerUser) : Received :=
  { message :=
      { peerAddr := clientAddr, targetAddr := .socketAddress resolverAddr, data := [1]
        control := some { clientSessionId := 7, serverSessionId := 0, packetId := 1, user } }
    receivedAt := 0
    timestamp := 0 }

/-- The association of the session once it has let the packet through. -/
def userAssociation (user : ServerUser) : UdpAssociationContext :=
  { UdpAssociationContext.create clientAddr (some 7) 9 with
    clientSession := some
      { clientSessionId := 7
        packetWindowFilter :=
          (PacketWindowFilter.new.validatePacketId 1 UdpAssociationContext.packetIdLimit).2
        clientUser := some user } }

theorem admit_user (user : ServerUser) :
    @UdpAssociationContext.admitReceivedPacket keepNames openServer (userPacket user).message
      (.create clientAddr (some 7) 9) [] = (true, userAssociation user, []) := by
  have hvalid : PacketWindowFilter.new.validatePacketId 1 UdpAssociationContext.packetIdLimit =
      (true, (PacketWindowFilter.new.validatePacketId 1 UdpAssociationContext.packetIdLimit).2) :=
    Prod.ext rfl rfl
  have hblocked : @openServer.checkOutboundBlocked keepNames (.socketAddress resolverAddr) [] =
      (false, []) := rfl
  simp only [UdpAssociationContext.admitReceivedPacket, userPacket, hblocked,
    UdpAssociationContext.create, UdpAssociationContext.followPeer, Option.map_some,
    Option.getD_some, ClientSessionContext.new, userAssociation]
  rw [hvalid]
  rfl

/-- The packet is sent on from an IPv6 socket. -/
theorem relay_user (user : ServerUser) :
    @dispatchReceivedPacket keepNames openServer (userPacket user).message
        { assoc := .create clientAddr (some 7) 9, net := quietNet } =
      (.ready (),
        { assoc := { userAssociation user with outboundIpv6Socket := some 0 }
          net := { quietNet with opened := 1, sent := [(mappedTarget true resolverAddr, [1])] } }) := by
  unfold dispatchReceivedPacket
  dsimp only [quietNet]
  rw [admit_user]
  rfl

/-- The server when the packet has been handed over. -/
def handedOver (method : CipherKind) (key : Bytes) (users : ServerUserManager crypto)
    (user : ServerUser) : UdpServer :=
  { UdpServer.new (usersServer method key users) 0 with
    assocMap := (UdpServer.new (usersServer method key users) 0).assocMap.insert 0 7
      { handle := 0, task := some (.create clientAddr (some 7) 9), channel := [userPacket user] }
    nextHandle := 1 }

theorem handOver_user (method : CipherKind) (key : Bytes) (users : ServerUserManager crypto)
    (user : ServerUser) :
    @udpServerStep _ _ (usersServer method key users) keepNames
      { UdpServer.new (usersServer method key users) 0 with received := [userPacket user] }
      (.handOver 0 9) = some (handedOver method key users user) := rfl

/-- What comes back for the packet is sealed with the user's key. -/
theorem dispatch_user (method : CipherKind) (key : Bytes) (users : ServerUserManager crypto)
    (user : ServerUser) : ∃ s,
    @udpServerStep _ _ (usersServer method key users) keepNames (handedOver method key users user)
      (.dispatch 7 quietNet) = some s ∧
    aesKeys (usersServer method key users) s (.respond 7 .ipv6 resolverAddr [5]) = [user.key] := by
  let _ : Idna := keepNames
  have hlookup : (handedOver method key users user).assocMap.lookup? 7 = some
      { key := 7, touched := 0
        value :=
          { handle := 0, task := some (.create clientAddr (some 7) 9)
            channel := [userPacket user] } } := rfl
  obtain ⟨s, hs⟩ : ∃ s, dispatchNext (usersServer method key users) 7 quietNet
      (handedOver method key users user) = some s := by
    unfold dispatchNext
    rw [hlookup]
    dsimp only
    split
    · exact ⟨_, rfl⟩
    · exact ⟨_, rfl⟩
  refine ⟨s, hs, ?_⟩
  obtain ⟨-, e, r, assoc, hd⟩ := dispatchNext_cases hs
  obtain rfl := Option.some.inj (hlookup.symm.trans hd.entry)
  obtain rfl := Option.some.inj hd.task
  obtain ⟨channel, hchannel, task, htask, hready, hself⟩ := hd.channel
  cases hchannel
  have hrelay := relay_user user
  obtain ⟨c, rfl⟩ := Option.isSome_iff_exists.1 (hready (congrArg Prod.fst hrelay))
  obtain rfl := (htask c rfl).trans (congrArg (·.2.assoc) hrelay)
  dsimp only [aesKeys]
  rw [hself]
  rfl

section UserKey

variable {method : CipherKind} (heih : methodSupportEih method = true)
  (hblock : crypto.BlockCorrect) (hcorrect : (crypto.udpScheme method).Correct) (key : Bytes)
  {users : ServerUserManager crypto} {user : ServerUser} (huser : user ∈ users.users)
include heih hblock hcorrect huser

theorem receive_user : ∃ datagram,
    @udpServerStep _ _ (usersServer method key users) keepNames (.new (usersServer method key users) 0)
      (.receive clientAddr datagram []) =
        some { UdpServer.new (usersServer method key users) 0 with received := [userPacket user] } := by
  have haddr : (Address.socketAddress resolverAddr).IsPortable := (by decide : 53 < 2 ^ 16)
  have h2022 : method.isAead2022 = true := by
    rcases Aead2022.isAes_of_supportEih heih with rfl | rfl <;> rfl
  let control : UdpSocketControlData :=
    { clientSessionId := 7, serverSessionId := 0, packetId := 1, user := none }
  have hfits : Aead2022.ControlFits control := ⟨by decide, by decide, by decide⟩
  have hrange : absDiff (Time.unixSecs 0) (Time.unixSecs 0) ≤ Aead2022.serverPacketTimestampMaxDiff := by
    decide
  have hnonce : crypto.nonceLen method ≤ (List.replicate (crypto.nonceLen method) (0 : UInt8)).length := by
    simp
  have hpad : ([] : Bytes).length < 2 ^ 16 := by decide
  obtain ⟨datagram, -, hopen⟩ := (Aead2022.payload_roundTrip crypto method h2022 hblock hcorrect hrange
    (by decide) haddr hfits hnonce hpad key [1]).2.1 heih users user huser
  refine ⟨datagram, ?_⟩
  have hreceive : @udpServerStep _ _ (usersServer method key users) keepNames
      (.new (usersServer method key users) 0) (.receive clientAddr datagram []) =
        @recvOnePacket _ _ (usersServer method key users) keepNames clientAddr datagram []
          (.new (usersServer method key users) 0) := rfl
  rw [hreceive, recvOnePacket]
  dsimp only [usersServer, UdpServer.new]
  rw [hopen]
  rfl

/-- **A user's key.** A user whose key is not as long as an AES key of the method makes the server
    panic, with one packet and what comes back for it. -/
theorem userKey_panics (hkey : aesTakes method key = true) (hmisfit : aesTakes method user.key = false) :
    ¬NeverAesPanics (usersServer method key users) := by
  intro hnever
  obtain ⟨datagram, hreceive⟩ := receive_user heih hblock hcorrect key huser
  obtain ⟨s, hdispatch, hkeys⟩ := dispatch_user method key users user
  have hopened : aesPanics (usersServer method key users) (.new (usersServer method key users) 0)
      (.receive clientAddr datagram []) = false := by
    dsimp only [aesPanics, aesKeys, usersServer]
    rw [List.any_cons, hkey]
    rfl
  have hreach : Reachable (@udpServerStep _ _ (usersServer method key users) keepNames)
      (fun s e => aesPanics (usersServer method key users) s e = false)
      (.new (usersServer method key users) 0) s :=
    .step (.step (.step .refl hopened hreceive) rfl (handOver_user method key users user)) rfl
      hdispatch
  have hpanics := hnever keepNames 0 s hreach (.respond 7 .ipv6 resolverAddr [5])
  rw [aesPanics, hkeys] at hpanics
  dsimp only [usersServer] at hpanics
  rw [List.any_cons, hmisfit] at hpanics
  cases hpanics

end UserKey

end Shadowsocks.Server
