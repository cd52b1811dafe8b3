import Shadowsocks.Server.UdpServerRuns

/-! # Users of the UDP server

An association belongs to a client session id, and any user of the server may send
packets with that id.  Each one that is let through makes its sender the association's
user, and its address the one of the responses (`responses_crossed`).  Responses stay
with the user whose packets caused them as long as no other user's packet is let
through, and no refused one moves the address (`responses_isolated`).
-/

namespace Shadowsocks.Server

open Shadowsocks.Lib Shadowsocks.Net Shadowsocks.Udp

variable {K : Type} {crypto : CryptoSuite K}

/-! ## Associations of one user -/

/-- Only the user matters to the key of a response. -/
theorem serverSendKey_congr {key : Bytes} {a b : UdpSocketControlData} (h : a.user = b.user) :
    serverSendKey key a = serverSendKey key b := by
  unfold serverSendKey
  rw [h]

/-- A response is sealed under the key of the session's user. -/
theorem sendReceivedRespondPacket_key {key : Bytes} {addr : SocketAddr} {data : Bytes}
    {assoc : UdpAssociationContext} {session : ClientSessionContext} {response : Response}
    (hsession : assoc.clientSession = some session)
    (h : (sendReceivedRespondPacket key addr data assoc).1 = some response)
    {control : UdpSocketControlData} (huser : session.clientUser = control.user) :
    response.key = serverSendKey key control := by
  unfold sendReceivedRespondPacket at h
  simp only [hsession] at h
  split at h
  · cases h
    exact serverSendKey_congr huser
  · cases h

/-- Whom an association answers: the user of the packets it has relayed, at the address
    of one of them. -/
structure UserTask (s : UdpServer) (handle : Nat) (c : UdpAssociationContext) : Prop where
  user : ∀ session, c.clientSession = some session → ∀ x ∈ s.relayed, x.handle = handle →
    session.clientUser = x.packet.control.user
  address : (∃ x ∈ s.relayed, x.handle = handle) →
    ∃ x ∈ s.relayed, x.handle = handle ∧ x.packet.message.peerAddr = c.peerAddr
  opened : ∀ family, (c.socketOf family).isSome → ∃ x ∈ s.relayed, x.handle = handle

/-- A response goes to a user's address, under the user's key. -/
structure ForUser (cfg : UdpServerConfig crypto) (s : UdpServer) (handle : Nat)
    (response : Response) : Prop where
  address : ∃ x ∈ s.relayed, x.handle = handle ∧ x.packet.message.peerAddr = response.peerAddr
  key : ∀ x ∈ s.relayed, x.handle = handle → response.key = serverSendKey cfg.key x.packet.control

/-- Every association has one user, and answers that user only. -/
structure Isolated (cfg : UdpServerConfig crypto) (s : UdpServer) : Prop where
  served : Served s
  oneUser : ∀ x ∈ s.relayed, ∀ y ∈ s.relayed, x.handle = y.handle →
    x.packet.control.user = y.packet.control.user
  tasks : ∀ k e c, s.assocMap.lookup? k = some e → e.value.task = some c →
    UserTask s e.value.handle c
  responded : ∀ handle response, (handle, response) ∈ s.responded → ForUser cfg s handle response

theorem isolated_new (cfg : UdpServerConfig crypto) (now : Time) : Isolated cfg (.new cfg now) where
  served := served_new cfg now
  oneUser x hx := by cases hx
  tasks k e c h := by cases h
  responded handle response h := by cases h

section Steps

variable {cfg : UdpServerConfig crypto} {s t : UdpServer}

theorem UserTask.unmoved {handle : Nat} {c c' : UdpAssociationContext} (h : UserTask s handle c)
    (hmoved : c.Unmoved c') (hrelayed : t.relayed = s.relayed) : UserTask t handle c' where
  user session hsession := by
    rw [hrelayed]
    exact h.user session (hmoved.clientSession ▸ hsession)
  address := by
    rw [hrelayed, hmoved.peerAddr]
    exact h.address
  opened family hopen := by
    rw [hrelayed]
    exact h.opened family (hmoved.socketOf family hopen)

theorem ForUser.of_relayed {handle : Nat} {response : Response} (h : ForUser cfg s handle response)
    (hrelayed : t.relayed = s.relayed) : ForUser cfg t handle response where
  address := by
    rw [hrelayed]
    exact h.address
  key := by
    rw [hrelayed]
    exact h.key

/-- Another association's packet changes nothing. -/
theorem UserTask.append {handle : Nat} {c : UdpAssociationContext} {x : Relayed}
    (h : UserTask s handle c) (hrelayed : t.relayed = s.relayed ++ [x]) (hne : handle ≠ x.handle) :
    UserTask t handle c := by
  have hmem : ∀ y, (y ∈ t.relayed ∧ y.handle = handle) ↔ y ∈ s.relayed ∧ y.handle = handle := by
    intro y
    simp only [hrelayed, List.mem_append, List.mem_singleton]
    constructor
    · rintro ⟨hy | rfl, hhandle⟩
      · exact ⟨hy, hhandle⟩
      · exact absurd hhandle.symm hne
    · rintro ⟨hy, hhandle⟩
      exact ⟨.inl hy, hhandle⟩
  refine ⟨fun session hsession y hy hhandle => ?_, fun ⟨y, hy⟩ => ?_, fun family hopen => ?_⟩
  · obtain ⟨hy, hhandle⟩ := (hmem y).1 ⟨hy, hhandle⟩
    exact h.user session hsession y hy hhandle
  · obtain ⟨z, hz, hhandle, hpeer⟩ := h.address ⟨y, (hmem y).1 hy⟩
    exact ⟨z, ((hmem z).2 ⟨hz, hhandle⟩).1, hhandle, hpeer⟩
  · obtain ⟨z, hz⟩ := h.opened family hopen
    exact ⟨z, (hmem z).2 hz⟩

/-- A packet of the same user changes nothing about the responses before it. -/
theorem ForUser.append {handle : Nat} {response : Response} {x : Relayed}
    (h : ForUser cfg s handle response) (hrelayed : t.relayed = s.relayed ++ [x])
    (hone : ∀ y ∈ s.relayed, y.handle = x.handle → y.packet.control.user = x.packet.control.user) :
    ForUser cfg t handle response := by
  obtain ⟨z, hz, hhandle, hpeer⟩ := h.address
  refine ⟨⟨z, by rw [hrelayed]; exact List.mem_append_left _ hz, hhandle, hpeer⟩,
    fun y hy hy' => ?_⟩
  rw [hrelayed] at hy
  rcases List.mem_append.1 hy with hy | hy
  · exact h.key y hy hy'
  · obtain rfl := List.mem_singleton.1 hy
    exact (h.key z hz hhandle).trans (serverSendKey_congr (hone z hz (hhandle.trans hy'.symm)))

/-- What an association sends from an open socket is for its user. -/
theorem Responds.forUser {handle : Nat} {response : Response} (hr : Responds cfg s handle response)
    (hs : Isolated cfg s) : ForUser cfg s handle response := by
  obtain ⟨k, e, c, family, addr, data, he, rfl, htask, hopen, hresponse⟩ := hr.source
  have huser := hs.tasks k e c he htask
  obtain ⟨session, hsession, -⟩ := (hs.served.entries k e he).session c htask
  constructor
  · rw [sendReceivedRespondPacket_peerAddr hresponse]
    exact huser.address (huser.opened family hopen)
  · intro x hx hhandle
    exact sendReceivedRespondPacket_key hsession hresponse (huser.user session hsession x hx hhandle)

theorem Quiet.isolated (hq : Quiet cfg s t) (ha : Advances s t) (hs : Isolated cfg s) :
    Isolated cfg t where
  served := hq.served ha hs.served
  oneUser := by
    rw [hq.relayed]
    exact hs.oneUser
  tasks k e' c' he' hc' := by
    obtain ⟨e, he, hsame, -⟩ := hq.carried k e' he'
    obtain ⟨c, hc, hmoved⟩ := hsame.task c' hc'
    rw [hsame.handle]
    exact (hs.tasks k e c he hc).unmoved hmoved hq.relayed
  responded handle response h := by
    rcases hq.responded with hsame | ⟨handle', response', happend, hresponds⟩
    · exact (hs.responded handle response (hsame ▸ h)).of_relayed hq.relayed
    · rw [happend] at h
      rcases List.mem_append.1 h with h | h
      · exact (hs.responded handle response h).of_relayed hq.relayed
      · obtain ⟨rfl, rfl⟩ := Prod.mk.inj (List.mem_singleton.1 h)
        exact (hresponds.forUser hs).of_relayed hq.relayed

theorem HandsOver.isolated {r : Received} (hh : HandsOver r s t) (ha : Advances s t)
    (hs : Isolated cfg s) : Isolated cfg t where
  served := hh.served ha hs.served
  oneUser := by
    rw [hh.relayed]
    exact hs.oneUser
  tasks k e' c' he' hc' := by
    rcases hh.entry_cases he' with ⟨e, he, htake, -⟩ | ⟨rfl, hnew, -⟩
    · rw [htake.handle]
      exact (hs.tasks k e c' he (htake.task ▸ hc')).unmoved (.refl c') hh.relayed
    · -- a new association has relayed nothing and opened no socket
      obtain ⟨serverSessionId, htask⟩ := hnew.task
      obtain rfl := Option.some.inj (htask.symm.trans hc')
      have hfresh : ∀ x ∈ t.relayed, x.handle ≠ e'.value.handle := by
        intro x hx heq
        rw [hh.relayed] at hx
        rw [hnew.handle] at heq
        exact absurd (hs.served.relayedHandle x hx) (by omega)
      exact ⟨fun _ _ x hx hx' => absurd hx' (hfresh x hx),
        fun ⟨x, hx, hx'⟩ => absurd hx' (hfresh x hx), fun family hopen => by cases family <;> cases hopen⟩
  responded handle response h := by
    rw [hh.responded] at h
    exact (hs.responded handle response h).of_relayed hh.relayed

/-- A packet that an association lets through from its user. -/
theorem UserTask.accept {x : Relayed} {c c' : UdpAssociationContext} {accepted : Set Nat}
    (hrelayed : t.relayed = s.relayed ++ [x]) (hcontrol : x.packet.message.control = some x.packet.control)
    (hsession : c.clientSession.isSome)
    (haccepted : UdpAssociationContext.Accepted accepted x.packet.message c c')
    (hone : ∀ y ∈ s.relayed, y.handle = x.handle → y.packet.control.user = x.packet.control.user) :
    UserTask t x.handle c' := by
  have hmem : x ∈ t.relayed := by simp [hrelayed]
  refine ⟨fun session' hsession' y hy hhandle => ?_,
    fun _ => ⟨x, hmem, rfl, haccepted.peerAddr.symm⟩, fun _ _ => ⟨x, hmem, rfl⟩⟩
  obtain ⟨session, hsession⟩ := Option.isSome_iff_exists.1 hsession
  obtain ⟨control, session₁, hcontrol₁, hsession₁, -, -, huser, -⟩ := haccepted.session session hsession
  obtain rfl := Option.some.inj (hsession₁.symm.trans hsession')
  obtain rfl := Option.some.inj (hcontrol.symm.trans hcontrol₁)
  rw [hrelayed] at hy
  rcases List.mem_append.1 hy with hy | hy
  · exact huser.trans (hone y hy hhandle).symm
  · obtain rfl := List.mem_singleton.1 hy
    exact huser

/-- What a refused packet leaves: an association as it was, if it came from the address
    on record. -/
theorem refused_followPeer {c : UdpAssociationContext} {peerAddr : SocketAddr}
    (h : peerAddr = c.peerAddr) : c.followPeer peerAddr = c :=
  (UdpAssociationContext.followPeer_eq_self_iff peerAddr).2 (.inr h)

variable [Idna]

/-- A packet that an association lets through has the user of all packets that it has
    relayed, and one that it refuses comes from the address on record. -/
def keepsUser (cfg : UdpServerConfig crypto) (s : UdpServer) : UdpServerEvent → Bool
  | .dispatch k net =>
    match s.assocMap.lookup? k with
    | none => true
    | some e =>
      match e.value.task, e.value.channel with
      | some c, r :: _ =>
        if admits cfg.context r.message { assoc := c, net := { net with sent := [] } } then
          s.relayed.all fun x =>
            decide (x.handle = e.value.handle → x.packet.control.user = r.control.user)
        else decide (r.message.peerAddr = c.peerAddr)
      | _, _ => true
  | _ => true

theorem keepsUser_dispatch {k : Nat} {net : Outbound} {e : Entry Nat UdpAssociation} {r : Received}
    {channel : List Received} {c : UdpAssociationContext}
    (hok : keepsUser cfg s (.dispatch k net) = true) (he : s.assocMap.lookup? k = some e)
    (hc : e.value.task = some c) (hchannel : e.value.channel = r :: channel) :
    if admits cfg.context r.message { assoc := c, net := { net with sent := [] } } then
      ∀ x ∈ s.relayed, x.handle = e.value.handle → x.packet.control.user = r.control.user
    else r.message.peerAddr = c.peerAddr := by
  simp only [keepsUser, he, hc, hchannel] at hok
  split at hok
  · next hadmits =>
    rw [if_pos hadmits]
    intro x hx
    exact of_decide_eq_true (List.all_eq_true.1 hok x hx)
  · next hrefused =>
    rw [if_neg hrefused]
    exact of_decide_eq_true hok

theorem Dispatches.isolated {k : Nat} {net : Outbound} {e : Entry Nat UdpAssociation} {r : Received}
    {assoc : UdpAssociationContext}
    (hd : Dispatches cfg k e r { assoc := assoc, net := { net with sent := [] } } s t)
    (ha : Advances s t) (hok : keepsUser cfg s (.dispatch k net) = true) (hs : Isolated cfg s) :
    Isolated cfg t := by
  have hserved := hd.served ha hs.served
  have hentry := hs.served.entries k e hd.entry
  obtain ⟨task, channel, hchannel, hself, houtcome⟩ := hd.outcome hentry
  have hkeeps := keepsUser_dispatch hok hd.entry hd.task hchannel
  have htask₀ := hs.tasks k e assoc hd.entry hd.task
  cases houtcome with
  | refused hadmits hrelayed htask =>
    rw [if_neg (Bool.eq_false_iff.1 hadmits)] at hkeeps
    refine ⟨hserved, by rw [hrelayed]; exact hs.oneUser, fun k' e' c' he' hc' => ?_,
      fun handle response h => ?_⟩
    · by_cases hk : k' = k
      · subst hk
        obtain rfl := Option.some.inj (hself.symm.trans he')
        obtain rfl : c' = assoc :=
          (Option.some.inj (htask.symm.trans hc')).symm.trans (refused_followPeer hkeeps)
        exact htask₀.unmoved (.refl c') hrelayed
      · exact (hs.tasks k' e' c' (hd.others k' hk ▸ he') hc').unmoved (.refl c') hrelayed
    · rw [hd.responded] at h
      exact (hs.responded handle response h).of_relayed hrelayed
  | accepted x hadmits hrelayed hhandle hpacket htime hnew htask =>
    rw [if_pos hadmits] at hkeeps
    have hof : OfSession k r := hentry.channel r (by rw [hchannel]; exact List.mem_cons_self ..)
    -- the packet is of the user whose packets the association has relayed
    have hone : ∀ y ∈ s.relayed, y.handle = x.handle →
        y.packet.control.user = x.packet.control.user := by
      intro y hy heq
      rw [hpacket]
      exact hkeeps y hy (heq.trans hhandle)
    have hmem : ∀ y ∈ t.relayed, y ∈ s.relayed ∨ y = x := by
      intro y hy
      rw [hrelayed] at hy
      simpa using hy
    refine ⟨hserved, fun y hy z hz heq => ?_, fun k' e' c' he' hc' => ?_, fun handle response h => ?_⟩
    · rcases hmem y hy with hy | rfl <;> rcases hmem z hz with hz | rfl
      · exact hs.oneUser y hy z hz heq
      · exact hone y hy heq
      · exact (hone z hz heq.symm).symm
      · rfl
    · by_cases hk : k' = k
      · subst hk
        obtain rfl := Option.some.inj (hself.symm.trans he')
        obtain ⟨session, hsession, -⟩ := hentry.session assoc hd.task
        rw [show UserTask t e.value.handle c' = UserTask t x.handle c' by rw [hhandle]]
        have haccepted := htask c' hc'
        rw [← hpacket] at haccepted hof
        exact UserTask.accept hrelayed hof.control_eq (by rw [hsession]; rfl) haccepted hone
      · -- another association has relayed nothing new
        have he₀ := hd.others k' hk ▸ he'
        have hne : e'.value.handle ≠ x.handle := fun heq =>
          hk (hs.served.unique k' k e' e he₀ hd.entry (heq.trans hhandle))
        exact (hs.tasks k' e' c' he₀ hc').append hrelayed hne
    · rw [hd.responded] at h
      exact (hs.responded handle response h).append hrelayed hone

theorem udpServerStep_isolated {event : UdpServerEvent} (hs : Isolated cfg s)
    (hok : keepsUser cfg s event = true) (h : udpServerStep cfg s event = some t) : Isolated cfg t := by
  obtain ⟨ha, hq | ⟨r, hh⟩ | ⟨k, net, e, r, assoc, rfl, hd⟩⟩ := udpServerStep_cases h
  · exact hq.isolated ha hs
  · exact hh.isolated ha hs
  · exact hd.isolated ha hok hs

theorem reachable_isolated {now : Time}
    (h : Reachable (udpServerStep cfg) (fun s e => keepsUser cfg s e = true) (.new cfg now) s) :
    Isolated cfg s :=
  h.invariant (Isolated cfg) (isolated_new cfg now)
    fun hs hok hstep => udpServerStep_isolated hs hok hstep

/-- Another user's packet is refused, and leaves the association as it was. -/
theorem dispatch_other_user {k : Nat} {net : Outbound} {e : Entry Nat UdpAssociation} {r : Received}
    {channel : List Received} {c : UdpAssociationContext} {x : Relayed} (hs : Isolated cfg s)
    (hok : keepsUser cfg s (.dispatch k net) = true)
    (h : udpServerStep cfg s (.dispatch k net) = some t) (he : s.assocMap.lookup? k = some e)
    (hc : e.value.task = some c) (hchannel : e.value.channel = r :: channel) (hx : x ∈ s.relayed)
    (hhandle : x.handle = e.value.handle) (huser : x.packet.control.user ≠ r.control.user) :
    ∃ e', t.assocMap.lookup? k = some e' ∧ e'.value.task = some c := by
  have hkeeps := keepsUser_dispatch hok he hc hchannel
  have hadmits : admits cfg.context r.message { assoc := c, net := { net with sent := [] } } = false := by
    apply Bool.eq_false_iff.2
    intro hadmits
    rw [if_pos hadmits] at hkeeps
    exact huser (hkeeps x hx hhandle)
  rw [if_neg (Bool.eq_false_iff.1 hadmits)] at hkeeps
  obtain ⟨-, e', r', c', hd⟩ := dispatchNext_cases h
  obtain rfl := Option.some.inj (he.symm.trans hd.entry)
  obtain rfl := Option.some.inj (hc.symm.trans hd.task)
  obtain ⟨task, channel', hchannel', hself, houtcome⟩ := hd.outcome (hs.served.entries k e he)
  obtain ⟨rfl, rfl⟩ := List.cons.inj (hchannel.symm.trans hchannel')
  cases houtcome with
  | refused _ _ htask => exact ⟨_, hself, htask.trans (congrArg some (refused_followPeer hkeeps))⟩
  | accepted _ haccepted =>
    rw [hadmits] at haccepted
    cases haccepted

end Steps

/-! ## Isolation -/

/-- **Isolation of users.** In a run in which no association lets through packets of two
    users, and no refused packet moves an address, every response goes to an address of
    the user whose packets the association relays and is sealed under that user's key,
    and a packet of another user leaves the association as it is. -/
theorem responses_isolated [Idna] (cfg : UdpServerConfig crypto) (now : Time) {s : UdpServer}
    (h : Reachable (udpServerStep cfg) (fun s e => keepsUser cfg s e = true) (.new cfg now) s) :
    (∀ handle response, (handle, response) ∈ s.responded →
      (∃ x ∈ s.relayed, x.handle = handle ∧ x.packet.message.peerAddr = response.peerAddr) ∧
      ∀ x ∈ s.relayed, x.handle = handle →
        response.key = serverSendKey cfg.key x.packet.control) ∧
    (∀ x ∈ s.relayed, ∀ y ∈ s.relayed, x.handle = y.handle →
      x.packet.control.user = y.packet.control.user) ∧
    ∀ (t : UdpServer) (k : Nat) (net : Outbound) (e : Entry Nat UdpAssociation) (r : Received)
      (channel : List Received) (c : UdpAssociationContext) (x : Relayed),
      keepsUser cfg s (.dispatch k net) = true → udpServerStep cfg s (.dispatch k net) = some t →
      s.assocMap.lookup? k = some e → e.value.task = some c → e.value.channel = r :: channel →
      x ∈ s.relayed → x.handle = e.value.handle → x.packet.control.user ≠ r.control.user →
      ∃ e', t.assocMap.lookup? k = some e' ∧ e'.value.task = some c := by
  have hs := reachable_isolated h
  refine ⟨fun handle response hmem => ?_, hs.oneUser, ?_⟩
  · have hfor := hs.responded handle response hmem
    exact ⟨hfor.address, hfor.key⟩
  · intro t k net e r channel c x hok hstep he hc hchannel hx hhandle huser
    exact dispatch_other_user hs hok hstep he hc hchannel hx hhandle huser

/-! ### A sample run -/

def sampleUser (name : String) (key : UInt8) : ServerUser :=
  { name := name, key := List.replicate 16 key }

/-- A server with two users. -/
def sampleUsers : UdpServerConfig CryptoSuite.transparent :=
  { context := openServer, method := .aead2022Blake3Aes128Gcm, key := List.replicate 16 1
    userManager := some ((ServerUserManager.new.addUser (sampleUser "u" 2)).addUser (sampleUser "v" 3))
    timeToLive := 300 * Time.second, capacity := none }

/-- A user's packet of some session. -/
def userDatagram (key : UInt8) (clientSessionId packetId : Nat) : Bytes :=
  (Aead2022.encryptClientPayload CryptoSuite.transparent .aead2022Blake3Aes128Gcm
    (100 * Time.second) (List.replicate 16 key) (.socketAddress resolverAddr)
    { clientSessionId := clientSessionId, serverSessionId := 0, packetId := packetId, user := none }
    [List.replicate 16 1] [1] [] []).getD []

def deliverFrom (peerAddr : SocketAddr) (key : UInt8) (clientSessionId packetId : Nat) :
    List UdpServerEvent :=
  [.receive peerAddr (userDatagram key clientSessionId packetId) [], .handOver 0 9,
    .dispatch clientSessionId quietNet]

/-- A session of the user `u` and one of `v`, a response in each, a packet of `v` with the session id
    of `u` that is refused for its number, and another response to `u`. -/
def isolatedRun : List UdpServerEvent :=
  deliverFrom clientAddr 2 7 1 ++ deliverFrom attackerAddr 3 8 1 ++
    [.respond 7 .ipv6 resolverAddr [5], .respond 8 .ipv6 resolverAddr [6]] ++
    deliverFrom clientAddr 3 7 1 ++ [.respond 7 .ipv6 resolverAddr [5]]

theorem responses_isolated_sample : ∃ s, Reachable (@udpServerStep _ _ sampleUsers keepNames)
      (fun s e => @keepsUser _ _ keepNames sampleUsers s e = true)
      (.new sampleUsers (100 * Time.second)) s ∧
    (s.relayed.map Relayed.handle,
      s.responded.map fun (handle, response) => (handle, response.peerAddr, response.key)) =
      ([0, 1], [(0, clientAddr, List.replicate 16 2), (1, attackerAddr, List.replicate 16 3),
        (0, clientAddr, List.replicate 16 2)]) ∧
    ∀ handle response, (handle, response) ∈ s.responded →
      (∃ x ∈ s.relayed, x.handle = handle ∧ x.packet.message.peerAddr = response.peerAddr) ∧
      ∀ x ∈ s.relayed, x.handle = handle →
        response.key = serverSendKey sampleUsers.key x.packet.control := by
  obtain ⟨s, hs, hlogs⟩ : ∃ s, isolatedRun.foldlM (fun s e =>
        if @keepsUser _ _ keepNames sampleUsers s e then
          @udpServerStep _ _ sampleUsers keepNames s e
        else none)
      (.new sampleUsers (100 * Time.second)) = some s ∧
      (s.relayed.map Relayed.handle,
        s.responded.map fun (handle, response) => (handle, response.peerAddr, response.key)) =
        ([0, 1], [(0, clientAddr, List.replicate 16 2), (1, attackerAddr, List.replicate 16 3),
          (0, clientAddr, List.replicate 16 2)]) :=
    Option.map_eq_some_iff.1 (by decide +kernel)
  have hreach := Reachable.of_checked hs
  exact ⟨s, hreach, hlogs,
    (@responses_isolated _ _ keepNames sampleUsers (100 * Time.second) s hreach).1⟩

/-- The users of the packets relayed in a run, and the addresses and keys of its
    responses. -/
def answersIn (events : List UdpServerEvent) :
    Option (List (Nat × Option String) × List (Nat × SocketAddr × Bytes)) :=
  (events.foldlM (@udpServerStep _ _ sampleUsers keepNames)
      (.new sampleUsers (100 * Time.second))).map fun s =>
    (s.relayed.map fun x => (x.handle, x.packet.control.user.map ServerUser.name),
      s.responded.map fun (handle, response) => (handle, response.peerAddr, response.key))

/-- The user `v` sends a packet with the session id of the user `u`; what comes back for
    the packet of `u` is sent to `v`, under the key of `v`. -/
theorem responses_crossed :
    answersIn (deliverFrom clientAddr 2 7 1 ++ [.respond 7 .ipv6 resolverAddr [5]]) =
      some ([(0, some "u")], [(0, clientAddr, List.replicate 16 2)]) ∧
    answersIn (deliverFrom clientAddr 2 7 1 ++ deliverFrom attackerAddr 3 7 2 ++
        [.respond 7 .ipv6 resolverAddr [5]]) =
      some ([(0, some "u"), (0, some "v")], [(0, attackerAddr, List.replicate 16 3)]) :=
  ⟨by decide +kernel, by decide +kernel⟩

end Shadowsocks.Server
