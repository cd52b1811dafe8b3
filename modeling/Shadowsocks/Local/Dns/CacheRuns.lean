import Shadowsocks.Local.Dns.ClientCache

/-! # Runs of the DNS client cache

A client in the cache is nobody's, and is connected to the name server that its key names; on a
stream it has been answered all it asked (`CacheInvariant`).  Datagrams are another matter: an answer
that comes once more stays in the socket for the lookup that has the client next.
-/

namespace Shadowsocks.Local.Dns

open Shadowsocks.Lib Shadowsocks.Net

section Runs

variable {S : Type} [ProxyServers S] [Hickory]

/-! ## Frames -/

omit [Hickory] in
theorem readFrame_nil : readFrame [] = none := rfl

omit [Hickory] in
theorem readFrame_frame {message : Bytes} (h : message.length < 2 ^ 16) :
    readFrame (frame message) = some (message, []) := by
  have hlength : (bigEndian 2 message.length).length = 2 := bigEndian_length ..
  have htake : (frame message).take 2 = bigEndian 2 message.length := List.take_left' hlength
  have hdrop : (frame message).drop 2 = message := List.drop_left' hlength
  have hsize : (frame message).length = 2 + message.length := by
    rw [frame, List.length_append, hlength]
  have hvalue : fromBigEndian (bigEndian 2 message.length) = message.length :=
    fromBigEndian_bigEndian_of_lt h
  unfold readFrame
  dsimp only
  rw [htake, hvalue, if_neg (by omega), hdrop, List.take_length, ← hsize, List.drop_length]

/-! ## Connections -/

namespace Connection

variable {c c' : Connection S} {query : Message}

/-- What waits to be received are answers, and what a lookup waits for is the last of them. -/
structure Sound (c : Connection S) : Prop where
  datagrams : ∀ d ∈ c.datagrams,
    (∃ query, c.queries[d.number]? = some query ∧ answers query d.reply = true) ∧
      ∃ sealing, c.client.datagram sealing d.reply = some d.packet
  waiting : ∀ query, c.waiting = some query → c.queries.getLast? = some query

/-- All that was asked on a stream has been answered, and read. -/
def Idle (c : Connection S) : Prop :=
  c.client.isUdp = false → c.stream = [] ∧ c.replied = c.queries.length

/-- The answer to the last question is all that a stream carries, or is to carry. -/
def Expects (c : Connection S) (query : Message) : Prop :=
  c.client.isUdp = false →
    (c.stream = [] ∧ c.replied + 1 = c.queries.length) ∨
      ∃ reply, reply.length < 2 ^ 16 ∧ c.stream = frame reply ∧ c.replied = c.queries.length ∧
        answers query reply = true

theorem sound_new (client : DnsClient S) : (new client).Sound where
  datagrams := nofun
  waiting := nofun

theorem Sound.send (h : c.Sound) (query : Message) : (c.send query).Sound where
  datagrams d hmem := by
    obtain ⟨⟨query', hquery, hanswers⟩, hpacket⟩ := h.datagrams d hmem
    have hlt : d.number < c.queries.length := (List.getElem?_eq_some_iff.1 hquery).1
    exact ⟨⟨query', (List.getElem?_append_left hlt).trans hquery, hanswers⟩, hpacket⟩
  waiting query' heq := by
    obtain rfl := Option.some.inj heq
    exact List.getLast?_concat

omit [ProxyServers S] in
theorem Idle.send (h : c.Idle) (query : Message) : (c.send query).Expects query := by
  intro htcp
  obtain ⟨hstream, hreplied⟩ := h htcp
  refine .inl ⟨hstream, ?_⟩
  change c.replied + 1 = (c.queries ++ [query]).length
  rw [List.length_append, hreplied, List.length_singleton]

theorem Sound.release (h : c.Sound) : c.release.Sound where
  datagrams := h.datagrams
  waiting := nofun

/-- What a reply does to a connection. -/
theorem reply_cases {number : Nat} {message : Bytes} {sealing : Sealing}
    (h : c.reply number message sealing = some c') :
    ∃ query, c.queries[number]? = some query ∧ answers query message = true ∧
      ((c.client.isUdp = true ∧ ∃ packet, c.client.datagram sealing message = some packet ∧
          c' = { c with datagrams := c.datagrams ++ [⟨number, message, packet⟩] }) ∨
        (c.client.isUdp = false ∧ number = c.replied ∧ message.length < 2 ^ 16 ∧
          c' = { c with stream := c.stream ++ frame message, replied := c.replied + 1 })) := by
  unfold reply at h
  cases hquery : c.queries[number]? with
  | none =>
    rw [hquery] at h
    cases h
  | some query =>
    rw [hquery] at h
    dsimp only at h
    split at h
    · next hanswers =>
      refine ⟨query, rfl, hanswers, ?_⟩
      split at h
      · next hudp =>
        split at h
        · obtain ⟨packet, hpacket, rfl⟩ := Option.map_eq_some_iff.1 h
          exact .inl ⟨hudp, packet, hpacket, rfl⟩
        · cases h
      · next htcp =>
        split at h
        · next hnumber =>
          exact .inr ⟨Bool.eq_false_iff.2 htcp, hnumber.1, hnumber.2, (Option.some.inj h).symm⟩
        · cases h
    · cases h

theorem Sound.reply {number : Nat} {message : Bytes} {sealing : Sealing} (h : c.Sound)
    (hreply : c.reply number message sealing = some c') : c'.Sound := by
  obtain ⟨query, hquery, hanswers, ⟨-, packet, hpacket, rfl⟩ | ⟨-, -, -, rfl⟩⟩ := reply_cases hreply
  · refine { datagrams := fun d hmem => ?_, waiting := h.waiting }
    rcases List.mem_append.1 hmem with hmem | hmem
    · exact h.datagrams d hmem
    · cases List.mem_singleton.1 hmem
      exact ⟨⟨query, hquery, hanswers⟩, sealing, hpacket⟩
  · exact { datagrams := h.datagrams, waiting := h.waiting }

/-- A stream that has been answered all is not answered any more. -/
theorem Idle.reply {number : Nat} {message : Bytes} {sealing : Sealing} (h : c.Idle)
    (hreply : c.reply number message sealing = some c') : c'.Idle := by
  obtain ⟨query, hquery, -, ⟨hudp, packet, -, rfl⟩ | ⟨htcp, rfl, -⟩⟩ := reply_cases hreply
  · exact fun htcp => absurd (hudp.symm.trans htcp) Bool.noConfusion
  · have hlt := (List.getElem?_eq_some_iff.1 hquery).1
    exact absurd (h htcp).2 (Nat.ne_of_lt hlt)

theorem Expects.reply {number : Nat} {message : Bytes} {sealing : Sealing} (h : c.Expects query)
    (hlast : c.queries.getLast? = some query) (hreply : c.reply number message sealing = some c') :
    c'.Expects query := by
  obtain ⟨query', hquery, hanswers, ⟨hudp, packet, -, rfl⟩ | ⟨htcp, rfl, hlength, rfl⟩⟩ :=
    reply_cases hreply
  · exact fun htcp => absurd (hudp.symm.trans htcp) Bool.noConfusion
  · intro _
    have hlt := (List.getElem?_eq_some_iff.1 hquery).1
    rcases h htcp with ⟨hstream, hreplied⟩ | ⟨reply, -, -, hreplied, -⟩
    · -- the question answered is the last one
      have hnumber : c.replied = c.queries.length - 1 := by omega
      rw [hnumber, ← List.getLast?_eq_getElem?, hlast] at hquery
      obtain rfl := Option.some.inj hquery
      refine .inr ⟨message, hlength, ?_, hreplied, hanswers⟩
      change c.stream ++ frame message = frame message
      rw [hstream, List.nil_append]
    · exact absurd hreplied (Nat.ne_of_lt hlt)

omit [Hickory] in
/-- What is received: the first datagram, or the frame that the stream begins with. -/
theorem receive_cases {now : Time} {reply : Bytes} {received : Option Bytes}
    (h : c.receive now = some (reply, received, c')) :
    (c.client.isUdp = true ∧ ∃ d datagrams, c.datagrams = d :: datagrams ∧ reply = d.reply ∧
        received = c.client.opened now (d.packet.take recvBufSize) ∧ c' = { c with datagrams }) ∨
      (c.client.isUdp = false ∧ received = some reply ∧
        ∃ stream, readFrame c.stream = some (reply, stream) ∧ c' = { c with stream }) := by
  unfold receive at h
  split at h
  · next hudp =>
    left
    cases hdatagrams : c.datagrams with
    | nil =>
      rw [hdatagrams] at h
      cases h
    | cons d datagrams =>
      rw [hdatagrams] at h
      cases h
      exact ⟨hudp, d, datagrams, rfl, rfl, rfl, rfl⟩
  · next htcp =>
    right
    cases hframe : readFrame c.stream with
    | none =>
      rw [hframe] at h
      cases h
    | some p =>
      rw [hframe] at h
      cases h
      exact ⟨Bool.eq_false_iff.2 htcp, rfl, p.2, rfl, rfl⟩

theorem Sound.receive {now : Time} {reply : Bytes} {received : Option Bytes} (h : c.Sound)
    (hreceive : c.receive now = some (reply, received, c')) : c'.release.Sound := by
  obtain ⟨-, d, datagrams, hdatagrams, -, -, rfl⟩ | ⟨-, -, stream, -, rfl⟩ :=
    receive_cases hreceive
  · refine { datagrams := fun d' hmem => ?_, waiting := nofun }
    exact h.datagrams d' (hdatagrams ▸ List.mem_cons_of_mem _ hmem)
  · exact { datagrams := h.datagrams, waiting := nofun }

/-- What a lookup receives from a stream answers its question, and is the last there is. -/
theorem Expects.receive {now : Time} {reply : Bytes} {received : Option Bytes} (h : c.Expects query)
    (htcp : c.client.isUdp = false) (hreceive : c.receive now = some (reply, received, c')) :
    answers query reply = true ∧ c'.Idle := by
  obtain ⟨hudp, -⟩ | ⟨-, rfl, stream, hframe, rfl⟩ := receive_cases hreceive
  · exact absurd (hudp.symm.trans htcp) Bool.noConfusion
  · rcases h htcp with ⟨hstream, -⟩ | ⟨reply', hlength, hstream, hreplied, hanswers⟩
    · rw [hstream, readFrame_nil] at hframe
      cases hframe
    · rw [hstream, readFrame_frame hlength] at hframe
      cases hframe
      exact ⟨hanswers, fun _ => ⟨rfl, hreplied⟩⟩

omit [Hickory] in
theorem client_of_receive {now : Time} {reply : Bytes} {received : Option Bytes}
    (hreceive : c.receive now = some (reply, received, c')) : c'.client = c.client := by
  obtain ⟨-, d, datagrams, -, -, -, rfl⟩ | ⟨-, -, stream, -, rfl⟩ := receive_cases hreceive
  · rfl
  · rfl

end Connection

/-! ## The cache -/

namespace DnsClientCache

variable {s s' : DnsClientCache S} {client : Nat} {call : Call S} {query : Message}

structure Inv (s : DnsClientCache S) : Prop where
  sound : ∀ client, (s.connections client).Sound
  expects : ∀ client query, (s.connections client).waiting = some query →
    client < s.created ∧ (s.connections client).Expects query
  nodup : ∀ key, (s.queue key).Nodup
  kept : ∀ key, ∀ client ∈ s.queue key, client < s.created ∧
    (s.connections client).client.key = key ∧ (s.connections client).waiting = none ∧
      (s.connections client).Idle

omit [ProxyServers S] [Hickory] in
@[simp] theorem connections_setConnection (s : DnsClientCache S) (client : Nat) (c : Connection S) :
    (s.setConnection client c).connections client = c := Function.update_self ..

omit [ProxyServers S] [Hickory] in
theorem connections_setConnection_of_ne (s : DnsClientCache S) {client other : Nat}
    (c : Connection S) (h : other ≠ client) :
    (s.setConnection client c).connections other = s.connections other :=
  Function.update_of_ne h ..

omit [ProxyServers S] [Hickory] in
@[simp] theorem queue_setQueue (s : DnsClientCache S) (key : DnsClientKey) (queue : List Nat) :
    (s.setQueue key queue).queue key = queue := by
  unfold DnsClientCache.queue setQueue
  dsimp only
  rw [Function.update_self]
  rfl

omit [ProxyServers S] [Hickory] in
theorem queue_setQueue_of_ne (s : DnsClientCache S) {key other : DnsClientKey} (queue : List Nat)
    (h : other ≠ key) : (s.setQueue key queue).queue other = s.queue other := by
  unfold DnsClientCache.queue setQueue
  dsimp only
  rw [Function.update_of_ne h]

/-- A connection may be changed as long as what the cache relies on stays. -/
theorem Inv.setConnection (h : s.Inv) (client : Nat) {c : Connection S} (hsound : c.Sound)
    (hexpects : ∀ query, c.waiting = some query → client < s.created ∧ c.Expects query)
    (hkept : ∀ key, client ∈ s.queue key →
      c.client.key = key ∧ c.waiting = none ∧ c.Idle) : (s.setConnection client c).Inv where
  sound other := by
    by_cases heq : other = client
    · rw [heq, connections_setConnection]
      exact hsound
    · rw [connections_setConnection_of_ne s c heq]
      exact h.sound other
  expects other := by
    by_cases heq : other = client
    · rw [heq, connections_setConnection]
      exact hexpects
    · rw [connections_setConnection_of_ne s c heq]
      exact h.expects other
  nodup := h.nodup
  kept key other hmem := by
    refine ⟨(h.kept key other hmem).1, ?_⟩
    by_cases heq : other = client
    · subst heq
      rw [connections_setConnection]
      exact hkept key hmem
    · rw [connections_setConnection_of_ne s c heq]
      exact (h.kept key other hmem).2

/-- A queue may be replaced by one of clients that may be kept. -/
theorem Inv.setQueue (h : s.Inv) {key : DnsClientKey} {queue : List Nat} (hnodup : queue.Nodup)
    (hkept : ∀ client ∈ queue, client < s.created ∧ (s.connections client).client.key = key ∧
      (s.connections client).waiting = none ∧ (s.connections client).Idle) :
    (s.setQueue key queue).Inv where
  sound := h.sound
  expects := h.expects
  nodup other := by
    by_cases heq : other = key
    · rw [heq, queue_setQueue]
      exact hnodup
    · rw [queue_setQueue_of_ne s queue heq]
      exact h.nodup other
  kept other := by
    by_cases heq : other = key
    · rw [heq, queue_setQueue]
      exact hkept
    · rw [queue_setQueue_of_ne s queue heq]
      exact h.kept other

/-! ### Taking a client -/

omit [ProxyServers S] [Hickory] in
/-- The clients before the one taken are lost. -/
theorem takeConnected_cases (s : DnsClientCache S) (queue : List Nat) :
    ∃ lost, queue = lost ++ ((s.takeConnected queue).1.toList ++ (s.takeConnected queue).2) := by
  induction queue with
  | nil => exact ⟨[], rfl⟩
  | cons client queue ih =>
    rw [takeConnected]
    by_cases hconnected : (s.connections client).checkConnected = true
    · rw [if_pos hconnected]
      exact ⟨[], rfl⟩
    · rw [if_neg hconnected]
      obtain ⟨lost, hlost⟩ := ih
      exact ⟨client :: lost, by rw [List.cons_append, ← hlost]⟩

/-- A client that a lookup has got: it is nobody else's, and can be sent the question. -/
structure Taken (s : DnsClientCache S) (call : Call S) (client : Nat) : Prop where
  created : client < s.created
  key : (s.connections client).client.key = call.key
  idle : (s.connections client).Idle
  free : ∀ key, client ∉ s.queue key

omit [ProxyServers S] [Hickory] in
theorem key_connect (call : Call S) : call.connect.key = call.key := by
  cases call with
  | lookupLocal ns isUdp => cases isUdp <;> rfl
  | lookupRemote svrCfg ns isUdp => cases isUdp <;> rfl

omit [ProxyServers S] [Hickory] in
@[simp] theorem connections_leaveQueue (s : DnsClientCache S) (key : DnsClientKey)
    (queue : List Nat) : (s.leaveQueue key queue).connections = s.connections := by
  unfold leaveQueue
  split <;> rfl

omit [ProxyServers S] [Hickory] in
@[simp] theorem logs_leaveQueue (s : DnsClientCache S) (key : DnsClientKey) (queue : List Nat) :
    (s.leaveQueue key queue).asked = s.asked ∧ (s.leaveQueue key queue).answered = s.answered ∧
      (s.leaveQueue key queue).created = s.created := by
  unfold leaveQueue
  split <;> exact ⟨rfl, rfl, rfl⟩

/-- What is taken out of the queue of a key: the clients before it are lost. -/
theorem Inv.leaveQueue (h : s.Inv) {key : DnsClientKey} {lost rest : List Nat}
    (hqueue : s.queue key = lost ++ rest) :
    (s.leaveQueue key rest).Inv ∧ ∀ client ∈ lost, ∀ other,
      client ∉ (s.leaveQueue key rest).queue other := by
  have hnodup := h.nodup key
  rw [hqueue, List.nodup_append] at hnodup
  have hsub : ∀ client ∈ rest, client ∈ s.queue key := fun client hmem =>
    hqueue ▸ List.mem_append_right _ hmem
  cases hcache : s.cache key with
  | none =>
    have hnil : lost ++ rest = [] := by
      rw [← hqueue, queue, hcache]
      rfl
    obtain ⟨rfl, rfl⟩ := List.append_eq_nil_iff.1 hnil
    have hsame : s.leaveQueue key [] = s := if_neg (by rw [hcache]; exact Bool.false_ne_true)
    rw [hsame]
    exact ⟨h, nofun⟩
  | some queue =>
    have hset : s.leaveQueue key rest = s.setQueue key rest := if_pos (by rw [hcache]; rfl)
    rw [hset]
    refine ⟨h.setQueue hnodup.2.1 fun client hmem => h.kept _ client (hsub client hmem), ?_⟩
    intro client hlost other hmem
    by_cases heq : other = key
    · rw [heq, queue_setQueue] at hmem
      exact hnodup.2.2 client hlost client hmem rfl
    · -- a client is in the queue of its own key only
      rw [queue_setQueue_of_ne s rest heq] at hmem
      have hkey := (h.kept other client hmem).2.1
      have hkey' := (h.kept key client (hqueue ▸ List.mem_append_left _ hlost)).2.1
      exact heq (hkey.symm.trans hkey')

theorem Inv.create (h : s.Inv) (client : DnsClient S) :
    (s.create client).Inv ∧ ∀ key, s.created ∉ (s.create client).queue key := by
  have hunused : ∀ key, s.created ∉ s.queue key := fun key hmem =>
    Nat.lt_irrefl _ (h.kept key s.created hmem).1
  have hset := h.setConnection s.created (Connection.sound_new client) nofun
    fun key hmem => absurd hmem (hunused key)
  refine ⟨{ hset with expects := ?_, kept := ?_ }, hunused⟩
  · intro other query hwaiting
    obtain ⟨hlt, hexpects⟩ := hset.expects other query hwaiting
    exact ⟨Nat.lt_succ_of_lt hlt, hexpects⟩
  · intro key other hmem
    obtain ⟨hlt, hkept⟩ := hset.kept key other hmem
    exact ⟨Nat.lt_succ_of_lt hlt, hkept⟩

/-- The client got is the first one in the queue that is connected, or one that was connected for
    the lookup. -/
theorem getClientOrCreate_spec (h : s.Inv) (call : Call S) (connects : Bool) :
    (s.getClientOrCreate call connects).2.Inv ∧
      (s.getClientOrCreate call connects).2.asked = s.asked ∧
      (s.getClientOrCreate call connects).2.answered = s.answered ∧
      ∀ client, (s.getClientOrCreate call connects).1 = some client →
        (s.getClientOrCreate call connects).2.Taken call client ∧
          (((s.takeConnected (s.queue call.key)).1 = some client ∧
              ((s.getClientOrCreate call connects).2.connections client).client =
                (s.connections client).client) ∨
            (s.takeConnected (s.queue call.key)).1 = none ∧
              ((s.getClientOrCreate call connects).2.connections client).client =
                call.connect) := by
  obtain ⟨lost, hlost⟩ := s.takeConnected_cases (s.queue call.key)
  unfold getClientOrCreate
  rcases htaken : s.takeConnected (s.queue call.key) with ⟨first, rest⟩
  rw [htaken, ← List.append_assoc] at hlost
  dsimp only at hlost ⊢
  obtain ⟨hinv, hfree⟩ := h.leaveQueue hlost
  obtain ⟨hasked, hanswered, hcreated⟩ := logs_leaveQueue s call.key rest
  cases first with
  | some client =>
    refine ⟨hinv, hasked, hanswered, fun other heq => ?_⟩
    obtain rfl := Option.some.inj heq
    -- the client is the last of those that leave the queue
    have hlast : client ∈ lost ++ (some client).toList :=
      List.mem_append_right _ (List.mem_singleton_self client)
    obtain ⟨hlt, hkey, -, hidle⟩ := h.kept _ client (hlost ▸ List.mem_append_left _ hlast)
    refine ⟨⟨hcreated ▸ hlt, ?_, ?_, hfree client hlast⟩, .inl ⟨rfl, ?_⟩⟩
    · rw [connections_leaveQueue]
      exact hkey
    · rw [connections_leaveQueue]
      exact hidle
    · rw [connections_leaveQueue]
  | none =>
    cases connects with
    | false => exact ⟨hinv, hasked, hanswered, nofun⟩
    | true =>
      obtain ⟨hinv, hunused⟩ := hinv.create call.connect
      refine ⟨hinv, hasked, hanswered, fun other heq => ?_⟩
      obtain rfl := Option.some.inj heq
      have hnew : ((s.leaveQueue call.key rest).create call.connect).connections
          (s.leaveQueue call.key rest).created = .new call.connect := Function.update_self ..
      refine ⟨⟨Nat.lt_succ_self _, ?_, ?_, hunused⟩, .inr ⟨rfl, ?_⟩⟩
      · rw [if_pos rfl, hnew]
        exact key_connect call
      · rw [if_pos rfl, hnew]
        exact fun _ => ⟨rfl, rfl⟩
      · rw [if_pos rfl, hnew]
        rfl

omit [ProxyServers S] in
/-- The question is logged with the client that it is sent over. -/
theorem ask_cases (s : DnsClientCache S) (call : Call S) (client : Nat) (query : Message) :
    ((∃ e, Hickory.toVec query = .error e) ∧ s.ask call client query = s) ∨
      (∃ bytes, Hickory.toVec query = .ok bytes) ∧
        s.ask call client query =
          { s.setConnection client ((s.connections client).send query) with
            asked := s.asked ++ [{ call, client := (s.connections client).client }] } := by
  unfold ask
  cases hbytes : Hickory.toVec query with
  | error e => exact .inl ⟨⟨e, rfl⟩, rfl⟩
  | ok bytes => exact .inr ⟨⟨bytes, rfl⟩, rfl⟩

theorem Inv.ask (h : s.Inv) (htaken : s.Taken call client) (query : Message) :
    (s.ask call client query).Inv := by
  obtain ⟨-, heq⟩ | ⟨-, heq⟩ := ask_cases s call client query
  · rw [heq]
    exact h
  · rw [heq]
    have hset := h.setConnection client ((h.sound client).send query)
      (fun query' hwaiting => by
        obtain rfl := Option.some.inj hwaiting
        exact ⟨htaken.created, htaken.idle.send query⟩)
      (fun key hmem => absurd hmem (htaken.free key))
    exact { hset with }

/-- A lookup asks at most one question. -/
theorem lookup_spec (h : s.Inv) (call : Call S) (query : Message) (connects : Bool) :
    (s.lookup call query connects).Inv ∧
      (s.lookup call query connects).answered = s.answered ∧
      ((s.lookup call query connects).asked = s.asked ∧
          ((s.getClientOrCreate call connects).1 = none ∨ ∃ e, Hickory.toVec query = .error e) ∨
        ∃ client taken bytes, Hickory.toVec query = .ok bytes ∧
          (s.lookup call query connects).asked = s.asked ++ [⟨call, client⟩] ∧
          (s.getClientOrCreate call connects).1 = some taken ∧ client.key = call.key ∧
          ((s.takeConnected (s.queue call.key)).1 = some taken ∧
              client = (s.connections taken).client ∨
            (s.takeConnected (s.queue call.key)).1 = none ∧ client = call.connect)) := by
  obtain ⟨hinv, hasked, hanswered, htaken⟩ := getClientOrCreate_spec h call connects
  unfold lookup
  rcases hget : s.getClientOrCreate call connects with ⟨found, t⟩
  rw [hget] at hinv hasked hanswered htaken
  dsimp only at hinv hasked hanswered htaken ⊢
  cases found with
  | none => exact ⟨hinv, hanswered, .inl ⟨hasked, .inl rfl⟩⟩
  | some taken =>
    obtain ⟨htaken, hfound⟩ := htaken taken rfl
    refine ⟨hinv.ask htaken query, ?_⟩
    dsimp only
    obtain ⟨herror, heq⟩ | ⟨⟨bytes, hbytes⟩, heq⟩ := ask_cases t call taken query
    · rw [heq]
      exact ⟨hanswered, .inl ⟨hasked, .inr herror⟩⟩
    · rw [heq]
      refine ⟨hanswered, .inr ⟨(t.connections taken).client, taken, bytes, hbytes, ?_, rfl,
        htaken.key, hfound⟩⟩
      exact congrArg (· ++ _) hasked

/-! ### Giving a client back -/

theorem Inv.saveClient (h : s.Inv) (client : Nat) (hcreated : client < s.created)
    (hfree : ∀ key, client ∉ s.queue key) (hwaiting : (s.connections client).waiting = none)
    (hidle : (s.connections client).Idle) : (s.saveClient client).Inv := by
  unfold DnsClientCache.saveClient
  dsimp only
  cases hcache : s.cache (s.connections client).client.key with
  | none =>
    dsimp only
    refine h.setQueue (List.nodup_singleton client) fun other hmem => ?_
    obtain rfl := List.mem_singleton.1 hmem
    exact ⟨hcreated, rfl, hwaiting, hidle⟩
  | some queue =>
    have hqueue : s.queue (s.connections client).client.key = queue := by
      rw [DnsClientCache.queue, hcache]
      rfl
    have hnodup : (queue ++ [client]).Nodup := by
      rw [List.nodup_append]
      refine ⟨hqueue ▸ h.nodup _, List.nodup_singleton client, ?_⟩
      rintro other hother _ hmem rfl
      obtain rfl := List.mem_singleton.1 hmem
      exact hfree _ (hqueue ▸ hother)
    have hkept : ∀ other ∈ queue ++ [client], other < s.created ∧
        (s.connections other).client.key = (s.connections client).client.key ∧
          (s.connections other).waiting = none ∧ (s.connections other).Idle := by
      intro other hmem
      rcases List.mem_append.1 hmem with hmem | hmem
      · exact h.kept _ other (hqueue ▸ hmem)
      · obtain rfl := List.mem_singleton.1 hmem
        exact ⟨hcreated, rfl, hwaiting, hidle⟩
    dsimp only
    split
    · exact h.setQueue hnodup.tail fun other hmem => hkept other (List.mem_of_mem_tail hmem)
    · exact h.setQueue hnodup hkept

omit [ProxyServers S] [Hickory] in
theorem logs_saveClient (s : DnsClientCache S) (client : Nat) :
    (s.saveClient client).asked = s.asked ∧ (s.saveClient client).answered = s.answered := by
  unfold DnsClientCache.saveClient
  dsimp only
  split <;> exact ⟨rfl, rfl⟩

/-- What a lookup makes of what it receives. -/
theorem receive_spec {now : Time} (h : s.Inv) (hreceive : s.receive client now = some s') :
    s'.Inv ∧ s'.asked = s.asked ∧ ∃ query reply received c,
      (s.connections client).waiting = some query ∧
        (s.connections client).receive now = some (reply, received, c) ∧
        (s'.answered = s.answered ∨ ∃ bytes message, received = some bytes ∧
          Hickory.fromVec bytes = .ok message ∧
          s'.answered = s.answered ++ [⟨query, reply, message⟩]) := by
  unfold DnsClientCache.receive at hreceive
  obtain ⟨query, hwaiting, hreceive⟩ := Option.bind_eq_some_iff.1 hreceive
  obtain ⟨⟨reply, received, c⟩, hc, hreceive⟩ := Option.bind_eq_some_iff.1 hreceive
  obtain ⟨hcreated, hexpects⟩ := h.expects client query hwaiting
  -- a client that a lookup has is in no queue
  have hfree : ∀ key, client ∉ s.queue key := fun key hmem =>
    nomatch hwaiting.symm.trans (h.kept key client hmem).2.2.1
  have hset : (s.setConnection client c.release).Inv :=
    h.setConnection client ((h.sound client).receive hc) nofun fun key hmem => absurd hmem (hfree key)
  dsimp only at hreceive
  split at hreceive
  · next message hmessage =>
    cases hreceive
    obtain ⟨bytes, hbytes, hmessage⟩ := Option.map_eq_some_iff.1 hmessage
    have hidle : c.release.Idle := by
      intro htcp
      have htcp : (s.connections client).client.isUdp = false :=
        (congrArg DnsClient.isUdp (Connection.client_of_receive hc)).symm.trans htcp
      exact (hexpects.receive htcp hc).2 ((congrArg DnsClient.isUdp
        (Connection.client_of_receive hc)).trans htcp)
    have hsave := hset.saveClient client hcreated hfree
      (by rw [connections_setConnection]; rfl) (by rw [connections_setConnection]; exact hidle)
    obtain ⟨hasked, hanswered⟩ := logs_saveClient (s.setConnection client c.release) client
    exact ⟨{ hsave with }, hasked, query, reply, received, c, hwaiting, hc,
      .inr ⟨bytes, message, hbytes, hmessage, rfl⟩⟩
  · cases hreceive
    exact ⟨hset, rfl, query, reply, received, c, hwaiting, hc, .inl rfl⟩

/-! ### Runs -/

omit [ProxyServers S] [Hickory] in
theorem queue_new (maxClientPerAddr : Nat) (unused : DnsClient S) (key : DnsClientKey) :
    (new maxClientPerAddr unused).queue key = [] := rfl

theorem inv_new (maxClientPerAddr : Nat) (unused : DnsClient S) :
    (new maxClientPerAddr unused).Inv where
  sound _ := Connection.sound_new unused
  expects _ _ h := nomatch h
  nodup _ := List.nodup_nil
  kept key _ hmem := nomatch queue_new maxClientPerAddr unused key ▸ hmem

theorem Inv.reply (h : s.Inv) {number : Nat} {message : Bytes} {sealing : Sealing}
    {c : Connection S} (hreply : (s.connections client).reply number message sealing = some c) :
    (s.setConnection client c).Inv := by
  have hsame : c.client = (s.connections client).client ∧
      c.waiting = (s.connections client).waiting := by
    obtain ⟨-, -, -, ⟨-, packet, -, rfl⟩ | ⟨-, -, -, rfl⟩⟩ := Connection.reply_cases hreply
    · exact ⟨rfl, rfl⟩
    · exact ⟨rfl, rfl⟩
  refine h.setConnection client ((h.sound client).reply hreply) ?_ ?_
  · intro query hwaiting
    rw [hsame.2] at hwaiting
    obtain ⟨hcreated, hexpects⟩ := h.expects client query hwaiting
    exact ⟨hcreated, hexpects.reply ((h.sound client).waiting query hwaiting) hreply⟩
  · intro key hmem
    obtain ⟨-, hkey, hwaiting, hidle⟩ := h.kept key client hmem
    exact ⟨hsame.1 ▸ hkey, hsame.2.trans hwaiting, hidle.reply hreply⟩

theorem Inv.step (h : s.Inv) {e : DnsEvent S} (hstep : s.step e = some s') : s'.Inv := by
  cases e with
  | lookup call msg id connects =>
    cases hstep
    exact (lookup_spec h call _ connects).1
  | reply client number message sealing =>
    obtain ⟨c, hreply, rfl⟩ := Option.map_eq_some_iff.1 hstep
    exact h.reply hreply
  | close client =>
    cases hstep
    have hsound := h.sound client
    exact h.setConnection client ⟨hsound.datagrams, hsound.waiting⟩ (h.expects client)
      fun key hmem => (h.kept key client hmem).2
  | receive client now => exact (receive_spec h hstep).1
  | abandon client =>
    cases hstep
    refine h.setConnection client (h.sound client).release nofun fun key hmem => ?_
    obtain ⟨-, hkey, -, hidle⟩ := h.kept key client hmem
    exact ⟨hkey, rfl, hidle⟩

theorem Inv.reachable {ok : DnsClientCache S → DnsEvent S → Prop} (h : s.Inv)
    (hreach : Reachable DnsClientCache.step ok s s') : s'.Inv :=
  hreach.invariant _ h fun hinv _ hstep => hinv.step hstep

end DnsClientCache

/-! ## Answers to other questions -/

/-- The answer is the whole reply, to the question that was sent. -/
structure Answered.Belongs (a : Answered) : Prop where
  whole : Hickory.fromVec a.reply = .ok a.message
  id : a.message.id = a.query.id
  queries : a.message.queries = a.query.queries

/-- The first datagram that a lookup finds answers its own question, and fits into the buffer or
    gives no message when it is cut. -/
def inTurn (s : DnsClientCache S) : DnsEvent S → Bool
  | .receive client now =>
    let c := s.connections client
    match c.datagrams with
    | [] => true
    | d :: _ =>
      !c.client.isUdp || d.number + 1 == c.queries.length &&
        (d.packet.length ≤ recvBufSize ||
          (c.client.opened now (d.packet.take recvBufSize)).all fun bytes =>
            (Hickory.fromVec bytes).isOk == false)
  | _ => true

theorem answers_ok {query message : Message} {reply : Bytes} (h : answers query reply = true)
    (hmessage : Hickory.fromVec reply = .ok message) :
    (⟨query, reply, message⟩ : Answered).Belongs := by
  unfold answers at h
  rw [hmessage] at h
  obtain ⟨hid, hqueries⟩ := (Bool.and_eq_true _ _).mp h
  exact ⟨hmessage, of_decide_eq_true hid, of_decide_eq_true hqueries⟩

namespace DnsClientCache

variable {s s' : DnsClientCache S} {client : Nat}

/-- What a lookup returns in its turn belongs to its question. -/
theorem receive_belongs {now : Time} (h : s.Inv) (hturn : inTurn s (.receive client now) = true)
    (hreceive : s.receive client now = some s') :
    ∀ a ∈ s'.answered, a ∈ s.answered ∨ a.Belongs := by
  obtain ⟨-, -, query, reply, received, c, hwaiting, hc, hsame | ⟨bytes, message, hbytes, hmessage,
    hlog⟩⟩ := receive_spec h hreceive
  · rw [hsame]
    exact fun a ha => .inl ha
  rw [hlog]
  intro a ha
  refine (List.mem_append.1 ha).imp_right fun ha => ?_
  obtain rfl := List.mem_singleton.1 ha
  obtain ⟨hudp, d, datagrams, hdatagrams, rfl, hopened, -⟩ | ⟨htcp, hwhole, -⟩ :=
    Connection.receive_cases hc
  · rw [hbytes] at hopened
    simp only [inTurn, hdatagrams, hudp, Bool.not_true, Bool.false_or, Bool.and_eq_true,
      beq_iff_eq, Bool.or_eq_true, decide_eq_true_eq, ← hopened, Option.all_some, hmessage] at hturn
    obtain ⟨hnumber, hfits⟩ := hturn
    obtain ⟨⟨query', hquery, hanswers⟩, sealing, hpacket⟩ :=
      (h.sound client).datagrams d (hdatagrams ▸ List.mem_cons_self)
    -- the question answered is the last one, which is the lookup's own
    have hlast := (h.sound client).waiting query hwaiting
    have hindex : d.number = (s.connections client).queries.length - 1 := by omega
    rw [List.getLast?_eq_getElem?, ← hindex, hquery] at hlast
    obtain rfl := Option.some.inj hlast
    have hfits : d.packet.length ≤ recvBufSize := hfits.resolve_right (by simp [Except.isOk, Except.toBool])
    rw [List.take_of_length_le hfits] at hopened
    obtain rfl := DnsClient.opened_datagram hpacket hopened.symm
    exact answers_ok hanswers hmessage
  · obtain ⟨hanswers, -⟩ := (h.expects client query hwaiting).2.receive htcp hc
    obtain rfl := Option.some.inj (hbytes.symm.trans hwhole)
    exact answers_ok hanswers hmessage

/-- **Answers.** In a run in which every lookup over a datagram socket finds the answer to its own
    question first, and whole, all that lookups return belongs to their questions. -/
theorem answers_belong {maxClientPerAddr : Nat} {unused : DnsClient S}
    (h : Reachable step (fun s e => inTurn s e = true) (new maxClientPerAddr unused) s) :
    ∀ a ∈ s.answered, a.Belongs := by
  refine (h.invariant (fun s => s.Inv ∧ ∀ a ∈ s.answered, a.Belongs)
    ⟨inv_new .., fun _ ha => absurd ha List.not_mem_nil⟩ ?_).2
  intro s s' e ⟨hinv, hbelong⟩ hturn hstep
  refine ⟨hinv.step hstep, ?_⟩
  cases e with
  | lookup call msg id connects =>
    cases hstep
    obtain ⟨-, hlog, -⟩ := lookup_spec hinv call { msg with id } connects
    rwa [hlog]
  | reply client number message sealing =>
    obtain ⟨c, -, rfl⟩ := Option.map_eq_some_iff.1 hstep
    exact hbelong
  | close client =>
    cases hstep
    exact hbelong
  | receive client now =>
    intro a ha
    exact (receive_belongs hinv hturn hstep a ha).elim (hbelong a) id
  | abandon client =>
    cases hstep
    exact hbelong

end DnsClientCache

/-! ## Clients through other servers -/

/-- The question went over a client such as the lookup would have connected. -/
def Asked.Right (a : Asked S) : Prop := a.client = a.call.connect

omit [ProxyServers S] [Hickory] in
theorem asked_right_iff {a : Asked S} (hkey : a.client.key = a.call.key) :
    a.Right ↔ a.client.svrCfg = a.call.connect.svrCfg := by
  unfold Asked.Right
  obtain ⟨call, client⟩ := a
  constructor
  · exact congrArg DnsClient.svrCfg
  · intro hsvr
    cases call with
    | lookupLocal ns isUdp => cases isUdp <;> cases client <;> cases hkey <;> rfl
    | lookupRemote svrCfg ns isUdp =>
      cases isUdp <;> cases client <;> cases hkey <;> cases hsvr <;> rfl

namespace DnsClientCache

variable {s s' : DnsClientCache S} {e : DnsEvent S}

/-- The cached client that a lookup sends its question over, if it has one, is connected through the
    server that is chosen now. -/
def SameServer (s : DnsClientCache S) : DnsEvent S → Prop
  | .lookup call msg id _ => ∀ client bytes,
      (s.takeConnected (s.queue call.key)).1 = some client →
      Hickory.toVec { msg with id } = .ok bytes →
        (s.connections client).client.svrCfg = call.connect.svrCfg
  | _ => True

/-- A step logs a question at most, and the right client with it exactly if it meets the
    condition. -/
theorem step_asked (h : s.Inv) (hstep : s.step e = some s') :
    (∃ asked, s'.asked = s.asked ++ asked ∧ ((∀ a ∈ asked, a.Right) ↔ s.SameServer e)) := by
  -- a step that asks nothing only has to meet the condition
  have hquiet : s'.asked = s.asked → s.SameServer e →
      ∃ asked, s'.asked = s.asked ++ asked ∧ ((∀ a ∈ asked, a.Right) ↔ s.SameServer e) :=
    fun hsame hok => ⟨[], by rw [hsame, List.append_nil], fun _ => hok, fun _ => nofun⟩
  cases e with
  | lookup call msg id connects =>
    cases hstep
    obtain ⟨-, -, ⟨hsame, hnone⟩ | ⟨client, taken, bytes, hbytes, hlog, -, hkey, hfound⟩⟩ :=
      lookup_spec h call { msg with id } connects
    · refine hquiet hsame fun client bytes hclient hbytes => ?_
      rcases hnone with hnone | ⟨e, he⟩
      · unfold getClientOrCreate at hnone
        rcases htaken : s.takeConnected (s.queue call.key) with ⟨first, rest⟩
        rw [htaken] at hnone hclient
        dsimp only at hclient
        subst hclient
        cases hnone
      · exact nomatch he.symm.trans hbytes
    · refine ⟨[⟨call, client⟩], hlog, ?_⟩
      rw [List.forall_mem_singleton, asked_right_iff hkey]
      rcases hfound with ⟨htaken, rfl⟩ | ⟨hnone, rfl⟩
      · constructor
        · intro hright other _ hother _
          obtain rfl := Option.some.inj (htaken.symm.trans hother)
          exact hright
        · exact fun hok => hok taken bytes htaken hbytes
      · exact ⟨fun _ other _ hother _ => (nomatch hnone.symm.trans hother), fun _ => rfl⟩
  | reply client number message sealing =>
    obtain ⟨c, -, rfl⟩ := Option.map_eq_some_iff.1 hstep
    exact hquiet rfl trivial
  | close client =>
    cases hstep
    exact hquiet rfl trivial
  | receive client now => exact hquiet (receive_spec h hstep).2.1 trivial
  | abandon client =>
    cases hstep
    exact hquiet rfl trivial

/-- **Servers.** In a run, every question goes over a client of the requested kind that is connected
    through the chosen server to the name server exactly if no lookup takes a cached client that
    another lookup connected through another server. -/
theorem asked_right_iff_sameServer {maxClientPerAddr : Nat} {unused : DnsClient S}
    (h : Reachable step anyStep (new maxClientPerAddr unused) s) :
    (∀ a ∈ s.asked, a.Right) ↔
      Reachable step (fun s e => s.SameServer e) (new maxClientPerAddr unused) s := by
  constructor
  · induction h with
    | refl => exact fun _ => .refl
    | step hreach _ hstep ih =>
      intro hright
      obtain ⟨asked, hlog, hiff⟩ := step_asked ((inv_new ..).reachable hreach) hstep
      rw [hlog] at hright
      have hbefore := ih fun a ha => hright a (List.mem_append_left _ ha)
      exact .step hbefore (hiff.1 fun a ha => hright a (List.mem_append_right _ ha)) hstep
  · intro hsame
    refine (hsame.invariant (fun s => s.Inv ∧ ∀ a ∈ s.asked, a.Right)
      ⟨inv_new .., nofun⟩ ?_).2
    intro s s' e ⟨hinv, hright⟩ hok hstep
    obtain ⟨asked, hlog, hiff⟩ := step_asked hinv hstep
    refine ⟨hinv.step hstep, fun a ha => ?_⟩
    rw [hlog] at ha
    exact (List.mem_append.1 ha).elim (hright a) (hiff.2 hok a)

end DnsClientCache

end Runs

/-! ## Sample runs -/

/-- The wire form of a name. -/
def encodeName (name : DnsName) : Bytes :=
  name.labels.flatMap (fun label => UInt8.ofNat label.length :: label) ++ [0]

/-- Reads the labels of a name that is not compressed; `fuel` bounds how many these are. -/
def decodeLabels : (fuel : Nat) → Bytes → Option (List Label × Bytes)
  | 0, _ => none
  | _ + 1, [] => none
  | fuel + 1, length :: bytes =>
    if length = 0 then some ([], bytes)
    else
      (decodeLabels fuel (bytes.drop length.toNat)).map fun (labels, rest) =>
        (bytes.take length.toNat :: labels, rest)

/-- Reads and writes messages that ask for addresses, or say that there are none. -/
@[reducible] def bareHickory : Hickory where
  toAscii _ := ""
  nameFromStr _ := none
  nameFromUtf8 _ := .error (.other "unexpected name")
  toVec message :=
    let flags₁ : UInt8 := (if message.messageType = .response then 128 else 0) +
      if message.recursionDesired then 1 else 0
    let flags₀ : UInt8 := if message.recursionAvailable then 128 else 0
    .ok (bigEndian 2 message.id.toNat ++ [flags₁, flags₀, 0, 1, 0, 0, 0, 0, 0, 0] ++
      message.queries.flatMap fun query => encodeName query.name ++ [0, 1, 0, 1])
  fromVec bytes :=
    match bytes with
    | id₁ :: id₀ :: flags₁ :: flags₀ :: 0 :: 1 :: 0 :: 0 :: 0 :: 0 :: 0 :: 0 :: question =>
      match decodeLabels 128 question with
      | some (labels, [0, 1, 0, 1]) =>
        .ok { Message.asking ⟨⟨true, labels⟩, .a, .internet⟩ with
          id := BitVec.ofNat 16 (fromBigEndian [id₁, id₀])
          messageType := if 128 ≤ flags₁ then .response else .query
          recursionDesired := flags₁ % 2 = 1
          recursionAvailable := 128 ≤ flags₀ }
      | _ => .error (.other "unexpected question")
    | _ => .error (.other "unexpected header")

/-- Asks for the addresses of `example.org.` -/
def askAddress : Message := Message.asking ⟨exampleOrg, .a, .internet⟩

/-- There are none. -/
def noAddress (id : BitVec 16) : Bytes :=
  match @Hickory.toVec bareHickory
      { askAddress with id, messageType := .response, recursionAvailable := true } with
  | .ok bytes => bytes
  | .error _ => []

def nameServer : SocketAddr := .v4 0x08080808#32 53

/-- Servers with an AEAD method, under a cipher without secrecy. -/
@[reducible] def bareServers : ProxyServers ServerAddr where
  Aead := Bytes × Bytes
  crypto := .transparent
  Stream := Unit
  suite := .transparent
  method _ := .aead 1
  key _ := List.replicate 16 1
  inverts _ h := nomatch h
  correct _ _ := CryptoSuite.transparent_correct _
  udpCorrect _ _ := CryptoSuite.transparent_udpCorrect _
  blockCorrect := CryptoSuite.transparent_blockCorrect

def firstServer : ServerAddr := .domainName "first.example".toList 8388

def secondServer : ServerAddr := .domainName "second.example".toList 8388

def plainSealing : Sealing where
  sealedAt := 0
  addr := nameServer
  control := Udp.defaultSocketControl
  nonce := List.replicate 16 7
  padding := []

/-- Has room for five clients a queue. -/
def emptyCache : DnsClientCache ServerAddr := .new 5 (.udpLocal nameServer)

def runOf (events : List (DnsEvent ServerAddr)) : Option (DnsClientCache ServerAddr) :=
  events.foldlM (@DnsClientCache.step _ bareServers bareHickory) emptyCache

/-- The same, as long as every lookup is in its turn. -/
def inTurnRunOf (events : List (DnsEvent ServerAddr)) : Option (DnsClientCache ServerAddr) :=
  events.foldlM (fun s e =>
    if @inTurn _ bareServers bareHickory s e then @DnsClientCache.step _ bareServers bareHickory s e
    else none)
    emptyCache

/-- Two lookups, one after the other, and how often the first one is answered. -/
def twoLookups (copies : Nat) : List (DnsEvent ServerAddr) :=
  [.lookup (.lookupLocal nameServer true) askAddress 1 true] ++
    List.replicate copies (.reply 0 0 (noAddress 1) plainSealing) ++
    [.receive 0 0, .lookup (.lookupLocal nameServer true) askAddress 2 true,
      .reply 0 1 (noAddress 2) plainSealing, .receive 0 0]

/-- A lookup through a server, over the client that is made next. -/
def remoteLookup (client : Nat) : List (DnsEvent ServerAddr) :=
  [.lookup (.lookupRemote firstServer (.socketAddress nameServer) true) askAddress 3 true,
    .reply client 0 (noAddress 3) plainSealing, .receive client 0]

/-- The ids of the questions and of the answers to them. -/
def idsOf (s : DnsClientCache ServerAddr) : List (BitVec 16 × BitVec 16) :=
  s.answered.map fun a => (a.query.id, a.message.id)

theorem answers_belong_sample :
    ∃ s, inTurnRunOf (twoLookups 1 ++ remoteLookup 1) = some s ∧
      idsOf s = [(1, 1), (2, 2), (3, 3)] ∧ ∀ a ∈ s.answered, @Answered.Belongs bareHickory a := by
  have hrun : (inTurnRunOf (twoLookups 1 ++ remoteLookup 1)).map idsOf =
      some [(1, 1), (2, 2), (3, 3)] := by decide +kernel
  obtain ⟨s, hs, hids⟩ := Option.map_eq_some_iff.1 hrun
  exact ⟨s, hs, hids, @DnsClientCache.answers_belong _ bareServers bareHickory _ _ _ (.of_checked hs)⟩

/-- A second copy of the first answer is returned to the second lookup. -/
theorem copy_answers_next :
    ∃ s, Reachable (@DnsClientCache.step _ bareServers bareHickory) anyStep emptyCache s ∧
      ∃ a ∈ s.answered, ¬@Answered.Belongs bareHickory a := by
  have hrun : (runOf (twoLookups 2)).map idsOf = some [(1, 1), (2, 1)] := by decide +kernel
  obtain ⟨s, hs, hids⟩ := Option.map_eq_some_iff.1 hrun
  refine ⟨s, .of_run hs, ?_⟩
  have hmem : (2, 1) ∈ idsOf s := by
    rw [hids]
    decide
  obtain ⟨a, ha, hpair⟩ := List.mem_map.1 hmem
  obtain ⟨hquery, hmessage⟩ := Prod.mk.inj hpair
  refine ⟨a, ha, fun hbelongs => ?_⟩
  have hid := @Answered.Belongs.id bareHickory a hbelongs
  rw [hquery, hmessage] at hid
  exact absurd hid (by decide)

instance (a : Asked ServerAddr) : Decidable a.Right := inferInstanceAs (Decidable (_ = _))

/-- Two lookups of one name server, each through a server of its own. -/
def throughTwo (svrCfg svrCfg' : ServerAddr) : List (DnsEvent ServerAddr) :=
  [.lookup (.lookupRemote svrCfg (.socketAddress nameServer) true) askAddress 1 true,
    .reply 0 0 (noAddress 1) plainSealing, .receive 0 0,
    .lookup (.lookupRemote svrCfg' (.socketAddress nameServer) true) askAddress 2 true]

theorem asked_right_iff_sameServer_sample :
    ∃ s, runOf (throughTwo firstServer firstServer) = some s ∧ s.asked.length = 2 ∧
      ((∀ a ∈ s.asked, a.Right) ↔ Reachable (@DnsClientCache.step _ bareServers bareHickory)
        (fun s e => @DnsClientCache.SameServer _ bareHickory s e) emptyCache s) := by
  have hrun : (runOf (throughTwo firstServer firstServer)).map (·.asked.length) = some 2 := by
    decide +kernel
  obtain ⟨s, hs, hasked⟩ := Option.map_eq_some_iff.1 hrun
  exact ⟨s, hs, hasked,
    @DnsClientCache.asked_right_iff_sameServer _ bareServers bareHickory _ _ _ (.of_run hs)⟩

/-- The second question goes over the client of the first server. -/
theorem asked_through_other :
    ∃ s, Reachable (@DnsClientCache.step _ bareServers bareHickory) anyStep emptyCache s ∧
      ¬∀ a ∈ s.asked, a.Right := by
  have hrun : (runOf (throughTwo firstServer secondServer)).map
      (fun s => decide (∀ a ∈ s.asked, a.Right)) = some false := by decide +kernel
  obtain ⟨s, hs, hright⟩ := Option.map_eq_some_iff.1 hrun
  exact ⟨s, .of_run hs, of_decide_eq_false hright⟩

end Shadowsocks.Local.Dns
