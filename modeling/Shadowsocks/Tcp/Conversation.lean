import Shadowsocks.Tcp.ClientResponse
import Shadowsocks.Tcp.Receiving

/-! # A conversation through the tunnel

What a client writes reaches a server behind the address that it is meant for (`request_relayed`),
and what the server answers then reaches the client (`answer_relayed`): all that the writes have
acknowledged and nothing else, in order, whatever the transports take and bring at a time.
-/

namespace Shadowsocks.Tcp

open Shadowsocks.Lib Shadowsocks.Net Reading CryptoIo

variable {K S B : Type} [BloomFilter B]

/-! ## A stream that has not answered yet -/

namespace CryptoIo.CryptoStream

variable {crypto : CryptoSuite K} {cfg : Aead2022.ReaderConfig crypto}
  {suite : Stream.StreamSuite S}

omit [BloomFilter B] in
theorem noteHandshake_notes (cfg : Aead2022.ReaderConfig crypto) (s : CryptoStream K S B) :
    Post.holds
      { ready := fun _ t => (t.dec.handshaked = true → t.hasHandshaked = true) ∧
          (s.hasHandshaked = true → t.hasHandshaked = true)
        pending := fun _ => False, failed := fun _ _ => True, panicked := fun _ => True }
      (noteHandshake cfg s) := by
  unfold noteHandshake
  split
  · cases s.dec.userKey with
    | none => exact ⟨fun _ => rfl, fun _ => rfl⟩
    | some key =>
      dsimp only
      cases s.enc.resetCipherWithKey crypto cfg.method key with
      | none => exact trivial
      | some enc => exact ⟨fun _ => rfl, fun _ => rfl⟩
  · next hnot =>
    refine ⟨fun hhandshaked => ?_, id⟩
    rw [← Bool.not_eq_false]
    exact fun hfalse => hnot ⟨hfalse, hhandshaked⟩

/-- A poll that is ready has noted the handshake. -/
theorem readAt_notes (cfg : Aead2022.ReaderConfig crypto) (suite : Stream.StreamSuite S)
    (moment : Moment B) (room : Nat) (s : CryptoStream K S B) : Post.holds
    { ready := fun _ t => (t.dec.handshaked = true → t.hasHandshaked = true) ∧
        (s.hasHandshaked = true → t.hasHandshaked = true)
      pending := fun t => s.hasHandshaked = true → t.hasHandshaked = true
      failed := fun _ _ => True, panicked := fun _ => True } (readAt cfg suite moment room s) := by
  have hpoll : (pollDec cfg suite (moment.call room) s).2.hasHandshaked = s.hasHandshaked := by
    unfold pollDec
    split <;> rfl
  unfold readAt pollReadDecrypted
  rcases hres : pollDec cfg suite (moment.call room) s with ⟨res, t⟩
  rw [hres] at hpoll
  cases res with
  | pending =>
    rw [PollM.bind_pending hres]
    exact hpoll.trans
  | failed e =>
    rw [PollM.bind_failed hres]
    exact trivial
  | panicked =>
    rw [PollM.bind_panicked hres]
    exact trivial
  | ready out =>
    have hnote := noteHandshake_notes cfg t
    rw [PollM.bind_ready hres]
    rcases hnoted : noteHandshake cfg t with ⟨res, u⟩
    rw [hnoted] at hnote
    cases res with
    | ready _ =>
      rw [PollM.bind_ready hnoted]
      exact ⟨hnote.1, fun h => hnote.2 (hpoll.trans h)⟩
    | pending => exact hnote.elim
    | failed e =>
      rw [PollM.bind_failed hnoted]
      exact trivial
    | panicked =>
      rw [PollM.bind_panicked hnoted]
      exact trivial

/-- A reader with a salt has done its handshake. -/
theorem handshaked_of_salt {key peer : Bytes} {n : Nat} {w : Aead2022.ReadState K B}
    (h : (Aead2022.frame cfg key peer).Kept n w) (hsalt : w.reader.rest.salt.isSome) :
    w.reader.hasHandshaked = true := by
  cases h with
  | head hn hhead =>
    rw [hhead.before.salt] at hsalt
    cases hsalt
  | body hrunning hstate hbuffered => exact hrunning.handshaked

/-- Without AEAD-2022, a read leaves the writer alone. -/
structure WriterKept (s t : CryptoStream K S B) : Prop where
  dec : ∀ reader, t.dec ≠ .aead2022 reader
  enc : t.enc = s.enc
  sink : t.sink = s.sink

theorem readAt_writerKept (cfg : Aead2022.ReaderConfig crypto) (suite : Stream.StreamSuite S)
    (moment : Moment B) (room : Nat) {s : CryptoStream K S B}
    (h : ∀ reader, s.dec ≠ .aead2022 reader) :
    WriterKept s (readAt cfg suite moment room s).2 := by
  have hpoll : WriterKept s (pollDec cfg suite (moment.call room) s).2 := by
    unfold pollDec
    cases hdec : s.dec with
    | none | aead reader | stream reader =>
      refine ⟨fun _ hdec' => ?_, rfl, rfl⟩
      cases hdec'
    | aead2022 reader => exact absurd hdec (h reader)
  have hnote : Triple (WriterKept s) (noteHandshake cfg) (Post.always (WriterKept s)) := by
    intro t ht
    have huser : t.dec.userKey = none := by
      cases hdec : t.dec with
      | aead2022 reader => exact absurd hdec (ht.dec reader)
      | none | aead reader | stream reader => rfl
    unfold noteHandshake
    split
    · rw [huser]
      exact ⟨ht.dec, ht.enc, ht.sink⟩
    · exact ht
  have hread : Triple (fun t => t = s) (readAt cfg suite moment room) (Post.always (WriterKept s)) := by
    refine Triple.bind (M := fun _ => WriterKept s) ?_ fun out =>
      Triple.always_bind hnote fun _ t ht => ht
    rintro t rfl
    exact Post.holds_always.2 hpoll
  exact Post.holds_always.1 (hread s rfl)

omit [BloomFilter B] in
/-- What a stream knows of an AEAD-2022 request that it has delivered a beginning of. -/
theorem ReportsOf.reported {sender : Aead2022.Sender} {userKey : Option Bytes}
    {nonce plain : Bytes} {s : CryptoStream K S B}
    (h : ReportsOf cfg sender userKey nonce plain s) (hcat : cfg.method.category = .aead2022)
    (hne : plain ≠ []) : s.dec.nonce = some nonce ∧ s.dec.userKey = userKey := by
  obtain ⟨reader, hdec, ⟨hnone, -⟩ | ⟨hsalt, -, huser⟩⟩ := h hcat
  · exact absurd hnone hne
  · rw [hdec]
    exact ⟨hsalt, huser⟩

/-- No answer has been written. Once something has been delivered, it can be. -/
def Unanswered (cfg : Aead2022.ReaderConfig crypto) (suite : Stream.StreamSuite S)
    (key peer nonce : Bytes) (plain : Bytes) (s : CryptoStream K S B) : Prop :=
  if cfg.method.isAead2022 then
    ProxyServerStream.Sealed cfg key peer nonce .prepareHeader s ∧
      (plain ≠ [] → s.hasHandshaked = true)
  else (∀ reader, s.dec ≠ .aead2022 reader) ∧ s.sink.wire = [] ∧
    s.enc = newWriter crypto cfg.method suite (ProxyServerStream.responder key none none) nonce

section Unanswered

variable {sender : Aead2022.Sender} {userKey : Option Bytes} {key peer nonce serverNonce p : Bytes}
  {ps : List Bytes} {Opening Going : List (Moment B) → Bytes → CryptoStream K S B → Prop}

/-- A read goes on without an answer. -/
theorem readAt_unanswered {plain : Bytes} {s : CryptoStream K S B}
    (h : Unanswered cfg suite key peer serverNonce plain s) (moment : Moment B) (room : Nat) :
    Post.holds
      { ready := fun out t => ReportsOf cfg sender userKey nonce (plain ++ out) t →
          Unanswered cfg suite key peer serverNonce (plain ++ out) t
        pending := Unanswered cfg suite key peer serverNonce plain
        failed := fun _ _ => True, panicked := fun _ => True } (readAt cfg suite moment room s) := by
  unfold Unanswered at h ⊢
  by_cases hmethod : cfg.method.isAead2022 = true
  · simp only [if_pos hmethod] at h ⊢
    have hsealed := Post.holds_always.1
      (ProxyServerStream.pollReadDecrypted_sealed suite (moment.call room) h.1)
    have hnotes := readAt_notes cfg suite moment room s
    change ProxyServerStream.Sealed cfg key peer serverNonce .prepareHeader
      (readAt cfg suite moment room s).2 at hsealed
    rcases hres : readAt cfg suite moment room s with ⟨res, t⟩
    rw [hres] at hsealed hnotes
    cases res with
    | ready out =>
      intro hreports
      refine ⟨hsealed, fun hne => hnotes.1 ?_⟩
      obtain ⟨n, reader, hdec, hkept⟩ := hsealed.reads
      have hsalt := (hreports.reported (of_decide_eq_true hmethod) hne).1
      rw [hdec] at hsalt ⊢
      exact handshaked_of_salt hkept (congrArg Option.isSome hsalt)
    | pending => exact ⟨hsealed, fun hne => hnotes (h.2 hne)⟩
    | failed e => exact trivial
    | panicked => exact trivial
  · simp only [if_neg hmethod] at h ⊢
    have hkept := readAt_writerKept cfg suite moment room h.1
    exact Post.mono (Post.holds_always.2
      ⟨hkept.dec, (congrArg Sink.wire hkept.sink).trans h.2.1, hkept.enc.trans h.2.2⟩)
      ⟨fun _ _ h _ => h, fun _ h => h, fun _ _ _ => trivial, fun _ _ => trivial⟩

/-- A conversation that has not been answered yet. -/
theorem Conveying.unanswered (key peer serverNonce : Bytes)
    (h : Conveying cfg suite sender userKey nonce p ps Opening Going) :
    Conveying cfg suite sender userKey nonce p ps
      (fun calls plain s => Opening calls plain s ∧ Unanswered cfg suite key peer serverNonce plain s)
      (fun calls plain s => Going calls plain s ∧ Unanswered cfg suite key peer serverNonce plain s)
      where
  conveys :=
    { opening := h.conveys.opening.keeping fun _ hs => Post.mono (readAt_unanswered hs _ _)
        ⟨fun _ _ ht hopening => ht (h.reports (h.conveys.goesOn hopening)), fun _ ht => ht,
          fun _ _ ht => ht, fun _ ht => ht⟩
      goesOn := fun hs => ⟨h.conveys.goesOn hs.1, hs.2⟩
      going := h.conveys.going.keeping fun _ hs => Post.mono (readAt_unanswered hs _ _)
        ⟨fun _ _ ht hgoing => ht (h.reports hgoing), fun _ ht => ht, fun _ _ ht => ht,
          fun _ ht => ht⟩ }
  left hs := h.left hs.1
  reports hs := h.reports hs.1

end Unanswered

end CryptoIo.CryptoStream

namespace ProxyServerStream

variable {crypto : CryptoSuite K} {cfg : Aead2022.ReaderConfig crypto}
  {suite : Stream.StreamSuite S}

/-- A new stream of a server. -/
theorem fromStream_unanswered {readerKey serverNonce : Bytes} {context : Context B}
    {source : Source} {sink : Sink} (hserver : cfg.method.category = .aead2022 →
      cfg.streamTy = .server ∧ 0 < crypto.saltLen cfg.method) (hwire : sink.wire = []) :
    CryptoStream.Unanswered cfg suite readerKey source.bytes serverNonce []
      (fromStream cfg suite context source sink readerKey serverNonce).stream := by
  unfold CryptoStream.Unanswered
  by_cases hmethod : cfg.method.isAead2022 = true
  · obtain ⟨hty, hpos⟩ := hserver (of_decide_eq_true hmethod)
    have hsealed : SealedStream cfg readerKey source.bytes serverNonce
        (fromStream cfg suite context source sink readerKey serverNonce) :=
      fromStream_sealed hmethod hpos hty suite context source hwire
    have hstate : (fromStream cfg suite context source sink readerKey serverNonce).writerState =
        .prepareHeader := if_pos hmethod
    rw [if_pos hmethod]
    unfold SealedStream at hsealed
    rw [hstate] at hsealed
    exact ⟨hsealed, fun h => absurd rfl h⟩
  · rw [if_neg hmethod]
    refine ⟨?_, hwire, ?_⟩
    · intro reader hdec
      change DecryptedReader.withUserManager cfg suite readerKey = _ at hdec
      unfold DecryptedReader.withUserManager at hdec
      cases hcat : cfg.method.category with
      | aead2022 => exact hmethod (decide_eq_true hcat)
      | none | stream | aead =>
        rw [hcat] at hdec
        cases hdec
    · change EncryptedWriter.withIdentity cfg suite readerKey serverNonce [] = _
      unfold EncryptedWriter.withIdentity newWriter
      cases hcat : cfg.method.category with
      | aead2022 => exact absurd (decide_eq_true hcat) hmethod
      | none | stream | aead => rfl

/-- Once a beginning of the request has been delivered, the stream can answer it. -/
theorem canAnswer {sender : Aead2022.Sender} {userKey : Option Bytes}
    {key peer nonce serverNonce plain : Bytes} {t : CryptoStream K S B}
    (h : CryptoStream.ReportsOf cfg sender userKey nonce plain t)
    (hne : plain ≠ []) (hunanswered : CryptoStream.Unanswered cfg suite key peer serverNonce plain t)
    {s₀ : ProxyServerStream K S B} (hstate : s₀.writerState =
      if cfg.method.isAead2022 then .prepareHeader else .established) :
    CanAnswer cfg suite (responder key (some nonce) userKey) serverNonce (begun s₀ t) := by
  unfold CryptoStream.Unanswered at hunanswered
  by_cases hmethod : cfg.method.isAead2022 = true
  · have hcat : cfg.method.category = .aead2022 := of_decide_eq_true hmethod
    rw [if_pos hmethod] at hunanswered hstate
    obtain ⟨hsalt, hkey⟩ := h.reported hcat hne
    have hwaiting : Waiting cfg key serverNonce t := hunanswered.1.phase
    have henc := hwaiting.enc
    -- the header that was read has told the key of the user
    rw [hunanswered.2 hne, if_pos rfl, hkey] at henc
    refine ⟨hwaiting.wire, ?_⟩
    change Prepared cfg suite _ serverNonce t s₀.writerState
    rw [hstate]
    refine ⟨nonce, hsalt, ?_⟩
    simp only [newWriter, hcat]
    rw [henc, Aead2022.Sender.writer_eq, Aead2022.Sender.writer_eq]
    rfl
  · rw [if_neg hmethod] at hunanswered hstate
    obtain ⟨-, hwire, henc⟩ := hunanswered
    refine ⟨hwire, ?_⟩
    change Prepared cfg suite _ serverNonce t s₀.writerState
    rw [hstate]
    refine henc.trans ?_
    unfold newWriter
    cases hcat : cfg.method.category with
    | aead2022 => exact absurd (decide_eq_true hcat) hmethod
    | none | stream | aead => rfl

end ProxyServerStream

namespace ProxyServerStream

variable {crypto : CryptoSuite K} {cfg : Aead2022.ReaderConfig crypto}
  {suite : Stream.StreamSuite S}

/-- What the reads of a server come to that are polled at these moments, of any rooms. -/
def ReadsOut (cfg : Aead2022.ReaderConfig crypto) (suite : Stream.StreamSuite S) (payload : Bytes)
    (calls : List (Moment B)) (s : ProxyServerStream K S B) : Prop :=
  ∀ reads : List (Moment B × Nat), reads.map Prod.fst = calls → (∀ read ∈ reads, 0 < read.2) →
    DeliveredRest payload (s.stream.source.pendings + payload.length < reads.length)
      (receive (pollOf (readAt cfg suite)) reads s)

end ProxyServerStream

/-! ## Requests -/

variable {crypto : CryptoSuite K} {cfg : Aead2022.ReaderConfig crypto}
  {suite : Stream.StreamSuite S}

/-- A request that a client has written, to a server of which it has the key. The header fits into
    one packet with the first buffer. -/
structure ClientRequest (cfg : Aead2022.ReaderConfig crypto) (suite : Stream.StreamSuite S)
    (B : Type) where
  key : Bytes
  identityKeys : List Bytes
  nonce : Bytes
  readerKey : Bytes
  userKey : Option Bytes
  sentAt : Time
  addr : Address
  padding : Bytes
  buf : Bytes
  header : Bytes
  writes : List ((Time × Bytes) × Bytes)
  schedule : List WriteEvent
  context : Context B
  source : Source
  acked : List (Bytes × Nat)
  client : ProxyClientStream K S B
  link : Link cfg suite (ProxyClientStream.sender key identityKeys) readerKey userKey nonce sentAt
  portable : addr.IsPortable
  padding_length : padding.length < 2 ^ 16
  header_eq : ProxyClientStream.requestHeader cfg.method (if buf = [] then padding else []) addr =
    some header
  fits : (header ++ buf).length ≤
    ProxyClientStream.capacity cfg.method schedule (header ++ buf).length
  written : performs (ProxyClientStream.writeAt crypto cfg.method suite) none
    (((sentAt, padding), buf) :: writes) (ProxyClientStream.fromStream crypto cfg.method suite context
      source { schedule := schedule, wire := [] } key nonce identityKeys addr) = some (acked, client)

/-- A client's stream is read by a server. -/
theorem Aead2022.Session.server_of_client {sender : Aead2022.Sender} {readerKey : Bytes}
    {userKey : Option Bytes} (h : Aead2022.Session cfg sender readerKey userKey)
    (hclient : sender.streamTy = .client) : cfg.streamTy = .server := by
  cases h with
  | request hserver _ => exact hserver
  | userRequest hserver _ _ _ => exact hserver
  | response _ _ => cases hclient

namespace ClientRequest

variable (r : ClientRequest cfg suite B)

/-- What the client's writes have acknowledged. -/
def payload : Bytes := (payloads r.acked).flatten

/-- What has arrived of the request when. -/
def ArrivesAt (calls : List (Moment B)) (source : Source) : Prop :=
  Arrives cfg suite r.nonce r.sentAt (r.header ++ r.buf) r.client.stream.sink.wire calls source

/-- A new stream of a server that the request is for. -/
def start (context : Context B) (source : Source) (sink : Sink) (serverNonce : Bytes) :
    ProxyServerStream K S B :=
  ProxyServerStream.fromStream cfg suite context source sink r.readerKey serverNonce

omit [BloomFilter B] in
theorem sent : ∃ rest s, r.acked = (r.buf, r.buf.length) :: rest ∧ r.client.stream = s ∧
    CryptoStream.HasSent crypto cfg.method suite
      (ProxyClientStream.sender r.key r.identityKeys) r.nonce r.sentAt
      (CryptoStream.fromStreamWithIdentity (ProxyClientStream.config crypto cfg.method) suite
        r.context r.source { schedule := r.schedule, wire := [] } r.key r.nonce r.identityKeys)
      ((r.header ++ r.buf) :: payloads rest) s := by
  obtain ⟨rest, s, hacked, hclient, hsent⟩ :=
    ProxyClientStream.sends rfl r.header_eq r.fits r.written
  exact ⟨rest, s, hacked, by rw [hclient], hsent⟩

omit [BloomFilter B] in
theorem payload_eq {rest : List (Bytes × Nat)} (h : r.acked = (r.buf, r.buf.length) :: rest) :
    ((r.header ++ r.buf) :: payloads rest).flatten = r.header ++ r.payload := by
  have hall : payloads r.acked = r.buf :: payloads rest := by
    rw [h, payloads, List.map_cons, List.take_length]
    rfl
  rw [payload, hall, List.flatten_cons, List.flatten_cons, List.append_assoc]

omit [BloomFilter B] in
theorem serves (r : ClientRequest cfg suite B) (hcat : cfg.method.category = .aead2022) :
    cfg.streamTy = .server ∧ 0 < crypto.saltLen cfg.method := by
  have hpos := r.link.nonce_pos (.inr hcat)
  rw [r.link.nonce_length, nonceLen, hcat] at hpos
  exact ⟨(r.link.session hcat).server_of_client rfl, hpos⟩

/-- What a server's stream makes of the request. -/
theorem conveying {calls : List (Moment B)} {source : Source} (harrives : r.ArrivesAt calls source)
    (context : Context B) (sink : Sink) (serverNonce : Bytes) :
    ∃ (ps : List Bytes) (Opening Going : List (Moment B) → Bytes → CryptoStream K S B → Prop),
      ((r.header ++ r.buf) :: ps).flatten = r.header ++ r.payload ∧
      CryptoStream.Conveying cfg suite (ProxyClientStream.sender r.key r.identityKeys) r.userKey
        r.nonce (r.header ++ r.buf) ps Opening Going ∧
      Opening calls [] (r.start context source sink serverNonce).stream := by
  obtain ⟨rest, s, hacked, hclient, hsent⟩ := r.sent
  have henc : cfg.method.category = .aead2022 → ∃ writer,
      (r.start context source sink serverNonce).stream.enc = .aead2022 writer := by
    intro hcat
    suffices h : ∃ writer, EncryptedWriter.withIdentity (S := S) cfg suite r.readerKey serverNonce [] =
        .aead2022 writer from h
    simp only [EncryptedWriter.withIdentity, hcat]
    exact ⟨_, rfl⟩
  have hwire : r.client.stream.sink.wire = carried crypto cfg.method suite
      (ProxyClientStream.sender r.key r.identityKeys) r.nonce r.sentAt
      ((r.header ++ r.buf) :: payloads rest) := by
    rw [hclient]
    exact hsent.wire
  have hcarried := harrives
  unfold ArrivesAt at hcarried
  rw [hwire] at hcarried
  have hdec : (r.start context source sink serverNonce).stream.dec =
      .withUserManager cfg suite r.readerKey := rfl
  obtain ⟨Opening, Going, hconveying, hopening⟩ :=
    CryptoStream.conveys r.link hsent.fits hdec henc hcarried
  exact ⟨_, _, _, r.payload_eq hacked, hconveying, hopening⟩

omit [BloomFilter B] in
/-- Padding stands for an empty buffer only. -/
theorem emptyRequest_iff : ProxyServerStream.EmptyRequest cfg.method
    (if r.buf = [] then r.padding else []) r.buf ↔
      ProxyServerStream.EmptyRequest cfg.method r.padding r.buf := by
  unfold ProxyServerStream.EmptyRequest
  by_cases hempty : r.buf = []
  · rw [if_pos hempty]
  · simp only [hempty, and_false]

omit [BloomFilter B] in
theorem used_padding_length : (if r.buf = [] then r.padding else []).length < 2 ^ 16 := by
  split
  · exact r.padding_length
  · decide

/-- **A request is relayed.** The server's handshake returns the address that the client asks for,
    with no byte read beyond the header, unless a first packet with neither payload nor padding is
    refused; its reads then deliver what the client's writes have acknowledged and end. -/
theorem request_relayed {calls : List (Moment B)} {source : Source}
    (harrives : r.ArrivesAt calls source) (context : Context B) (sink : Sink)
    (serverNonce : Bytes) :
    ProxyServerStream.HandshakePost (ProxyServerStream.EmptyRequest cfg.method r.padding r.buf)
      r.addr (ProxyServerStream.ReadsOut cfg suite r.payload) calls.length
      (source.pendings + r.header.length)
      (ProxyServerStream.handshake cfg suite calls (r.start context source sink serverNonce)) := by
  obtain ⟨ps, Opening, Going, htotal, hconveying, hopening⟩ :=
    r.conveying harrives context sink serverNonce
  have hspec := ProxyServerStream.handshake_spec hconveying r.portable r.used_padding_length
    r.header_eq rfl hopening
  refine hspec.imp r.emptyRequest_iff ?_
  rintro calls _ ⟨t, rfl, ht⟩ reads rfl hrooms
  have hconveys := ProxyServerStream.readAt_conveys hconveying
    (r.start context source sink serverNonce)
  exact (hconveys.going.receive reads hrooms htotal.symm
    (hconveys.goesOn ⟨t, rfl, ht⟩)).1

/-! ## Answers -/

omit [BloomFilter B] in
/-- The client's key is the one that the server finds for it. -/
theorem userKey_getD (hcat : cfg.method.category = .aead2022) : r.userKey.getD r.readerKey = r.key := by
  have hsession := r.link.session hcat
  generalize hsender : ProxyClientStream.sender r.key r.identityKeys = sender at hsession
  generalize huser : r.userKey = userKey at hsession
  generalize hkey : r.readerKey = readerKey at hsession
  cases hsession with
  | request _ _ =>
    injection hsender with _ hkey' _ _ _
    exact hkey'.symm
  | userRequest _ _ _ _ =>
    injection hsender with _ hkey' _ _ _
    exact hkey'.symm
  | response _ _ => injection hsender with hty _ _ _ _; cases hty

omit [BloomFilter B] in
/-- The server's writer and the client's reader belong together. -/
theorem answer_link {serverNonce : Bytes} {answeredAt : Time}
    (hlength : serverNonce.length = nonceLen crypto suite cfg.method)
    (htime : answeredAt.unixSecs < 2 ^ 64) :
    Link (ProxyClientStream.config crypto cfg.method) suite
      (ProxyServerStream.responder r.readerKey (some r.nonce) r.userKey) r.key none serverNonce
      answeredAt where
  schemeCorrect := r.link.schemeCorrect
  suiteCorrect := r.link.suiteCorrect
  blockCorrect := r.link.blockCorrect
  nonce_length := hlength
  nonce_pos hcat := by
    rw [hlength, ← r.link.nonce_length]
    exact r.link.nonce_pos hcat
  timestamp := htime
  session hcat := by
    have hsalt := r.link.nonce_length
    rw [nonceLen, show cfg.method.category = .aead2022 from hcat] at hsalt
    rw [← r.userKey_getD hcat]
    exact .response rfl hsalt
  key hcat := (r.link.key hcat).symm

omit [BloomFilter B] in
/-- After its writes the client can read as before them. -/
theorem client_readsAs : ReadsAs (CryptoStream.fromStreamWithIdentity
    (ProxyClientStream.config crypto cfg.method) suite r.context r.source
    { schedule := r.schedule, wire := [] } r.key r.nonce r.identityKeys) r.client.stream := by
  obtain ⟨rest, s, -, hclient, hsent⟩ := r.sent
  rw [hclient]
  exact hsent.kept

omit [BloomFilter B] in
/-- Only an AEAD-2022 client checks which request a response is to. -/
theorem client_checks (h : r.client.readerState = .checkRequestNonce) :
    cfg.method.category = .aead2022 := by
  obtain ⟨rest, s, -, hclient, -⟩ :=
    ProxyClientStream.sends rfl r.header_eq r.fits r.written
  rw [hclient] at h
  by_contra hcat
  have hstate : (ProxyClientStream.fromStream crypto cfg.method suite r.context r.source
      { schedule := r.schedule, wire := [] } r.key r.nonce r.identityKeys r.addr).readerState =
      .established := if_neg fun hmethod => hcat (of_decide_eq_true hmethod)
  exact absurd (hstate.symm.trans h) (by decide)

/-- An AEAD-2022 client has sent its salt and read nothing. -/
theorem client_checked (hcat : cfg.method.category = .aead2022) :
    ProxyClientStream.Checked crypto cfg.method r.key r.source.bytes r.nonce 0 r.client := by
  have hstart : ProxyClientStream.Guarded crypto cfg.method r.key r.source.bytes r.nonce
      (ProxyClientStream.clientStart crypto cfg.method suite r.context r.source
        { schedule := r.schedule, wire := [] } r.key r.nonce r.identityKeys r.addr) :=
    ProxyClientStream.clientStart_guarded (decide_eq_true hcat) (r.serves hcat).2 _ _ _ _ _
  refine performs_keeps (I := ProxyClientStream.Checked crypto cfg.method r.key r.source.bytes
    r.nonce 0) (fun poll buf c hc => ?_) hstart.checked r.written
  exact (Post.holds_always.1 (ProxyClientStream.pollWrite_checked suite poll.1 poll.2 buf hc)).1

end ClientRequest

/-- An answer that a server has written to a request, once its handshake is done and some reads. -/
structure ServerAnswer (r : ClientRequest cfg suite B) where
  nonce : Bytes
  answeredAt : Time
  calls : List (Moment B)
  context : Context B
  source : Source
  sink : Sink
  addr : Address
  reads : List (Moment B × Nat)
  handshaked : ProxyServerStream K S B
  reply : Bytes
  replies : List (Time × Bytes)
  acked : List (Bytes × Nat)
  server : ProxyServerStream K S B
  nonce_length : nonce.length = nonceLen crypto suite cfg.method
  timestamp : answeredAt.unixSecs < 2 ^ 64
  arrives : r.ArrivesAt calls source
  unsent : sink.wire = []
  handshake_eq : ProxyServerStream.handshake cfg suite calls (r.start context source sink nonce) =
    (.done addr (reads.map Prod.fst), handshaked)
  rooms : ∀ read ∈ reads, 0 < read.2
  written : performs (ProxyServerStream.pollWrite cfg suite) none ((answeredAt, reply) :: replies)
    (receive (pollOf (ProxyServerStream.readAt cfg suite)) reads handshaked).state =
      some (acked, server)

namespace ServerAnswer

variable {r : ClientRequest cfg suite B} (a : ServerAnswer r)

/-- What the server's writes have acknowledged. -/
def payload : Bytes := (payloads a.acked).flatten

/-- What has arrived of the answer when. -/
def ArrivesAt (calls : List (Moment B)) : Prop :=
  Arrives (ProxyClientStream.config crypto cfg.method) suite a.nonce a.answeredAt
    ((payloads a.acked).headD []) a.server.stream.sink.wire calls r.source

/-- The server may answer by then. -/
theorem canAnswer : ProxyServerStream.CanAnswer cfg suite
    (ProxyServerStream.responder r.readerKey (some r.nonce) r.userKey) a.nonce
    (receive (pollOf (ProxyServerStream.readAt cfg suite)) a.reads a.handshaked).state := by
  obtain ⟨ps, Opening, Going, htotal, hconveying, hopening⟩ :=
    r.conveying a.arrives a.context a.sink a.nonce
  have hunanswered := hconveying.unanswered r.readerKey a.source.bytes a.nonce
  have hstart : CryptoStream.Unanswered cfg suite r.readerKey a.source.bytes a.nonce []
      (r.start a.context a.source a.sink a.nonce).stream :=
    ProxyServerStream.fromStream_unanswered r.serves a.unsent
  have hnew : (r.start a.context a.source a.sink a.nonce).hasHandshaked = false := rfl
  have hspec := ProxyServerStream.handshake_spec hunanswered r.portable r.used_padding_length
    r.header_eq hnew ⟨hopening, hstart⟩
  have hne := ProxyServerStream.requestHeader_ne r.header_eq
  rw [a.handshake_eq] at hspec
  obtain ⟨-, t, heq, ht⟩ := hspec.of_done
  have hconveys := ProxyServerStream.readAt_conveys hunanswered
    (r.start a.context a.source a.sink a.nonce)
  obtain ⟨-, calls, u, hstate, hgoing, hu⟩ := hconveys.going.receive a.reads a.rooms htotal.symm
    (hconveys.goesOn ⟨t, heq, ht⟩)
  rw [hstate]
  exact ProxyServerStream.canAnswer (hconveying.reports hgoing)
    (fun hnil => hne (List.append_eq_nil_iff.1 hnil).1) hu rfl

theorem sent : ∃ p ps, payloads a.acked = p :: ps ∧ (∀ q ∈ p :: ps, FitsChunk cfg.method q) ∧
    a.server.stream.sink.wire = carried crypto cfg.method suite
      (ProxyServerStream.responder r.readerKey (some r.nonce) r.userKey) a.nonce a.answeredAt
      (p :: ps) := by
  obtain ⟨rest, hacked, hwire, hfits⟩ := (ProxyServerStream.begins a.canAnswer).performs a.written
  refine ⟨_, _, ?_, hfits, hwire⟩
  rw [hacked, payloads, List.map_cons, takenFirst_prefix]
  rfl

/-- **The answer is relayed.** The client's reads deliver what the server's writes have
    acknowledged and end. -/
theorem answer_relayed {reads : List (Moment B × Nat)} (hrooms : ∀ read ∈ reads, 0 < read.2)
    (harrives : a.ArrivesAt (reads.map Prod.fst)) :
    DeliveredRest a.payload (r.source.pendings + a.payload.length < reads.length)
      (receive (pollOf (ProxyClientStream.readAt crypto cfg.method suite)) reads r.client) := by
  obtain ⟨p, ps, hpayloads, hfits, hwire⟩ := a.sent
  have hkept := r.client_readsAs
  unfold ArrivesAt at harrives
  rw [hwire, hpayloads, List.headD_cons] at harrives
  have hsource : r.client.stream.source = r.source := hkept.source
  rw [← hsource] at harrives ⊢
  have henc : cfg.method.category = .aead2022 → ∃ writer, r.client.stream.enc = .aead2022 writer := by
    intro hcat
    obtain ⟨writer, henc, -⟩ := (r.client_checked hcat).sound.writes
    exact ⟨writer, henc⟩
  obtain ⟨Opening, Going, hconveying, hopening⟩ :=
    CryptoStream.conveys (r.answer_link a.nonce_length a.timestamp) hfits hkept.dec henc harrives
  have hrequest : cfg.method.category = .aead2022 →
      (ProxyServerStream.responder r.readerKey (some r.nonce) r.userKey).requestSalt =
        some r.client.stream.sentNonce := fun hcat =>
    congrArg some (ProxyClientStream.sentNonce_of_writes (r.client_checked hcat).sound.writes).symm
  have hdelivers := ProxyClientStream.delivers hconveying hrequest
  have hreceives : ProxyClientStream.Receives cfg.method r.client.stream.sentNonce Going
      (reads.map Prod.fst) [] r.client :=
    ⟨hconveying.conveys.goesOn hopening, rfl, r.client_checks⟩
  have htotal : [] ++ a.payload = (p :: ps).flatten := by
    rw [payload, hpayloads]
    rfl
  exact (hdelivers.receive reads hrooms htotal hreceives).1

end ServerAnswer

/-! ### A sample conversation -/

section Samples

open Aead2022 (sampleServer sampleUsers sampleUser sampleSalt)

theorem eq_some_get {α β : Type} : ∀ {x : Option (α × β)} (h : x.isSome),
    x = some ((x.get h).1, (x.get h).2)
  | some _, _ => rfl

/-- What the server of the sample answers. -/
def sampleAnswerWire : Bytes :=
  Aead2022.streamOf .transparent .aead2022Blake3Aes128Gcm
    (ProxyServerStream.responder [5] (some sampleSalt) (some [7])) (List.replicate 16 9)
    (120 * Time.second) [[6, 6], [8]]

def sampleClient : ProxyClientStream (Bytes × Bytes) Unit ExactFilter :=
  ProxyClientStream.fromStream .transparent .aead2022Blake3Aes128Gcm .transparent
    (.new false .localService .default) (.pending :: Source.unread sampleAnswerWire [])
    { schedule := [.pending, .accept 70, .accept 100, .accept 100], wire := [] } [7] sampleSalt [[5]]
    (.socketAddress (.v4 1 80))

/-- The first write is pending once. -/
def sampleRun : Option (List (Bytes × Nat) × ProxyClientStream (Bytes × Bytes) Unit ExactFilter) :=
  performs (ProxyClientStream.writeAt .transparent .aead2022Blake3Aes128Gcm .transparent) none
    [((100 * Time.second, []), [1, 2, 3]), ((101 * Time.second, []), [1, 2, 3]),
      ((102 * Time.second, []), [4])] sampleClient

theorem sampleRun_isSome : sampleRun.isSome := by decide +kernel

def sampleRequest :
    ClientRequest (sampleServer .aead2022Blake3Aes128Gcm) .transparent ExactFilter where
  key := [7]
  identityKeys := [[5]]
  nonce := sampleSalt
  readerKey := [5]
  userKey := some [7]
  sentAt := 100 * Time.second
  addr := .socketAddress (.v4 1 80)
  padding := []
  buf := [1, 2, 3]
  header := [1, 0, 0, 0, 1, 0, 80, 0, 0]
  writes := [((101 * Time.second, []), [1, 2, 3]), ((102 * Time.second, []), [4])]
  schedule := [.pending, .accept 70, .accept 100, .accept 100]
  context := .new false .localService .default
  source := .pending :: Source.unread sampleAnswerWire []
  acked := (sampleRun.get sampleRun_isSome).1
  client := (sampleRun.get sampleRun_isSome).2
  link :=
    { schemeCorrect := CryptoSuite.transparent_correct _
      suiteCorrect := Stream.StreamSuite.transparent_correct
      blockCorrect := CryptoSuite.transparent_blockCorrect
      nonce_length := rfl
      nonce_pos := fun _ => by decide
      timestamp := by decide
      session := fun _ =>
        .userRequest rfl rfl rfl (show sampleUser ∈ sampleUsers.users by decide)
      key := fun hcat => absurd rfl hcat }
  portable := show 80 < 2 ^ 16 by decide
  padding_length := by decide
  header_eq := rfl
  fits := by decide
  written := eq_some_get sampleRun_isSome

/-- The request in two parts, the AEAD-2022 header in the first. -/
def sampleArrival : Source :=
  let wire := sampleRequest.client.stream.sink.wire
  .pending :: Source.unread (wire.take 65) (.pending :: Source.unread (wire.drop 65) [])

def sampleMoments (n : Nat) : List (Moment ExactFilter) :=
  List.replicate n { now := 110 * Time.second, context := .new true .server .default }

theorem sampleRequest_arrives (n : Nat) : sampleRequest.ArrivesAt (sampleMoments n) sampleArrival where
  bytes := by decide +kernel
  failures := by decide +kernel
  once _ := by
    change 59 ≤ _
    decide +kernel
  admitted moment hmoment := by
    obtain rfl := List.eq_of_mem_replicate (List.mem_of_getElem? hmoment)
    exact ⟨by decide, rfl⟩

def sampleHandshake : Driven (Moment ExactFilter) Failure Address ×
    ProxyServerStream (Bytes × Bytes) Unit ExactFilter :=
  ProxyServerStream.handshake (sampleServer .aead2022Blake3Aes128Gcm) .transparent
    (sampleMoments 40) (sampleRequest.start (.new true .server .default) sampleArrival
      { schedule := [.pending, .accept 200, .accept 200], wire := [] } (List.replicate 16 9))

theorem request_relayed_sample :
    ProxyServerStream.HandshakePost
      (ProxyServerStream.EmptyRequest .aead2022Blake3Aes128Gcm sampleRequest.padding
        sampleRequest.buf) sampleRequest.addr
      (ProxyServerStream.ReadsOut (sampleServer .aead2022Blake3Aes128Gcm) .transparent
        sampleRequest.payload) (sampleMoments 40).length
      (sampleArrival.pendings + sampleRequest.header.length) sampleHandshake :=
  sampleRequest.request_relayed (sampleRequest_arrives 40) _ _ _

theorem sampleHandshake_isSome : sampleHandshake.1.result?.isSome := by decide +kernel

/-- The reads of the server after its handshake. -/
def sampleReads : List (Moment ExactFilter × Nat) :=
  (sampleHandshake.1.result?.get sampleHandshake_isSome).2.map fun moment => (moment, 2)

theorem sampleHandshake_eq : sampleHandshake =
    (.done (sampleHandshake.1.result?.get sampleHandshake_isSome).1 (sampleReads.map Prod.fst),
      sampleHandshake.2) := by
  have hreads : sampleReads.map Prod.fst =
      (sampleHandshake.1.result?.get sampleHandshake_isSome).2 := by
    rw [sampleReads, List.map_map]
    exact List.map_id _
  rw [hreads]
  exact Driven.eq_done sampleHandshake_isSome

/-- The first write of the answer is pending once. -/
def sampleAnswerRun :
    Option (List (Bytes × Nat) × ProxyServerStream (Bytes × Bytes) Unit ExactFilter) :=
  performs (ProxyServerStream.pollWrite (sampleServer .aead2022Blake3Aes128Gcm) .transparent) none
    [(120 * Time.second, [6, 6]), (121 * Time.second, [6, 6]), (122 * Time.second, [8])]
    (receive (pollOf (ProxyServerStream.readAt (sampleServer .aead2022Blake3Aes128Gcm)
      .transparent)) sampleReads sampleHandshake.2).state

theorem sampleAnswerRun_isSome : sampleAnswerRun.isSome := by decide +kernel

def sampleAnswer : ServerAnswer sampleRequest where
  nonce := List.replicate 16 9
  answeredAt := 120 * Time.second
  calls := sampleMoments 40
  context := .new true .server .default
  source := sampleArrival
  sink := { schedule := [.pending, .accept 200, .accept 200], wire := [] }
  addr := (sampleHandshake.1.result?.get sampleHandshake_isSome).1
  reads := sampleReads
  handshaked := sampleHandshake.2
  reply := [6, 6]
  replies := [(121 * Time.second, [6, 6]), (122 * Time.second, [8])]
  acked := (sampleAnswerRun.get sampleAnswerRun_isSome).1
  server := (sampleAnswerRun.get sampleAnswerRun_isSome).2
  nonce_length := rfl
  timestamp := by decide
  arrives := sampleRequest_arrives 40
  unsent := rfl
  handshake_eq := sampleHandshake_eq
  rooms read hread := by
    obtain ⟨moment, -, rfl⟩ := List.mem_map.1 hread
    exact Nat.two_pos
  written := eq_some_get sampleAnswerRun_isSome

/-- The reads of the client. -/
def sampleAnswerReads (n : Nat) : List (Moment ExactFilter × Nat) :=
  List.replicate n ({ now := 130 * Time.second, context := .new false .localService .default }, 3)

theorem answer_relayed_sample :
    DeliveredRest sampleAnswer.payload
      (sampleRequest.source.pendings + sampleAnswer.payload.length < (sampleAnswerReads 40).length)
      (receive (pollOf (ProxyClientStream.readAt .transparent .aead2022Blake3Aes128Gcm .transparent))
        (sampleAnswerReads 40) sampleRequest.client) := by
  refine sampleAnswer.answer_relayed (fun read hread => ?_)
    ⟨by decide +kernel, by decide +kernel, fun _ => ?_, fun moment hmoment => ?_⟩
  · obtain rfl := List.eq_of_mem_replicate hread
    exact Nat.succ_pos 2
  · change 59 ≤ _
    decide +kernel
  · obtain ⟨read, hread, rfl⟩ := List.mem_map.1 (List.mem_of_getElem? hmoment)
    obtain rfl := List.eq_of_mem_replicate hread
    exact ⟨by decide, rfl⟩

end Samples

end Shadowsocks.Tcp
