import Shadowsocks.Lib.Reachable
import Shadowsocks.Tcp.Acknowledged
import Shadowsocks.Tcp.CryptoIoRuns

/-! # The server's stream to a client

`proxy_stream::server`: an AEAD-2022 server writes nothing before its reader has the salt of the
request.  On a multi-user server the writer goes over to the user's key with the first read that
is ready after the handshake, so a write that is polled before that and after the salt has come
is sealed under the server's own key (`seals_under_server_key`); all others are sealed for the
user (`sealed_for_user`).
-/

namespace Shadowsocks.Tcp

open Shadowsocks.Lib

/-- `ProxyServerStreamWriteState`, without the waker of the task that waits. -/
inductive ProxyServerStreamWriteState where
  | prepareHeader
  | established
deriving DecidableEq, Repr

structure ProxyServerStream (K S B : Type) where
  stream : CryptoIo.CryptoStream K S B
  writerState : ProxyServerStreamWriteState
  hasHandshaked : Bool

namespace ProxyServerStream

open CryptoIo Aead2022

variable {K S B : Type} [BloomFilter B]

/-- What a server's streams are made for. -/
def config (crypto : CryptoSuite K) (method : CipherKind)
    (userManager : Option (ServerUserManager crypto)) : ReaderConfig crypto :=
  { streamTy := .server, method := method, userManager := userManager }

section Polls

variable {crypto : CryptoSuite K} (cfg : ReaderConfig crypto) (suite : Stream.StreamSuite S)

/-- `from_stream`. -/
def fromStream (context : Context B) (source : Source) (sink : Sink) (key nonce : Bytes) :
    ProxyServerStream K S B :=
  { stream := CryptoStream.fromStreamWithIdentity cfg suite context source sink key nonce []
    writerState := if cfg.method.isAead2022 then .prepareHeader else .established
    hasHandshaked := false }

/-- A poll of the stream inside. -/
def inner {ε α : Type} (x : PollM (CryptoStream K S B) ε α) :
    PollM (ProxyServerStream K S B) ε α :=
  fun s => x.on s.stream fun stream => { s with stream := stream }

def setHandshaked (s : ProxyServerStream K S B) : ProxyServerStream K S B :=
  { s with hasHandshaked := true }

def setWriterState (state : ProxyServerStreamWriteState) (s : ProxyServerStream K S B) :
    ProxyServerStream K S B :=
  { s with writerState := state }

/-- `handshake`, up to its first read.  What it does after that is to read the request header
    from this stream, by reads of `pollRead` with as much room as the header's next field. -/
def beginHandshake : PollM (ProxyServerStream K S B) Failure Unit :=
  PollM.get >>= fun s =>
    if s.hasHandshaked then PollM.fail (.io (.other "stream is already handshaked"))
    else PollM.update setHandshaked

/-- `poll_read`. -/
def pollRead (call : ReadCall B) : PollM (ProxyServerStream K S B) Failure Bytes :=
  PollM.get >>= fun s =>
    if s.hasHandshaked then
      inner (PollM.mapErr ProtocolError.toFailure (CryptoStream.pollReadDecrypted cfg suite call))
    else PollM.fail (.io (.other "stream is not handshaked yet"))

/-- `poll_write_encrypted` of the stream inside. -/
def writeInner (now : Time) (buf : Bytes) : PollM (ProxyServerStream K S B) Failure Nat :=
  inner (PollM.mapErr ProtocolError.toFailure (CryptoStream.pollWriteEncrypted cfg suite now buf))

/-- `poll_write`.  Its loop goes round once more at most, with the request's salt. -/
def pollWrite (now : Time) (buf : Bytes) : PollM (ProxyServerStream K S B) Failure Nat :=
  PollM.get >>= fun s =>
    match s.writerState with
    | .established => writeInner cfg suite now buf
    | .prepareHeader =>
      inner CryptoStream.setRequestNonceWithReceived >>= fun received =>
        if received then
          PollM.update (setWriterState .established) >>= fun _ => writeInner cfg suite now buf
        else PollM.wait

/-! ## Runs -/

/-- A poll of a server's stream. -/
inductive ServerPoll (B : Type) where
  | handshake
  | read (call : ReadCall B)
  | write (now : Time) (buf : Bytes)

/-- The state after a poll; a panic ends the run. -/
def stateAfter {α : Type} : Polled Failure α × ProxyServerStream K S B →
    Option (ProxyServerStream K S B)
  | (.panicked, _) => none
  | (_, s) => some s

def serverStep (s : ProxyServerStream K S B) : ServerPoll B → Option (ProxyServerStream K S B)
  | .handshake => stateAfter (beginHandshake s)
  | .read call => stateAfter (pollRead cfg suite call s)
  | .write now buf => stateAfter (pollWrite cfg suite now buf s)

/-- When a write finds that the request has come, the method has identity headers and the stream
    has noted the handshake. -/
def Noted (s : ProxyServerStream K S B) : ServerPoll B → Prop
  | .write _ _ => s.stream.receivedNonce.isSome →
      cfg.requireEih = true ∧ s.stream.hasHandshaked = true
  | .handshake => True
  | .read _ => True

end Polls

/-! ## What every poll keeps -/

/-- The writer of a response. -/
def responder (key : Bytes) (requestSalt userKey : Option Bytes) : Sender :=
  { streamTy := .server, key := key, identityKeys := [], requestSalt := requestSalt
    userKey := userKey }

variable {crypto : CryptoSuite K} {cfg : ReaderConfig crypto} {suite : Stream.StreamSuite S}
  {key peer nonce : Bytes}

/-- Nothing has been written; the writer has the user's key since the handshake was noted. -/
structure Waiting (cfg : ReaderConfig crypto) (key nonce : Bytes) (s : CryptoStream K S B) :
    Prop where
  wire : s.sink.wire = []
  enc : s.enc = .aead2022 ((responder key none (if s.hasHandshaked then s.dec.userKey else
    none)).writer crypto cfg.method nonce)

/-- The response to the request is being written, under the user's key. -/
structure Answering (cfg : ReaderConfig crypto) (key nonce : Bytes) (s : CryptoStream K S B) :
    Prop where
  requireEih : cfg.requireEih = true
  handshaked : s.hasHandshaked = true
  writes : Writes (aead2022Writer crypto cfg.method (responder key s.receivedNonce s.dec.userKey)
    nonce).Sealing s

/-- What holds of a server's crypto stream between two polls. -/
structure Sealed (cfg : ReaderConfig crypto) (key peer nonce : Bytes)
    (state : ProxyServerStreamWriteState) (s : CryptoStream K S B) : Prop where
  reads : ∃ n, Reads ((frame cfg key peer).Kept n) s
  handshaked : s.hasHandshaked = true → s.receivedNonce.isSome
  phase : match state with
    | .prepareHeader => Waiting cfg key nonce s
    | .established => Answering cfg key nonce s

section Streams

variable {state : ProxyServerStreamWriteState} {s t : CryptoStream K S B}

/-- The reader going on leaves the writer's phase alone. -/
theorem Sealed.of_writesAs (h : Sealed cfg key peer nonce state s)
    (hreads : ∃ n, Reads ((frame cfg key peer).Kept n) t) (hsame : WritesAs s t)
    (hsteady : Steady s t) : Sealed cfg key peer nonce state t := by
  have hreported : t.hasHandshaked = true → t.receivedNonce = s.receivedNonce ∧
      s.receivedNonce.isSome ∧ t.dec.userKey = s.dec.userKey := by
    intro hhandshaked
    have hsome := h.handshaked (hsame.hasHandshaked ▸ hhandshaked)
    exact ⟨(hsteady hsome).1, hsome, (hsteady hsome).2.2⟩
  refine ⟨hreads, fun hhandshaked => ?_, ?_⟩
  · obtain ⟨hnonce, hsome, -⟩ := hreported hhandshaked
    rw [hnonce]
    exact hsome
  · have hphase := h.phase
    cases state with
    | prepareHeader =>
      have huser : (if s.hasHandshaked then s.dec.userKey else none) =
          if t.hasHandshaked then t.dec.userKey else none := by
        rw [← hsame.hasHandshaked]
        split
        · next hhandshaked => exact (hreported hhandshaked).2.2.symm
        · rfl
      refine ⟨hsame.sink ▸ hphase.wire, ?_⟩
      rw [hsame.enc, hphase.enc, huser]
    | established =>
      have hhandshaked := hsame.hasHandshaked.trans hphase.handshaked
      obtain ⟨hnonce, -, huser⟩ := hreported hhandshaked
      refine ⟨hphase.requireEih, hhandshaked, ?_⟩
      rw [hnonce, huser]
      exact hphase.writes.of_writesAs hsame

/-- The first read that is ready after the handshake gives the user's key to the writer, which
    has not written anything. -/
theorem noteHandshake_sealed (h : Sealed cfg key peer nonce state s) :
    ∃ t, CryptoStream.noteHandshake cfg s = (.ready (), t) ∧
      Sealed cfg key peer nonce state t := by
  unfold CryptoStream.noteHandshake
  split
  · next hfirst =>
    obtain ⟨hnot, hopened⟩ := hfirst
    obtain ⟨n, reader, hdec, hkept⟩ := h.reads
    have hsome : s.receivedNonce.isSome := by
      rw [CryptoStream.receivedNonce, hdec]
      rw [hdec] at hopened
      cases hkept with
      | head hn hhead => exact absurd (hopened.symm.trans hhead.handshaked) Bool.noConfusion
      | body hrunning _ _ =>
        obtain ⟨c, -, ⟨header, hreported⟩, -⟩ := hrunning.after
        exact (congrArg Option.isSome hreported.salt).trans rfl
    have hphase := h.phase
    cases state with
    | established => exact absurd (hnot.symm.trans hphase.handshaked) Bool.noConfusion
    | prepareHeader =>
      have henc := hphase.enc
      rw [hnot, if_neg Bool.false_ne_true] at henc
      cases huser : s.dec.userKey with
      | none =>
        refine ⟨_, rfl, ⟨n, reader, hdec, hkept⟩, fun _ => hsome, hphase.wire, ?_⟩
        change s.enc = .aead2022 ((responder key none s.dec.userKey).writer crypto cfg.method nonce)
        rw [huser, henc]
      | some userKey =>
        have hreset : s.enc.resetCipherWithKey crypto cfg.method userKey = some (.aead2022
            ((responder key none s.dec.userKey).writer crypto cfg.method nonce)) := by
          rw [henc, huser, Sender.writer_eq, Sender.writer_eq]
          rfl
        dsimp only
        rw [hreset]
        exact ⟨_, rfl, ⟨n, reader, hdec, hkept⟩, fun _ => hsome, hphase.wire, rfl⟩
  · exact ⟨s, rfl, h⟩

theorem pollReadDecrypted_sealed (suite : Stream.StreamSuite S) (call : ReadCall B)
    (h : Sealed cfg key peer nonce state s) :
    Post.holds (Post.always (Sealed cfg key peer nonce state))
      (CryptoStream.pollReadDecrypted cfg suite call s) := by
  obtain ⟨n, hreads⟩ := h.reads
  have hpoll := pollDec_reads suite (frame cfg key peer) call hreads
  have hsteady := pollDec_steady suite call hreads
  unfold CryptoStream.pollReadDecrypted
  rcases hres : CryptoStream.pollDec cfg suite call s with ⟨res, t⟩
  rw [hres] at hpoll hsteady
  have hsealed : WritesAs s t ∧ Reads ((frame cfg key peer).Kept (n + s.chunksOpened cfg call)) t →
      Sealed cfg key peer nonce state t := fun ht => h.of_writesAs ⟨_, ht.2⟩ ht.1 hsteady
  cases res with
  | ready out =>
    obtain ⟨hwrites, reader, hdec, hkept, -⟩ := hpoll
    obtain ⟨u, hnote, hu⟩ := noteHandshake_sealed (hsealed ⟨hwrites, reader, hdec, hkept⟩)
    rw [PollM.bind_ready hres, PollM.bind_ready hnote]
    exact hu
  | pending =>
    rw [PollM.bind_pending hres]
    exact hsealed hpoll
  | failed e =>
    rw [PollM.bind_failed hres]
    exact hsealed hpoll
  | panicked =>
    rw [PollM.bind_panicked hres]
    exact hsealed hpoll

theorem pollWriteEncrypted_sealed (suite : Stream.StreamSuite S) (now : Time) (buf : Bytes)
    (h : Sealed cfg key peer nonce .established s) :
    Post.holds (Post.always (Sealed cfg key peer nonce .established))
      (CryptoStream.pollWriteEncrypted cfg suite now buf s) := by
  have hphase : Answering cfg key nonce s := h.phase
  have hpoll := pollWriteEncrypted_writes cfg suite now buf
    ((aead2022Writer crypto cfg.method _ nonce).poll_sealing now buf) hphase.writes
  obtain ⟨hwrites, hsame⟩ := Post.holds_always.1 hpoll
  obtain ⟨n, hreads⟩ := h.reads
  have hnonce : (CryptoStream.pollWriteEncrypted cfg suite now buf s).2.receivedNonce =
      s.receivedNonce := congrArg CryptoIo.DecryptedReader.nonce hsame.dec
  refine Post.holds_always.2 ⟨⟨n, hreads.of_readsAs hsame⟩, fun _ => ?_, hphase.requireEih,
    hsame.hasHandshaked.trans hphase.handshaked, ?_⟩
  · rw [hnonce]
    exact h.handshaked hphase.handshaked
  · rw [hnonce, hsame.dec]
    exact hwrites

/-- With the salt of a request, the writer is the one that answers it. -/
theorem setRequestNonce_sealed (h : Sealed cfg key peer nonce .prepareHeader s)
    (hrequire : cfg.requireEih = true) (hhandshaked : s.hasHandshaked = true) :
    ∃ t, CryptoStream.setRequestNonceWithReceived s = (.ready true, t) ∧
      Sealed cfg key peer nonce .established t := by
  obtain ⟨requestSalt, hsalt⟩ := Option.isSome_iff_exists.1 (h.handshaked hhandshaked)
  have hphase : Waiting cfg key nonce s := h.phase
  have henc := hphase.enc
  rw [hhandshaked, if_pos rfl] at henc
  have hset : s.enc.setRequestNonce requestSalt = some (.aead2022
      ((responder key (some requestSalt) s.dec.userKey).writer crypto cfg.method nonce)) := by
    rw [henc, Sender.writer_eq, Sender.writer_eq]
    rfl
  have hnonce : s.dec.nonce = some requestSalt := hsalt
  unfold CryptoStream.setRequestNonceWithReceived
  simp only [hnonce, hset]
  refine ⟨_, rfl, h.reads, h.handshaked, hrequire, hhandshaked, _, rfl, [], .inl ?_⟩
  change _ = (responder key s.dec.nonce s.dec.userKey).writer crypto cfg.method nonce ∧ _
  rw [hnonce]
  exact ⟨rfl, hphase.wire⟩

end Streams

/-! ## The server's polls -/

/-- What holds of a server's stream between two polls. -/
def SealedStream (cfg : ReaderConfig crypto) (key peer nonce : Bytes)
    (s : ProxyServerStream K S B) : Prop :=
  Sealed cfg key peer nonce s.writerState s.stream

section Polls

variable {s t : ProxyServerStream K S B}

theorem pollRead_sealed (suite : Stream.StreamSuite S) (call : ReadCall B)
    (h : SealedStream cfg key peer nonce s) :
    Post.holds (Post.always (SealedStream cfg key peer nonce)) (pollRead cfg suite call s) := by
  unfold pollRead
  rw [PollM.get_bind]
  split
  · unfold inner
    apply Post.holds_on
    apply Post.holds_mapErr
    exact Post.mono (pollReadDecrypted_sealed suite call h)
      ⟨fun _ _ h => h, fun _ h => h, fun _ _ h => h, fun _ h => h⟩
  · exact h

theorem writeInner_sealed (suite : Stream.StreamSuite S) (now : Time) (buf : Bytes)
    (hstate : s.writerState = .established) (h : SealedStream cfg key peer nonce s) :
    Post.holds (Post.always (SealedStream cfg key peer nonce)) (writeInner cfg suite now buf s) := by
  have hkept : ∀ t : CryptoStream K S B, Sealed cfg key peer nonce .established t →
      SealedStream cfg key peer nonce { s with stream := t } := by
    intro t ht
    rw [← hstate] at ht
    exact ht
  unfold SealedStream at h
  rw [hstate] at h
  unfold writeInner inner
  apply Post.holds_on
  apply Post.holds_mapErr
  exact Post.mono (pollWriteEncrypted_sealed suite now buf h)
    ⟨fun _ => hkept, hkept, fun _ => hkept, hkept⟩

/-- A write before the request waits; the first one after it takes the request's salt along. -/
theorem pollWrite_sealed (suite : Stream.StreamSuite S) (now : Time) (buf : Bytes)
    (h : SealedStream cfg key peer nonce s) (hnoted : Noted cfg s (.write now buf)) :
    Post.holds (Post.always (SealedStream cfg key peer nonce)) (pollWrite cfg suite now buf s) := by
  unfold pollWrite
  rw [PollM.get_bind]
  cases hstate : s.writerState with
  | established => exact writeInner_sealed suite now buf hstate h
  | prepareHeader =>
    have hstream := h
    unfold SealedStream at hstream
    rw [hstate] at hstream
    cases hsalt : s.stream.dec.nonce with
    | none =>
      have hset : inner (B := B) CryptoStream.setRequestNonceWithReceived s = (.ready false, s) := by
        unfold inner PollM.on CryptoStream.setRequestNonceWithReceived
        rw [hsalt]
      dsimp only
      rw [PollM.bind_ready hset]
      exact h
    | some requestSalt =>
      obtain ⟨hrequire, hhandshaked⟩ := hnoted ((congrArg Option.isSome hsalt).trans rfl)
      obtain ⟨stream, hset, hsealed⟩ := setRequestNonce_sealed hstream hrequire hhandshaked
      have hinner : inner CryptoStream.setRequestNonceWithReceived s =
          (.ready true, { s with stream := stream }) := by
        unfold inner PollM.on
        rw [hset]
      dsimp only
      rw [PollM.bind_ready hinner]
      exact writeInner_sealed suite now buf
        (s := setWriterState .established { s with stream := stream }) rfl hsealed

omit [BloomFilter B] in
theorem stateAfter_always {α : Type} {I : ProxyServerStream K S B → Prop}
    {r : Polled Failure α × ProxyServerStream K S B} (h : Post.holds (Post.always I) r)
    (hstep : stateAfter r = some t) : I t := by
  rcases r with ⟨res, s⟩
  cases res with
  | panicked => cases hstep
  | ready a => exact Option.some.inj hstep ▸ h
  | pending => exact Option.some.inj hstep ▸ h
  | failed e => exact Option.some.inj hstep ▸ h

/-- One poll of a server's stream. -/
theorem serverStep_sealed {e : ServerPoll B} (h : SealedStream cfg key peer nonce s)
    (hnoted : Noted cfg s e) (hstep : serverStep cfg suite s e = some t) :
    SealedStream cfg key peer nonce t := by
  cases e with
  | read call => exact stateAfter_always (pollRead_sealed suite call h) hstep
  | write now buf => exact stateAfter_always (pollWrite_sealed suite now buf h hnoted) hstep
  | handshake =>
    refine stateAfter_always (I := SealedStream cfg key peer nonce) ?_ hstep
    unfold beginHandshake
    rw [PollM.get_bind]
    split
    · exact h
    · exact h

end Polls

theorem fromStream_sealed (hmethod : cfg.method.isAead2022) (hpos : 0 < crypto.saltLen cfg.method)
    (hserver : cfg.streamTy = .server) (suite : Stream.StreamSuite S) (context : Context B)
    (source : Source) {sink : Sink} (hwire : sink.wire = []) :
    SealedStream cfg key source.bytes nonce
      (fromStream cfg suite context source sink key nonce) := by
  have hcat : cfg.method.category = .aead2022 := of_decide_eq_true hmethod
  have hstate : (fromStream cfg suite context source sink key nonce).writerState =
      .prepareHeader := if_pos hmethod
  unfold SealedStream
  rw [hstate]
  refine ⟨⟨0, Aead2022.DecryptedReader.new crypto cfg.method key, ?_, ?_⟩, nofun, hwire, ?_⟩
  · change CryptoIo.DecryptedReader.withUserManager cfg suite key = _
    simp only [CryptoIo.DecryptedReader.withUserManager, hcat]
  · unfold CryptoStream.world Aead2022.DecryptedReader.new
    rw [if_pos hpos]
    exact .head rfl ⟨rfl, rfl, rfl, rfl, rfl, fun _ => rfl, List.suffix_refl _⟩
  · change CryptoIo.EncryptedWriter.withIdentity cfg suite key nonce [] = _
    simp only [CryptoIo.EncryptedWriter.withIdentity, hcat, hserver]
    rfl

/-! ## The response -/

/-- All that has been written is a response to the request, under the key of the user whom its
    identity header names. -/
def ForUser (cfg : ReaderConfig crypto) (users : ServerUserManager crypto)
    (key peer nonce : Bytes) (s : ProxyServerStream K S B) : Prop :=
  s.stream.sink.wire = [] ∨
    ∃ (header : AcceptedHeader cfg key peer) (user : ServerUser) (sentAt : Time)
      (payloads : List Bytes),
      s.stream.receivedNonce = some header.salt ∧ header.Identifies users user ∧
        s.stream.sink.wire <+: streamOf crypto cfg.method
          (responder key (some header.salt) (some user.key)) nonce sentAt payloads

/-- What a writer has sent is a beginning of its stream. -/
theorem wire_of_sealing {sender : Sender} {w : WriteWorld K AssembleHeader WriterFields}
    (h : (aead2022Writer crypto cfg.method sender nonce).Sealing w) :
    w.sink.wire = [] ∨ ∃ sentAt payloads,
      w.sink.wire <+: streamOf crypto cfg.method sender nonce sentAt payloads := by
  obtain ⟨payloads, hidle | ⟨-, sentAt, hflushing⟩⟩ := h
  · cases payloads with
    | nil => exact .inl hidle.2
    | cons p ps =>
      obtain ⟨sentAt, hsettled⟩ := hidle
      exact .inr ⟨sentAt, p :: ps, hsettled.wire ▸ List.prefix_refl _⟩
  · obtain ⟨pos, -, -, hwire⟩ := hflushing.writing
    exact .inr ⟨sentAt, payloads, _, hwire⟩

theorem Sealed.forUser {users : ServerUserManager crypto} {s : ProxyServerStream K S B}
    (husers : cfg.userManager = some users) (h : SealedStream cfg key peer nonce s) :
    ForUser cfg users key peer nonce s := by
  have hphase := h.phase
  cases hstate : s.writerState with
  | prepareHeader =>
    rw [hstate] at hphase
    exact .inl hphase.wire
  | established =>
    rw [hstate] at hphase
    obtain ⟨writer, -, hsealing⟩ := hphase.writes
    obtain hnone | ⟨sentAt, payloads, hprefix⟩ := wire_of_sealing hsealing
    · exact .inl hnone
    · obtain ⟨n, reader, hdec, hkept⟩ := h.reads
      have hsome := h.handshaked hphase.handshaked
      unfold CryptoStream.receivedNonce at hsome hprefix
      rw [hdec] at hsome hprefix
      obtain ⟨c, -, ⟨⟨header, hreported⟩, -⟩, -⟩ := known_of_salt hkept hsome
      obtain ⟨user, hidentifies, huser⟩ := header.identifies husers hphase.requireEih
      have hsalt : reader.rest.salt = some header.salt := hreported.salt
      have hkey : reader.rest.userKey = some user.key := by
        rw [huser]
        exact hreported.userKey.trans (if_pos hphase.requireEih)
      change s.stream.sink.wire <+: streamOf crypto cfg.method
        (responder key reader.rest.salt reader.rest.userKey) nonce sentAt payloads at hprefix
      rw [hsalt, hkey] at hprefix
      refine .inr ⟨header, user, sentAt, payloads, ?_, hidentifies, hprefix⟩
      rw [CryptoStream.receivedNonce, hdec]
      exact hsalt

/-- **Responses are for the user of the request.** In every run in which no write finds a request
    that the stream has not noted yet, whatever is written carries the salt of the request and is
    sealed under the key of the user whom the request's header names. -/
theorem sealed_for_user {method : CipherKind} {users : ServerUserManager crypto}
    (hmethod : method.isAead2022) (hpos : 0 < crypto.saltLen method) {context : Context B}
    {source : Source} {sink : Sink} (hwire : sink.wire = []) {s : ProxyServerStream K S B}
    (hrun : Reachable (serverStep (config crypto method (some users)) suite)
      (Noted (config crypto method (some users)))
      (fromStream (config crypto method (some users)) suite context source sink key nonce) s) :
    ForUser (config crypto method (some users)) users key source.bytes nonce s := by
  apply Sealed.forUser rfl
  exact hrun.invariant _ (fromStream_sealed hmethod hpos rfl suite context source hwire)
    fun h hnoted hstep => serverStep_sealed h hnoted hstep

/-! ### A server with one user -/

section Samples

/-- A server's stream to the user of the sample session, whose request is there in two parts. -/
def sampleStart : ProxyServerStream (Bytes × Bytes) Unit ExactFilter :=
  fromStream (sampleServer .aead2022Blake3Aes128Gcm) Stream.StreamSuite.transparent
    (.new true .server .default) sampleSource { schedule := [.accept 100], wire := [] } [5]
    (List.replicate 16 9)

def samplePoll : ServerPoll ExactFilter :=
  .read { now := 110 * Time.second, context := .new true .server .default, room := 10 }

def sampleStep : ProxyServerStream (Bytes × Bytes) Unit ExactFilter → ServerPoll ExactFilter →
    Option (ProxyServerStream (Bytes × Bytes) Unit ExactFilter) :=
  serverStep (sampleServer .aead2022Blake3Aes128Gcm) Stream.StreamSuite.transparent

/-- Behind the salt and the header of a sample response stands its tag, which shows the key. -/
theorem responder_tag {requestSalt salt : Bytes} {userKey : Option Bytes}
    (hrequest : requestSalt.length = 16) (hsalt : salt.length = 16) {sentAt : Time}
    {payloads : List Bytes} {wire : Bytes} (hlong : 44 < wire.length)
    (hwire : wire <+: streamOf .transparent .aead2022Blake3Aes128Gcm
      (responder [5] (some requestSalt) userKey) salt sentAt payloads) :
    (wire.drop 43).take 2 = [0, (userKey.getD [5]).headD 0] := by
  obtain ⟨rest, hstream⟩ := hwire
  cases payloads with
  | nil =>
    have hlength := congrArg List.length hstream
    simp [streamOf, responder, Sender.identity, hsalt] at hlength
    omega
  | cons p ps =>
    have hplain : ∀ length,
        (headerPlain .server sentAt.unixSecs (some requestSalt) length).length = 27 := by
      intro length
      simp [headerPlain, hrequest]
    change wire ++ rest = salt ++ (headerPlain .server sentAt.unixSecs (some requestSalt)
      p.length ++ (0 :: (userKey.getD [5] ++ List.replicate 16 0)).take 16) ++
        remaining (CryptoSuite.transparent.scheme .aead2022Blake3Aes128Gcm) _ _ _ at hstream
    rw [← List.append_assoc salt, List.append_assoc (salt ++ _)] at hstream
    have hdrop := congrArg (fun bs : Bytes => (bs.drop 43).take 2) hstream
    rw [List.drop_append_of_le_length (by omega), List.take_append_of_le_length (by simp; omega),
      List.drop_left' (by simp [hsalt, hplain])] at hdrop
    rw [hdrop]
    cases userKey.getD [5] with
    | nil => rfl
    | cons b bs => rfl

/-- **A response under the server's key.** When the header of a request is there and its first
    data chunk is not, a write is sealed under the server's own key. -/
theorem seals_under_server_key : ∃ s,
    [.handshake, samplePoll, samplePoll, .write 0 [42]].foldlM sampleStep sampleStart = some s ∧
      s.stream.sink.wire = streamOf .transparent .aead2022Blake3Aes128Gcm
        (responder [5] (some sampleSalt) none) (List.replicate 16 9) 0 [[42]] ∧
      ¬ForUser (sampleServer .aead2022Blake3Aes128Gcm) sampleUsers [5] sampleSource.bytes
        (List.replicate 16 9) s := by
  obtain ⟨s, hrun⟩ := Option.isSome_iff_exists.1 (by decide +kernel :
    ([.handshake, samplePoll, samplePoll, .write 0 [42]].foldlM sampleStep sampleStart).isSome)
  have hwire : s.stream.sink.wire = streamOf .transparent .aead2022Blake3Aes128Gcm
      (responder [5] (some sampleSalt) none) (List.replicate 16 9) 0 [[42]] := by
    have hsent : ([.handshake, samplePoll, samplePoll, .write 0 [42]].foldlM sampleStep
        sampleStart).map (·.stream.sink.wire) = some (streamOf .transparent
          .aead2022Blake3Aes128Gcm (responder [5] (some sampleSalt) none) (List.replicate 16 9) 0
          [[42]]) := by decide +kernel
    rw [hrun] at hsent
    exact Option.some.inj hsent
  refine ⟨s, hrun, hwire, ?_⟩
  rintro (hnone | ⟨header, user, sentAt, payloads, hsalt, ⟨eihKey, -, huser⟩, hprefix⟩)
  · rw [hwire] at hnone
    exact absurd hnone (by decide +kernel)
  · have hkey : user.key = [7] := by
      obtain rfl : user = sampleUser := List.mem_singleton.1 (List.mem_of_find?_eq_some huser)
      rfl
    have hlength : header.salt.length = 16 := by
      rw [AcceptedHeader.salt, List.length_take, header.length]
      decide
    rw [hkey, hwire] at hprefix
    have htag := responder_tag hlength List.length_replicate (by decide +kernel) hprefix
    exact absurd htag (by decide +kernel)

instance (s : ProxyServerStream K S B) : ∀ e, Decidable (Noted cfg s e)
  | .handshake => isTrue trivial
  | .read _ => isTrue trivial
  | .write _ _ => inferInstanceAs (Decidable (_ → _ ∧ _))

/-- With one more read, which delivers the first bytes of the request, the write is sealed for
    the user. -/
theorem sealed_for_user_sample : ∃ s,
    Reachable sampleStep (Noted (sampleServer .aead2022Blake3Aes128Gcm)) sampleStart s ∧
      s.stream.sink.wire ≠ [] ∧
      ForUser (sampleServer .aead2022Blake3Aes128Gcm) sampleUsers [5] sampleSource.bytes
        (List.replicate 16 9) s := by
  let events := [.handshake, samplePoll, samplePoll, samplePoll, .write 0 [42]]
  let noted (s : ProxyServerStream (Bytes × Bytes) Unit ExactFilter) (e : ServerPoll ExactFilter) :
      Bool := decide (Noted (sampleServer .aead2022Blake3Aes128Gcm) s e)
  let run := events.foldlM (fun s e => if noted s e then sampleStep s e else none) sampleStart
  obtain ⟨s, hrun⟩ := Option.isSome_iff_exists.1 (by decide +kernel : run.isSome)
  have hsent : run.map (·.stream.sink.wire) ≠ some [] := by decide +kernel
  rw [hrun] at hsent
  have hreachable : Reachable sampleStep (Noted (sampleServer .aead2022Blake3Aes128Gcm))
      sampleStart s :=
    (Reachable.of_checked hrun).weaken fun _ _ h => of_decide_eq_true h
  exact ⟨s, hreachable, fun hnone => hsent (congrArg some hnone),
    sealed_for_user (by decide) (by decide) rfl hreachable⟩

end Samples

end ProxyServerStream

end Shadowsocks.Tcp
