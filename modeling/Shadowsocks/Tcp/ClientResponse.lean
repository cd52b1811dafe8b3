import Shadowsocks.Lib.Reachable
import Shadowsocks.Tcp.CryptoIoRuns
import Shadowsocks.Tcp.ProxyClientStream

/-! # A response answers its request

A client that speaks AEAD-2022 delivers plaintext only of a response whose header carries the salt
of the client's own request, however reads and writes are interleaved and whatever the peer
sends; after one mismatch it delivers nothing any more (`plaintext_answers`).
-/

namespace Shadowsocks.Tcp.ProxyClientStream

open Shadowsocks.Lib Shadowsocks.Net CryptoIo Aead2022

variable {K S B : Type} [BloomFilter B]

/-! ## Runs -/

/-- A poll of a client's stream. -/
inductive ClientPoll (B : Type) where
  | read (call : ReadCall B)
  | write (now : Time) (padding buf : Bytes)

/-- A client's stream, with how many data chunks its reader has opened and whether a poll has
    found that the response does not answer the request. -/
structure ClientRun (K S B : Type) where
  client : ProxyClientStream K S B
  chunks : Nat
  mismatched : Bool

def isMismatch {α : Type} : Polled Failure α → Bool
  | .failed .unmatchedSalt => true
  | _ => false

section Runs

variable (crypto : CryptoSuite K) (method : CipherKind) (suite : Stream.StreamSuite S)

/-- How many data chunks a poll opens. -/
def chunksOpened (call : ReadCall B) (s : ProxyClientStream K S B) : Nat :=
  s.stream.chunksOpened (config crypto method) call

/-- One poll; a panic ends the run. -/
def clientStep (r : ClientRun K S B) : ClientPoll B → Option (ClientRun K S B)
  | .read call =>
    match pollRead crypto method suite call r.client with
    | (.panicked, _) => none
    | (res, s) => some
      { client := s, chunks := r.chunks + chunksOpened crypto method call r.client
        mismatched := r.mismatched || isMismatch res }
  | .write now padding buf =>
    match pollWrite crypto method suite now padding buf r.client with
    | (.panicked, _) => none
    | (_, s) => some { r with client := s }

/-- A new client's stream, of which nothing has been polled. -/
def clientStart (context : Context B) (source : Source) (sink : Sink) (key nonce : Bytes)
    (identityKeys : List Bytes) (addr : Address) : ClientRun K S B :=
  { client := fromStream crypto method suite context source sink key nonce identityKeys addr
    chunks := 0
    mismatched := false }

end Runs

/-! ## What every poll keeps -/

variable {crypto : CryptoSuite K} {method : CipherKind} {suite : Stream.StreamSuite S}
  {key peer nonce : Bytes}

/-- The stream of a client whose writer sends `nonce`, `n` data chunks into the peer's bytes. -/
structure Sound (crypto : CryptoSuite K) (method : CipherKind)
    (key peer nonce : Bytes) (n : Nat) (s : CryptoStream K S B) : Prop where
  reads : Reads ((frame (config crypto method) key peer).Kept n) s
  writes : Writes (fun w => w.writer.rest.salt = nonce) s

omit [BloomFilter B] in
theorem sentNonce_of_writes {s : CryptoStream K S B}
    (h : Writes (fun w => w.writer.rest.salt = nonce) s) : s.sentNonce = nonce := by
  obtain ⟨writer, henc, hsalt⟩ := h
  rw [CryptoStream.sentNonce, henc, ← hsalt]
  rfl

/-- The salt of the request is the one that the response's header carries. -/
def Matches (nonce : Bytes) (s : CryptoStream K S B) : Prop :=
  s.receivedNonce.isSome ∧ s.receivedRequestNonce = some nonce

/-- It is not, though a header has been accepted. -/
def Mismatches (nonce : Bytes) (s : CryptoStream K S B) : Prop :=
  s.receivedNonce.isSome ∧ s.receivedRequestNonce ≠ some nonce

section Streams

omit [BloomFilter B]

theorem Matches.steady {s t : CryptoStream K S B} (h : Matches nonce s) (hsteady : Steady s t) :
    Matches nonce t :=
  ⟨(hsteady h.1).1 ▸ h.1, (hsteady h.1).2.1.trans h.2⟩

theorem Mismatches.steady {s t : CryptoStream K S B} (h : Mismatches nonce s)
    (hsteady : Steady s t) : Mismatches nonce t :=
  ⟨(hsteady h.1).1 ▸ h.1, fun heq => h.2 ((hsteady h.1).2.1.symm.trans heq)⟩

theorem Matches.not_mismatches {s : CryptoStream K S B} (h : Matches nonce s) :
    ¬Mismatches nonce s := fun h' => h'.2 h.2

end Streams

/-- The stream after a poll of its reader. -/
structure Advanced (crypto : CryptoSuite K) (method : CipherKind)
    (key peer nonce : Bytes) (n : Nat) (s t : CryptoStream K S B) : Prop where
  sound : Sound crypto method key peer nonce n t
  steady : Steady s t

/-- A client has no users, so its writer keeps its key. -/
theorem noteHandshake_sound {n : Nat} {s t : CryptoStream K S B}
    (h : Advanced crypto method key peer nonce n s t) :
    ∃ u, CryptoStream.noteHandshake (config crypto method) t = (.ready (), u) ∧
      Advanced crypto method key peer nonce n s u ∧
      u.receivedNonce = t.receivedNonce := by
  obtain ⟨reader, hdec, hkept⟩ := h.sound.reads
  have huser : t.dec.userKey = none := by
    rw [hdec]
    exact userKey_of_kept hkept rfl
  unfold CryptoStream.noteHandshake
  split
  · refine ⟨{ t with hasHandshaked := true }, by rw [huser], ⟨⟨?_, h.sound.writes⟩, h.steady⟩, rfl⟩
    exact ⟨reader, hdec, hkept⟩
  · exact ⟨t, rfl, h, rfl⟩

theorem pollReadDecrypted_sound (call : ReadCall B) {n : Nat} {s : CryptoStream K S B}
    (h : Sound crypto method key peer nonce n s) :
    let n' := n + s.chunksOpened (config crypto method) call
    Post.holds
      { ready := fun out t => Advanced crypto method key peer nonce n' s t ∧
          (out ≠ [] → t.receivedNonce.isSome ∧ 0 < n')
        pending := Advanced crypto method key peer nonce n' s
        failed := fun _ => Advanced crypto method key peer nonce n' s
        panicked := Advanced crypto method key peer nonce n' s }
      (CryptoStream.pollReadDecrypted (config crypto method) suite call s) := by
  intro n'
  have hpoll := pollDec_reads suite (frame (config crypto method) key peer) call h.reads
  have hsteady := pollDec_steady suite call h.reads
  unfold CryptoStream.pollReadDecrypted
  rcases hres : CryptoStream.pollDec (config crypto method) suite call s with ⟨res, t⟩
  rw [hres] at hpoll hsteady
  have hadvanced : WritesAs s t ∧ Reads ((frame (config crypto method) key peer).Kept n') t →
      Advanced crypto method key peer nonce n' s t := by
    rintro ⟨hwrites, hreads⟩
    exact ⟨⟨hreads, h.writes.of_writesAs hwrites⟩, hsteady⟩
  cases res with
  | ready out =>
    obtain ⟨hwrites, reader, hdec, hkept, hbuffered⟩ := hpoll
    obtain ⟨u, hnote, hu, hnonce⟩ := noteHandshake_sound (hadvanced ⟨hwrites, reader, hdec, hkept⟩)
    rw [PollM.bind_ready hres, PollM.bind_ready hnote]
    refine ⟨hu, fun hout => ?_⟩
    -- plain text is there only once a chunk has opened
    obtain ⟨hsalt, hpos⟩ := salt_of_buffered hkept (hbuffered hout)
    rw [hnonce, CryptoStream.receivedNonce, hdec]
    exact ⟨hsalt, hpos⟩
  | pending =>
    rw [PollM.bind_pending hres]
    exact hadvanced hpoll
  | failed e =>
    rw [PollM.bind_failed hres]
    exact hadvanced hpoll
  | panicked =>
    rw [PollM.bind_panicked hres]
    exact hadvanced hpoll

/-- No error of a protocol is taken for the one of a mismatch. -/
theorem toFailure_ne_unmatchedSalt (e : CryptoIo.ProtocolError) : e.toFailure ≠ .unmatchedSalt := by
  unfold ProtocolError.toFailure
  split <;> exact nofun

/-! ## The client's polls -/

theorem readInner_sound (suite : Stream.StreamSuite S) (call : ReadCall B) {n : Nat}
    {s : ProxyClientStream K S B}
    (h : Sound crypto method key peer nonce n s.stream) :
    let n' := n + chunksOpened crypto method call s
    let Kept (t : ProxyClientStream K S B) :=
      Advanced crypto method key peer nonce n' s.stream t.stream ∧
        t.readerState = s.readerState
    Post.holds
      { ready := fun out t => Kept t ∧ (out ≠ [] → t.stream.receivedNonce.isSome ∧ 0 < n')
        pending := Kept
        failed := fun e t => Kept t ∧ e ≠ .unmatchedSalt
        panicked := fun _ => True }
      (readInner crypto method suite call s) := by
  intro n' Kept
  unfold readInner inner
  apply Post.holds_on
  apply Post.holds_mapErr
  refine Post.mono (pollReadDecrypted_sound call h) ⟨?_, ?_, ?_, fun _ _ => trivial⟩
  · exact fun out t ht => ⟨⟨ht.1, rfl⟩, ht.2⟩
  · exact fun t ht => ⟨ht, rfl⟩
  · exact fun e t ht => ⟨⟨ht, rfl⟩, toFailure_ne_unmatchedSalt e⟩

/-- A response is checked as soon as a data chunk of it has opened. -/
theorem checkRequestNonce_sound (hnonce : nonce ≠ []) {n : Nat} {s : ProxyClientStream K S B}
    (h : Sound crypto method key peer nonce n s.stream)
    (hstate : s.readerState = .checkRequestNonce) :
    Post.holds
      { ready := fun _ t => t.stream = s.stream ∧
          (t.readerState = .established → Matches nonce s.stream) ∧
          (0 < n % 2 ^ 64 → Matches nonce s.stream)
        pending := fun _ => False
        failed := fun _ t => t = s ∧ Mismatches nonce s.stream }
      (checkRequestNonce s) := by
  obtain ⟨reader, hdec, hkept⟩ := h.reads
  have hcount : inner CryptoStream.dataChunkCount s = (.ready (n % 2 ^ 64), s) := by
    unfold inner PollM.on CryptoStream.dataChunkCount
    rw [hdec, ← dataChunkCount_eq hkept]
    rfl
  -- a data chunk opens only behind a header, which has brought the salt
  have hsome : 0 < n % 2 ^ 64 → s.stream.receivedNonce.isSome := by
    intro hpos
    rw [CryptoStream.receivedNonce, hdec]
    cases hkept with
    | head hn hhead =>
      rw [hn] at hpos
      exact absurd hpos (Nat.lt_irrefl 0)
    | body hrunning _ _ =>
      obtain ⟨c, -, ⟨header, hreported⟩, -⟩ := hrunning.after
      exact (congrArg Option.isSome hreported.salt).trans rfl
  unfold checkRequestNonce
  rw [PollM.bind_ready hcount]
  split
  · next hpos =>
    rw [PollM.get_bind]
    simp only [sentNonce_of_writes h.writes, if_neg hnonce]
    split
    · next hne => exact ⟨rfl, hsome hpos, fun heq => hne heq.symm⟩
    · next heq =>
      rw [ne_eq, not_not] at heq
      have hmatches : Matches nonce s.stream := ⟨hsome hpos, heq.symm⟩
      exact ⟨rfl, fun _ => hmatches, fun _ => hmatches⟩
  · next hzero =>
    refine ⟨rfl, fun hestablished => ?_, fun hpos => absurd hpos hzero⟩
    exact absurd (hstate.symm.trans hestablished) nofun

/-- What holds of a client's stream between two polls. -/
structure Checked (crypto : CryptoSuite K) (method : CipherKind)
    (key peer nonce : Bytes) (n : Nat) (s : ProxyClientStream K S B) : Prop where
  sound : Sound crypto method key peer nonce n s.stream
  established : s.readerState = .established → Matches nonce s.stream

/-- One read of a client. -/
theorem pollRead_checked (suite : Stream.StreamSuite S) (hnonce : nonce ≠ []) (call : ReadCall B) {n : Nat}
    {s : ProxyClientStream K S B} (h : Checked crypto method key peer nonce n s) :
    let n' := n + chunksOpened crypto method call s
    let Kept (t : ProxyClientStream K S B) :=
      Checked crypto method key peer nonce n' t ∧ Steady s.stream t.stream
    Post.holds
      { ready := fun out t => Kept t ∧ (n' < 2 ^ 64 → out ≠ [] → Matches nonce t.stream)
        pending := Kept
        failed := fun e t => Kept t ∧ (e = .unmatchedSalt → Mismatches nonce t.stream)
        panicked := fun _ => True }
      (pollRead crypto method suite call s) := by
  intro n' Kept
  have hinner := readInner_sound suite call h.sound
  unfold pollRead
  rw [PollM.get_bind]
  cases hstate : s.readerState with
  | established =>
    -- the salt was checked before, and the stream still reports the same
    have hmatches := h.established hstate
    have hkept : ∀ t : ProxyClientStream K S B,
        Advanced crypto method key peer nonce n' s.stream t.stream ∧
          t.readerState = s.readerState → Kept t := fun t ht =>
      ⟨⟨ht.1.sound, fun _ => hmatches.steady ht.1.steady⟩, ht.1.steady⟩
    refine Post.mono hinner ⟨?_, hkept, ?_, fun _ h => h⟩
    · exact fun out t ht => ⟨hkept t ht.1, fun _ _ => hmatches.steady ht.1.1.steady⟩
    · exact fun e t ht => ⟨hkept t ht.1, fun he => absurd he ht.2⟩
  | checkRequestNonce =>
    -- the inner read comes first, and the check only if it is ready
    have hkept : ∀ t : ProxyClientStream K S B,
        Advanced crypto method key peer nonce n' s.stream t.stream ∧
          t.readerState = s.readerState → Kept t := fun t ht =>
      ⟨⟨ht.1.sound, fun he => absurd (hstate.symm.trans (ht.2.symm.trans he)) nofun⟩,
        ht.1.steady⟩
    rcases hres : readInner crypto method suite call s with ⟨res, t⟩
    rw [hres] at hinner
    dsimp only
    cases res with
    | pending =>
      rw [PollM.bind_pending hres]
      exact hkept t hinner
    | failed e =>
      rw [PollM.bind_failed hres]
      exact ⟨hkept t hinner.1, fun he => absurd he hinner.2⟩
    | panicked =>
      rw [PollM.bind_panicked hres]
      trivial
    | ready out =>
      rw [PollM.bind_ready hres]
      obtain ⟨⟨hadvanced, hsame⟩, hout⟩ := hinner
      have hcheck := checkRequestNonce_sound hnonce hadvanced.sound (hsame.trans hstate)
      rcases hchecked : checkRequestNonce t with ⟨res, u⟩
      rw [hchecked] at hcheck
      cases res with
      | pending => exact hcheck.elim
      | panicked => exact hcheck.elim
      | failed e =>
        rw [PollM.bind_failed hchecked]
        obtain ⟨rfl, hmismatch⟩ := hcheck
        exact ⟨hkept u ⟨hadvanced, hsame⟩, fun _ => hmismatch⟩
      | ready _ =>
        rw [PollM.bind_ready hchecked]
        obtain ⟨hstream, hestablished, hmatches⟩ := hcheck
        refine ⟨⟨⟨hstream ▸ hadvanced.sound, hstream ▸ hestablished⟩,
          hstream ▸ hadvanced.steady⟩, fun hsmall hne => ?_⟩
        rw [hstream]
        refine hmatches ?_
        rw [Nat.mod_eq_of_lt hsmall]
        exact (hout hne).2

/-- A write leaves the reader alone, and the writer its salt. -/
theorem pollWriteEncrypted_sound (now : Time) (buf : Bytes) {n : Nat} {s : CryptoStream K S B}
    (h : Sound crypto method key peer nonce n s) :
    Post.holds (Post.always fun t => Sound crypto method key peer nonce n t ∧ Steady s t)
      (CryptoStream.pollWriteEncrypted (config crypto method) suite now buf s) := by
  have hsalt : Triple (fun w : WriteWorld K AssembleHeader WriterFields =>
      w.writer.rest.salt = nonce) (Aead2022.pollWriteEncrypted crypto method now buf)
      (Post.always fun w => w.writer.rest.salt = nonce) := by
    intro w hw
    have hrest := pollWriteEncrypted_rest (P := Aead2022.writeProtocol crypto method) now buf
      w.writer.rest w rfl
    refine Post.mono hrest ⟨fun _ t ht => ?_, fun t ht => ?_, fun _ t ht => ?_, fun t ht => ?_⟩
    all_goals exact (congrArg WriterFields.salt ht).trans hw
  have hpoll := pollWriteEncrypted_writes (config crypto method) suite now buf hsalt h.writes
  obtain ⟨hwrites, hreads⟩ := Post.holds_always.1 hpoll
  exact Post.holds_always.2 ⟨⟨h.reads.of_readsAs hreads, hwrites⟩, .of_readsAs hreads⟩

section Writes

variable {n : Nat} {s : ProxyClientStream K S B}

/-- The client's stream is as checked as before. -/
def StillChecked (crypto : CryptoSuite K) (method : CipherKind) (key peer nonce : Bytes) (n : Nat)
    (s t : ProxyClientStream K S B) : Prop :=
  Checked crypto method key peer nonce n t ∧ Steady s.stream t.stream

theorem writeInner_checked (now : Time) (buf : Bytes) :
    Triple (StillChecked crypto method key peer nonce n s) (writeInner crypto method suite now buf)
      (Post.always (StillChecked crypto method key peer nonce n s)) := by
  rintro t ⟨hchecked, hsteady⟩
  unfold writeInner inner
  apply Post.holds_on
  apply Post.holds_mapErr
  have hkept : ∀ u : CryptoStream K S B,
      Sound crypto method key peer nonce n u ∧ Steady t.stream u →
      StillChecked crypto method key peer nonce n s { t with stream := u } := fun u hu =>
    ⟨⟨hu.1, fun he => (hchecked.established he).steady hu.2⟩, hsteady.trans hu.2⟩
  exact Post.mono (pollWriteEncrypted_sound now buf hchecked.sound)
    ⟨fun _ => hkept, hkept, fun _ => hkept, hkept⟩

theorem writeFirstPacket_checked (now : Time) (packet buf : Bytes) :
    Triple (StillChecked crypto method key peer nonce n s)
      (writeFirstPacket crypto method suite now packet buf)
      (Post.always (StillChecked crypto method key peer nonce n s)) :=
  Triple.always_bind (writeInner_checked now packet) fun _ _ ht =>
    ⟨⟨ht.1.sound, ht.1.established⟩, ht.2⟩

/-- One write of a client. -/
theorem pollWrite_checked (suite : Stream.StreamSuite S) (now : Time) (padding buf : Bytes)
    (h : Checked crypto method key peer nonce n s) :
    Post.holds (Post.always (StillChecked crypto method key peer nonce n s))
      (pollWrite crypto method suite now padding buf s) := by
  have hstill : StillChecked crypto method key peer nonce n s s := ⟨h, Steady.refl s.stream⟩
  unfold pollWrite
  rw [PollM.get_bind]
  cases hstate : s.writerState with
  | connect addr =>
    dsimp only
    cases makeFirstPacketBuffer method padding addr buf with
    | none => exact hstill
    | some packet =>
      exact writeFirstPacket_checked now packet buf (s.setWriterState (.connecting packet))
        ⟨⟨h.sound, h.established⟩, Steady.refl s.stream⟩
  | connecting packet => exact writeFirstPacket_checked now packet buf s hstill
  | connected => exact writeInner_checked now buf s hstill

end Writes

/-! ## Whole runs -/

/-- What holds of every state of a run. -/
structure Guarded (crypto : CryptoSuite K) (method : CipherKind) (key peer nonce : Bytes)
    (r : ClientRun K S B) : Prop where
  checked : Checked crypto method key peer nonce r.chunks r.client
  mismatched : r.mismatched = true → Mismatches nonce r.client.stream

theorem isMismatch_iff {α : Type} {res : Polled Failure α} :
    isMismatch res = true ↔ res = .failed .unmatchedSalt := by
  unfold isMismatch
  split
  · simp
  · next hne => exact ⟨fun h => absurd h Bool.false_ne_true, fun h => absurd h hne⟩

theorem clientStep_guarded (hnonce : nonce ≠ []) {r r' : ClientRun K S B} {e : ClientPoll B}
    (h : Guarded crypto method key peer nonce r)
    (hstep : clientStep crypto method suite r e = some r') :
    Guarded crypto method key peer nonce r' := by
  cases e with
  | write now padding buf =>
    have hpoll := pollWrite_checked suite now padding buf h.checked
    rcases hres : pollWrite crypto method suite now padding buf r.client with ⟨res, s⟩
    rw [hres] at hpoll
    obtain ⟨hchecked, hsteady⟩ := Post.holds_always.1 hpoll
    unfold clientStep at hstep
    dsimp only at hstep
    rw [hres] at hstep
    cases res <;> cases hstep <;>
      exact ⟨hchecked, fun hmismatched => (h.mismatched hmismatched).steady hsteady⟩
  | read call =>
    have hpoll := pollRead_checked suite hnonce call h.checked
    rcases hres : pollRead crypto method suite call r.client with ⟨res, s⟩
    rw [hres] at hpoll
    unfold clientStep at hstep
    dsimp only at hstep
    rw [hres] at hstep
    cases res with
    | panicked => cases hstep
    | ready out =>
      cases hstep
      refine ⟨hpoll.1.1, fun hmismatched => ?_⟩
      exact (h.mismatched (by simpa [isMismatch] using hmismatched)).steady hpoll.1.2
    | pending =>
      cases hstep
      refine ⟨hpoll.1, fun hmismatched => ?_⟩
      exact (h.mismatched (by simpa [isMismatch] using hmismatched)).steady hpoll.2
    | failed e =>
      cases hstep
      refine ⟨hpoll.1.1, fun hmismatched => ?_⟩
      rw [Bool.or_eq_true, isMismatch_iff] at hmismatched
      -- the mismatch was found before, or by this read
      rcases hmismatched with hbefore | hnow
      · exact (h.mismatched hbefore).steady hpoll.1.2
      · exact hpoll.2 (Polled.failed.inj hnow)

theorem clientStart_guarded (hmethod : method.isAead2022) (hpos : 0 < crypto.saltLen method)
    (context : Context B) (source : Source) (sink : Sink) (identityKeys : List Bytes)
    (addr : Address) :
    Guarded crypto method key source.bytes nonce
      (clientStart crypto method suite context source sink key nonce identityKeys addr) := by
  have hcat : method.category = .aead2022 := of_decide_eq_true hmethod
  generalize hstart : fromStream crypto method suite context source sink key nonce identityKeys
    addr = s
  have hstate : s.readerState = .checkRequestNonce := by
    rw [← hstart]
    exact if_pos hmethod
  have hdec : s.stream.dec = .aead2022 (Aead2022.DecryptedReader.new crypto method key) := by
    rw [← hstart]
    change CryptoIo.DecryptedReader.withUserManager (config crypto method) suite key = _
    simp only [CryptoIo.DecryptedReader.withUserManager, config, hcat]
  have hworld : s.stream.context = context ∧ s.stream.source = source := by
    rw [← hstart]
    exact ⟨rfl, rfl⟩
  have henc : s.stream.enc = .aead2022
      (Aead2022.EncryptedWriter.withIdentity crypto .client method key nonce identityKeys) := by
    rw [← hstart]
    change CryptoIo.EncryptedWriter.withIdentity (config crypto method) suite key nonce
      identityKeys = _
    simp only [CryptoIo.EncryptedWriter.withIdentity, config, hcat]
  unfold clientStart
  rw [hstart]
  refine ⟨⟨⟨⟨_, hdec, ?_⟩, _, henc, rfl⟩, fun he => by cases hstate.symm.trans he⟩,
    fun hmismatched => by cases hmismatched⟩
  unfold CryptoStream.world Aead2022.DecryptedReader.new
  rw [hworld.1, hworld.2, if_pos hpos]
  exact .head rfl ⟨rfl, rfl, rfl, rfl, rfl, fun _ => rfl, List.suffix_refl _⟩

/-- **A response answers its request.** In every run of reads and writes, a read that is ready
    with plaintext has accepted a header of the peer that carries the request's salt, and reads
    under that header's session key; no read before has found a mismatch. -/
theorem plaintext_answers (hmethod : method.isAead2022) (hpos : 0 < crypto.saltLen method)
    (hlength : nonce.length = crypto.saltLen method) {context : Context B} {source : Source}
    {sink : Sink} {identityKeys : List Bytes} {addr : Address} {r : ClientRun K S B}
    (hrun : Reachable (clientStep crypto method suite) anyStep
      (clientStart crypto method suite context source sink key nonce identityKeys addr) r)
    {call : ReadCall B} {out : Bytes} {s : ProxyClientStream K S B}
    (hpoll : pollRead crypto method suite call r.client = (.ready out, s)) (hout : out ≠ [])
    (hchunks : r.chunks + chunksOpened crypto method call r.client < 2 ^ 64) :
    r.mismatched = false ∧ ∃ (header : AcceptedHeader (config crypto method) key source.bytes)
        (reader : Aead2022.DecryptedReader K) (c : Cipher K),
      header.requestSalt = nonce ∧ s.stream.dec = .aead2022 reader ∧
        reader.rest.salt = some header.salt ∧ reader.cipher = some c ∧
        c.key = crypto.sessionKey method key header.salt := by
  have hnonce : nonce ≠ [] := by
    rintro rfl
    rw [List.length_nil] at hlength
    omega
  have hguarded : Guarded crypto method key source.bytes nonce r :=
    hrun.invariant _ (clientStart_guarded hmethod hpos context source sink identityKeys addr)
      fun h _ hstep => clientStep_guarded hnonce h hstep
  have hread := pollRead_checked suite hnonce call hguarded.checked
  rw [hpoll] at hread
  obtain ⟨⟨hchecked, hsteady⟩, hmatches⟩ := hread
  have hmatch := hmatches hchunks hout
  constructor
  · rw [← Bool.not_eq_true]
    -- a mismatch that was found would still be there
    intro hmismatched
    exact hmatch.not_mismatches ((hguarded.mismatched hmismatched).steady hsteady)
  · obtain ⟨reader, hdec, hkept⟩ := hchecked.sound.reads
    obtain ⟨hsome, hrequest⟩ := hmatch
    rw [CryptoStream.receivedNonce, hdec] at hsome
    rw [CryptoStream.receivedRequestNonce, hdec] at hrequest
    obtain ⟨c, hc, ⟨⟨header, hreported⟩, -⟩, -⟩ := known_of_salt hkept hsome
    refine ⟨header, reader, c, ?_, hdec, hreported.salt, hc, ?_⟩
    · have hcarried := hreported.requestSalt hpos
      change Option.filter _ reader.rest.requestSalt = _ at hrequest
      change reader.rest.requestSalt = _ at hcarried
      rw [hcarried] at hrequest
      exact Option.some.inj (Option.filter_eq_some_iff.1 hrequest).1
    · have hkey : header.sealKey = key := (Option.some.inj header.sealKey_eq).symm
      have hsession := hreported.sessionKey
      rwa [hkey] at hsession

/-- The salt of a request, and a server's answer to it. -/
def sampleSalt : Bytes := List.replicate 16 7

def sampleResponse : Source :=
  Source.unread (Aead2022.streamOf CryptoSuite.transparent .aead2022Blake3Aes128Gcm
    { streamTy := .server, key := [1], identityKeys := [], requestSalt := some sampleSalt
      userKey := none } (List.replicate 16 8) 0 [[42]]) []

/-- The answer's only byte is delivered in the first poll. -/
theorem plaintext_answers_sample : ∃ header : AcceptedHeader
      (config CryptoSuite.transparent .aead2022Blake3Aes128Gcm) [1] sampleResponse.bytes,
    header.requestSalt = sampleSalt := by
  let client : ClientRun (Bytes × Bytes) Unit ExactFilter :=
    clientStart CryptoSuite.transparent .aead2022Blake3Aes128Gcm Stream.StreamSuite.transparent
      sampleContext sampleResponse { schedule := [], wire := [] } [1] sampleSalt []
      (.socketAddress (.v4 0x7f000001 80))
  let call : ReadCall ExactFilter := { now := 0, context := sampleContext, room := 10 }
  have hready : (pollRead CryptoSuite.transparent .aead2022Blake3Aes128Gcm
      Stream.StreamSuite.transparent call client.client).1 = .ready [42] := by decide +kernel
  have hsmall : client.chunks + chunksOpened CryptoSuite.transparent .aead2022Blake3Aes128Gcm call
      client.client < 2 ^ 64 := by decide +kernel
  obtain ⟨-, header, -, -, hheader, -⟩ := plaintext_answers (by decide) (by decide) (by decide)
    Reachable.refl (Prod.ext hready rfl) (by decide) hsmall
  exact ⟨header, hheader⟩

end Shadowsocks.Tcp.ProxyClientStream
