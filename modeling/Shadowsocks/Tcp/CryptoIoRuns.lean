import Shadowsocks.Tcp.Aead2022Header
import Shadowsocks.Tcp.CryptoIo

/-! # What an AEAD-2022 crypto stream keeps

Reading and writing change their own halves of a `CryptoStream`, except that the first read that
is ready after the handshake may give the writer another key.
-/

namespace Shadowsocks.Tcp.CryptoIo

open Shadowsocks.Lib Aead2022

variable {K S B : Type} [BloomFilter B] {crypto : CryptoSuite K} {cfg : ReaderConfig crypto}

/-! ## Reading -/

/-- The world of an AEAD-2022 reader on the stream's transport. -/
def CryptoStream.world (s : CryptoStream K S B) (reader : Aead2022.DecryptedReader K) :
    ReadState K B :=
  { reader := reader, context := s.context, source := s.source }

/-- How many data chunks a poll opens. -/
def CryptoStream.chunksOpened (cfg : ReaderConfig crypto) (call : ReadCall B)
    (s : CryptoStream K S B) : Nat :=
  match s.dec with
  | .aead2022 reader => Tcp.chunksOpened (readProtocol cfg) call (s.world reader)
  | .aead _ => 0
  | .stream _ => 0
  | .none => 0

/-- The stream reads with an AEAD-2022 reader of which `I` holds. -/
def Reads (I : ReadState K B → Prop) (s : CryptoStream K S B) : Prop :=
  ∃ reader, s.dec = .aead2022 reader ∧ I (s.world reader)

/-- The other half of the stream is as it was. -/
structure WritesAs (s t : CryptoStream K S B) : Prop where
  sink : t.sink = s.sink
  enc : t.enc = s.enc
  hasHandshaked : t.hasHandshaked = s.hasHandshaked

/-- What a poll of the reader does to the stream. -/
theorem pollDec_reads (suite : Stream.StreamSuite S) (F : Frame (readProtocol (B := B) cfg))
    (call : ReadCall B) {n : Nat} {s : CryptoStream K S B} (h : Reads (F.Kept n) s) :
    Post.holds
      { ready := fun out t => WritesAs s t ∧
          Reads (fun w => F.Kept (n + s.chunksOpened cfg call) w ∧ (out ≠ [] → 0 < w.buffered)) t
        pending := fun t => WritesAs s t ∧ Reads (F.Kept (n + s.chunksOpened cfg call)) t
        failed := fun _ t => WritesAs s t ∧ Reads (F.Kept (n + s.chunksOpened cfg call)) t
        panicked := fun t => WritesAs s t ∧ Reads (F.Kept (n + s.chunksOpened cfg call)) t }
      (CryptoStream.pollDec cfg suite call s) := by
  obtain ⟨reader, hdec, hkept⟩ := h
  have hpoll := F.pollRead_kept call hkept
  have hopened : s.chunksOpened cfg call =
      Tcp.chunksOpened (readProtocol cfg) call (s.world reader) := by
    unfold CryptoStream.chunksOpened
    rw [hdec]
  unfold CryptoStream.pollDec
  rw [hdec, hopened]
  apply Post.holds_on
  apply Post.holds_mapErr
  refine Post.mono hpoll ⟨?_, ?_, ?_, ?_⟩
  · exact fun out w h => ⟨⟨rfl, rfl, rfl⟩, w.reader, rfl, h⟩
  · exact fun w h => ⟨⟨rfl, rfl, rfl⟩, w.reader, rfl, h⟩
  · exact fun e w h => ⟨⟨rfl, rfl, rfl⟩, w.reader, rfl, h⟩
  · exact fun w h => ⟨⟨rfl, rfl, rfl⟩, w.reader, rfl, h⟩

/-! ## Writing -/

/-- The stream writes with an AEAD-2022 writer of which `I` holds. -/
def Writes (I : WriteWorld K AssembleHeader WriterFields → Prop) (s : CryptoStream K S B) : Prop :=
  ∃ writer, s.enc = .aead2022 writer ∧ I { writer := writer, sink := s.sink }

omit [BloomFilter B] in
theorem Writes.of_writesAs {I : WriteWorld K AssembleHeader WriterFields → Prop}
    {s t : CryptoStream K S B} (h : Writes I s) (hsame : WritesAs s t) : Writes I t := by
  obtain ⟨writer, henc, hI⟩ := h
  exact ⟨writer, hsame.enc.trans henc, hsame.sink ▸ hI⟩

/-- The other half of the stream is as it was. -/
structure ReadsAs (s t : CryptoStream K S B) : Prop where
  source : t.source = s.source
  dec : t.dec = s.dec
  hasHandshaked : t.hasHandshaked = s.hasHandshaked
  context : t.context = s.context

omit [BloomFilter B] in
theorem Reads.of_readsAs {I : ReadState K B → Prop} {s t : CryptoStream K S B} (h : Reads I s)
    (hsame : ReadsAs s t) : Reads I t := by
  obtain ⟨reader, hdec, hI⟩ := h
  refine ⟨reader, hsame.dec.trans hdec, ?_⟩
  unfold CryptoStream.world
  rwa [hsame.context, hsame.source]

omit [BloomFilter B] in
/-- What a poll of the writer does to the stream. -/
theorem pollWriteEncrypted_writes (cfg : ReaderConfig crypto) (suite : Stream.StreamSuite S)
    (now : Time) (buf : Bytes) {I : WriteWorld K AssembleHeader WriterFields → Prop}
    (hpoll : Triple I (Aead2022.pollWriteEncrypted crypto cfg.method now buf) (Post.always I))
    {s : CryptoStream K S B} (h : Writes I s) :
    Post.holds (Post.always fun t => Writes I t ∧ ReadsAs s t)
      (CryptoStream.pollWriteEncrypted cfg suite now buf s) := by
  obtain ⟨writer, henc, hI⟩ := h
  unfold CryptoStream.pollWriteEncrypted
  rw [henc]
  apply Post.holds_on
  apply Post.holds_mapErr
  have hkept : ∀ w : WriteWorld K AssembleHeader WriterFields, I w →
      let t : CryptoStream K S B := { s with enc := .aead2022 w.writer, sink := w.sink }
      Writes I t ∧ ReadsAs s t := fun w hw => ⟨⟨w.writer, rfl, hw⟩, rfl, rfl, rfl, rfl⟩
  exact Post.mono (hpoll _ hI) ⟨fun _ => hkept, hkept, fun _ => hkept, hkept⟩

/-! ## Once the header has been accepted -/

/-- A reader that has accepted a header keeps reporting the same. -/
def steady (cfg : ReaderConfig crypto) (sessionKey : K) (fields : ReaderFields) :
    Frame (readProtocol (B := B) cfg) where
  Before _ := False
  After _ k x := k = sessionKey ∧ x.salt = fields.salt ∧ x.requestSalt = fields.requestSalt ∧
    x.userKey = fields.userKey
  before_context _ h := h
  readHead _ _ _ h := h.before.elim
  afterData h hdata := by
    cases hdata
    exact h

variable {key peer : Bytes} {n : Nat} {w : ReadState K B}

/-- A reader with a salt has accepted a header. -/
theorem known_of_salt (h : (frame cfg key peer).Kept n w) (hsalt : w.reader.rest.salt.isSome) :
    ∃ c, w.reader.cipher = some c ∧ Known cfg key peer n c.key w.reader.rest ∧
      (steady (B := B) cfg c.key w.reader.rest).Kept n w := by
  cases h with
  | head hn hhead =>
    rw [hhead.before.salt] at hsalt
    exact nomatch hsalt
  | body hrunning hstate hbuffered =>
    obtain ⟨c, hc, hknown⟩ := hrunning.after
    exact ⟨c, hc, hknown, .body ⟨hrunning.state, hrunning.handshaked, c, hc, rfl, rfl, rfl, rfl⟩
      hstate hbuffered⟩

/-- What a stream reports of the header that it has accepted does not change. -/
def Steady (s t : CryptoStream K S B) : Prop :=
  s.receivedNonce.isSome → t.receivedNonce = s.receivedNonce ∧
    t.receivedRequestNonce = s.receivedRequestNonce ∧ t.dec.userKey = s.dec.userKey

omit [BloomFilter B] in
theorem Steady.refl (s : CryptoStream K S B) : Steady s s := fun _ => ⟨rfl, rfl, rfl⟩

omit [BloomFilter B] in
theorem Steady.trans {s t u : CryptoStream K S B} (h : Steady s t) (h' : Steady t u) :
    Steady s u := by
  intro hs
  obtain ⟨hnonce, hrequest, huser⟩ := h hs
  obtain ⟨hnonce', hrequest', huser'⟩ := h' (hnonce ▸ hs)
  exact ⟨hnonce'.trans hnonce, hrequest'.trans hrequest, huser'.trans huser⟩

omit [BloomFilter B] in
theorem Steady.of_readsAs {s t : CryptoStream K S B} (h : ReadsAs s t) : Steady s t := by
  intro _
  unfold CryptoStream.receivedNonce CryptoStream.receivedRequestNonce
  rw [h.dec]
  exact ⟨rfl, rfl, rfl⟩

theorem pollDec_steady (suite : Stream.StreamSuite S) (call : ReadCall B)
    {s : CryptoStream K S B} (h : Reads ((frame cfg key peer).Kept n) s) :
    Steady s (CryptoStream.pollDec cfg suite call s).2 := by
  intro hsome
  obtain ⟨reader, hdec, hkept⟩ := h
  unfold CryptoStream.receivedNonce at hsome
  rw [hdec] at hsome
  obtain ⟨c, -, -, hsteady⟩ := known_of_salt hkept hsome
  have hpoll := pollDec_reads suite (steady cfg c.key reader.rest) call ⟨reader, hdec, hsteady⟩
  obtain ⟨reader', hdec', hkept'⟩ := Post.holds_always.1 (Post.mono hpoll
    (R := Post.always (Reads ((steady cfg c.key reader.rest).Kept _)))
    ⟨fun _ t h => h.2.imp fun _ h => ⟨h.1, h.2.1⟩, fun _ h => h.2, fun _ _ h => h.2,
      fun _ h => h.2⟩)
  cases hkept' with
  | head hn hhead => exact hhead.before.elim
  | body hrunning _ _ =>
    obtain ⟨c', -, -, hsalt, hrequest, huser⟩ := hrunning.after
    unfold CryptoStream.receivedNonce CryptoStream.receivedRequestNonce
    rw [hdec, hdec']
    exact ⟨hsalt, congrArg (Option.filter _) hrequest, huser⟩

/-- A payload in the buffer comes from a data chunk that has opened under a header. -/
theorem salt_of_buffered (h : (frame cfg key peer).Kept n w) (hbuffered : 0 < w.buffered) :
    w.reader.rest.salt.isSome ∧ 0 < n := by
  cases h with
  | head hn hhead =>
    unfold ReadWorld.buffered at hbuffered
    rw [hhead.state] at hbuffered
    exact absurd hbuffered (Nat.lt_irrefl 0)
  | @body state hrunning hstate hpayload =>
    obtain ⟨c, hc, ⟨header, hreported⟩, -⟩ := hrunning.after
    refine ⟨by rw [hreported.salt]; rfl, ?_⟩
    unfold ReadWorld.buffered at hbuffered
    rw [hrunning.state] at hbuffered
    cases state with
    | bufferedData pos => exact hpayload pos rfl
    | head h => exact absurd hbuffered (Nat.lt_irrefl 0)
    | readLength => exact absurd hbuffered (Nat.lt_irrefl 0)
    | readData length => exact absurd hbuffered (Nat.lt_irrefl 0)

/-- The counter of the reader is the number of data chunks, as far as it reaches. -/
theorem dataChunkCount_eq (h : (frame cfg key peer).Kept n w) :
    w.reader.rest.dataChunkCount = n % 2 ^ 64 := by
  cases h with
  | head hn hhead => rw [hhead.before.dataChunkCount, hn, Nat.zero_mod]
  | body hrunning _ _ =>
    obtain ⟨c, -, -, hcount⟩ := hrunning.after
    exact hcount

/-- The fields of a reader that has not accepted a header, or has. -/
theorem userKey_of_kept (h : (frame cfg key peer).Kept n w) (hrequire : cfg.requireEih = false) :
    w.reader.rest.userKey = none := by
  cases h with
  | head hn hhead => exact hhead.before.userKey hrequire
  | body hrunning _ _ =>
    obtain ⟨c, -, ⟨header, hreported⟩, -⟩ := hrunning.after
    rw [hreported.userKey, hrequire]
    rfl

end Shadowsocks.Tcp.CryptoIo
