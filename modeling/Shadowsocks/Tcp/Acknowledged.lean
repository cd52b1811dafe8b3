import Shadowsocks.Lib.Sealing
import Shadowsocks.Tcp.Aead2022Stream
import Shadowsocks.Tcp.AeadStream
import Shadowsocks.Tcp.Stream

/-! # What the writers acknowledge

All three encrypted writers keep a packet across pending polls and acknowledge it by the buffer
of the poll that finishes it.  They are sealing writers, and so they acknowledge what they
sealed exactly if that buffer begins like the one that the packet was made from
(`acknowledged_iff`).
-/

namespace Shadowsocks.Tcp

open Shadowsocks.Lib

variable {K H X S : Type}

/-! ## The chunk writers -/

theorem take_prefix (buf : Bytes) (n : Nat) : buf.take (buf.take n).length = buf.take n := by
  rw [List.length_take, ← List.take_take, List.take_length]

/-- Between two packets: a new writer, or all of the stream has gone out. -/
def ChunkIdle (c : Cipher K) (stream : Time → List Bytes → Bytes)
    (New : WriteWorld K H X → Prop) : List Bytes → WriteWorld K H X → Prop
  | [], w => New w
  | p :: ps, w => ∃ sentAt, Settled (stream sentAt (p :: ps)) (c.skip (2 * (p :: ps).length)) w

/-- A chunk writer whose stream may depend on when its head was sent. -/
def chunkWriter (P : WriteProtocol K H X) (c : Cipher K) (stream : Time → List Bytes → Bytes)
    (framing : ∀ sentAt, Framing P c (stream sentAt)) (New : WriteWorld K H X → Prop)
    (first : ∀ now buf w, New w →
      (flushPost (stream now [buf.take P.maxPacketSize]) (c.skip 2)
        (buf.take P.maxPacketSize).length).holds (pollWriteEncrypted P now buf w)) :
    SealingWriter Time (WriteWorld K H X) IoError where
  poll := pollWriteEncrypted P
  fit := (·.take P.maxPacketSize)
  fit_prefix buf := take_prefix buf P.maxPacketSize
  Idle := ChunkIdle c stream New
  Busy payloads w :=
    payloads ≠ [] ∧ ∃ sentAt, Flushing (stream sentAt payloads) (c.skip (2 * payloads.length)) w
  begins {now buf payloads w} h := by
    cases payloads with
    | nil =>
      refine Post.mono (first now buf w h) ⟨?_, ?_, ?_, fun _ h => h⟩
      · exact fun n w' h => ⟨h.1, now, h.2⟩
      · exact fun w' h => ⟨by simp, now, h⟩
      · exact fun e w' h => ⟨by simp, now, h⟩
    | cons p ps =>
      obtain ⟨sentAt, hsettled⟩ := h
      have hpoll := pollWriteEncrypted_packet P now buf hsettled.state
        (by rw [hsettled.wire, hsettled.buffer, List.append_nil]) hsettled.cipher
      rw [Cipher.skip_skip, ← (framing sentAt).concat] at hpoll
      refine Post.mono hpoll ⟨?_, ?_, ?_, fun _ h => h⟩
      · intro n w' h
        refine ⟨h.1, sentAt, ?_⟩
        simpa [Nat.mul_add] using h.2
      · intro w' h
        refine ⟨by simp, sentAt, ?_⟩
        simpa [flushPost, Nat.mul_add] using h
      · intro e w' h
        refine ⟨by simp, sentAt, ?_⟩
        simpa [flushPost, Nat.mul_add] using h
  resumes {now buf payloads w} h := by
    obtain ⟨hne, sentAt, hflushing⟩ := h
    obtain ⟨p, ps, rfl⟩ := List.exists_cons_of_ne_nil hne
    refine Post.mono (pollWriteEncrypted_flushing P w hflushing) ⟨?_, ?_, ?_, fun _ h => h⟩
    · exact fun n w' h => ⟨h.1, sentAt, h.2⟩
    · exact fun w' h => ⟨hne, sentAt, h⟩
    · exact fun e w' h => ⟨hne, sentAt, h⟩

/-- The AEAD writer, whose salt goes out in front of the first chunk. -/
def aeadWriter (crypto : CryptoSuite K) (method : CipherKind) (key salt : Bytes) :
    SealingWriter Time (WriteWorld K Empty Aead.WriterFields) IoError :=
  chunkWriter (Aead.writeProtocol crypto method) (crypto.cipher method key salt)
    (fun _ => Aead.streamOf crypto method key salt)
    (fun _ => Aead.streamOf_framing crypto method key salt)
    (fun w => w.writer.state = .assemblePacket ∧ w.sink.wire ++ w.writer.buffer = salt ∧
      w.writer.cipher = crypto.cipher method key salt)
    fun now buf w h => by
      have hpoll := pollWriteEncrypted_packet (Aead.writeProtocol crypto method) now buf h.1 h.2.1
        h.2.2
      simpa [Aead.streamOf, sealChunks, Aead.writeProtocol] using hpoll

/-- The AEAD-2022 writer of either side. -/
def aead2022Writer (crypto : CryptoSuite K) (method : CipherKind) (sender : Aead2022.Sender)
    (salt : Bytes) : SealingWriter Time (WriteWorld K Aead2022.AssembleHeader Aead2022.WriterFields)
      IoError :=
  chunkWriter (Aead2022.writeProtocol crypto method) (Aead2022.streamCipher crypto method sender salt)
    (Aead2022.streamOf crypto method sender salt)
    (Aead2022.streamOf_framing crypto method sender salt)
    (fun w => w.writer = sender.writer crypto method salt ∧ w.sink.wire = [])
    fun now buf w h => by
      have hstate : w.writer.state = .head .assembleHeader := by
        rw [h.1, Aead2022.Sender.writer_eq]
      have hhead := Aead2022.assembleHeader_eq crypto method sender salt now
        (buf.take (Aead2022.writeProtocol crypto method).maxPacketSize)
      rw [← h.1] at hhead
      have hpoll := pollWriteEncrypted_head (Aead2022.writeProtocol crypto method) hstate hhead
      rwa [h.2, List.nil_append] at hpoll

/-! ## The stream writer -/

/-- The IV and the payloads encrypted behind it. -/
def Stream.streamOf (suite : Stream.StreamSuite S) (method : CipherKind) (key iv : Bytes)
    (payloads : List Bytes) : Bytes :=
  iv ++ (suite.encryptAll (suite.cipher method key iv) payloads).1

/-- The stream writer, which a payload always fits. -/
def streamWriter (suite : Stream.StreamSuite S) (method : CipherKind) (key iv : Bytes) :
    SealingWriter Time (Stream.WriteState S) IoError where
  poll _ := Stream.pollWriteEncrypted suite
  fit buf := buf
  fit_prefix _ := List.take_length
  Idle payloads w :=
    Stream.Settled (Stream.streamOf suite method key iv payloads)
        (suite.encryptAll (suite.cipher method key iv) payloads).2 w ∧
      (payloads ≠ [] → w.writer.buffer = [])
  Busy payloads := Stream.Flushing (Stream.streamOf suite method key iv payloads)
    (suite.encryptAll (suite.cipher method key iv) payloads).2
  begins {_ buf payloads w} h := by
    have hpoll := Stream.pollWriteEncrypted_settled suite buf h.1
    rw [Stream.streamOf, List.append_assoc] at hpoll
    simp only [Stream.streamOf, Stream.StreamSuite.encryptAll_concat]
    refine Post.mono hpoll ⟨?_, fun _ h => h, fun _ _ h => h, fun _ h => h⟩
    exact fun n w' h => ⟨h.1, h.2.1, fun _ => h.2.2⟩
  resumes {_ buf payloads w} h := by
    refine Post.mono (Stream.pollWriteEncrypted_flushing suite w h)
      ⟨?_, fun _ h => h, fun _ _ h => h, fun _ h => h⟩
    exact fun n w' h => ⟨h.1, h.2.1, fun _ => h.2.2⟩

/-! ## Runs with any buffers -/

/-- What holds of a writer in every run of polls, whatever buffers and schedule they meet. Once a
    packet has gone out and before the next begins, the wire is the stream of the payloads
    sealed; these are what was acknowledged exactly if each packet was finished with a buffer of
    which the same bytes fit. -/
def AcknowledgesIff {σ : Type} (poll : Time → Bytes → PollM σ IoError Nat) (fit : Bytes → Bytes)
    (OnWire : List Bytes → σ → Prop) (start : σ) : Prop :=
  ∀ calls : List (Time × Bytes),
    let l := (Ledger.start start).run poll calls
    (l.begun = none → l.packets ≠ [] → OnWire (l.sealedPayloads fit) l.state) ∧
      (l.Acknowledges fit ↔ l.Repeats fit)

theorem acknowledgesIff_of {σ : Type} (writer : SealingWriter Time σ IoError) {start : σ}
    (h : writer.Idle [] start) {OnWire : List Bytes → σ → Prop}
    (hwire : ∀ payloads s, payloads ≠ [] → writer.Idle payloads s → OnWire payloads s) :
    AcknowledgesIff writer.poll writer.fit OnWire start := by
  intro calls l
  have hl : l.Balanced writer := (Ledger.balanced_start h).run calls
  refine ⟨fun hbegun hsome => ?_, hl.acknowledges_iff⟩
  have hstate := hl.state
  rw [hbegun] at hstate
  exact hwire _ _ (by simpa [Ledger.sealedPayloads] using hsome) hstate

/-- The largest payload of a chunk. -/
def fits (maxPacketSize : Nat) (buf : Bytes) : Bytes := buf.take maxPacketSize

/-- **Acknowledged and sealed.** A stream, an AEAD and an AEAD-2022 writer acknowledge what they
    have sealed exactly if each poll that finishes a packet is given a buffer that begins like
    the one that the packet was made from. -/
theorem acknowledged_iff (suite : Stream.StreamSuite S) (crypto : CryptoSuite K)
    (method : CipherKind) (key salt : Bytes) (sender : Aead2022.Sender)
    (schedule : List WriteEvent) :
    AcknowledgesIff (fun _ => Stream.pollWriteEncrypted suite) id
        (fun payloads w => w.sink.wire = Stream.streamOf suite method key salt payloads)
        { writer := .new suite method key salt, sink := { schedule := schedule, wire := [] } } ∧
      AcknowledgesIff (Aead.pollWriteEncrypted crypto method) (fits Aead.maxPacketSize)
        (fun payloads w => w.sink.wire = Aead.streamOf crypto method key salt payloads)
        (Aead.writeStart crypto method key salt schedule) ∧
      AcknowledgesIff (Aead2022.pollWriteEncrypted crypto method) (fits Aead2022.maxPacketSize)
        (fun payloads w => ∃ sentAt,
          w.sink.wire = Aead2022.streamOf crypto method sender salt sentAt payloads)
        (Aead2022.writeStart crypto method sender salt schedule) := by
  refine ⟨?_, ?_, ?_⟩
  · apply acknowledgesIff_of (streamWriter suite method key salt)
    · refine ⟨⟨rfl, ?_, rfl⟩, fun h => absurd rfl h⟩
      simp [Stream.EncryptedWriter.new, Stream.streamOf, Stream.StreamSuite.encryptAll]
    · intro payloads w hsome hidle
      rw [← hidle.1.wire, hidle.2 hsome, List.append_nil]
  · apply acknowledgesIff_of (aeadWriter crypto method key salt)
    · exact ⟨rfl, rfl, rfl⟩
    · intro payloads w hsome hidle
      obtain ⟨p, ps, rfl⟩ := List.exists_cons_of_ne_nil hsome
      obtain ⟨sentAt, hsettled⟩ := hidle
      exact hsettled.wire
  · apply acknowledgesIff_of (aead2022Writer crypto method sender salt)
    · exact ⟨rfl, rfl⟩
    · intro payloads w hsome hidle
      obtain ⟨p, ps, rfl⟩ := List.exists_cons_of_ne_nil hsome
      obtain ⟨sentAt, hsettled⟩ := hidle
      exact ⟨sentAt, hsettled.wire⟩

/-- A poll with two bytes is pending, and one with four bytes finishes its packet: four bytes
    are acknowledged and two have been sealed. -/
theorem acknowledges_unsealed :
    ¬((Ledger.start (Aead.writeStart CryptoSuite.transparent (.aead 0) [1] [2]
      [.pending, .accept 100])).run
        (Aead.pollWriteEncrypted CryptoSuite.transparent (.aead 0))
        [(0, [1, 2]), (0, [3, 4, 5, 6])]).Acknowledges (fits Aead.maxPacketSize) := by
  intro h
  exact absurd (h 1) (by decide +kernel)

end Shadowsocks.Tcp
