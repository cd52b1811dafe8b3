import Shadowsocks.Lib.Sealing
import Shadowsocks.Tcp.ChunkWriter

/-! # Stream-cipher streams

`tcprelay::stream`: the IV goes out in front of the first payload, and a payload is encrypted as
it is, however long.
-/

namespace Shadowsocks.Tcp.Stream

open Shadowsocks.Lib

/-- The stream ciphers, which hand on a state from one payload to the next. -/
structure StreamSuite (S : Type) where
  ivLen : CipherKind → Nat
  cipher : CipherKind → (key iv : Bytes) → S
  encryptPacket : S → Bytes → Bytes × S
  decryptPacket : S → Bytes → Bool × Bytes × S
  encryptPacket_length : ∀ s p, (encryptPacket s p).1.length = p.length

namespace StreamSuite

variable {S : Type} (suite : StreamSuite S)

/-- Payloads encrypted one after the other. -/
def encryptAll : S → List Bytes → Bytes × S
  | s, [] => ([], s)
  | s, p :: ps =>
    let first := suite.encryptPacket s p
    let rest := encryptAll first.2 ps
    (first.1 ++ rest.1, rest.2)

theorem encryptAll_concat (p : Bytes) : ∀ (s : S) (ps : List Bytes),
    suite.encryptAll s (ps ++ [p]) =
      ((suite.encryptAll s ps).1 ++ (suite.encryptPacket (suite.encryptAll s ps).2 p).1,
        (suite.encryptPacket (suite.encryptAll s ps).2 p).2)
  | s, [] => by simp [encryptAll]
  | s, q :: ps => by simp [encryptAll, encryptAll_concat p _ ps]

/-- A suite that leaves everything as it is. -/
def transparent : StreamSuite Unit where
  ivLen _ := 16
  cipher _ _ _ := ()
  encryptPacket s p := (p, s)
  decryptPacket s m := (true, m, s)
  encryptPacket_length _ _ := rfl

end StreamSuite

inductive ProtocolError where
  | ioError (e : IoError)
  | decryptError
deriving DecidableEq, Repr

/-! ## Reading -/

inductive DecryptReadState where
  | waitIv (key : Bytes)
  | read
deriving DecidableEq, Repr

structure DecryptedReader (S : Type) where
  state : DecryptReadState
  cipher : Option S
  buffer : Bytes
  iv : Option Bytes
  hasHandshaked : Bool

def DecryptedReader.new {S : Type} (suite : StreamSuite S) (method : CipherKind) (key : Bytes) :
    DecryptedReader S :=
  if suite.ivLen method > 0 then
    { state := .waitIv key, cipher := none, buffer := [], iv := none, hasHandshaked := false }
  else
    { state := .read, cipher := some (suite.cipher method key []), buffer := [], iv := some []
      hasHandshaked := false }

structure ReadState (S B : Type) where
  reader : DecryptedReader S
  context : Context B
  source : Source

section Reading

variable {S B : Type} [BloomFilter B]

def readExactRound (size : Nat) : PollM (ReadState S B) IoError (Option Nat) := fun w =>
  if w.reader.buffer.length < size then
    match w.source.read (size - w.reader.buffer.length) with
    | (.pending, s) => (.pending, { w with source := s })
    | (.failed e, s) => (.failed e, { w with source := s })
    | (.panicked, s) => (.panicked, { w with source := s })
    | (.ready [], s) =>
      if w.reader.buffer ≠ [] then (.failed .unexpectedEof, { w with source := s })
      else (.ready (some 0), { w with source := s })
    | (.ready (b :: bs), s) =>
      (.ready none,
        { w with reader := { w.reader with buffer := w.reader.buffer ++ (b :: bs) }, source := s })
  else (.ready (some size), w)

omit [BloomFilter B] in
theorem readExactRound_again {size : Nat} {w w' : ReadState S B}
    (h : readExactRound size w = (.ready none, w')) :
    w'.source.bytes.length < w.source.bytes.length := by
  unfold readExactRound at h
  split at h
  · split at h <;> try split at h
    all_goals cases h
    next b bs s hr =>
      have hbytes := congrArg List.length (Source.read_ready hr).1
      simp only [List.length_append, List.length_cons] at hbytes
      change s.bytes.length < w.source.bytes.length
      omega
  · cases h

/-- `poll_read_exact`. -/
def pollReadExact (size : Nat) : PollM (ReadState S B) IoError Nat :=
  if size = 0 then PollM.crash
  else PollM.loop (readExactRound size) (fun w => w.source.bytes.length) readExactRound_again

variable (suite : StreamSuite S) (method : CipherKind)

/-- `poll_read_iv`. -/
def pollReadIv (now : Time) (key : Bytes) : PollM (ReadState S B) ProtocolError Unit :=
  PollM.mapErr .ioError (pollReadExact (suite.ivLen method)) >>= fun n =>
    if n < suite.ivLen method then PollM.fail (.ioError .unexpectedEof)
    else PollM.get >>= fun w =>
      let iv := w.reader.buffer.take (suite.ivLen method)
      let checked := w.context.checkNonceReplay now method iv
      PollM.update (fun w => { w with context := checked.2 }) >>= fun _ =>
        match checked.1 with
        | .error e => PollM.fail (.ioError e)
        | .ok () => PollM.update fun w => { w with reader := { w.reader with
            iv := some iv, cipher := some (suite.cipher method key iv) } }

/-- The state `Read`: one read of the transport, decrypted in the caller's buffer. -/
def readPacket (room : Nat) : PollM (ReadState S B) ProtocolError Bytes := fun w =>
  match w.source.read room with
  | (.pending, s) => (.pending, { w with source := s })
  | (.failed e, s) => (.failed (.ioError e), { w with source := s })
  | (.panicked, s) => (.panicked, { w with source := s })
  | (.ready [], s) => (.ready [], { w with source := s })
  | (.ready (b :: bs), s) =>
    match w.reader.cipher with
    | none => (.panicked, { w with source := s })
    | some cipher =>
      let opened := suite.decryptPacket cipher (b :: bs)
      let w' := { w with reader := { w.reader with cipher := some opened.2.2 }, source := s }
      if opened.1 then (.ready opened.2.1, w') else (.failed .decryptError, w')

/-- `DecryptedReader::poll_read_decrypted`.  Its loop goes round once more at most, when the IV
    has arrived. -/
def pollReadDecrypted (now : Time) (room : Nat) : PollM (ReadState S B) ProtocolError Bytes :=
  PollM.get >>= fun w =>
    match w.reader.state with
    | .waitIv key =>
      pollReadIv suite method now key >>= fun _ =>
        PollM.update (fun w => { w with reader := { w.reader with
          buffer := [], state := .read, hasHandshaked := true } }) >>= fun _ =>
          readPacket suite room
    | .read => readPacket suite room

end Reading

/-! ## Writing -/

variable {S : Type}

structure EncryptedWriter (S : Type) where
  cipher : S
  buffer : Bytes
  state : EncryptWriteState Empty
  iv : Bytes

/-- `EncryptedWriter::new`: the IV is sent with the first packet. -/
def EncryptedWriter.new (suite : StreamSuite S) (method : CipherKind) (key nonce : Bytes) :
    EncryptedWriter S :=
  { cipher := suite.cipher method key nonce, buffer := nonce, state := .assemblePacket, iv := nonce }

structure WriteState (S : Type) where
  writer : EncryptedWriter S
  sink : Sink

namespace WriteState

def setState (state : EncryptWriteState Empty) (w : WriteState S) : WriteState S :=
  { w with writer := { w.writer with state := state } }

/-- The payload has been encrypted behind what the buffer holds. -/
def assembled (suite : StreamSuite S) (buf : Bytes) (w : WriteState S) : WriteState S :=
  let packet := suite.encryptPacket w.writer.cipher buf
  { w with writer := { w.writer with
      cipher := packet.2, buffer := w.writer.buffer ++ packet.1, state := .writing 0 } }

/-- Everything has been written out. -/
def flushed (w : WriteState S) : WriteState S :=
  { w with writer := { w.writer with state := .assemblePacket, buffer := [] } }

end WriteState

/-- One round of the loop that writes the buffer out. -/
def flushRound : PollM (WriteState S) IoError (Option Unit) := fun w =>
  match w.writer.state with
  | .writing pos =>
    if pos < w.writer.buffer.length then
      match w.sink.write (w.writer.buffer.drop pos) with
      | (.pending, sink) => (.pending, { w with sink := sink })
      | (.failed e, sink) => (.failed e, { w with sink := sink })
      | (.panicked, sink) => (.panicked, { w with sink := sink })
      | (.ready 0, sink) => (.failed .unexpectedEof, { w with sink := sink })
      | (.ready (n + 1), sink) =>
        (.ready none, { w.setState (.writing (pos + (n + 1))) with sink := sink })
    else (.ready (some ()), w)
  | .assemblePacket => (.ready (some ()), w)

theorem flushRound_again {w w' : WriteState S} (h : flushRound w = (.ready none, w')) :
    w'.sink.schedule.length < w.sink.schedule.length := by
  unfold flushRound at h
  split at h
  · split at h
    · split at h <;> cases h
      next hw => exact (Sink.write_ready hw).2.2
    · cases h
  · cases h

def flush : PollM (WriteState S) IoError Unit :=
  PollM.loop flushRound (fun w => w.sink.schedule.length) flushRound_again

variable (suite : StreamSuite S)

/-- One round of the loop in `poll_write_encrypted`. -/
def writeRound (buf : Bytes) : PollM (WriteState S) IoError (Option Nat) :=
  PollM.get >>= fun w =>
    match w.writer.state with
    | .assemblePacket => PollM.update (·.assembled suite buf) >>= fun _ => pure none
    | .writing _ =>
      flush >>= fun _ => PollM.update (·.flushed) >>= fun _ => pure (some buf.length)

theorem writeRound_again {buf : Bytes} {w w' : WriteState S}
    (h : writeRound suite buf w = (.ready none, w')) :
    w'.writer.state.rank < w.writer.state.rank := by
  unfold writeRound at h
  rw [PollM.get_bind] at h
  cases hs : w.writer.state with
  | head h => exact h.elim
  | assemblePacket =>
    rw [hs] at h
    obtain rfl := (Prod.mk.inj h).2.symm
    exact Nat.zero_lt_one
  | writing pos =>
    rw [hs] at h
    dsimp only at h
    rcases hf : flush w with ⟨res, t⟩
    cases res with
    | ready u =>
      rw [PollM.bind_ready hf] at h
      exact nomatch h
    | pending =>
      rw [PollM.bind_pending hf] at h
      exact nomatch h
    | failed e =>
      rw [PollM.bind_failed hf] at h
      exact nomatch h
    | panicked =>
      rw [PollM.bind_panicked hf] at h
      exact nomatch h

/-- `EncryptedWriter::poll_write_encrypted`. -/
def pollWriteEncrypted (buf : Bytes) : PollM (WriteState S) IoError Nat :=
  PollM.loop (writeRound suite buf) (fun w => w.writer.state.rank) (writeRound_again suite)

/-! ## One poll -/

/-- The writer is between two payloads: all of `stream` has been handed over or waits in the
    buffer. -/
structure Settled (stream : Bytes) (c : S) (w : WriteState S) : Prop where
  state : w.writer.state = .assemblePacket
  wire : w.sink.wire ++ w.writer.buffer = stream
  cipher : w.writer.cipher = c

/-- The writer is writing out the rest of `stream`. -/
structure Flushing (stream : Bytes) (c : S) (w : WriteState S) : Prop where
  writing : ∃ pos, w.writer.state = .writing pos ∧ pos ≤ w.writer.buffer.length ∧
    w.sink.wire ++ w.writer.buffer.drop pos = stream
  cipher : w.writer.cipher = c

theorem flushRound_spec (stream : Bytes) (c : S) :
    Triple (Flushing stream c) flushRound
      { ready := Triple.roundClause (Flushing stream c) fun _ w =>
          w.sink.wire = stream ∧ w.writer.cipher = c
        pending := Flushing stream c
        failed := fun _ => Flushing stream c } := by
  apply Triple.of_result
  intro w r w' hw h
  obtain ⟨⟨pos, hstate, hpos, hwire⟩, hcipher⟩ := hw
  by_cases hlt : pos < w.writer.buffer.length
  · simp only [flushRound, hstate, hlt, if_true] at h
    rcases hw : w.sink.write (w.writer.buffer.drop pos) with ⟨res, sink⟩
    rw [hw] at h
    cases res with
    | pending =>
      cases h
      exact ⟨⟨pos, hstate, hpos, by rw [Sink.write_pending hw]; exact hwire⟩, hcipher⟩
    | failed e =>
      cases h
      exact ⟨⟨pos, hstate, hpos, by rw [Sink.write_failed hw]; exact hwire⟩, hcipher⟩
    | panicked => exact absurd hw Sink.write_ne_panicked
    | ready n =>
      obtain ⟨hn, htaken, -⟩ := Sink.write_ready hw
      rw [List.length_drop] at hn
      -- a write that takes nothing is an error
      cases n with
      | zero =>
        cases h
        refine ⟨⟨pos, hstate, hpos, ?_⟩, hcipher⟩
        rw [htaken, List.take_zero, List.append_nil]
        exact hwire
      | succ n =>
        cases h
        refine ⟨⟨pos + (n + 1), rfl, ?_, ?_⟩, hcipher⟩
        · change _ ≤ w.writer.buffer.length
          omega
        · change sink.wire ++ w.writer.buffer.drop _ = stream
          rw [htaken, List.append_assoc, ← List.drop_drop, List.take_append_drop]
          exact hwire
  · simp only [flushRound, hstate, hlt, if_false] at h
    cases h
    rw [List.drop_eq_nil_of_le (by omega), List.append_nil] at hwire
    exact ⟨hwire, hcipher⟩

theorem flush_spec (stream : Bytes) (c : S) :
    Triple (Flushing stream c) flush
      { ready := fun _ w => w.sink.wire = stream ∧ w.writer.cipher = c
        pending := Flushing stream c
        failed := fun _ => Flushing stream c } :=
  Triple.loop flushRound_again (flushRound_spec stream c)

/-- What a poll does while `stream` is being written out. -/
def flushPost (stream : Bytes) (c : S) (n : Nat) : Post (WriteState S) IoError Nat :=
  { ready := fun k w => k = n ∧ Settled stream c w ∧ w.writer.buffer = []
    pending := Flushing stream c
    failed := fun _ => Flushing stream c }

theorem pollWriteEncrypted_flushing {buf stream : Bytes} {c : S} :
    Triple (Flushing stream c) (pollWriteEncrypted suite buf) (flushPost stream c buf.length) := by
  suffices h : Triple (Flushing stream c) (writeRound suite buf)
      (Post.onReady (flushPost stream c buf.length)
        (Triple.roundClause (Flushing stream c) (flushPost stream c buf.length).ready)) from
    Triple.loop (writeRound_again suite) h
  apply Triple.get
  intro w hw
  obtain ⟨pos, hstate, -⟩ := hw.writing
  rw [hstate]
  refine Triple.apply hw (Triple.seq (flush_spec stream c) (fun _ => ?_) (fun _ h => h)
    (fun _ _ h => h) fun _ h => h)
  have hflushed : ∀ w : WriteState S, w.sink.wire = stream ∧ w.writer.cipher = c →
      Settled stream c w.flushed ∧ w.flushed.writer.buffer = [] :=
    fun w h => ⟨⟨rfl, by rw [← h.1]; exact List.append_nil _, h.2⟩, rfl⟩
  exact Triple.update hflushed (Triple.pure fun w h => ⟨rfl, h⟩)

theorem pollWriteEncrypted_settled (buf : Bytes) {stream : Bytes} {c : S} {w : WriteState S}
    (h : Settled stream c w) :
    (flushPost (stream ++ (suite.encryptPacket c buf).1) (suite.encryptPacket c buf).2
      buf.length).holds (pollWriteEncrypted suite buf w) := by
  have hround : writeRound suite buf w = (.ready none, w.assembled suite buf) := by
    unfold writeRound
    rw [PollM.get_bind, h.state]
    rfl
  rw [pollWriteEncrypted, PollM.loop_again (writeRound_again suite) hround]
  refine pollWriteEncrypted_flushing suite _ ⟨⟨0, rfl, Nat.zero_le _, ?_⟩, ?_⟩
  · simp only [WriteState.assembled, List.drop_zero, ← h.wire, h.cipher, List.append_assoc]
  · simp only [WriteState.assembled, h.cipher]

end Shadowsocks.Tcp.Stream
