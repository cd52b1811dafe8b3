import Shadowsocks.Context

/-! # Writing a chunk stream

The `EncryptedWriter`s of `tcprelay::aead` and `tcprelay::aead_2022` differ in
the largest payload of a chunk and in the header that the latter seals in front
of the first payload; the rest is defined here once.
-/

namespace Shadowsocks.Tcp

open Shadowsocks.Lib

/-- `EncryptWriteState`; the head state is `AssembleHeader` where there is one. -/
inductive EncryptWriteState (H : Type) where
  | head (h : H)
  | assemblePacket
  | writing (pos : Nat)
deriving DecidableEq, Repr

/-- `EncryptedWriter`; `rest` are the fields that only one of the two has. -/
structure ChunkWriter (K H X : Type) where
  state : EncryptWriteState H
  cipher : Cipher K
  buffer : Bytes
  rest : X

structure WriteWorld (K H X : Type) where
  writer : ChunkWriter K H X
  sink : Sink

/-- What tells the two writers apart.  `assembleHead` appends the header and the
    first payload to the buffer. -/
structure WriteProtocol (K H X : Type) where
  scheme : AeadScheme K
  maxPacketSize : Nat
  assembleHead : Time → H → (buf : Bytes) → ChunkWriter K H X → Bytes × Cipher K

variable {K H X : Type}

namespace WriteWorld

def setState (state : EncryptWriteState H) (w : WriteWorld K H X) : WriteWorld K H X :=
  { w with writer := { w.writer with state := state } }

/-- The buffer has been assembled and is to be written out. -/
def assembled (buffer : Bytes) (cipher : Cipher K) (w : WriteWorld K H X) : WriteWorld K H X :=
  { w with writer := { w.writer with state := .writing 0, cipher := cipher, buffer := buffer } }

/-- Everything has been written out. -/
def flushed (w : WriteWorld K H X) : WriteWorld K H X :=
  { w with writer := { w.writer with state := .assemblePacket, buffer := [] } }

end WriteWorld

/-- One round of the loop that writes the buffer out; the state is `writing`
    whenever it runs. -/
def flushRound : PollM (WriteWorld K H X) IoError (Option Unit) := fun w =>
  match w.writer.state with
  | .writing pos =>
    if pos < w.writer.buffer.length then
      match w.sink.write (w.writer.buffer.drop pos) with
      | (.pending, sink) => (.pending, { w with sink := sink })
      | (.failed e, sink) => (.failed e, { w with sink := sink })
      | (.panicked, sink) => (.panicked, { w with sink := sink })
      | (.ready 0, sink) => (.failed .unexpectedEof, { w with sink := sink })
      | (.ready (n + 1), sink) =>
        (.ready none, { w.setState (.writing (pos + (n + 1))) with sink := sink })
    else (.ready (some ()), w)
  | .head _ => (.ready (some ()), w)
  | .assemblePacket => (.ready (some ()), w)

theorem flushRound_again {w w' : WriteWorld K H X} (h : flushRound w = (.ready none, w')) :
    w'.sink.schedule.length < w.sink.schedule.length := by
  unfold flushRound at h
  split at h
  · split at h
    · split at h <;> cases h
      next hw => exact (Sink.write_ready hw).2.2
    · cases h
  · cases h
  · cases h

def flush : PollM (WriteWorld K H X) IoError Unit :=
  PollM.loop flushRound (fun w => w.sink.schedule.length) flushRound_again

/-- Appends a chunk with payload `buf` to the buffer. -/
def assemblePacket (scheme : AeadScheme K) (buf : Bytes) (writer : ChunkWriter K H X) :
    Bytes × Cipher K :=
  let length := writer.cipher.encryptPacket scheme (bigEndian 2 buf.length)
  let data := length.2.encryptPacket scheme buf
  (writer.buffer ++ length.1 ++ data.1, data.2)

/-- One round of the loop in `poll_write_encrypted`; `buf` is already cut to the
    largest payload. -/
def writeRound (P : WriteProtocol K H X) (now : Time) (buf : Bytes) :
    PollM (WriteWorld K H X) IoError (Option Nat) :=
  PollM.get >>= fun w =>
    match w.writer.state with
    | .head h =>
      let r := P.assembleHead now h buf w.writer
      PollM.update (·.assembled r.1 r.2) >>= fun _ => pure none
    | .assemblePacket =>
      let r := assemblePacket P.scheme buf w.writer
      PollM.update (·.assembled r.1 r.2) >>= fun _ => pure none
    | .writing _ =>
      flush >>= fun _ => PollM.update (·.flushed) >>= fun _ => pure (some buf.length)

/-- Whether the state still has a packet to assemble. -/
def EncryptWriteState.rank : EncryptWriteState H → Nat
  | .head _ => 1
  | .assemblePacket => 1
  | .writing _ => 0

theorem writeRound_measure (P : WriteProtocol K H X) (now : Time) (buf : Bytes) (N : Nat) :
    Triple (fun w => w.writer.state.rank = N) (writeRound P now buf)
      (Post.ifReady fun o w => o = none → w.writer.state.rank < N) := by
  refine Triple.get fun w hw => ?_
  cases hs : w.writer.state with
  | head h =>
    rw [hs] at hw
    exact fun _ => hw ▸ Nat.zero_lt_one
  | assemblePacket =>
    rw [hs] at hw
    exact fun _ => hw ▸ Nat.zero_lt_one
  | writing pos =>
    refine Triple.apply (P := fun _ => True) trivial
      (Triple.bind (M := fun _ _ => True) (fun w _ => ?_) fun _ => ?_)
    · cases hf : flush w with
      | mk r w' => cases r <;> trivial
    · exact Triple.update (M := fun _ => True) (fun _ _ => trivial)
        (Triple.pure fun _ _ h => by cases h)

theorem writeRound_again (P : WriteProtocol K H X) {now : Time} {buf : Bytes}
    {w w' : WriteWorld K H X} (h : writeRound P now buf w = (.ready none, w')) :
    w'.writer.state.rank < w.writer.state.rank :=
  (writeRound_measure P now buf _).of_ready rfl h rfl

/-- `poll_write_encrypted`: how many bytes of `buf` have been accepted. -/
def pollWriteEncrypted (P : WriteProtocol K H X) (now : Time) (buf : Bytes) :
    PollM (WriteWorld K H X) IoError Nat :=
  PollM.loop (writeRound P now (buf.take P.maxPacketSize)) (fun w => w.writer.state.rank)
    (writeRound_again P)

/-! ## One poll -/

/-- The writer is between two chunks: all of `stream` has been written out. -/
structure Settled (stream : Bytes) (c : Cipher K) (w : WriteWorld K H X) : Prop where
  state : w.writer.state = .assemblePacket
  buffer : w.writer.buffer = []
  wire : w.sink.wire = stream
  cipher : w.writer.cipher = c

/-- The writer is writing out the rest of `stream`. -/
structure Flushing (stream : Bytes) (c : Cipher K) (w : WriteWorld K H X) : Prop where
  writing : ∃ pos, w.writer.state = .writing pos ∧ pos ≤ w.writer.buffer.length ∧
    w.sink.wire ++ w.writer.buffer.drop pos = stream
  cipher : w.writer.cipher = c

/-- What a poll does while `stream` is being written out. -/
def flushPost (stream : Bytes) (c : Cipher K) (n : Nat) : Post (WriteWorld K H X) IoError Nat :=
  { ready := fun k w => k = n ∧ Settled stream c w
    pending := Flushing stream c
    failed := fun _ => Flushing stream c }

theorem flushRound_spec (stream : Bytes) (c : Cipher K) :
    Triple (Flushing stream c) (flushRound (H := H) (X := X))
      { ready := Triple.roundClause (Flushing stream c) fun _ w =>
          w.sink.wire = stream ∧ w.writer.cipher = c
        pending := Flushing stream c
        failed := fun _ => Flushing stream c } := by
  refine Triple.of_result fun w r w' hw h => ?_
  obtain ⟨⟨pos, hstate, hpos, hwire⟩, hcipher⟩ := hw
  by_cases hlt : pos < w.writer.buffer.length
  · simp only [flushRound, hstate, hlt, if_true] at h
    rcases hw : w.sink.write (w.writer.buffer.drop pos) with ⟨res, sink⟩
    rw [hw] at h
    cases res with
    | pending =>
      cases h
      exact ⟨⟨pos, hstate, hpos, by rw [Sink.write_pending hw]; exact hwire⟩, hcipher⟩
    | failed e =>
      cases h
      exact ⟨⟨pos, hstate, hpos, by rw [Sink.write_failed hw]; exact hwire⟩, hcipher⟩
    | panicked => exact absurd hw Sink.write_ne_panicked
    | ready n =>
      obtain ⟨hn, htaken, _⟩ := Sink.write_ready hw
      rw [List.length_drop] at hn
      -- a write that takes nothing is an error
      cases n with
      | zero =>
        cases h
        refine ⟨⟨pos, hstate, hpos, ?_⟩, hcipher⟩
        rw [htaken, List.take_zero, List.append_nil]
        exact hwire
      | succ n =>
        cases h
        refine ⟨⟨pos + (n + 1), rfl, ?_, ?_⟩, hcipher⟩
        · change _ ≤ w.writer.buffer.length
          omega
        · change sink.wire ++ w.writer.buffer.drop _ = stream
          rw [htaken, List.append_assoc, ← List.drop_drop, List.take_append_drop]
          exact hwire
  · simp only [flushRound, hstate, hlt, if_false] at h
    cases h
    rw [List.drop_eq_nil_of_le (by omega), List.append_nil] at hwire
    exact ⟨hwire, hcipher⟩

theorem flush_spec (stream : Bytes) (c : Cipher K) :
    Triple (Flushing stream c) (flush (H := H) (X := X))
      { ready := fun _ w => w.sink.wire = stream ∧ w.writer.cipher = c
        pending := Flushing stream c
        failed := fun _ => Flushing stream c } :=
  Triple.loop flushRound_again (flushRound_spec stream c)

variable (P : WriteProtocol K H X)

/-- A poll of a writer that is still writing. -/
theorem pollWriteEncrypted_flushing {now : Time} {buf stream : Bytes} {c : Cipher K} :
    Triple (Flushing stream c) (pollWriteEncrypted P now buf)
      (flushPost stream c (buf.take P.maxPacketSize).length) := by
  suffices h : Triple (Flushing stream c) (writeRound P now (buf.take P.maxPacketSize))
      (Post.onReady (flushPost stream c (buf.take P.maxPacketSize).length)
        (Triple.roundClause (Flushing stream c)
          (flushPost stream c (buf.take P.maxPacketSize).length).ready)) from
    Triple.loop (writeRound_again P) h
  refine Triple.get fun w hw => ?_
  obtain ⟨pos, hstate, _⟩ := hw.writing
  rw [hstate]
  refine Triple.apply hw (Triple.seq (flush_spec stream c) (fun _ => ?_) (fun _ h => h)
    (fun _ _ h => h) fun _ h => h)
  exact Triple.update (M := Settled stream c) (fun w h => ⟨rfl, rfl, h.1, h.2⟩)
    (Triple.pure fun w h => ⟨rfl, h⟩)

/-- A poll that assembles a chunk. -/
theorem pollWriteEncrypted_packet (now : Time) (buf : Bytes) {stream : Bytes} {c : Cipher K}
    {w : WriteWorld K H X} (hstate : w.writer.state = .assemblePacket)
    (hstream : w.sink.wire ++ w.writer.buffer = stream) (hcipher : w.writer.cipher = c) :
    (flushPost (stream ++ sealChunk P.scheme c (buf.take P.maxPacketSize)) (c.skip 2)
      (buf.take P.maxPacketSize).length).holds (pollWriteEncrypted P now buf w) := by
  have hround : writeRound P now (buf.take P.maxPacketSize) w =
      (.ready none, w.assembled (assemblePacket P.scheme (buf.take P.maxPacketSize) w.writer).1
        (assemblePacket P.scheme (buf.take P.maxPacketSize) w.writer).2) := by
    unfold writeRound
    rw [PollM.get_bind, hstate]
    rfl
  rw [pollWriteEncrypted, PollM.loop_again (writeRound_again P) hround]
  refine pollWriteEncrypted_flushing P _ ⟨⟨0, rfl, Nat.zero_le _, ?_⟩, ?_⟩
  · simp only [WriteWorld.assembled, assemblePacket, Cipher.encryptPacket, sealChunk,
      List.drop_zero, ← hstream, hcipher, List.append_assoc, Cipher.skip_nonce, Cipher.skip_key]
  · simp only [WriteWorld.assembled, assemblePacket, Cipher.encryptPacket, hcipher,
      Cipher.skip_skip]

/-- A poll that assembles the head. -/
theorem pollWriteEncrypted_head {now : Time} {buf stream : Bytes} {c : Cipher K} {h : H}
    {w : WriteWorld K H X} (hstate : w.writer.state = .head h)
    (hhead : P.assembleHead now h (buf.take P.maxPacketSize) w.writer = (stream, c)) :
    (flushPost (w.sink.wire ++ stream) c (buf.take P.maxPacketSize).length).holds
      (pollWriteEncrypted P now buf w) := by
  have hround : writeRound P now (buf.take P.maxPacketSize) w =
      (.ready none, w.assembled stream c) := by
    unfold writeRound
    rw [PollM.get_bind, hstate]
    dsimp only
    rw [hhead]
    rfl
  rw [pollWriteEncrypted, PollM.loop_again (writeRound_again P) hround]
  exact pollWriteEncrypted_flushing P _ ⟨⟨0, rfl, Nat.zero_le _, rfl⟩, rfl⟩

/-! ## The writer's own fields -/

theorem flush_rest (x : X) : Triple (fun w : WriteWorld K H X => w.writer.rest = x) flush
    (Post.always fun w => w.writer.rest = x) := by
  apply Triple.loop flushRound_again
  intro w hw
  change Post.holds _ (flushRound w)
  unfold flushRound
  split
  · split
    · rcases w.sink.write _ with ⟨res, sink⟩
      cases res with
      | ready n => cases n <;> exact hw
      | pending => exact hw
      | failed e => exact hw
      | panicked => exact hw
    · exact hw
  · exact hw
  · exact hw

/-- A poll leaves the writer's own fields as they are. -/
theorem pollWriteEncrypted_rest (now : Time) (buf : Bytes) (x : X) :
    Triple (fun w => w.writer.rest = x) (pollWriteEncrypted P now buf)
      (Post.always fun w => w.writer.rest = x) := by
  apply Triple.loop (writeRound_again P)
  apply Triple.get
  intro w hw
  cases hs : w.writer.state with
  | head h => exact hw
  | assemblePacket => exact hw
  | writing pos =>
    refine Triple.bind (P := fun w => w.writer.rest = x) (M := fun _ w => w.writer.rest = x)
      (flush_rest x) (fun _ => ?_) w hw
    exact fun _ h => h

/-! ## Runs of calls -/

/-- The prefixes that the writer has acknowledged. -/
def acknowledged (acked : List (Bytes × Nat)) : List Bytes :=
  acked.map fun a => a.1.take a.2

/-- Every call has acknowledged as much of its buffer as fits a chunk. -/
def Acked (acked : List (Bytes × Nat)) : Prop :=
  ∀ a ∈ acked, a.2 = min a.1.length P.maxPacketSize

variable {P}

theorem acked_nil : Acked P [] := fun _ h => by cases h

theorem Acked.acknowledged_eq {acked : List (Bytes × Nat)} (h : Acked P acked) :
    acknowledged acked = acked.map fun a => a.1.take P.maxPacketSize := by
  refine List.map_congr_left fun a ha => ?_
  rw [h a ha]
  rcases Nat.le_total a.1.length P.maxPacketSize with hle | hle
  · rw [Nat.min_eq_left hle, List.take_length, List.take_of_length_le hle]
  · rw [Nat.min_eq_right hle]

theorem Acked.length_le {acked : List (Bytes × Nat)} (h : Acked P acked) :
    ∀ p ∈ acknowledged acked, p.length ≤ P.maxPacketSize := by
  intro p hp
  rw [h.acknowledged_eq] at hp
  obtain ⟨a, _, rfl⟩ := List.mem_map.1 hp
  exact List.length_take_le _ _

theorem Acked.concat {acked : List (Bytes × Nat)} (h : Acked P acked) (buf : Bytes) :
    Acked P (acked ++ [(buf, (buf.take P.maxPacketSize).length)]) := by
  intro a ha
  rcases List.mem_append.1 ha with ha | ha
  · exact h a ha
  · obtain rfl := List.mem_singleton.1 ha
    rw [List.length_take, Nat.min_comm]

/-- How a stream of payloads looks on the wire: from the first payload on, every
    further one is appended as a chunk. -/
structure Framing (P : WriteProtocol K H X) (c : Cipher K) (stream : List Bytes → Bytes) : Prop where
  concat : ∀ p ps q, stream ((p :: ps) ++ [q]) =
    stream (p :: ps) ++ sealChunk P.scheme (c.skip (2 * (p :: ps).length)) q

section Calls

variable {c : Cipher K} {stream : List Bytes → Bytes}

/-- Between two calls, at least one being done: everything is on the wire. -/
def Idle (P : WriteProtocol K H X) (c : Cipher K) (stream : List Bytes → Bytes)
    (acked : List (Bytes × Nat)) (w : WriteWorld K H X) : Prop :=
  Acked P acked ∧ acked ≠ [] ∧
    Settled (stream (acknowledged acked)) (c.skip (2 * acked.length)) w

/-- While the call for `buf` is pending. -/
def Busy (P : WriteProtocol K H X) (c : Cipher K) (stream : List Bytes → Bytes)
    (acked : List (Bytes × Nat)) (buf : Bytes) (w : WriteWorld K H X) : Prop :=
  Acked P acked ∧
    Flushing (stream (acknowledged acked ++ [buf.take P.maxPacketSize]))
      (c.skip (2 * (acked.length + 1))) w

/-- What a call for `buf` may come to. -/
def callPost (P : WriteProtocol K H X) (c : Cipher K) (stream : List Bytes → Bytes)
    (acked : List (Bytes × Nat)) (buf : Bytes) : Post (WriteWorld K H X) IoError Nat :=
  { ready := fun n w => Idle P c stream (acked ++ [(buf, n)]) w
    pending := fun w => Busy P c stream acked buf w
    failed := fun _ _ => True }

theorem flushPost_implies {acked : List (Bytes × Nat)} (hacked : Acked P acked) (buf : Bytes) :
    (flushPost (stream (acknowledged acked ++ [buf.take P.maxPacketSize]))
      (c.skip (2 * (acked.length + 1))) (buf.take P.maxPacketSize).length).Implies
      (callPost P c stream acked buf) := by
  refine ⟨?_, fun w h => ⟨hacked, h⟩, fun _ _ _ => trivial, fun _ h => h.elim⟩
  rintro n w ⟨rfl, hsettled⟩
  refine ⟨hacked.concat buf, by simp, ?_⟩
  rw [(hacked.concat buf).acknowledged_eq, List.map_append, ← hacked.acknowledged_eq,
    List.length_append]
  exact hsettled

/-- A call after the first. -/
theorem next_call (framing : Framing P c stream) {acked : List (Bytes × Nat)}
    {w : WriteWorld K H X} (hidle : Idle P c stream acked w) (now : Time) (buf : Bytes) :
    (callPost P c stream acked buf).holds (pollWriteEncrypted P now buf w) := by
  obtain ⟨hacked, hsome, hsettled⟩ := hidle
  refine (flushPost_implies hacked buf).holds _ ?_
  have hpoll := pollWriteEncrypted_packet P now buf hsettled.state
    (by rw [hsettled.wire, hsettled.buffer, List.append_nil]) hsettled.cipher
  rw [Cipher.skip_skip] at hpoll
  obtain ⟨a, rest, rfl⟩ := List.exists_cons_of_ne_nil hsome
  have hconcat := framing.concat (a.1.take a.2) (acknowledged rest) (buf.take P.maxPacketSize)
  rw [List.length_cons, acknowledged, List.length_map] at hconcat
  change stream (acknowledged (a :: rest) ++ _) = _ at hconcat
  rw [hconcat]
  exact hpoll

/-- **What a sequence of write calls puts on the wire**, once its first call has
    been accounted for. -/
theorem writes_spec (framing : Framing P c stream) {now : Time} {buf : Bytes}
    {writes : List (Time × Bytes)} {w₀ w : WriteWorld K H X} {acked : List (Bytes × Nat)}
    (hfirst : (flushPost (stream [buf.take P.maxPacketSize]) (c.skip 2)
      (buf.take P.maxPacketSize).length).holds (pollWriteEncrypted P now buf w₀))
    (h : performs (pollWriteEncrypted P) none ((now, buf) :: writes) w₀ = some (acked, w)) :
    Acked P acked ∧ acked ≠ [] ∧ w.sink.wire = stream (acknowledged acked) := by
  have hrule := performs_rule (pollWriteEncrypted P) (fun _ => True) (Idle P c stream)
    (Busy P c stream)
    (fun now buf acked w _ hw => next_call framing hw now buf)
    (fun now buf acked w _ hw => (flushPost_implies hw.1 buf).holds _
      (pollWriteEncrypted_flushing P w hw.2)) writes
  have hpost : (callPost P c stream [] buf).holds (pollWriteEncrypted P now buf w₀) :=
    (flushPost_implies acked_nil buf).holds _ hfirst
  suffices hidle : Idle P c stream acked w from ⟨hidle.1, hidle.2.1, hidle.2.2.wire⟩
  unfold performs at h
  rcases hp : pollWriteEncrypted P now buf w₀ with ⟨res, t⟩
  rw [hp] at hpost
  simp only [Option.all_none, if_true, hp] at h
  cases res with
  | ready n =>
    obtain ⟨⟨rest, t'⟩, hrest, hacked⟩ := Option.map_eq_some_iff.1 h
    cases hacked
    exact hrule none [(buf, n)] t rest t' (fun _ _ => trivial) hpost hrest
  | pending => exact hrule (some buf) [] t acked w (fun _ _ => trivial) hpost h
  | failed e => cases h
  | panicked => cases h

end Calls

end Shadowsocks.Tcp
