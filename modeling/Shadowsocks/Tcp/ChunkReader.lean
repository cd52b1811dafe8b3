import Shadowsocks.Context

/-! # Reading a chunk stream

The `DecryptedReader`s of `tcprelay::aead` and `tcprelay::aead_2022` read the
same chunks: a sealed length, then a sealed payload of that length.  They differ
in what comes before the first chunk and in what they do once a payload has
opened, so the common part is defined here over a `ChunkProtocol` that holds the
differences.  The reader's method never changes and is part of the protocol; its
read buffer is modelled by its contents only, the reserved capacity being no
part of what it reads.
-/

namespace Shadowsocks.Tcp

open Shadowsocks.Lib

/-- `DecryptReadState`; the head state is `WaitSalt` or `ReadHeader`. -/
inductive DecryptReadState (H : Type) where
  | head (h : H)
  | readLength
  | readData (length : Nat)
  | bufferedData (pos : Nat)
deriving DecidableEq, Repr

/-- The state that reads the next packet. -/
def DecryptReadState.reading {H : Type} : Expect → DecryptReadState H
  | .length => .readLength
  | .data n => .readData n

/-- `DecryptedReader`; `rest` are the fields that only one of the two has. -/
structure ChunkReader (K H X : Type) where
  state : DecryptReadState H
  cipher : Option (Cipher K)
  buffer : Bytes
  hasHandshaked : Bool
  rest : X

/-- What a reader works on when it is polled. -/
structure ReadWorld (K H X B : Type) where
  reader : ChunkReader K H X
  context : Context B
  source : Source

variable {K H X B ε : Type}

namespace ReadWorld

/-- The world with another buffer and another rest of the source. -/
def fill (w : ReadWorld K H X B) (buffer : Bytes) (source : Source) : ReadWorld K H X B :=
  { w with reader := { w.reader with buffer := buffer }, source := source }

/-- The reader enters a state with an empty buffer. -/
def enter (state : DecryptReadState H) (w : ReadWorld K H X B) : ReadWorld K H X B :=
  { w with reader := { w.reader with state := state, buffer := [] } }

def setState (state : DecryptReadState H) (w : ReadWorld K H X B) : ReadWorld K H X B :=
  { w with reader := { w.reader with state := state } }

def setCipher (cipher : Cipher K) (buffer : Bytes) (w : ReadWorld K H X B) :
    ReadWorld K H X B :=
  { w with reader := { w.reader with cipher := some cipher, buffer := buffer } }

def truncate (size : Nat) (w : ReadWorld K H X B) : ReadWorld K H X B :=
  { w with reader := { w.reader with buffer := w.reader.buffer.take size } }

def setHandshaked (w : ReadWorld K H X B) : ReadWorld K H X B :=
  { w with reader := { w.reader with hasHandshaked := true } }

def setRest (rest : X) (context : Context B) (w : ReadWorld K H X B) : ReadWorld K H X B :=
  { w with reader := { w.reader with rest := rest }, context := context }

/-- The bytes at hand and to come. -/
def stock (w : ReadWorld K H X B) : Nat :=
  w.source.bytes.length + w.reader.buffer.length

end ReadWorld

/-- What tells the two readers apart.  `readHead` returns what comes next, or
    nothing at an end of file before the head. -/
structure ChunkProtocol (K H X B ε : Type) where
  scheme : AeadScheme K
  ioError : IoError → ε
  decryptLengthError : ε
  decryptDataError : ε
  checkLength : Nat → Except ε Unit
  readHead : Time → H → PollM (ReadWorld K H X B) ε (Option Expect)
  afterData : Time → X → Context B → Except ε Unit × X × Context B
  readHead_stock : ∀ {now h w e w'}, readHead now h w = (.ready (some e), w') →
    w'.source.bytes.length ≤ w.stock

/-! ## `poll_read_exact` -/

/-- One round of the loop in `poll_read_exact`. -/
def readExactRound (size : Nat) : PollM (ReadWorld K H X B) IoError (Option Nat) := fun w =>
  if w.reader.buffer.length < size then
    match w.source.read (size - w.reader.buffer.length) with
    | (.pending, s) => (.pending, { w with source := s })
    | (.failed e, s) => (.failed e, { w with source := s })
    | (.panicked, s) => (.panicked, { w with source := s })
    | (.ready [], s) =>
      if w.reader.buffer ≠ [] then (.failed .unexpectedEof, { w with source := s })
      else (.ready (some 0), { w with source := s })
    | (.ready (b :: bs), s) => (.ready none, w.fill (w.reader.buffer ++ (b :: bs)) s)
  else (.ready (some size), w)

theorem readExactRound_again {size : Nat} {w w' : ReadWorld K H X B}
    (h : readExactRound size w = (.ready none, w')) :
    w'.source.bytes.length < w.source.bytes.length := by
  unfold readExactRound at h
  split at h
  · split at h <;> try split at h
    all_goals cases h
    next b bs s hr =>
      have hbytes := congrArg List.length (Source.read_ready hr).1
      simp only [List.length_append, List.length_cons] at hbytes
      simp only [ReadWorld.fill]
      omega
  · cases h

/-- `poll_read_exact`: fills the buffer up to `size` bytes; an end of file
    before the first byte gives zero. -/
def pollReadExact (size : Nat) : PollM (ReadWorld K H X B) IoError Nat :=
  if size = 0 then PollM.crash
  else PollM.loop (readExactRound size) (fun w => w.source.bytes.length) readExactRound_again

/-! ## `poll_read_length` and `poll_read_data` -/

/-- Opens the first `size` bytes of the buffer in place. -/
def decryptBuffer (scheme : AeadScheme K) (size : Nat) : PollM (ReadWorld K H X B) ε Bool :=
  PollM.get >>= fun w =>
    match w.reader.cipher with
    | none => PollM.crash
    | some cipher =>
      let r := cipher.decryptPacket scheme (w.reader.buffer.take size)
      PollM.update (·.setCipher r.2.2 (r.2.1 ++ w.reader.buffer.drop size)) >>= fun _ => pure r.1

/-- `poll_read_length`, with `decrypt_length`. -/
def pollReadLength (P : ChunkProtocol K H X B ε) :
    PollM (ReadWorld K H X B) ε (Option Nat) :=
  (pollReadExact (2 + P.scheme.tagLen)).mapErr P.ioError >>= fun n =>
    if n = 0 then pure none
    else
      decryptBuffer P.scheme (2 + P.scheme.tagLen) >>= fun opened =>
        if opened then
          PollM.get >>= fun w =>
            let plen := fromBigEndian (w.reader.buffer.take 2)
            match P.checkLength plen with
            | .error e => PollM.fail e
            | .ok () => pure (some plen)
        else PollM.fail P.decryptLengthError

/-- `poll_read_data`, with what the protocol does once the payload has opened. -/
def pollReadData (P : ChunkProtocol K H X B ε) (now : Time) (size : Nat) :
    PollM (ReadWorld K H X B) ε Unit :=
  (pollReadExact (size + P.scheme.tagLen)).mapErr P.ioError >>= fun n =>
    if n = 0 then PollM.fail (P.ioError .unexpectedEof)
    else
      decryptBuffer P.scheme (size + P.scheme.tagLen) >>= fun opened =>
        if opened then
          PollM.get >>= fun w =>
            let r := P.afterData now w.reader.rest w.context
            PollM.update (·.setRest r.2.1 r.2.2) >>= fun _ =>
              match r.1 with
              | .error e => PollM.fail e
              | .ok () => PollM.update (·.truncate size)
        else PollM.fail P.decryptDataError

/-! ## `poll_read_decrypted` -/

/-- One round of the loop in `poll_read_decrypted`, for a receive buffer with
    room for `remaining` bytes. -/
def readRound (P : ChunkProtocol K H X B ε) (now : Time) (remaining : Nat) :
    PollM (ReadWorld K H X B) ε (Option Bytes) :=
  PollM.get >>= fun w =>
    match w.reader.state with
    | .head h =>
      P.readHead now h >>= fun
        | none => pure (some [])
        | some e => PollM.update (fun w => (w.enter (.reading e)).setHandshaked) >>= fun _ => pure none
    | .readLength =>
      pollReadLength P >>= fun
        | none => pure (some [])
        | some length => PollM.update (·.enter (.readData length)) >>= fun _ => pure none
    | .readData length =>
      pollReadData P now length >>= fun _ =>
        PollM.update (·.setState (.bufferedData 0)) >>= fun _ => pure none
    | .bufferedData pos =>
      if pos < w.reader.buffer.length then
        let consumed := min (w.reader.buffer.length - pos) remaining
        PollM.update (·.setState (.bufferedData (pos + consumed))) >>= fun _ =>
          pure (some ((w.reader.buffer.drop pos).take consumed))
      else PollM.update (·.enter .readLength) >>= fun _ => pure none

/-- How many rounds a state is away from the next length packet. -/
def DecryptReadState.rank : DecryptReadState H → Nat
  | .head _ => 3
  | .readLength => 0
  | .readData _ => 2
  | .bufferedData _ => 1

def ReadWorld.measure (w : ReadWorld K H X B) : Nat :=
  4 * w.stock + w.reader.state.rank

/-! ### The loop leaves

Every round that goes round again has used up a packet, or has moved one state
towards the next length packet. -/

theorem readExactRound_stock (size N : Nat) :
    Triple (fun w => w.stock = N) (readExactRound (K := K) (H := H) (X := X) (B := B) size)
      (Post.ifReady fun o w => w.stock = N ∧
        ∀ n, o = some n → n ≠ 0 → size ≤ w.reader.buffer.length) := by
  refine Triple.of_result fun w r w' hw h => ?_
  cases r with
  | pending => trivial
  | failed e => trivial
  | panicked => trivial
  | ready o =>
    unfold readExactRound at h
    split at h
    · cases hr : w.source.read (size - w.reader.buffer.length) with
      | mk r s =>
        rw [hr] at h
        cases r with
        | pending => cases h
        | failed e => cases h
        | panicked => cases h
        | ready bs =>
          have hbytes := congrArg List.length (Source.read_ready hr).1
          rw [List.length_append] at hbytes
          unfold ReadWorld.stock at hw
          -- bytes go from the source to the buffer, and the end brings none
          cases bs with
          | nil =>
            rw [List.length_nil] at hbytes
            dsimp only at h
            split at h <;> cases h
            refine ⟨?_, fun n hn => by cases hn; exact fun h => absurd rfl h⟩
            simp only [ReadWorld.stock]
            omega
          | cons b bs =>
            cases h
            refine ⟨?_, fun n hn => by cases hn⟩
            simp only [ReadWorld.stock, ReadWorld.fill, List.length_append]
            omega
    · cases h
      exact ⟨hw, fun _ _ _ => by omega⟩

theorem pollReadExact_stock (size N : Nat) :
    Triple (fun w => w.stock = N) (pollReadExact (K := K) (H := H) (X := X) (B := B) size)
      (Post.ifReady fun n w => w.stock = N ∧ (n ≠ 0 → size ≤ w.reader.buffer.length)) := by
  unfold pollReadExact
  split
  · exact Triple.crash fun _ _ => trivial
  · refine Triple.loop readExactRound_again ((readExactRound_stock size N).strengthen
      ⟨?_, fun _ _ => trivial, fun _ _ _ => trivial, fun _ _ => trivial⟩)
    intro o w h
    cases o with
    | none => exact h.1
    | some n => exact ⟨h.1, h.2 n rfl⟩

theorem decryptPacket_length (S : AeadScheme K) (c : Cipher K) (m : Bytes) :
    (c.decryptPacket S m).2.1.length = m.length := by
  unfold Cipher.decryptPacket
  split
  · next p hp =>
    have := S.decrypt_length hp
    simp only [List.length_append, List.length_drop]
    omega
  · exact S.garbled_length ..

theorem decryptBuffer_stock (S : AeadScheme K) (size N : Nat) :
    Triple (fun w => w.stock = N ∧ size ≤ w.reader.buffer.length)
      (decryptBuffer (H := H) (X := X) (B := B) (ε := ε) S size)
      (Post.ifReady fun _ w => w.stock = N ∧ size ≤ w.reader.buffer.length) := by
  refine Triple.get fun w hw => ?_
  cases hc : w.reader.cipher with
  | none => trivial
  | some cipher =>
    have hlen := decryptPacket_length S cipher (w.reader.buffer.take size)
    rw [List.length_take, Nat.min_eq_left hw.2] at hlen
    have hkeep : ((cipher.decryptPacket S (w.reader.buffer.take size)).2.1 ++
        w.reader.buffer.drop size).length = w.reader.buffer.length := by
      rw [List.length_append, hlen, List.length_drop]
      have := hw.2
      omega
    refine ⟨?_, ?_⟩
    · simp only [ReadWorld.setCipher, ReadWorld.stock, hkeep]
      exact hw.1
    · simp only [ReadWorld.setCipher, hkeep]
      exact hw.2

theorem pollReadLength_stock (P : ChunkProtocol K H X B ε) (N : Nat) :
    Triple (fun w => w.stock = N) (pollReadLength P)
      (Post.ifReady fun o w => o.isSome → w.source.bytes.length + 1 ≤ N) := by
  refine Triple.bind (M := fun n w => w.stock = N ∧
    (n ≠ 0 → 2 + P.scheme.tagLen ≤ w.reader.buffer.length)) ?_ fun n => ?_
  · exact Triple.mapErr (pollReadExact_stock _ N)
  · split
    · exact Triple.pure fun w _ h => by cases h
    · next hn =>
      refine Triple.bind ((decryptBuffer_stock P.scheme _ N).weaken fun w hw => ⟨hw.1, hw.2 hn⟩)
        fun opened => ?_
      split
      · refine Triple.get fun w hw => ?_
        cases P.checkLength (fromBigEndian (w.reader.buffer.take 2)) with
        | error e => trivial
        | ok _ =>
          intro _
          have := hw.2
          have := hw.1
          unfold ReadWorld.stock at this
          omega
      · exact Triple.fail fun _ _ => trivial

theorem pollReadData_stock (P : ChunkProtocol K H X B ε) (now : Time) (size N : Nat) :
    Triple (fun w => w.stock = N) (pollReadData P now size)
      (Post.ifReady fun _ w => w.stock ≤ N) := by
  refine Triple.bind (M := fun n w => w.stock = N ∧
    (n ≠ 0 → size + P.scheme.tagLen ≤ w.reader.buffer.length)) ?_ fun n => ?_
  · exact Triple.mapErr (pollReadExact_stock _ N)
  · split
    · exact Triple.fail fun _ _ => trivial
    · next hn =>
      refine Triple.bind ((decryptBuffer_stock P.scheme _ N).weaken fun w hw => ⟨hw.1, hw.2 hn⟩)
        fun opened => ?_
      split
      · refine Triple.get fun w hw => ?_
        refine Triple.update (P := fun w => w.stock = N) (M := fun w => w.stock = N)
          (fun w h => h) ?_ w hw.1
        cases (P.afterData now w.reader.rest w.context).1 with
        | error e => exact Triple.fail fun _ _ => trivial
        | ok _ =>
          intro w hw
          have := List.length_take_le size w.reader.buffer
          simp only [ReadWorld.stock] at hw
          simp only [PollM.update, Post.holds, Post.ifReady, ReadWorld.truncate, ReadWorld.stock,
            List.length_take]
          omega
      · exact Triple.fail fun _ _ => trivial

/-- What another round has changed: the measure has gone down. -/
theorem readRound_measure (P : ChunkProtocol K H X B ε) (now : Time) (remaining N : Nat) :
    Triple (fun w => w.measure = N) (readRound P now remaining)
      (Post.ifReady fun o w => o = none → w.measure < N) := by
  refine Triple.get fun w hw => ?_
  unfold ReadWorld.measure at hw
  cases hs : w.reader.state with
  | head h =>
    rw [hs] at hw
    simp only [DecryptReadState.rank] at hw
    -- only a head that has opened goes on, and it has used up some of the source
    refine Triple.bind (P := fun w' => w' = w)
      (M := fun o w' => o.isSome → w'.source.bytes.length ≤ w.stock) ?_ (fun o => ?_) w rfl
    · refine Triple.of_result fun t r w' ht hr => ?_
      subst ht
      cases r with
      | ready o =>
        intro ho
        obtain ⟨e, rfl⟩ := Option.isSome_iff_exists.1 ho
        exact P.readHead_stock hr
      | pending => trivial
      | failed e => trivial
      | panicked => trivial
    · cases o with
      | none => exact Triple.pure fun _ _ h => by cases h
      | some e =>
        refine Triple.update (M := fun w' => w'.measure < N) ?_ (Triple.pure fun _ h _ => h)
        intro w' hw'
        have := hw' rfl
        cases e <;>
          simp only [ReadWorld.measure, ReadWorld.stock, ReadWorld.setHandshaked, ReadWorld.enter,
            DecryptReadState.reading, DecryptReadState.rank, List.length_nil] at * <;> omega
  | readLength =>
    rw [hs] at hw
    simp only [DecryptReadState.rank] at hw
    -- a length packet is taken out of the stock: the rank may rise again
    refine Triple.bind (P := fun w' => w'.stock = w.stock)
      (M := fun o w' => o.isSome → w'.source.bytes.length + 1 ≤ w.stock)
      (pollReadLength_stock P w.stock)
      (fun o => ?_) w rfl
    cases o with
    | none => exact Triple.pure fun _ _ h => by cases h
    | some length =>
      refine Triple.update (M := fun w' => w'.measure < N) ?_ (Triple.pure fun _ h _ => h)
      intro w' hw'
      have := hw' rfl
      simp only [ReadWorld.measure, ReadWorld.stock, ReadWorld.enter, DecryptReadState.rank,
        List.length_nil] at *
      omega
  | readData length =>
    rw [hs] at hw
    simp only [DecryptReadState.rank] at hw
    -- a payload stays in the buffer, and the rank falls
    refine Triple.bind (P := fun w' => w'.stock = w.stock) (M := fun _ w' => w'.stock ≤ w.stock)
      (pollReadData_stock P now length w.stock)
      (fun _ => ?_) w rfl
    refine Triple.update (M := fun w' => w'.measure < N) ?_ (Triple.pure fun _ h _ => h)
    intro w' hw'
    simp only [ReadWorld.measure, ReadWorld.stock, ReadWorld.setState, DecryptReadState.rank] at *
    omega
  | bufferedData pos =>
    rw [hs] at hw
    simp only [DecryptReadState.rank] at hw
    dsimp only
    split
    · exact fun h => by cases h
    · intro _
      simp only [ReadWorld.measure, ReadWorld.stock, ReadWorld.enter, DecryptReadState.rank,
        List.length_nil] at *
      omega

theorem readRound_again (P : ChunkProtocol K H X B ε) {now : Time} {remaining : Nat}
    {w w' : ReadWorld K H X B} (h : readRound P now remaining w = (.ready none, w')) :
    w'.measure < w.measure :=
  (readRound_measure P now remaining w.measure).of_ready rfl h rfl

/-- `poll_read_decrypted`: the bytes put into a receive buffer with room for
    `remaining` bytes. -/
def pollReadDecrypted (P : ChunkProtocol K H X B ε) (now : Time) (remaining : Nat) :
    PollM (ReadWorld K H X B) ε Bytes :=
  PollM.loop (readRound P now remaining) ReadWorld.measure (readRound_again P)

/-- One call of `poll_read_decrypted`: when, in which context, and how much room
    the receive buffer has. -/
structure ReadCall (B : Type) where
  now : Time
  context : Context B
  room : Nat

/-- The poll of one call.  The context is shared, so other streams may have
    changed it since the last call. -/
def pollRead (P : ChunkProtocol K H X B ε) (call : ReadCall B) : PollM (ReadWorld K H X B) ε Bytes :=
  fun w => pollReadDecrypted P call.now call.room { w with context := call.context }

end Shadowsocks.Tcp
