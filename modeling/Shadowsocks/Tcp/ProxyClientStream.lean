import Shadowsocks.Net.Socks5
import Shadowsocks.Tcp.Acknowledged
import Shadowsocks.Tcp.CryptoIo

/-! # The client's stream to a server

`proxy_stream::client`: the first write sends the target address in front of its buffer, and of
an AEAD-2022 response the client checks that it answers its own request.

The first write hands the whole packet to the cipher layer, which may take less of it; it is
acknowledged in full all the same (`first_write_complete_iff`).
-/

namespace Shadowsocks.Tcp

open Shadowsocks.Lib Shadowsocks.Net

inductive ProxyClientStreamWriteState where
  | connect (addr : Address)
  | connecting (buffer : Bytes)
  | connected
deriving DecidableEq, Repr

inductive ProxyClientStreamReadState where
  | checkRequestNonce
  | established
deriving DecidableEq, Repr

structure ProxyClientStream (K S B : Type) where
  stream : CryptoIo.CryptoStream K S B
  writerState : ProxyClientStreamWriteState
  readerState : ProxyClientStreamReadState

/-- `make_first_packet_buffer`, which panics where the address cannot be written.  The padding is
    drawn, in size and (being memory that nobody has written) in content; it is used only if
    there is no payload. -/
def makeFirstPacketBuffer (method : CipherKind) (padding : Bytes) (addr : Address) (buf : Bytes) :
    Option Bytes :=
  let padding := if buf = [] then padding else []
  match addr.writeToBuf with
  | none => none
  | some buffer =>
    if method.isAead2022 then some (buffer ++ bigEndian 2 padding.length ++ padding ++ buf)
    else some (buffer ++ buf)

namespace ProxyClientStream

open CryptoIo

variable {K S B : Type} [BloomFilter B]

/-- What a client's streams are made for. -/
def config (crypto : CryptoSuite K) (method : CipherKind) : Aead2022.ReaderConfig crypto :=
  { streamTy := .client, method := method, userManager := none }

variable (crypto : CryptoSuite K) (method : CipherKind) (suite : Stream.StreamSuite S)

/-- `from_stream`. -/
def fromStream (context : Context B) (source : Source) (sink : Sink) (key nonce : Bytes)
    (identityKeys : List Bytes) (addr : Address) : ProxyClientStream K S B :=
  { stream := CryptoStream.fromStreamWithIdentity (config crypto method) suite context source sink
      key nonce identityKeys
    writerState := .connect addr
    readerState := if method.isAead2022 then .checkRequestNonce else .established }

/-- A poll of the stream inside. -/
def inner {ε α : Type} (x : PollM (CryptoStream K S B) ε α) :
    PollM (ProxyClientStream K S B) ε α :=
  fun s => x.on s.stream fun stream => { s with stream := stream }

def setReaderState (state : ProxyClientStreamReadState) (s : ProxyClientStream K S B) :
    ProxyClientStream K S B :=
  { s with readerState := state }

def setWriterState (state : ProxyClientStreamWriteState) (s : ProxyClientStream K S B) :
    ProxyClientStream K S B :=
  { s with writerState := state }

/-- `poll_read_decrypted` of the stream inside. -/
def readInner (call : ReadCall B) : PollM (ProxyClientStream K S B) Failure Bytes :=
  inner (PollM.mapErr ProtocolError.toFailure
    (CryptoStream.pollReadDecrypted (config crypto method) suite call))

/-- The check of a response, which is made until it has passed once. -/
def checkRequestNonce : PollM (ProxyClientStream K S B) Failure Unit :=
  inner CryptoStream.dataChunkCount >>= fun dataChunkCount =>
    -- no chunk, no header: the peer has closed its side
    if dataChunkCount > 0 then
      PollM.get >>= fun s =>
        let sentNonce := if s.stream.sentNonce = [] then none else some s.stream.sentNonce
        if sentNonce ≠ s.stream.receivedRequestNonce then PollM.fail .unmatchedSalt
        else PollM.update (setReaderState .established)
    else pure ()

/-- `poll_read`. -/
def pollRead (call : ReadCall B) : PollM (ProxyClientStream K S B) Failure Bytes :=
  PollM.get >>= fun s =>
    match s.readerState with
    | .established => readInner crypto method suite call
    | .checkRequestNonce =>
      readInner crypto method suite call >>= fun out => checkRequestNonce >>= fun _ => pure out

/-- `poll_write_encrypted` of the stream inside. -/
def writeInner (now : Time) (buf : Bytes) : PollM (ProxyClientStream K S B) Failure Nat :=
  inner (PollM.mapErr ProtocolError.toFailure
    (CryptoStream.pollWriteEncrypted (config crypto method) suite now buf))

/-- The state `Connecting`.  How much of the packet was written is only asserted in a debug
    build, and all of the caller's buffer is acknowledged. -/
def writeFirstPacket (now : Time) (buffer buf : Bytes) :
    PollM (ProxyClientStream K S B) Failure Nat :=
  writeInner crypto method suite now buffer >>= fun _ =>
    PollM.update (setWriterState .connected) >>= fun _ => pure buf.length

/-- `poll_write`.  Its loop goes round once more at most, with the first packet. -/
def pollWrite (now : Time) (padding buf : Bytes) : PollM (ProxyClientStream K S B) Failure Nat :=
  PollM.get >>= fun s =>
    match s.writerState with
    | .connect addr =>
      match makeFirstPacketBuffer method padding addr buf with
      | none => PollM.crash
      | some buffer =>
        PollM.update (setWriterState (.connecting buffer)) >>= fun _ =>
          writeFirstPacket crypto method suite now buffer buf
    | .connecting buffer => writeFirstPacket crypto method suite now buffer buf
    | .connected => writeInner crypto method suite now buf

/-! ## What reaches the wire -/

section FirstPacket

variable (crypto : CryptoSuite K) (method : CipherKind) (suite : Stream.StreamSuite S)
  (key nonce : Bytes) (identityKeys : List Bytes)

/-- The AEAD-2022 writer of a client. -/
def sender : Aead2022.Sender :=
  { streamTy := .client, key := key, identityKeys := identityKeys, requestSalt := none
    userKey := none }

/-- `payload` was handed to the cipher layer as the first one, and has been written out. -/
def OnWire (payload : Bytes) : Bytes → Prop :=
  match method.category with
  | .none => fun wire => wire = payload
  | .stream => fun wire => wire = Stream.streamOf suite method key nonce [payload]
  | .aead => fun wire => wire = Aead.streamOf crypto method key nonce [payload]
  | .aead2022 => fun wire => ∃ sentAt,
      wire = Aead2022.streamOf crypto method (sender key identityKeys) nonce sentAt [payload]

/-- How much of a first packet the cipher layer takes: without a cipher, what the transport takes
    at once. -/
def capacity (schedule : List WriteEvent) (size : Nat) : Nat :=
  match method.category with
  | .none => ((Sink.firstAccept schedule).getD 0)
  | .stream => size
  | .aead => Aead.maxPacketSize
  | .aead2022 => Aead2022.maxPacketSize

variable {crypto method suite key nonce identityKeys}

/-- The wire tells how long the payload is. -/
theorem OnWire.length_eq {p q wire : Bytes}
    (hp : OnWire crypto method suite key nonce identityKeys p wire)
    (hq : OnWire crypto method suite key nonce identityKeys q wire) : p.length = q.length := by
  unfold OnWire at hp hq
  cases hcat : method.category with
  | none =>
    simp only [hcat] at hp hq
    rw [← hp, hq]
  | stream =>
    simp only [hcat] at hp hq
    have hlen := congrArg List.length (hp.symm.trans hq)
    simpa [Stream.streamOf, Stream.StreamSuite.encryptAll, suite.encryptPacket_length] using hlen
  | aead =>
    simp only [hcat] at hp hq
    have hlen := congrArg List.length (hp.symm.trans hq)
    simpa [Aead.streamOf, sealChunks, sealChunk, AeadScheme.encrypt_length] using hlen
  | aead2022 =>
    simp only [hcat] at hp hq
    obtain ⟨sentAt, hp⟩ := hp
    obtain ⟨sentAt', hq⟩ := hq
    have hlen := congrArg List.length (hp.symm.trans hq)
    simpa [Aead2022.streamOf, Aead2022.headOf, Aead2022.sealedHeader, Aead2022.headerPlain,
      Lib.remaining, sealChunks, AeadScheme.encrypt_length] using hlen

/-- From `s` on, polls with `packet` go on until one is ready, which leaves `Done`. -/
def Completes (crypto : CryptoSuite K) (method : CipherKind) (suite : Stream.StreamSuite S)
    (packet : Bytes) (Done : Bytes → Prop) (s : CryptoStream K S B) : Prop :=
  ∃ Inv : CryptoStream K S B → Prop, Inv s ∧ ∀ now,
    Triple Inv (CryptoStream.pollWriteEncrypted (config crypto method) suite now packet)
      { ready := fun _ t => Done t.sink.wire, pending := Inv, failed := fun _ => Inv }

omit [BloomFilter B] in
/-- A sealing writer completes a packet, of which it seals what fits. -/
theorem completes_sealing {σ : Type} {packet : Bytes} (writer : SealingWriter Time σ IoError)
    (put : CryptoStream K S B → σ → CryptoStream K S B) (wire : σ → Bytes)
    (hwire : ∀ s t, (put s t).sink.wire = wire t)
    {toError : IoError → ProtocolError}
    (hpoll : ∀ now s t, CryptoStream.pollWriteEncrypted (config crypto method) suite now packet
      (put s t) = (PollM.mapErr toError (writer.poll now packet)).on t (put s))
    {Done : Bytes → Prop} (hdone : ∀ t, writer.Idle [writer.fit packet] t → Done (wire t))
    {s : CryptoStream K S B} {t : σ} (hs : s = put s t) (hidle : writer.Idle [] t) :
    Completes crypto method suite packet Done s := by
  refine ⟨fun u => ∃ t, u = put s t ∧ (writer.Idle [] t ∨ writer.Busy [writer.fit packet] t),
    ⟨t, hs, .inl hidle⟩, ?_⟩
  rintro now _ ⟨t, rfl, hstate⟩
  rw [hpoll]
  apply Post.holds_on
  apply Post.holds_mapErr
  obtain hidle | hbusy := hstate
  · refine Post.mono (writer.begins hidle) ⟨?_, ?_, ?_, fun _ h => h⟩
    · rintro n t ⟨-, h⟩
      change Done (put s t).sink.wire
      rw [hwire]
      exact hdone t h
    · exact fun t h => ⟨t, rfl, .inr h⟩
    · exact fun e t h => ⟨t, rfl, .inr h⟩
  · refine Post.mono (writer.resumes hbusy) ⟨?_, ?_, ?_, fun _ h => h⟩
    · rintro n t ⟨-, h⟩
      change Done (put s t).sink.wire
      rw [hwire]
      exact hdone t h
    · exact fun t h => ⟨t, rfl, .inr h⟩
    · exact fun e t h => ⟨t, rfl, .inr h⟩

omit [BloomFilter B] in
/-- The plain stream: the transport takes what it likes of the packet. -/
theorem completes_plain {packet : Bytes} {schedule : List WriteEvent} {s : CryptoStream K S B}
    (henc : s.enc = .none) (hwire : s.sink.wire = [])
    (hschedule : s.sink.schedule = schedule) :
    Completes crypto method suite packet
      (fun wire => wire = packet.take ((Sink.firstAccept schedule).getD 0)) s := by
  refine ⟨fun u => u.enc = .none ∧ u.sink.wire = [] ∧
    Sink.firstAccept u.sink.schedule = Sink.firstAccept schedule, ⟨henc, hwire, by rw [hschedule]⟩,
    ?_⟩
  rintro now u ⟨henc, hwire, hfirst⟩
  unfold CryptoStream.pollWriteEncrypted
  rw [henc]
  apply Post.holds_on
  apply Post.holds_mapErr
  unfold Sink.write
  cases hs : u.sink.schedule with
  | nil => exact ⟨rfl, hwire, by rw [← hfirst, hs]⟩
  | cons ev evs =>
    rw [hs] at hfirst
    cases ev with
    | pending => exact ⟨rfl, hwire, hfirst⟩
    | fail e => exact ⟨rfl, hwire, hfirst⟩
    | accept n =>
      change u.sink.wire ++ packet.take n = _
      rw [hwire, ← hfirst]
      rfl

theorem streamWriter_start (suite : Stream.StreamSuite S) (method : CipherKind) (key iv : Bytes)
    (schedule : List WriteEvent) : (streamWriter suite method key iv).Idle []
      { writer := .new suite method key iv, sink := { schedule := schedule, wire := [] } } := by
  refine ⟨⟨rfl, ?_, rfl⟩, fun h => absurd rfl h⟩
  simp [Stream.EncryptedWriter.new, Stream.streamOf, Stream.StreamSuite.encryptAll]

omit [BloomFilter B] in
/-- What a new stream completes of its first packet. -/
theorem completes_first (crypto : CryptoSuite K) (method : CipherKind)
    (suite : Stream.StreamSuite S) (key nonce : Bytes) (identityKeys : List Bytes) (packet : Bytes)
    (context : Context B) (source : Source) (schedule : List WriteEvent) :
    Completes crypto method suite packet
      (OnWire crypto method suite key nonce identityKeys
        (packet.take (capacity method schedule packet.length)))
      (CryptoStream.fromStreamWithIdentity (config crypto method) suite context source
        { schedule := schedule, wire := [] } key nonce identityKeys) := by
  generalize hs : CryptoStream.fromStreamWithIdentity (config crypto method) suite context source
    { schedule := schedule, wire := [] } key nonce identityKeys = s
  have henc : s.enc = .withIdentity (config crypto method) suite key nonce identityKeys := by
    rw [← hs]
    rfl
  have hsink : s.sink = { schedule := schedule, wire := [] } := by
    rw [← hs]
    rfl
  -- the writers differ, and with them how much of the packet the first call takes
  cases hcat : method.category with
  | none =>
    simp only [OnWire, capacity, hcat]
    apply completes_plain
    · simp only [henc, EncryptedWriter.withIdentity, config, hcat]
    · rw [hsink]
    · rw [hsink]
  | stream =>
    have hwriter : s.enc = .stream (.new suite method key nonce) := by
      simp only [henc, EncryptedWriter.withIdentity, config, hcat]
    simp only [OnWire, capacity, hcat, List.take_length]
    apply completes_sealing (streamWriter suite method key nonce)
      (fun s t => { s with enc := .stream t.writer, sink := t.sink })
      (fun t => t.sink.wire) (fun _ _ => rfl) (fun _ _ _ => rfl)
      (t := { writer := .new suite method key nonce, sink := s.sink })
    case hs => rw [← hwriter]
    case hidle =>
      rw [hsink]
      exact streamWriter_start suite method key nonce schedule
    case hdone =>
      intro t h
      change t.sink.wire = Stream.streamOf suite method key nonce
        [(streamWriter suite method key nonce).fit packet]
      rw [← h.1.wire, h.2 (List.cons_ne_nil _ _), List.append_nil]
  | aead =>
    have hwriter : s.enc = .aead (Aead.EncryptedWriter.new crypto method key nonce) := by
      simp only [henc, EncryptedWriter.withIdentity, config, hcat]
    simp only [OnWire, capacity, hcat]
    apply completes_sealing (aeadWriter crypto method key nonce)
      (fun s t => { s with enc := .aead t.writer, sink := t.sink })
      (fun t => t.sink.wire) (fun _ _ => rfl) (fun _ _ _ => rfl)
      (t := { writer := Aead.EncryptedWriter.new crypto method key nonce, sink := s.sink })
    case hs => rw [← hwriter]
    case hidle =>
      rw [hsink]
      exact ⟨rfl, rfl, rfl⟩
    case hdone => exact fun t h => h.choose_spec.wire
  | aead2022 =>
    have hwriter : s.enc = .aead2022 ((sender key identityKeys).writer crypto method nonce) := by
      simp only [henc, EncryptedWriter.withIdentity, config, hcat]
      rfl
    simp only [OnWire, capacity, hcat]
    apply completes_sealing (aead2022Writer crypto method (sender key identityKeys) nonce)
      (fun s t => { s with enc := .aead2022 t.writer, sink := t.sink })
      (fun t => t.sink.wire) (fun _ _ => rfl) (fun _ _ _ => rfl)
      (t := { writer := (sender key identityKeys).writer crypto method nonce, sink := s.sink })
    case hs => rw [← hwriter]
    case hidle =>
      rw [hsink]
      exact ⟨rfl, rfl⟩
    case hdone => exact fun t h => ⟨h.choose, h.choose_spec.wire⟩

/-! ## The first write -/

/-- A poll with `buf`: when it is made, and the padding that it would draw. -/
def pollWith (crypto : CryptoSuite K) (method : CipherKind) (suite : Stream.StreamSuite S)
    (buf : Bytes) (poll : Time × Bytes) : PollM (ProxyClientStream K S B) Failure Nat :=
  pollWrite crypto method suite poll.1 poll.2 buf

/-- The serialised request header: the address and, for AEAD-2022, the padding behind its
    size. -/
def requestHeader (method : CipherKind) (padding : Bytes) (addr : Address) : Option Bytes :=
  addr.writeToBuf.map fun address =>
    if method.isAead2022 then address ++ bigEndian 2 padding.length ++ padding else address

theorem makeFirstPacketBuffer_eq (method : CipherKind) (padding : Bytes) (addr : Address)
    (buf : Bytes) : makeFirstPacketBuffer method padding addr buf =
      (requestHeader method (if buf = [] then padding else []) addr).map (· ++ buf) := by
  unfold makeFirstPacketBuffer requestHeader
  cases addr.writeToBuf with
  | none => rfl
  | some address => cases method.isAead2022 <;> rfl

section States

omit [BloomFilter B]

theorem pollWith_connect {s : ProxyClientStream K S B} {addr : Address} {poll : Time × Bytes}
    {buf packet : Bytes} (hstate : s.writerState = .connect addr)
    (hpacket : makeFirstPacketBuffer method poll.2 addr buf = some packet) :
    pollWith crypto method suite buf poll s =
      pollWith crypto method suite buf poll (s.setWriterState (.connecting packet)) := by
  unfold pollWith pollWrite
  rw [PollM.get_bind, PollM.get_bind, hstate]
  dsimp only
  rw [hpacket]
  rfl

theorem pollWith_unwritable {s : ProxyClientStream K S B} {addr : Address} {poll : Time × Bytes}
    {buf : Bytes} (hstate : s.writerState = .connect addr)
    (hpacket : makeFirstPacketBuffer method poll.2 addr buf = none) :
    pollWith crypto method suite buf poll s = (.panicked, s) := by
  unfold pollWith pollWrite
  rw [PollM.get_bind, hstate]
  dsimp only
  rw [hpacket]
  rfl

/-- A poll in the state `Connecting`. -/
theorem writeFirstPacket_spec {packet : Bytes} {Done : Bytes → Prop}
    {Inv : CryptoStream K S B → Prop}
    (hpoll : ∀ now,
      Triple Inv (CryptoStream.pollWriteEncrypted (config crypto method) suite now packet)
        { ready := fun _ t => Done t.sink.wire, pending := Inv, failed := fun _ => Inv })
    (now : Time) (buf : Bytes) :
    Triple (fun s : ProxyClientStream K S B => s.writerState = .connecting packet ∧ Inv s.stream)
      (writeFirstPacket crypto method suite now packet buf)
      { ready := fun n s => n = buf.length ∧ Done s.stream.sink.wire
        pending := fun s => s.writerState = .connecting packet ∧ Inv s.stream
        failed := fun _ s => s.writerState = .connecting packet ∧ Inv s.stream } := by
  refine Triple.bind (M := fun _ s => Done s.stream.sink.wire) ?_ fun _ => ?_
  · rintro s ⟨hstate, hinv⟩
    unfold writeInner inner
    apply Post.holds_on
    apply Post.holds_mapErr
    exact Post.mono (hpoll now _ hinv)
      ⟨fun _ _ h => h, fun _ h => ⟨hstate, h⟩, fun _ _ h => ⟨hstate, h⟩, fun _ h => h⟩
  · exact fun s h => ⟨rfl, h⟩

end States

omit [BloomFilter B] in
/-- **The first write.** When it is ready it acknowledges all of its buffer. The header and the
    acknowledged bytes are what has been written exactly if the cipher layer could take them as
    one packet. -/
theorem first_write_complete_iff {context : Context B} {source : Source}
    {schedule : List WriteEvent} {addr : Address} {buf : Bytes} {first : Time × Bytes}
    {retries : List (Time × Bytes)} {n : Nat} {s : ProxyClientStream K S B}
    (hrun : firstReady (pollWith crypto method suite buf) (first :: retries)
      (fromStream crypto method suite context source { schedule := schedule, wire := [] } key nonce
        identityKeys addr) = some (n, s)) :
    ∃ header, requestHeader method (if buf = [] then first.2 else []) addr = some header ∧
      n = buf.length ∧
      (OnWire crypto method suite key nonce identityKeys (header ++ buf.take n)
          s.stream.sink.wire ↔
        (header ++ buf).length ≤ capacity method schedule (header ++ buf).length) := by
  have hpacket := makeFirstPacketBuffer_eq method first.2 addr buf
  generalize hstart : fromStream crypto method suite context source
    { schedule := schedule, wire := [] } key nonce identityKeys addr = start at hrun
  have hstate : start.writerState = .connect addr := by
    rw [← hstart]
    rfl
  cases hheader : requestHeader method (if buf = [] then first.2 else []) addr with
  | none =>
    rw [hheader, Option.map_none] at hpacket
    have hnone : firstReady (pollWith crypto method suite buf) (first :: retries) start = none :=
      firstReady_panicked (pollWith_unwritable hstate hpacket) retries
    rw [hnone] at hrun
    cases hrun
  | some header =>
    refine ⟨header, rfl, ?_⟩
    rw [hheader, Option.map_some] at hpacket
    -- from the first poll on, the packet is in the state
    have hcongr : firstReady (pollWith crypto method suite buf) (first :: retries) start =
        firstReady (pollWith crypto method suite buf) (first :: retries)
          (start.setWriterState (.connecting (header ++ buf))) :=
      firstReady_congr (pollWith_connect hstate hpacket) retries
    rw [hcongr] at hrun
    obtain ⟨Inv, hinv, hinner⟩ := completes_first crypto method suite key nonce identityKeys
      (header ++ buf) context source schedule
    have hstep : ∀ c : Time × Bytes, Triple
        (fun s : ProxyClientStream K S B =>
          s.writerState = .connecting (header ++ buf) ∧ Inv s.stream)
        (pollWith crypto method suite buf c)
        { ready := fun n s => n = buf.length ∧ OnWire crypto method suite key nonce identityKeys
            ((header ++ buf).take (capacity method schedule (header ++ buf).length))
            s.stream.sink.wire
          pending := fun s => s.writerState = .connecting (header ++ buf) ∧ Inv s.stream
          failed := fun _ s => s.writerState = .connecting (header ++ buf) ∧ Inv s.stream
          panicked := fun _ => True } := by
      intro c
      apply Triple.get
      rintro s ⟨hstate, hinv⟩
      rw [hstate]
      exact Post.mono (writeFirstPacket_spec hinner c.1 buf s ⟨hstate, hinv⟩)
        ⟨fun _ _ h => h, fun _ h => h, fun _ _ h => h, fun _ h => h.elim⟩
    obtain ⟨rfl, hwire⟩ := firstReady_rule hstep ⟨rfl, by rw [← hstart]; exact hinv⟩ hrun
    refine ⟨rfl, ?_⟩
    rw [List.take_length]
    constructor
    · intro hwhole
      have hlen := hwhole.length_eq hwire
      rw [List.length_take] at hlen
      omega
    · intro hfits
      rwa [List.take_of_length_le hfits] at hwire

/-- A new client's context. -/
def sampleContext : Context ExactFilter := .new false .localService .default

/-- One byte for 127.0.0.1, through a transport that is not ready at first. -/
theorem first_write_complete_iff_sample : ∃ n s header,
    firstReady (pollWith CryptoSuite.transparent (.aead 0)
        Stream.StreamSuite.transparent [42]) [(0, []), (1, [])]
      (fromStream CryptoSuite.transparent (.aead 0) Stream.StreamSuite.transparent
        sampleContext []
        { schedule := [.pending, .accept 90], wire := [] } [1] [2] [] (.socketAddress (.v4 0x7f000001 80))) = some (n, s) ∧ n = 1 ∧
      OnWire CryptoSuite.transparent (.aead 0) Stream.StreamSuite.transparent [1] [2] []
        (header ++ [42]) s.stream.sink.wire := by
  obtain ⟨⟨n, s⟩, hrun⟩ := Option.isSome_iff_exists.1 (by decide +kernel :
    (firstReady (pollWith CryptoSuite.transparent (.aead 0)
        Stream.StreamSuite.transparent [42]) [(0, []), (1, [])]
      (fromStream CryptoSuite.transparent (.aead 0) Stream.StreamSuite.transparent
        sampleContext []
        { schedule := [.pending, .accept 90], wire := [] } [1] [2] [] (.socketAddress (.v4 0x7f000001 80)))).isSome)
  obtain ⟨header, hheader, rfl, hiff⟩ := first_write_complete_iff hrun
  refine ⟨_, s, header, hrun, rfl, hiff.2 ?_⟩
  obtain rfl := Option.some.inj hheader
  decide +kernel

/-- A transport without a cipher takes three bytes of the packet; the byte behind them is
    acknowledged and never sent. -/
theorem first_write_drops : ∃ n s header,
    firstReady (pollWith CryptoSuite.transparent .none
        Stream.StreamSuite.transparent [42]) [(0, [])]
      (fromStream CryptoSuite.transparent .none Stream.StreamSuite.transparent
        sampleContext []
        { schedule := [.accept 3], wire := [] } [] [] [] (.socketAddress (.v4 0x7f000001 80))) = some (n, s) ∧
      requestHeader .none [] (.socketAddress (.v4 0x7f000001 80)) = some header ∧
      ¬OnWire CryptoSuite.transparent .none Stream.StreamSuite.transparent [] [] []
        (header ++ [42].take n) s.stream.sink.wire := by
  refine ⟨1, _, _, rfl, rfl, ?_⟩
  exact (by decide : ¬([1, 127, 0] : Bytes) = [1, 127, 0, 0, 1, 0, 80, 42])

end FirstPacket

end ProxyClientStream

end Shadowsocks.Tcp
