import Shadowsocks.Lib.Acknowledging
import Shadowsocks.Tcp.ProxyClientStream
import Shadowsocks.Tcp.ProxyServerStream

/-! # What the streams send

A stream of any method has put on the wire, between two writes, what its writes have acknowledged:
a client's stream behind the request header (`ProxyClientStream.sends`), and a server's stream as
the answer to the salt that it has received (`ProxyServerStream.sends`).
-/

namespace Shadowsocks.Tcp

open Shadowsocks.Lib Shadowsocks.Net CryptoIo

variable {K S B : Type}

/-- What the wire of each category carries. -/
def carried (crypto : CryptoSuite K) (method : CipherKind) (suite : Stream.StreamSuite S)
    (sender : Aead2022.Sender) (nonce : Bytes) (sentAt : Time) (payloads : List Bytes) : Bytes :=
  match method.category with
  | .none => payloads.flatten
  | .stream => Stream.streamOf suite method sender.key nonce payloads
  | .aead => Aead.streamOf crypto method sender.key nonce payloads
  | .aead2022 => Aead2022.streamOf crypto method sender nonce sentAt payloads

/-- The payload fits into one chunk. -/
def FitsChunk (method : CipherKind) (p : Bytes) : Prop :=
  match method.category with
  | .none | .stream => True
  | .aead => p.length ≤ Aead.maxPacketSize
  | .aead2022 => p.length ≤ Aead2022.maxPacketSize

/-- A writer that has written nothing. -/
def newWriter (crypto : CryptoSuite K) (method : CipherKind) (suite : Stream.StreamSuite S)
    (sender : Aead2022.Sender) (nonce : Bytes) : CryptoIo.EncryptedWriter K S :=
  match method.category with
  | .none => .none
  | .stream => .stream (.new suite method sender.key nonce)
  | .aead => .aead (.new crypto method sender.key nonce)
  | .aead2022 => .aead2022 (sender.writer crypto method nonce)

/-! ## The writers of the categories -/

/-- The AEAD-2022 writer whose head was sent at `sentAt`. -/
def Aead2022.writerAt (crypto : CryptoSuite K) (method : CipherKind) (sender : Sender)
    (salt : Bytes) (sentAt : Time) :
    SealingWriter Time (WriteWorld K AssembleHeader WriterFields) IoError :=
  chunkWriter (writeProtocol crypto method) (streamCipher crypto method sender salt)
    (fun _ => streamOf crypto method sender salt sentAt)
    (fun _ => streamOf_framing crypto method sender salt sentAt) (fun _ => False)
    fun _ _ _ h => h.elim

/-- Its head is sent at the time of the first call. -/
theorem Aead2022.writerAt_begins (crypto : CryptoSuite K) (method : CipherKind) (sender : Sender)
    (salt : Bytes) (sentAt : Time) (buf : Bytes) (schedule : List WriteEvent) :
    Begins (Aead2022.pollWriteEncrypted crypto method) sentAt buf (buf.take maxPacketSize)
      (writeStart crypto method sender salt schedule)
      ((writerAt crypto method sender salt sentAt).Sent fun p => p.length ≤ maxPacketSize) := by
  have hfits : ∀ buf, ((writerAt crypto method sender salt sentAt).fit buf).length ≤ maxPacketSize :=
    fun buf => List.length_take_le _ _
  refine ⟨_, _, _, (writerAt crypto method sender salt sentAt).acknowledging hfits, ?_,
    fun h => h⟩
  have hstate : (writeStart crypto method sender salt schedule).writer.state =
      .head .assembleHeader := by
    rw [writeStart, Sender.writer_eq]
  refine Post.mono (pollWriteEncrypted_head (writeProtocol crypto method) hstate
    (assembleHeader_eq crypto method sender salt sentAt _)) ⟨?_, ?_, fun _ _ _ => trivial, fun _ h => h⟩
  · rintro n w ⟨hn, hsettled⟩
    exact ⟨hn, ⟨sentAt, hsettled⟩, fun p hp => List.mem_singleton.1 hp ▸ hfits buf⟩
  · exact fun w h => ⟨rfl, List.cons_ne_nil _ _, sentAt, h⟩

/-- The packets are on the wire as they are. -/
def Sink.Sent (sent : List Bytes) (sink : Sink) : Prop := sink.wire = sent.flatten

/-- Nothing is on the wire; `taken` will be of the buffer. -/
def Sink.SendingFirst (buf taken : Bytes) (sink : Sink) : Prop :=
  sink.wire = [] ∧ taken = buf.take ((Sink.firstAccept sink.schedule).getD 0)

/-- Without a cipher, the transport takes what it likes of a write. -/
theorem Sink.begins (buf : Bytes) (schedule : List WriteEvent) (now : Time) :
    Begins (fun (_ : Time) => Sink.write) now buf (buf.take ((Sink.firstAccept schedule).getD 0))
      { schedule := schedule, wire := [] } Sink.Sent := by
  have hcall : ∀ {buf sent sink}, Sink.Sent sent sink →
      (laterPost Sink.Sent (Sink.Sent sent) sent buf).holds (sink.write buf) := by
    intro buf sent sink hwire
    unfold Sink.write
    cases sink.schedule with
    | nil => exact hwire
    | cons event schedule =>
      cases event with
      | pending => exact hwire
      | fail e => exact trivial
      | accept n =>
        change sink.wire ++ buf.take n = (sent ++ [buf.take (min n buf.length)]).flatten
        rw [hwire, ← List.length_take, take_prefix, List.flatten_append, List.flatten_singleton]
  have hfirst : ∀ {buf taken sink}, Sink.SendingFirst buf taken sink →
      (firstPost Sink.Sent Sink.SendingFirst buf taken).holds (sink.write buf) := by
    rintro buf taken ⟨schedule, wire⟩ ⟨rfl, rfl⟩
    unfold Sink.write
    cases schedule with
    | nil => exact ⟨rfl, rfl⟩
    | cons event schedule =>
      cases event with
      | pending => exact ⟨rfl, rfl⟩
      | fail e => exact trivial
      | accept n => exact ⟨List.length_take.symm, List.flatten_singleton.symm⟩
  exact ⟨Sink.Sent, fun sent _ => Sink.Sent sent, Sink.SendingFirst, ⟨hcall, hcall, hfirst⟩,
    hfirst ⟨rfl, rfl⟩, fun h => h⟩

/-! ## Streams of any method -/

/-- The payloads have been sent, and nothing but the writer has changed since `s₀`. -/
structure CryptoIo.CryptoStream.HasSent (crypto : CryptoSuite K) (method : CipherKind)
    (suite : Stream.StreamSuite S) (sender : Aead2022.Sender) (nonce : Bytes) (sentAt : Time)
    (s₀ : CryptoStream K S B) (sent : List Bytes) (s : CryptoStream K S B) : Prop where
  wire : s.sink.wire = carried crypto method suite sender nonce sentAt sent
  fits : ∀ p ∈ sent, FitsChunk method p
  kept : ReadsAs s₀ s

/-- How much of a first packet is taken. -/
def takenFirst (method : CipherKind) (schedule : List WriteEvent) (buf : Bytes) : Bytes :=
  buf.take (ProxyClientStream.capacity method schedule buf.length)

theorem takenFirst_prefix (method : CipherKind) (schedule : List WriteEvent) (buf : Bytes) :
    buf.take (takenFirst method schedule buf).length = takenFirst method schedule buf := by
  exact take_prefix buf _

theorem CryptoIo.CryptoStream.begins {crypto : CryptoSuite K} (cfg : Aead2022.ReaderConfig crypto)
    (suite : Stream.StreamSuite S) (sender : Aead2022.Sender) (nonce : Bytes) (sentAt : Time)
    (buf : Bytes) {s₀ : CryptoStream K S B}
    (henc : s₀.enc = newWriter crypto cfg.method suite sender nonce) (hwire : s₀.sink.wire = []) :
    Begins (CryptoStream.pollWriteEncrypted cfg suite) sentAt buf
      (takenFirst cfg.method s₀.sink.schedule buf) s₀
      (HasSent crypto cfg.method suite sender nonce sentAt s₀) := by
  have hsink : s₀.sink = { schedule := s₀.sink.schedule, wire := [] } := by rw [← hwire]
  -- each category has a writer of its own, whose lemma is taken to the stream that holds it
  cases hcat : cfg.method.category with
  | none =>
    simp only [newWriter, hcat] at henc
    simp only [takenFirst, ProxyClientStream.capacity, hcat]
    have hbegins := (Sink.begins buf s₀.sink.schedule sentAt).on
      (CryptoStream.pollWriteEncrypted cfg suite)
      (fun sink => { s₀ with sink := sink, enc := .none }) (g := .ioError) fun {_ _ _} => rfl
    rw [← hsink, ← henc] at hbegins
    refine hbegins.mono ?_
    rintro p ps _ ⟨sink, rfl, hsent⟩
    refine ⟨?_, fun p _ => ?_, rfl, rfl, rfl, rfl⟩
    · simp only [carried, hcat]
      exact hsent
    · simp only [FitsChunk, hcat]
  | stream =>
    simp only [newWriter, hcat] at henc
    simp only [takenFirst, ProxyClientStream.capacity, hcat, List.take_length]
    have hfits : ∀ buf : Bytes, FitsChunk cfg.method buf := fun buf => by
      simp only [FitsChunk, hcat]
    have hbegins := ((streamWriter suite cfg.method sender.key nonce).begins_sending _ hfits sentAt
      buf (ProxyClientStream.streamWriter_start suite cfg.method sender.key nonce s₀.sink.schedule)).on
      (CryptoStream.pollWriteEncrypted cfg suite)
      (fun w => { s₀ with sink := w.sink, enc := .stream w.writer })
      (g := fun e => .streamError (.ioError e)) fun {_ _ _} => rfl
    dsimp only at hbegins
    rw [← hsink, ← henc] at hbegins
    refine hbegins.mono ?_
    rintro p ps _ ⟨w, rfl, ⟨hsettled, hflushed⟩, hall⟩
    refine ⟨?_, hall, rfl, rfl, rfl, rfl⟩
    have hwire := hsettled.wire
    rw [hflushed (List.cons_ne_nil _ _), List.append_nil] at hwire
    simp only [carried, hcat]
    exact hwire
  | aead =>
    simp only [newWriter, hcat] at henc
    simp only [takenFirst, ProxyClientStream.capacity, hcat]
    have hfits : ∀ buf : Bytes, FitsChunk cfg.method (buf.take Aead.maxPacketSize) := fun buf => by
      simp only [FitsChunk, hcat]
      exact List.length_take_le _ _
    have hbegins := ((aeadWriter crypto cfg.method sender.key nonce).begins_sending _ hfits sentAt
      buf
      (s := Aead.writeStart crypto cfg.method sender.key nonce s₀.sink.schedule) ⟨rfl, rfl, rfl⟩).on
      (CryptoStream.pollWriteEncrypted cfg suite)
      (fun w => { s₀ with sink := w.sink, enc := .aead w.writer })
      (g := fun e => .aeadError (.ioError e)) fun {_ _ _} => rfl
    dsimp only [Aead.writeStart] at hbegins
    rw [← hsink, ← henc] at hbegins
    refine hbegins.mono ?_
    rintro p ps _ ⟨w, rfl, ⟨sentAt, hsettled⟩, hall⟩
    refine ⟨?_, hall, rfl, rfl, rfl, rfl⟩
    simp only [carried, hcat]
    exact hsettled.wire
  | aead2022 =>
    simp only [newWriter, hcat] at henc
    simp only [takenFirst, ProxyClientStream.capacity, hcat]
    have hbegins := (Aead2022.writerAt_begins crypto cfg.method sender nonce sentAt buf
      s₀.sink.schedule).on (CryptoStream.pollWriteEncrypted cfg suite)
      (fun w => { s₀ with sink := w.sink, enc := .aead2022 w.writer })
      (g := fun e => .aead2022Error (.ioError e)) fun {_ _ _} => rfl
    dsimp only [Aead2022.writeStart] at hbegins
    rw [← hsink, ← henc] at hbegins
    refine hbegins.mono ?_
    rintro p ps _ ⟨w, rfl, ⟨at', hsettled⟩, hfits⟩
    refine ⟨?_, fun p hp => ?_, rfl, rfl, rfl, rfl⟩
    · simp only [carried, hcat]
      exact hsettled.wire
    · simp only [FitsChunk, hcat]
      exact hfits p hp

/-! ## A client's request -/

namespace ProxyClientStream

variable {crypto : CryptoSuite K} {method : CipherKind} {suite : Stream.StreamSuite S}

/-- A poll of `poll_write` at a time, with the padding that it would draw. -/
def writeAt (crypto : CryptoSuite K) (method : CipherKind) (suite : Stream.StreamSuite S)
    (poll : Time × Bytes) (buf : Bytes) : PollM (ProxyClientStream K S B) Failure Nat :=
  pollWrite crypto method suite poll.1 poll.2 buf

/-- What the stream inside has sent begins with the header. -/
def BehindHeader (header : Bytes) (c₀ : ProxyClientStream K S B)
    (Sent : List Bytes → CryptoStream K S B → Prop) (sent : List Bytes)
    (c : ProxyClientStream K S B) : Prop :=
  ∃ p ps s, sent = p :: ps ∧ c = { c₀ with stream := s, writerState := .connected } ∧
    Sent ((header ++ p) :: ps) s

/-- The header is going out in front of a first buffer. -/
def SendingHeader (header : Bytes) (c₀ : ProxyClientStream K S B)
    (First : Bytes → Bytes → CryptoStream K S B → Prop) (buf taken : Bytes)
    (c : ProxyClientStream K S B) : Prop :=
  taken = buf ∧ ∃ s, c = { c₀ with stream := s, writerState := .connecting (header ++ buf) } ∧
    First (header ++ buf) (header ++ buf) s

section Header

variable {header : Bytes} {c₀ : ProxyClientStream K S B}
  {Sent : List Bytes → CryptoStream K S B → Prop}

/-- A poll in the state `Connected`. -/
theorem connected_acknowledges {Busy : List Bytes → Bytes → CryptoStream K S B → Prop} {now : Time}
    {padding buf p : Bytes} {ps : List Bytes} {s : CryptoStream K S B}
    (h : (laterPost Sent (Busy ((header ++ p) :: ps) buf) ((header ++ p) :: ps) buf).holds
      (CryptoStream.pollWriteEncrypted (config crypto method) suite now buf s)) :
    (laterPost (BehindHeader header c₀ Sent)
      (BehindHeader header c₀ (fun sent => Busy sent buf) (p :: ps)) (p :: ps) buf).holds
      (writeAt crypto method suite (now, padding) buf
        { c₀ with stream := s, writerState := .connected }) := by
  unfold writeAt pollWrite
  rw [PollM.get_bind]
  unfold writeInner inner
  apply Post.holds_on
  apply Post.holds_mapErr
  exact Post.mono h ⟨fun n t ht => ⟨p, _, t, rfl, rfl, ht⟩, fun t ht => ⟨p, ps, t, rfl, rfl, ht⟩,
    fun _ _ h => h, fun _ h => h⟩

/-- A poll in the state `Connecting`. -/
theorem connecting_acknowledges {First : Bytes → Bytes → CryptoStream K S B → Prop} {now : Time}
    {buf : Bytes} {s : CryptoStream K S B}
    (h : (firstPost Sent First (header ++ buf) (header ++ buf)).holds
      (CryptoStream.pollWriteEncrypted (config crypto method) suite now (header ++ buf) s)) :
    (firstPost (BehindHeader header c₀ Sent) (SendingHeader header c₀ First) buf buf).holds
      (writeFirstPacket crypto method suite now (header ++ buf) buf
        { c₀ with stream := s, writerState := .connecting (header ++ buf) }) := by
  refine Triple.apply (P := fun c => c = { c₀ with
    stream := s, writerState := .connecting (header ++ buf) }) rfl (Triple.bind (M := fun _ c =>
      BehindHeader header c₀ Sent [buf] (c.setWriterState .connected)) ?_ fun _ => ?_)
  · rintro c rfl
    unfold writeInner inner
    apply Post.holds_on
    apply Post.holds_mapErr
    exact Post.mono h ⟨fun n t ht => ⟨buf, [], t, rfl, rfl, ht.2⟩, fun t ht => ⟨rfl, t, rfl, ht⟩,
      fun _ _ h => h, fun _ h => h⟩
  · exact fun c hc => ⟨rfl, hc⟩

/-- The header goes out in front of the first buffer, if both fit into one packet. -/
theorem begins {buf padding : Bytes} {sentAt : Time} {addr : Address}
    {Done : List Bytes → CryptoStream K S B → Prop} (hstate : c₀.writerState = .connect addr)
    (hheader : requestHeader method (if buf = [] then padding else []) addr = some header)
    (h : Begins (CryptoStream.pollWriteEncrypted (config crypto method) suite) sentAt (header ++ buf)
      (header ++ buf) c₀.stream Done) :
    Begins (writeAt crypto method suite) (sentAt, padding) buf buf c₀
      (BehindHeader header c₀ Done) := by
  obtain ⟨Sent, Busy, First, hack, hfirst, hdone⟩ := h
  refine ⟨BehindHeader header c₀ Sent, fun sent buf => BehindHeader header c₀ (Busy · buf) sent,
    SendingHeader header c₀ First, ⟨?_, ?_, ?_⟩, ?_, ?_⟩
  · rintro ⟨now, padding⟩ b _ _ ⟨p, ps, s, rfl, rfl, hs⟩
    exact connected_acknowledges (hack.fresh hs)
  · rintro ⟨now, padding⟩ b _ _ ⟨p, ps, s, rfl, rfl, hs⟩
    exact connected_acknowledges (hack.again hs)
  · rintro ⟨now, padding⟩ b _ _ ⟨rfl, s, rfl, hs⟩
    exact connecting_acknowledges (hack.first hs)
  · have hpacket := makeFirstPacketBuffer_eq method padding addr buf
    rw [hheader] at hpacket
    unfold writeAt pollWrite
    rw [PollM.get_bind, hstate]
    dsimp only
    rw [hpacket]
    exact connecting_acknowledges hfirst
  · rintro _ _ _ ⟨p, ps, s, heq, rfl, hs⟩
    exact ⟨p, ps, s, heq, rfl, hdone hs⟩

end Header

/-- The writer of a new client. -/
theorem withIdentity_eq (crypto : CryptoSuite K) (method : CipherKind)
    (suite : Stream.StreamSuite S) (key nonce : Bytes) (identityKeys : List Bytes) :
    EncryptedWriter.withIdentity (config crypto method) suite key nonce identityKeys =
      newWriter crypto method suite (sender key identityKeys) nonce := by
  unfold EncryptedWriter.withIdentity newWriter
  dsimp only [config]
  cases method.category <;> rfl

/-- **A request on the wire.** Of a run of writes the first acknowledges all of its buffer, and
    what is acknowledged is on the wire behind the header, if that fits into one packet with the
    first buffer. -/
theorem sends {key nonce : Bytes} {identityKeys : List Bytes} {sentAt : Time} {buf padding : Bytes}
    {writes : List ((Time × Bytes) × Bytes)} {addr : Address} {header : Bytes}
    {context : Context B} {source : Source} {schedule : List WriteEvent}
    {acked : List (Bytes × Nat)} {c₀ c : ProxyClientStream K S B}
    (hstart : c₀ = fromStream crypto method suite context source
      { schedule := schedule, wire := [] } key nonce identityKeys addr)
    (hheader : requestHeader method (if buf = [] then padding else []) addr = some header)
    (hfits : (header ++ buf).length ≤ capacity method schedule (header ++ buf).length)
    (hrun : performs (writeAt crypto method suite) none (((sentAt, padding), buf) :: writes) c₀ =
      some (acked, c)) :
    ∃ rest s, acked = (buf, buf.length) :: rest ∧
      c = { c₀ with stream := s, writerState := .connected } ∧
      CryptoStream.HasSent crypto method suite (sender key identityKeys) nonce sentAt c₀.stream
        ((header ++ buf) :: payloads rest) s := by
  subst hstart
  have henc : (fromStream crypto method suite context source { schedule := schedule, wire := [] } key
      nonce identityKeys addr).stream.enc =
      newWriter crypto method suite (sender key identityKeys) nonce :=
    withIdentity_eq crypto method suite key nonce identityKeys
  have hbegins := CryptoStream.begins (config crypto method) suite (sender key identityKeys) nonce
    sentAt (header ++ buf) henc rfl
  have hwhole : takenFirst method schedule (header ++ buf) = header ++ buf :=
    List.take_of_length_le hfits
  obtain ⟨rest, hacked, p, ps, s, heq, rfl, hsent⟩ :=
    (begins rfl hheader (hwhole ▸ hbegins)).performs hrun
  cases heq
  exact ⟨rest, s, hacked, rfl, hsent⟩

end ProxyClientStream

/-! ## A server's answer -/

namespace ProxyServerStream

variable {crypto : CryptoSuite K} {cfg : Aead2022.ReaderConfig crypto}
  {suite : Stream.StreamSuite S}

/-- The writer is a new one of `sender`, or will be once it has the request's salt. -/
def Prepared (cfg : Aead2022.ReaderConfig crypto) (suite : Stream.StreamSuite S)
    (sender : Aead2022.Sender) (nonce : Bytes) (s : CryptoStream K S B) :
    ProxyServerStreamWriteState → Prop
  | .established => s.enc = newWriter crypto cfg.method suite sender nonce
  | .prepareHeader => ∃ salt, s.dec.nonce = some salt ∧
      s.enc.setRequestNonce salt = some (newWriter crypto cfg.method suite sender nonce)

/-- A stream that has written nothing and can write its answer, as `sender` does. -/
structure CanAnswer (cfg : Aead2022.ReaderConfig crypto) (suite : Stream.StreamSuite S)
    (sender : Aead2022.Sender) (nonce : Bytes) (s : ProxyServerStream K S B) : Prop where
  wire : s.stream.sink.wire = []
  prepared : Prepared cfg suite sender nonce s.stream s.writerState

/-- The answer goes out from the first write on. -/
theorem begins {sender : Aead2022.Sender} {nonce buf : Bytes} {sentAt : Time}
    {s₀ : ProxyServerStream K S B} (h : CanAnswer cfg suite sender nonce s₀) :
    Begins (pollWrite cfg suite) sentAt buf
      (takenFirst cfg.method s₀.stream.sink.schedule buf) s₀
      fun sent s => s.stream.sink.wire = carried crypto cfg.method suite sender nonce sentAt sent ∧
        ∀ p ∈ sent, FitsChunk cfg.method p := by
  obtain ⟨hwire, hcan⟩ := h
  -- from the first poll on the state is `Established`
  have hestablished : ∀ t : CryptoStream K S B,
      t.enc = newWriter crypto cfg.method suite sender nonce → t.sink = s₀.stream.sink →
      Begins (pollWrite cfg suite) sentAt buf
        (takenFirst cfg.method s₀.stream.sink.schedule buf)
        { s₀ with stream := t, writerState := .established }
        fun sent s => s.stream.sink.wire =
            carried crypto cfg.method suite sender nonce sentAt sent ∧
          ∀ p ∈ sent, FitsChunk cfg.method p := by
    intro t henc hsink
    have hbegins := (CryptoStream.begins cfg suite sender nonce sentAt buf henc
      (hsink ▸ hwire)).on (pollWrite cfg suite)
      (fun stream => { s₀ with stream := stream, writerState := .established })
      (g := ProtocolError.toFailure) fun {_ _ _} => rfl
    rw [hsink] at hbegins
    refine hbegins.mono ?_
    rintro p ps _ ⟨s, rfl, hsent⟩
    exact ⟨hsent.wire, hsent.fits⟩
  cases hstate : s₀.writerState with
  | established =>
    rw [hstate] at hcan
    have h := hestablished s₀.stream hcan rfl
    rwa [← hstate] at h
  | prepareHeader =>
    rw [hstate] at hcan
    obtain ⟨salt, hsalt, hset⟩ := hcan
    refine (hestablished { s₀.stream with enc := _ } rfl rfl).congr ?_
    unfold pollWrite
    rw [PollM.get_bind, PollM.get_bind, hstate]
    have hreceived : inner CryptoStream.setRequestNonceWithReceived s₀ =
        (.ready true, { s₀ with stream := { s₀.stream with
          enc := newWriter crypto cfg.method suite sender nonce } }) := by
      unfold inner PollM.on CryptoStream.setRequestNonceWithReceived
      rw [hsalt]
      dsimp only
      rw [hset]
    dsimp only
    rw [PollM.bind_ready hreceived]
    rfl

end ProxyServerStream

end Shadowsocks.Tcp
