import Shadowsocks.Tcp.ReaderDelivery

/-! # The AEAD readers deliver

An AEAD reader makes its replay check in the poll that opens the first payload, and an AEAD-2022
reader in the one that opens the header.  If the salt passes then, both deliver the payloads of an
honest stream from the first poll on, whichever contexts the other polls are made in
(`Aead.Progress.delivers`, `Aead2022.FirstChunk.delivers`).
-/

namespace Shadowsocks.Tcp

open Shadowsocks.Lib Reading

/-! ## AEAD-2022 -/

namespace Aead2022

variable {K B : Type} [BloomFilter B] {crypto : CryptoSuite K} {cfg : ReaderConfig crypto}
  {sender : Sender} {readerKey : Bytes} {userKey : Option Bytes} {salt : Bytes} {sentAt : Time}
  {p : Bytes} {ps : List Bytes}

/-- The cipher behind the header. -/
def bodyCipher (crypto : CryptoSuite K) (method : CipherKind) (sender : Sender) (salt : Bytes) :
    Cipher K :=
  (streamCipher crypto method sender salt).skip 1

/-- The first payload on the wire. -/
def sealedPayload (crypto : CryptoSuite K) (method : CipherKind) (sender : Sender) (salt p : Bytes) :
    Bytes :=
  (crypto.scheme method).encrypt (bodyCipher crypto method sender salt).key
    (bodyCipher crypto method sender salt).nonce p

/-- A reader in the first chunk. `p` is its payload. -/
inductive InFirst (cfg : ReaderConfig crypto) (sender : Sender) (userKey : Option Bytes)
    (salt p : Bytes) (ps : List Bytes) (plain : Bytes) (w : ReadState K B) : Prop where
  | opening {k} (hplain : plain = []) (hstate : w.reader.state = .readData p.length)
      (hcipher : w.reader.cipher = some (bodyCipher crypto cfg.method sender salt))
      (hin : Incoming (sealedPayload crypto cfg.method sender salt p)
        (sealChunks (crypto.scheme cfg.method) ((bodyCipher crypto cfg.method sender salt).skip 1) ps)
        (p.length + (crypto.scheme cfg.method).tagLen) k w)
      (hreports : Reports sender salt userKey w.reader.rest)
      (hcount : w.reader.rest.dataChunkCount = 0)
  | opened {pos} (hstate : w.reader.state = .bufferedData pos) (hpos : pos ≤ w.reader.buffer.length)
      (hplain : plain ++ w.reader.buffer.drop pos = p)
      (hcipher : w.reader.cipher = some ((bodyCipher crypto cfg.method sender salt).skip 1))
      (hbytes : w.source.bytes = sealChunks (crypto.scheme cfg.method)
        ((bodyCipher crypto cfg.method sender salt).skip 1) ps)
      (hio : w.source.failures = 0) (hreports : Reports sender salt userKey w.reader.rest)
      (hcount : w.reader.rest.dataChunkCount = 1)

/-- A session's stream, whose time stamp fits into its field. -/
structure Genuine (cfg : ReaderConfig crypto) (sender : Sender) (readerKey : Bytes)
    (userKey : Option Bytes) (salt : Bytes) (sentAt : Time) : Prop where
  session : Session cfg sender readerKey userKey
  correct : (crypto.scheme cfg.method).Correct
  blockCorrect : crypto.BlockCorrect
  saltLen_pos : 0 < crypto.saltLen cfg.method
  salt_length : salt.length = crypto.saltLen cfg.method
  timestamp : sentAt.unixSecs < 2 ^ 64

/-- A reader that has read nothing of an honest stream, of which the header will come at once and
    be timely. -/
structure Unread (cfg : ReaderConfig crypto) (sender : Sender) (readerKey salt : Bytes)
    (sentAt : Time) (p : Bytes) (ps : List Bytes) (calls : List (Moment B)) (w : ReadState K B) :
    Prop where
  unopened : Unopened readerKey w
  handshaked : w.reader.hasHandshaked = false
  bytes : w.source.bytes = streamOf crypto cfg.method sender salt sentAt (p :: ps)
  failures : w.source.failures = 0
  once : w.source.OpensWith cfg.headerLen
  timely : ∀ moment, calls[w.source.waits cfg.headerLen]? = some moment →
    Timely cfg sentAt salt (moment.call 0)

/-- The context of the last poll does not matter. -/
theorem Unread.context {calls : List (Moment B)} {w : ReadState K B}
    (h : Unread cfg sender readerKey salt sentAt p ps calls w) (context : Context B) :
    Unread cfg sender readerKey salt sentAt p ps calls { w with context := context } where
  unopened := ⟨h.unopened.state, h.unopened.rest⟩
  handshaked := h.handshaked
  bytes := h.bytes
  failures := h.failures
  once := h.once
  timely := h.timely

/-- A poll that finds nothing yet changes nothing but the buffer, which nothing reads. -/
theorem pollRead_waits (cfg : ReaderConfig crypto) {w : ReadState K B}
    (hunopened : Unopened readerKey w) (call : ReadCall B) {s : Source}
    (hsource : w.source = .pending :: s) :
    ∃ buffer, pollReadDecrypted cfg call w =
      (.pending, ({ w with context := call.context } : ReadState K B).fill buffer s) := by
  obtain ⟨buffer, hbuffer⟩ : ∃ buffer,
      readHeaderBytes cfg { w with context := call.context } =
        (.pending, ({ w with context := call.context } : ReadState K B).fill buffer s) := by
    rw [readHeaderBytes, hsource, Source.read]
    exact ⟨_, rfl⟩
  refine ⟨buffer, PollM.loop_pending (readRound_again _) ?_⟩
  rw [readRound, PollM.get_bind, hunopened.state]
  exact PollM.bind_pending (PollM.bind_pending hbuffer _) _

/-- The poll that gets the header goes on like one that finds it open. -/
theorem pollRead_opening (h : Genuine cfg sender readerKey userKey salt sentAt)
    (hp : p.length < 65536) {w : ReadState K B} {moment : Moment B} {calls : List (Moment B)}
    (room : Nat) (hunread : Unread cfg sender readerKey salt sentAt p ps (moment :: calls) w)
    {b : UInt8} {bs : Bytes} {s : Source} (hsource : w.source = .data b bs :: s) :
    ∃ w' : ReadState K B,
      pollReadDecrypted cfg (moment.call room) w =
        Tcp.pollReadDecrypted (readProtocol cfg) moment.now room w' ∧
      w'.source.pendings = w.source.pendings ∧ InFirst cfg sender userKey salt p ps [] w' := by
  obtain ⟨hunopened, hhandshaked, hbytes, hio, hone, htimely⟩ := hunread
  rw [hsource] at hone
  have hreached : (moment :: calls)[w.source.waits cfg.headerLen]? = some moment := by
    rw [hsource]
    exact congrArg (fun n => (moment :: calls)[n]?) (if_pos hone)
  have hclock := htimely moment hreached
  obtain ⟨w₁, hread, hcipher, hreports, hrest, hpend, hfail⟩ :=
    pollReadHeader_opens h.session h.correct h.blockCorrect h.saltLen_pos h.salt_length h.timestamp hp
      (show Timely cfg sentAt salt (moment.call room) from ⟨hclock.clock, hclock.fresh⟩)
      (w := { w with context := moment.context }) rfl ⟨hunopened.state, hunopened.rest⟩ hsource hone
      hbytes
  -- no data chunk has been counted yet
  have hcount : w₁.reader.rest.dataChunkCount = 0 := by
    have hhead : ({ w with context := moment.context } : ReadState K B).AtHead
        { key := readerKey } (Unaccepted cfg readerKey w.source.bytes) :=
      ⟨hunopened.state, hhandshaked, hunopened.state, by rw [hunopened.rest],
        by rw [hunopened.rest], fun _ => by rw [hunopened.rest], List.suffix_refl _⟩
    have hknown := pollReadHeader_accepted moment.now _ hhead
    have hread' : pollReadHeader cfg moment.now readerKey { w with context := moment.context } = _ :=
      hread
    rw [hread'] at hknown
    obtain ⟨c, -, -, hcount⟩ := hknown
    exact hcount
  refine ⟨(w₁.enter (.reading (.data p.length))).setHandshaked,
    PollM.loop_again (readRound_again _) ?_, hpend, ?_⟩
  · rw [readRound, PollM.get_bind, hunopened.state]
    exact PollM.bind_ready hread _
  · refine .opening (k := w₁.source.waits (p.length + (crypto.scheme cfg.method).tagLen)) rfl rfl
      hcipher ⟨hrest, ?_, hfail.trans hio, rfl⟩ hreports hcount
    change 0 < (sealedPayload crypto cfg.method sender salt p).length
    rw [sealedPayload, AeadScheme.encrypt_length]
    have htag := (crypto.scheme cfg.method).tagLen_pos
    omega

/-- A poll that finds no header, or goes on like one that finds it open. -/
theorem Unread.step (h : Genuine cfg sender readerKey userKey salt sentAt)
    (hp : p.length < 65536) {w : ReadState K B} {moment : Moment B} {calls : List (Moment B)}
    (room : Nat) (hunread : Unread cfg sender readerKey salt sentAt p ps (moment :: calls) w) :
    (∃ w', pollReadDecrypted cfg (moment.call room) w = (.pending, w') ∧
      Unread cfg sender readerKey salt sentAt p ps calls w' ∧
      w'.source.pendings < w.source.pendings) ∨
    ∃ w', pollReadDecrypted cfg (moment.call room) w =
        Tcp.pollReadDecrypted (readProtocol cfg) moment.now room w' ∧
      w'.source.pendings = w.source.pendings ∧ InFirst cfg sender userKey salt p ps [] w' := by
  have hone := hunread.once
  cases hsource : w.source with
  | nil => exact (hsource ▸ hone).elim
  | cons event s =>
    cases event with
    | fail e => exact (hsource ▸ hone).elim
    | pending =>
      obtain ⟨hunopened, hhandshaked, hbytes, hio, hone, htimely⟩ := hunread
      obtain ⟨buffer, hpoll⟩ := pollRead_waits cfg hunopened (moment.call room) hsource
      rw [hsource] at hbytes hio hone htimely
      exact .inl ⟨_, hpoll, ⟨⟨hunopened.state, hunopened.rest⟩, hhandshaked, hbytes, hio, hone, htimely⟩,
        Nat.lt_succ_self _⟩
    | data b bs =>
      rw [← hsource]
      exact .inr (pollRead_opening h hp room hunread hsource)

omit [BloomFilter B] in
/-- The context of the last poll does not matter. -/
theorem InFirst.context {plain : Bytes} {w : ReadState K B}
    (h : InFirst cfg sender userKey salt p ps plain w) (context : Context B) :
    InFirst cfg sender userKey salt p ps plain { w with context := context } := by
  cases h with
  | opening hplain hstate hcipher hin hreports hcount =>
    exact .opening hplain hstate hcipher hin hreports hcount
  | opened hstate hpos hplain hcipher hbytes hio hreports hcount =>
    exact .opened hstate hpos hplain hcipher hbytes hio hreports hcount

/-- What a poll that asks for no more than is left of the first chunk comes to. -/
def firstPost (cfg : ReaderConfig crypto) (sender : Sender) (userKey : Option Bytes)
    (salt p : Bytes) (ps : List Bytes) (plain : Bytes) (room N : Nat) :
    Post (ReadState K B) ProtocolError Bytes where
  ready out w := out ≠ [] ∧ out.length ≤ room ∧
    InFirst cfg sender userKey salt p ps (plain ++ out) w ∧ w.source.pendings = N
  pending w := InFirst cfg sender userKey salt p ps plain w ∧ w.source.pendings + 1 = N
  failed _ _ := False

/-- A round within the first chunk. -/
theorem readRound_first (correct : (crypto.scheme cfg.method).Correct) (now : Time) {room N : Nat}
    {plain : Bytes} (hroom : roomWithin p plain room) :
    Triple (fun w : ReadState K B =>
        InFirst cfg sender userKey salt p ps plain w ∧ w.source.pendings = N)
      (Tcp.readRound (readProtocol cfg) now room)
      ((firstPost cfg sender userKey salt p ps plain room N).onReady (Triple.roundClause
        (fun w => InFirst cfg sender userKey salt p ps plain w ∧ w.source.pendings = N)
        (firstPost cfg sender userKey salt p ps plain room N).ready)) := by
  rintro w ⟨hfirst, rfl⟩
  obtain ⟨hpos, hroom⟩ := hroom
  rw [Tcp.readRound, PollM.get_bind]
  -- the chunk is still sealed, or what is left of it is in the buffer
  cases hfirst with
  | opening hplain hstate hcipher hin hreports hcount =>
    subst hplain
    rw [hstate]
    have hread := pollReadData_opens (P := readProtocol cfg) correct now hcipher hin fun _ => rfl
    refine Triple.apply (P := fun t => t = w) rfl (Triple.seq hread (fun _ => ?_) ?_
      (fun _ _ h => h) fun _ h => h)
    · refine Triple.update (M := fun t => InFirst cfg sender userKey salt p ps [] t ∧
        t.source.pendings = w.source.pendings) ?_ (Triple.pure fun _ h => h)
      rintro t ⟨s, rfl, hbehind⟩
      refine ⟨.opened (show _ = DecryptReadState.bufferedData 0 from rfl) (Nat.zero_le _) rfl rfl
        hbehind.bytes hbehind.failures hreports ?_, hbehind.pendings⟩
      change (w.reader.rest.dataChunkCount + 1) % 2 ^ 64 = 1
      rw [hcount]
      rfl
    · rintro t ⟨b, s, j, rfl, hpend, -, hin'⟩
      exact ⟨.opening rfl hstate hcipher hin' hreports hcount, hpend⟩
  | @opened pos hstate hle hplain hcipher hbytes hio hreports hcount =>
    have hleft : (w.reader.buffer.drop pos).length = w.reader.buffer.length - pos :=
      List.length_drop
    have hall := congrArg List.length hplain
    rw [List.length_append, hleft] at hall
    have hmin : min (w.reader.buffer.length - pos) room = room := by omega
    rw [hstate]
    dsimp only
    rw [if_pos (by omega), hmin]
    refine ⟨?_, List.length_take_le _ _, ?_, rfl⟩
    · rw [← List.length_pos_iff, List.length_take, hleft]
      omega
    · refine .opened (show _ = DecryptReadState.bufferedData (pos + room) from rfl) ?_ ?_ hcipher
        hbytes hio hreports hcount
      · change pos + room ≤ w.reader.buffer.length
        omega
      · change plain ++ _ ++ w.reader.buffer.drop (pos + room) = p
        rw [List.append_assoc, ← List.drop_drop, List.take_append_drop, hplain]

/-- A poll within the first chunk. -/
theorem pollRead_first (correct : (crypto.scheme cfg.method).Correct) (now : Time) {room : Nat}
    {plain : Bytes} (hroom : roomWithin p plain room) {w : ReadState K B}
    (hfirst : InFirst cfg sender userKey salt p ps plain w) :
    (firstPost cfg sender userKey salt p ps plain room w.source.pendings).holds
      (Tcp.pollReadDecrypted (readProtocol cfg) now room w) :=
  Triple.loop (readRound_again (readProtocol cfg)) (readRound_first correct now hroom) w
    ⟨hfirst, rfl⟩

/-- Polls of a reader in the first chunk deliver its payload. -/
theorem InFirst.delivers (correct : (crypto.scheme cfg.method).Correct) :
    Delivers (fun (moment : Moment B) room w =>
        Tcp.pollReadDecrypted (readProtocol cfg) moment.now room { w with context := moment.context })
      p (roomWithin p) (fun _ => InFirst cfg sender userKey salt p ps) (·.source.pendings) where
  step {moment calls room plain w} hroom hfirst := by
    refine Post.mono (pollRead_first correct moment.now hroom (hfirst.context moment.context))
      ⟨?_, ?_, fun _ _ h => h, fun _ h => h⟩
    · rintro out t ⟨hne, hlen, hfirst', hpend⟩
      exact ⟨fun hnone => absurd hnone hne, hlen, hfirst', hpend.le⟩
    · rintro t ⟨hfirst', hpend⟩
      exact ⟨hfirst', by rw [← hpend]; exact Nat.lt_succ_self _⟩
  isPrefix {calls plain w} hfirst := by
    cases hfirst with
    | opening hplain => exact hplain ▸ List.nil_prefix
    | opened hstate hle hplain => exact ⟨_, hplain⟩

/-- A reader before the header, or behind it, where `After` holds of it. -/
abbrev Header (cfg : ReaderConfig crypto) (sender : Sender) (readerKey salt : Bytes) (sentAt : Time)
    (p : Bytes) (ps : List Bytes) (After : List (Moment B) → Bytes → ReadState K B → Prop) :
    List (Moment B) → Bytes → ReadState K B → Prop :=
  Checking (Unread cfg sender readerKey salt sentAt p ps) After

/-- Where a reader in the first chunk delivers, a reader before the header does. -/
theorem Header.delivers (h : Genuine cfg sender readerKey userKey salt sentAt)
    (hp : p.length < 65536) {total : Bytes} {Room : Bytes → Nat → Prop}
    {After : List (Moment B) → Bytes → ReadState K B → Prop}
    (hafter : Delivers (fun (moment : Moment B) room => pollReadDecrypted cfg (moment.call room))
      total Room After (·.source.pendings))
    (hfirst : ∀ {calls : List (Moment B)} {w : ReadState K B},
      InFirst cfg sender userKey salt p ps [] w → After calls [] w) :
    Delivers (fun (moment : Moment B) room => pollReadDecrypted cfg (moment.call room)) total Room
      (Header cfg sender readerKey salt sentAt p ps After) (·.source.pendings) := by
  refine hafter.checking ?_
  intro moment calls room w hroom hunread
  obtain ⟨w', hpoll, hunread', hpend⟩ | ⟨w', hpoll, hpend, hopened⟩ := hunread.step h hp room
  · rw [hpoll]
    exact ⟨.inl hunread', hpend⟩
  · have hbegun : After (⟨moment.now, w'.context⟩ :: calls) [] w' := hfirst hopened
    have hstep := hafter.step hroom hbegun
    rw [hpoll, ← hpend]
    exact Post.mono hstep ⟨fun _ _ h => h, fun _ h => ⟨.inr h.1, h.2⟩, fun _ _ h => h, fun _ h => h⟩

/-- A reader in the first chunk, or before it. -/
abbrev FirstChunk (cfg : ReaderConfig crypto) (sender : Sender) (readerKey : Bytes)
    (userKey : Option Bytes) (salt : Bytes) (sentAt : Time) (p : Bytes) (ps : List Bytes) :
    List (Moment B) → Bytes → ReadState K B → Prop :=
  Header cfg sender readerKey salt sentAt p ps fun _ => InFirst cfg sender userKey salt p ps

/-- The payload of the first chunk is delivered. -/
theorem FirstChunk.delivers (h : Genuine cfg sender readerKey userKey salt sentAt)
    (hp : p.length < 65536) :
    Delivers (fun (moment : Moment B) room => pollReadDecrypted cfg (moment.call room)) p
      (roomWithin p) (FirstChunk cfg sender readerKey userKey salt sentAt p ps)
      (·.source.pendings) :=
  Header.delivers h hp (InFirst.delivers h.correct) id

omit [BloomFilter B] in
/-- What is left of the first chunk, once some of it has been delivered. -/
theorem InFirst.remaining {plain : Bytes} {w : ReadState K B}
    (h : InFirst cfg sender userKey salt p ps plain w) (hne : plain ≠ []) :
    w.reader.rest.dataChunkCount = 1 ∧ ∃ pos, w.reader.state = .bufferedData pos ∧
      w.reader.buffer.length - pos = p.length - plain.length := by
  cases h with
  | opening hplain => exact absurd hplain hne
  | opened hstate hpos hplain hcipher hbytes hio hreports hcount =>
    refine ⟨hcount, _, hstate, ?_⟩
    have hall := congrArg List.length hplain
    rw [List.length_append, List.length_drop] at hall
    omega

theorem FirstChunk.begun_of_delivered {calls : List (Moment B)} {plain : Bytes}
    {w : ReadState K B} (h : FirstChunk cfg sender readerKey userKey salt sentAt p ps calls plain w)
    (hne : plain ≠ []) : InFirst cfg sender userKey salt p ps plain w := by
  cases h with
  | before hplain => exact absurd hplain hne
  | after hfirst => exact hfirst

omit [BloomFilter B] in
/-- From the first chunk on the reader delivers all of the stream. -/
theorem InFirst.underway (correct : (crypto.scheme cfg.method).Correct) (sentAt : Time)
    {plain : Bytes} {w : ReadState K B} (h : InFirst cfg sender userKey salt p ps plain w)
    (calls : List (Moment B)) :
    (openedSpec cfg sender salt sentAt userKey p ps).Underway (crypto.scheme cfg.method) calls plain
      w := by
  have htaken : (openedSpec (B := B) cfg sender salt sentAt userKey p ps).Taken
      (crypto.scheme cfg.method) [] (bodyCipher crypto cfg.method sender salt) (.data p.length)
      (sealedPayload crypto cfg.method sender salt p ++
        sealChunks (crypto.scheme cfg.method) ((bodyCipher crypto cfg.method sender salt).skip 1) ps) :=
    ⟨_, _, _, [], ⟨rfl, rfl, rfl⟩, .start, rfl⟩
  cases h with
  | opening hplain hstate hcipher hin hreports hcount =>
    subst hplain
    have hlen := hin.length_lt
    rw [sealedPayload, AeadScheme.encrypt_length] at hlen
    refine ⟨.reading (e := .data p.length) hstate hcipher ?_ hlen.le hreports, fun _ _ => trivial,
      hin.failures⟩
    rw [hin.bytes]
    exact htaken
  | opened hstate hpos hplain hcipher hbytes hio hreports hcount =>
    refine ⟨.buffered hstate hpos hcipher ?_ hreports, fun _ _ => trivial, hio⟩
    rw [hplain, hbytes]
    exact htaken.data (AeadScheme.encrypt_length ..) (correct _ _ _)

/-- A reader of the whole stream. -/
abbrev Progress (cfg : ReaderConfig crypto) (sender : Sender) (readerKey : Bytes)
    (userKey : Option Bytes) (salt : Bytes) (sentAt : Time) (p : Bytes) (ps : List Bytes) :
    List (Moment B) → Bytes → ReadState K B → Prop :=
  Header cfg sender readerKey salt sentAt p ps
    ((openedSpec cfg sender salt sentAt userKey p ps).Underway (crypto.scheme cfg.method))

theorem FirstChunk.progress (h : Genuine cfg sender readerKey userKey salt sentAt)
    {calls : List (Moment B)} {plain : Bytes} {w : ReadState K B}
    (hfirst : FirstChunk cfg sender readerKey userKey salt sentAt p ps calls plain w) :
    Progress cfg sender readerKey userKey salt sentAt p ps calls plain w := by
  cases hfirst with
  | before hplain hunread => exact .before hplain hunread
  | after hfirst => exact .after (hfirst.underway h.correct sentAt calls)

/-- What the reader reports is of the sender, as soon as it has opened a chunk. -/
theorem Progress.reports {calls : List (Moment B)} {plain : Bytes} {w : ReadState K B}
    (h : Progress cfg sender readerKey userKey salt sentAt p ps calls plain w) :
    (plain = [] ∧ w.reader.rest.dataChunkCount = 0) ∨
      Reports sender salt userKey w.reader.rest := by
  cases h with
  | before hplain hunread => exact .inl ⟨hplain, by rw [hunread.unopened.rest]⟩
  | after hunderway =>
    cases hunderway.between with
    | head hstate hplain hinv => exact hinv.elim
    | reading hstate hcipher htaken hlen hrest => exact .inr hrest
    | buffered hstate hpos hcipher htaken hrest => exact .inr hrest

/-- A new reader on an honest stream. -/
theorem FirstChunk.start (hpos : 0 < crypto.saltLen cfg.method) {calls : List (Moment B)}
    {w : ReadState K B} (hreader : w.reader = DecryptedReader.new crypto cfg.method readerKey)
    (hbytes : w.source.bytes = streamOf crypto cfg.method sender salt sentAt (p :: ps))
    (hio : w.source.failures = 0) (hone : w.source.OpensWith cfg.headerLen)
    (htimely : ∀ moment, calls[w.source.waits cfg.headerLen]? = some moment →
      Timely cfg sentAt salt (moment.call 0)) :
    FirstChunk cfg sender readerKey userKey salt sentAt p ps calls [] w := by
  rw [DecryptedReader.new, if_pos hpos] at hreader
  refine .before rfl ⟨⟨?_, ?_⟩, ?_, hbytes, hio, hone, htimely⟩ <;> rw [hreader]

/-- An honest stream is delivered. -/
theorem Progress.delivers (h : Genuine cfg sender readerKey userKey salt sentAt)
    (small : ∀ q ∈ p :: ps, q.length < 65536) :
    Delivers (fun (moment : Moment B) room => pollReadDecrypted cfg (moment.call room))
      (p :: ps).flatten anyRoom (Progress cfg sender readerKey userKey salt sentAt p ps)
      (·.source.pendings) := by
  have hholds : (openedSpec (B := B) cfg sender salt sentAt userKey p ps).Holds (readProtocol cfg) :=
    openedSpec_holds p ps
  exact Header.delivers h (small p List.mem_cons_self)
    (ReaderSpec.delivers hholds (openedSpec_honest h.correct small))
    fun hfirst => hfirst.underway h.correct sentAt _

end Aead2022

/-! ## AEAD -/

namespace Aead

variable {K B : Type} [BloomFilter B] {crypto : CryptoSuite K} {method : CipherKind}
  {key salt : Bytes} {p : Bytes} {ps : List Bytes}

/-- The reader behind its replay check. -/
def checkedSpec (crypto : CryptoSuite K) (method : CipherKind) (key salt : Bytes)
    (payloads : List Bytes) : ReaderSpec K WaitSalt ReaderFields B :=
  { total := streamOf crypto method key salt payloads
    allowed := fun n => n ≤ maxPacketSize
    Opened := fun head c e => head = salt ∧ c = crypto.cipher method key salt ∧ e = .length
    HeadInv := fun _ _ _ => False
    RestInv := fun fields => fields.salt = none
    Admits := fun _ _ => True
    Fine := fun _ fields _ => fields.salt = none
    HeadEnds := False
    HeadFails := False
    AfterFails := False }

theorem checkedSpec_holds (payloads : List Bytes) :
    (checkedSpec (B := B) crypto method key salt payloads).Holds (readProtocol crypto method) where
  checkLength_ok := (readerSpec_holds crypto method key [] fun _ _ => True).checkLength_ok
  checkLength_error := (readerSpec_holds crypto method key [] fun _ _ => True).checkLength_error
  fine_of_admits _ h := h
  rest_of_fine h := h
  afterData_ok {now x ctx x' ctx'} h hcheck := by
    have hnone : x.salt = none := h
    change checkSalt method now x ctx = _ at hcheck
    rw [checkSalt, hnone] at hcheck
    cases hcheck
    exact h
  afterData_error {now x ctx e x' ctx'} h hcheck := by
    have hnone : x.salt = none := h
    change checkSalt method now x ctx = _ at hcheck
    rw [checkSalt, hnone] at hcheck
    cases hcheck
  readHead _ _ _ _ := fun _ ⟨_, ⟨_, hfalse, _⟩, _⟩ => hfalse.elim

omit [BloomFilter B] in
theorem checkedSpec_honest (correct : (crypto.scheme method).Correct) {payloads : List Bytes}
    (small : ∀ q ∈ payloads, q.length ≤ maxPacketSize) :
    (checkedSpec (B := B) crypto method key salt payloads).Honest (crypto.scheme method)
      payloads where
  correct := correct
  small q hq := ⟨Nat.lt_of_le_of_lt (small q hq) (by decide), small q hq⟩
  opened := by
    rintro head c e rest ⟨rfl, rfl, rfl⟩ htotal
    exact ⟨trivial, List.append_cancel_left htotal⟩
  not_headEnds := id
  not_headFails := id
  not_afterFails := id

/-- The chunks behind the salt. -/
def chunks (crypto : CryptoSuite K) (method : CipherKind) (key salt : Bytes)
    (payloads : List Bytes) : Bytes :=
  sealChunks (crypto.scheme method) (crypto.cipher method key salt) payloads

/-- The sealed length of the first payload, and what comes behind it. -/
def sealedLength (crypto : CryptoSuite K) (method : CipherKind) (key salt p : Bytes) : Bytes :=
  (crypto.scheme method).encrypt (crypto.cipher method key salt).key
    (crypto.cipher method key salt).nonce (bigEndian 2 p.length)

def sealedPayload (crypto : CryptoSuite K) (method : CipherKind) (key salt p : Bytes) : Bytes :=
  (crypto.scheme method).encrypt ((crypto.cipher method key salt).skip 1).key
    ((crypto.cipher method key salt).skip 1).nonce p

def laterChunks (crypto : CryptoSuite K) (method : CipherKind) (key salt : Bytes)
    (ps : List Bytes) : Bytes :=
  sealChunks (crypto.scheme method) ((crypto.cipher method key salt).skip 2) ps

theorem chunks_cons (crypto : CryptoSuite K) (method : CipherKind) (key salt p : Bytes)
    (ps : List Bytes) : chunks crypto method key salt (p :: ps) =
      sealedLength crypto method key salt p ++
        (sealedPayload crypto method key salt p ++ laterChunks crypto method key salt ps) := by
  simp only [chunks, sealedLength, sealedPayload, laterChunks, sealChunks, sealChunk,
    List.append_assoc, Cipher.skip_key, Cipher.skip_nonce]

theorem sealedLength_length (crypto : CryptoSuite K) (method : CipherKind) (key salt p : Bytes) :
    (sealedLength crypto method key salt p).length = 2 + (crypto.scheme method).tagLen := by
  rw [sealedLength, AeadScheme.encrypt_length, bigEndian_length]

theorem sealedPayload_length (crypto : CryptoSuite K) (method : CipherKind) (key salt p : Bytes) :
    (sealedPayload crypto method key salt p).length = p.length + (crypto.scheme method).tagLen :=
  AeadScheme.encrypt_length ..

/-- With how many bytes the first payload has come, on which the salt is checked. -/
def checkedAfter (crypto : CryptoSuite K) (method : CipherKind) (p : Bytes) : Nat :=
  crypto.saltLen method + ((2 + (crypto.scheme method).tagLen) +
    (p.length + (crypto.scheme method).tagLen))

/-- A reader before its replay check, for which `k` more polls find too little. -/
inductive Unchecked (crypto : CryptoSuite K) (method : CipherKind) (key salt p : Bytes)
    (ps : List Bytes) (k : Nat) (w : ReadState K B) : Prop where
  | salt (hstate : w.reader.state = .head { key := key })
      (hin : Incoming salt (chunks crypto method key salt (p :: ps)) (checkedAfter crypto method p)
        k w)
  | length (hstate : w.reader.state = .readLength)
      (hcipher : w.reader.cipher = some (crypto.cipher method key salt))
      (hsalt : w.reader.rest.salt = some salt)
      (hin : Incoming (sealedLength crypto method key salt p)
        (sealedPayload crypto method key salt p ++ laterChunks crypto method key salt ps)
        ((2 + (crypto.scheme method).tagLen) + (p.length + (crypto.scheme method).tagLen)) k w)
  | data (hstate : w.reader.state = .readData p.length)
      (hcipher : w.reader.cipher = some ((crypto.cipher method key salt).skip 1))
      (hsalt : w.reader.rest.salt = some salt)
      (hin : Incoming (sealedPayload crypto method key salt p)
        (laterChunks crypto method key salt ps) (p.length + (crypto.scheme method).tagLen) k w)

omit [BloomFilter B] in
theorem pollReadSalt_opens {n k : Nat} {tail : Bytes} {w₀ : ReadState K B}
    (hsalt : salt.length = crypto.saltLen method) (hn : salt.length ≤ n)
    (h : Incoming salt tail n k w₀) :
    Triple (fun w => w = w₀) (pollReadSalt crypto method key)
      { ready := fun _ w => ∃ s, w = takeSalt crypto method key salt (w₀.fill salt s) ∧
          Source.Behind tail (n - salt.length) k w₀.source.pendings s
        pending := Waiting salt tail n k w₀
        failed := fun _ _ => False } := by
  have hread := pollReadExact_whole hn h
  unfold pollReadSalt
  rw [← hsalt]
  refine Triple.bind (Triple.mapErr (hread.strengthen
    ⟨fun _ _ h => h, fun _ h => h, fun _ _ h => h, fun _ h => h⟩)) fun got => ?_
  rintro w ⟨rfl, s, rfl, hbehind⟩
  rw [if_neg (Nat.lt_irrefl _)]
  refine ⟨s, ?_, hbehind⟩
  exact congrArg (takeSalt crypto method key · (w₀.fill salt s)) List.take_length

/-- What a poll comes to whose context lets the salt pass if the first payload has come. -/
def uncheckedPost (crypto : CryptoSuite K) (method : CipherKind) (key salt p : Bytes)
    (ps : List Bytes) (k N : Nat) : Post (ReadState K B) ProtocolError Bytes :=
  let spec := checkedSpec (B := B) crypto method key salt (p :: ps)
  { ready := fun out w => spec.Between (crypto.scheme method) out w ∧
      ReaderSpec.Same N 0 w ∧ (out = [] → spec.CleanEnd (crypto.scheme method) [] w)
    pending := fun w => w.source.pendings + 1 = N ∧
      ((∃ j, k = j + 1 ∧ Unchecked crypto method key salt p ps j w) ∨
        spec.Between (crypto.scheme method) [] w ∧ w.source.failures = 0)
    failed := fun _ _ => spec.Refused (crypto.scheme method) 0 }

omit [BloomFilter B] in
/-- Where the first payload has opened and the salt has passed. -/
theorem within_of_checked (correct : (crypto.scheme method).Correct)
    (small : p.length ≤ maxPacketSize) (now : Time) {N k : Nat} {w : ReadState K B}
    (hstate : w.reader.state = .bufferedData 0) (hbuffer : w.reader.buffer = p)
    (hcipher : w.reader.cipher = some ((crypto.cipher method key salt).skip 2))
    (hnone : w.reader.rest.salt = none)
    (hbehind : Source.Behind (laterChunks crypto method key salt ps) 0 k N w.source) :
    (checkedSpec (B := B) crypto method key salt (p :: ps)).Within (crypto.scheme method) now [] w ∧
      ReaderSpec.Same N 0 w := by
  refine ⟨.buffered hstate (Nat.zero_le _) hcipher ?_ hnone, hbehind.pendings, hbehind.failures⟩
  rw [List.nil_append, List.drop_zero, hbuffer, hbehind.bytes]
  have hbody : (checkedSpec (B := B) crypto method key salt (p :: ps)).Taken (crypto.scheme method)
      [] (crypto.cipher method key salt) .length
      (sealedLength crypto method key salt p ++
        (sealedPayload crypto method key salt p ++ laterChunks crypto method key salt ps)) := by
    refine ⟨salt, _, .length, [], ⟨rfl, rfl, rfl⟩, .start, ?_⟩
    rw [← chunks_cons]
    rfl
  have hvalue : fromBigEndian (bigEndian 2 p.length) = p.length :=
    fromBigEndian_bigEndian_of_lt (Nat.lt_of_le_of_lt small (by decide))
  have hlength := hbody.length (sealedLength_length crypto method key salt p) (correct _ _ _)
    (show fromBigEndian (bigEndian 2 p.length) ≤ maxPacketSize by rwa [hvalue])
  rw [hvalue] at hlength
  exact hlength.data (sealedPayload_length crypto method key salt p) (correct _ _ _)

/-- What a round before the replay check leaves to the next one of the same poll. -/
def Rounds (crypto : CryptoSuite K) (method : CipherKind) (key salt p : Bytes) (ps : List Bytes)
    (now : Time) (context : Context B) (k N : Nat) (w : ReadState K B) : Prop :=
  (Unchecked crypto method key salt p ps k w ∧ w.context = context ∧ w.source.pendings = N) ∨
    (checkedSpec (B := B) crypto method key salt (p :: ps)).Within (crypto.scheme method) now [] w ∧
      ReaderSpec.Same N 0 w

/-- A round before the replay check. -/
theorem readRound_unchecked (correct : (crypto.scheme method).Correct)
    (hsalt : salt.length = crypto.saltLen method) (small : p.length ≤ maxPacketSize) (now : Time)
    (room : Nat) {k N : Nat} {context : Context B}
    (haccepts : k = 0 → Context.Accepts method salt now context) {w : ReadState K B}
    (h : Unchecked crypto method key salt p ps k w) (hcontext : w.context = context)
    (hpend : w.source.pendings = N) :
    ((uncheckedPost crypto method key salt p ps k N).onReady (Triple.roundClause
      (Rounds crypto method key salt p ps now context k N)
      (uncheckedPost crypto method key salt p ps k N).ready)).holds
      (readRound (readProtocol crypto method) now room w) := by
  have htag := (crypto.scheme method).tagLen_pos
  subst hcontext hpend
  rw [readRound, PollM.get_bind]
  -- only the poll that gets the last byte of the first chunk checks the salt
  cases h with
  | salt hstate hin =>
    rw [hstate]
    have hread : Triple _ (pollReadSalt crypto method key) _ := pollReadSalt_opens hsalt
      (by rw [hsalt, checkedAfter]; omega) hin
    refine Triple.apply (P := fun t => t = w) rfl (Triple.seq (Triple.seq
      (R := { ready := fun o t => o = some .length ∧
                Rounds crypto method key salt p ps now w.context k w.source.pendings
                  (t.enter (.reading .length)).setHandshaked
              pending := Tcp.Waiting salt (chunks crypto method key salt (p :: ps))
                (checkedAfter crypto method p) k w
              failed := fun _ _ => False }) hread (fun _ => ?_) (fun _ h => h)
      (fun _ _ h => h) fun _ h => h) (fun o => ?_) ?_ (fun _ _ h => h.elim) fun _ h => h.elim)
    · refine Triple.pure ?_
      rintro t ⟨s, rfl, hbehind⟩
      refine ⟨rfl, .inl ⟨.length rfl rfl rfl ?_, rfl, hbehind.pendings⟩⟩
      rw [chunks_cons, hsalt, checkedAfter, Nat.add_sub_cancel_left] at hbehind
      refine hbehind.incoming ?_ (by omega)
      rw [sealedLength_length]
      omega
    · refine Triple.of_state ?_
      rintro t ⟨rfl, hrounds⟩
      exact Triple.update (M := Rounds crypto method key salt p ps now w.context k w.source.pendings)
        (fun u hu => hu ▸ hrounds) (Triple.pure fun _ h => h)
    · rintro t ⟨b, s, j, rfl, hpend, hj, hin'⟩
      exact ⟨hpend, .inl ⟨j, hj, .salt hstate hin'⟩⟩
  | length hstate hcipher hsome hin =>
    rw [hstate]
    have hlength : p.length < 65536 := Nat.lt_of_le_of_lt small (by decide)
    have hread := pollReadLength_opens (P := readProtocol (B := B) crypto method) correct hcipher
      hlength (show checkLength p.length = .ok () from if_neg (by omega))
      (Nat.le_add_right _ (p.length + (crypto.scheme method).tagLen)) hin
    have hrest := Nat.add_sub_cancel_left (2 + (crypto.scheme method).tagLen)
      (p.length + (crypto.scheme method).tagLen)
    refine Triple.apply (P := fun t => t = w) rfl (Triple.seq hread (fun o => ?_) ?_
      (fun _ _ h => h.elim) fun _ h => h.elim)
    · refine Triple.of_state ?_
      rintro t ⟨rfl, buffer, s, rfl, hbehind⟩
      refine Triple.update (M := Rounds crypto method key salt p ps now w.context k w.source.pendings)
        (fun u hu => ?_) (Triple.pure fun _ h => h)
      subst hu
      refine .inl ⟨.data rfl rfl hsome ?_, rfl, hbehind.pendings⟩
      refine Source.Behind.incoming (N := w.source.pendings) (hrest ▸ hbehind) ?_ (by omega)
      rw [sealedPayload_length]
      omega
    · rintro t ⟨b, s, j, rfl, hpend, hj, hin'⟩
      exact ⟨hpend, .inl ⟨j, hj, .length hstate hcipher hsome hin'⟩⟩
  | data hstate hcipher hsome hin =>
    rw [hstate]
    -- here the salt is checked, and not kept after it
    have hafter : k = 0 → checkSalt method now w.reader.rest w.context =
        (.ok (), { salt := none }, (w.context.checkNonceReplay now method salt).2) := by
      intro hk
      have hok : (w.context.checkNonceReplay now method salt).1 = .ok () := haccepts hk
      simp only [checkSalt, hsome, hok, Except.mapError]
    have hread := pollReadData_opens (P := readProtocol crypto method) correct now hcipher hin hafter
    refine Triple.apply (P := fun t => t = w) rfl (Triple.seq hread (fun _ => ?_) ?_
      (fun _ _ h => h.elim) fun _ h => h.elim)
    · refine Triple.update (M := Rounds crypto method key salt p ps now w.context k w.source.pendings)
        ?_ (Triple.pure fun _ h => h)
      rintro t ⟨s, rfl, hbehind⟩
      exact .inr (within_of_checked correct small now rfl rfl rfl rfl hbehind)
    · rintro t ⟨b, s, j, rfl, hpend, hj, hin'⟩
      exact ⟨hpend, .inl ⟨j, hj, .data hstate hcipher hsome hin'⟩⟩

omit [BloomFilter B] in
/-- The context of the last poll does not matter. -/
theorem Unchecked.context {k : Nat} {w : ReadState K B}
    (h : Unchecked crypto method key salt p ps k w) (context : Context B) :
    Unchecked crypto method key salt p ps k { w with context := context } := by
  cases h with
  | salt hstate hin => exact .salt hstate hin
  | length hstate hcipher hsome hin => exact .length hstate hcipher hsome hin
  | data hstate hcipher hsome hin => exact .data hstate hcipher hsome hin

/-- A poll before the replay check. -/
theorem pollRead_unchecked (correct : (crypto.scheme method).Correct)
    (hsalt : salt.length = crypto.saltLen method) (small : p.length ≤ maxPacketSize) {k room : Nat}
    {moment : Moment B} (hroom : 0 < room)
    (haccepts : k = 0 → Context.Accepts method salt moment.now moment.context) {w : ReadState K B}
    (h : Unchecked crypto method key salt p ps k w) :
    (uncheckedPost crypto method key salt p ps k w.source.pendings).holds
      (pollReadDecrypted crypto method (moment.call room) w) := by
  refine Triple.loop (readRound_again (readProtocol crypto method)) (P := Rounds crypto method key salt
    p ps moment.now moment.context k w.source.pendings) ?_ _ (.inl ⟨h.context moment.context, rfl, rfl⟩)
  rintro t (⟨hunchecked, hsame, hpend⟩ | hwithin)
  · exact readRound_unchecked correct hsalt small moment.now room haccepts hunchecked hsame hpend
  · refine Post.mono (ReaderSpec.readRound_spec (checkedSpec_holds (p :: ps)) hroom t hwithin)
      ⟨fun o u hu => ?_, fun u hu => ⟨hu.2.1, .inr ⟨hu.1, hu.2.2⟩⟩, fun _ _ h => h, fun _ h => h⟩
    cases o with
    | none => exact .inr hu
    | some out => exact hu

/-- A reader before its replay check, or behind it. -/
abbrev Progress (crypto : CryptoSuite K) (method : CipherKind) (key salt p : Bytes)
    (ps : List Bytes) : List (Moment B) → Bytes → ReadState K B → Prop :=
  Checking (Counting (Unchecked crypto method key salt p ps)
      fun moment => Context.Accepts method salt moment.now moment.context)
    ((checkedSpec crypto method key salt (p :: ps)).Underway (crypto.scheme method))

/-- An honest stream is delivered. -/
theorem Progress.delivers (correct : (crypto.scheme method).Correct)
    (hsalt : salt.length = crypto.saltLen method)
    (small : ∀ q ∈ p :: ps, q.length ≤ maxPacketSize) :
    Delivers (fun (moment : Moment B) room => pollReadDecrypted crypto method (moment.call room))
      (p :: ps).flatten anyRoom (Progress crypto method key salt p ps) (·.source.pendings) := by
  have honest : (checkedSpec (B := B) crypto method key salt (p :: ps)).Honest
      (crypto.scheme method) (p :: ps) := checkedSpec_honest correct small
  refine (ReaderSpec.delivers (checkedSpec_holds (p :: ps)) honest).counting ?_
  intro moment calls room k w hroom hmoment h
  have hpoll := pollRead_unchecked correct hsalt (small p List.mem_cons_self) hroom hmoment h
  have hlen := pollReadDecrypted_room (readProtocol crypto method) moment.now room
    { w with context := moment.context } trivial
  change Post.holds _ (pollReadDecrypted crypto method (moment.call room) w) at hlen
  change Post.holds _ (pollReadDecrypted crypto method (moment.call room) w)
  rcases hres : pollReadDecrypted crypto method (moment.call room) w with ⟨res, w'⟩
  rw [hres] at hpoll hlen
  cases res with
  | ready out =>
    obtain ⟨hbetween, ⟨hpend, hfail⟩, hend⟩ := hpoll
    exact ⟨fun hout => (honest.cleanEnd (hend hout)).1, hlen, ⟨hbetween, fun _ _ => trivial, hfail⟩,
      hpend.le⟩
  | pending =>
    obtain ⟨hpend, hunchecked | ⟨hbetween, hfail⟩⟩ := hpoll
    · exact ⟨.inl hunchecked, by rw [← hpend]; exact Nat.lt_succ_self _⟩
    · exact ⟨.inr ⟨hbetween, fun _ _ => trivial, hfail⟩, by rw [← hpend]; exact Nat.lt_succ_self _⟩
  | failed e => exact honest.not_refused hpoll
  | panicked => exact hpoll

/-- A new reader on an honest stream. -/
theorem Progress.start (hpos : 0 < crypto.saltLen method)
    (hsalt : salt.length = crypto.saltLen method) {calls : List (Moment B)} {w : ReadState K B}
    (hreader : w.reader = DecryptedReader.new crypto method key)
    (hbytes : w.source.bytes = streamOf crypto method key salt (p :: ps))
    (hio : w.source.failures = 0)
    (haccepts : ∀ moment, calls[w.source.waits (checkedAfter crypto method p)]? = some moment →
      Context.Accepts method salt moment.now moment.context) :
    Progress crypto method key salt p ps calls [] w := by
  simp only [DecryptedReader.new, if_pos hpos] at hreader
  refine .before rfl ⟨_, .salt (by rw [hreader]) ⟨?_, ?_, hio, rfl⟩, ?_⟩
  · rw [hreader]
    exact hbytes
  · rw [hreader, hsalt]
    exact hpos
  · rw [hreader]
    exact haccepts

end Aead

end Shadowsocks.Tcp
