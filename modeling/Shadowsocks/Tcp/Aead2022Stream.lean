import Shadowsocks.Tcp.Aead2022
import Shadowsocks.Tcp.ChunkReaderSpec

/-! # What an AEAD-2022 stream delivers

A `Session` says which writers and readers belong together: a client and a
server with the same key, a client of a multi-user server, and a server that
answers.  The header such a writer seals is opened by the reader
(`pollReadHeader_opens`), and from there on the chunks are those of v1, so the
round trip `session_roundTrip` follows from `ReaderSpec.receive_honest`.
-/

namespace Shadowsocks.Tcp.Aead2022

open Shadowsocks.Lib

variable {K B : Type} [BloomFilter B]

/-! ## Sessions -/

/-- What a writer is made from.  `userKey` is the key that the server changes to
    once it knows the user of a request. -/
structure Sender where
  streamTy : StreamType
  key : Bytes
  identityKeys : List Bytes
  requestSalt : Option Bytes
  userKey : Option Bytes
deriving DecidableEq, Repr

namespace Sender

variable (crypto : CryptoSuite K) (method : CipherKind) (sender : Sender)

/-- The key that the stream is sealed under. -/
def sealKey : Bytes := sender.userKey.getD sender.key

/-- The identity headers. -/
def identity (salt : Bytes) : Bytes :=
  if sender.streamTy = .client && methodSupportEih method then
    identityHeaders crypto method sender.key salt none sender.identityKeys
  else []

/-- A new writer, before its first write. -/
def writer (salt : Bytes) : EncryptedWriter K :=
  let w := EncryptedWriter.withIdentity crypto sender.streamTy method sender.key salt
    sender.identityKeys
  let w := match sender.requestSalt with
    | some requestSalt => w.setRequestSalt requestSalt
    | none => w
  match sender.userKey with
  | some key => w.resetCipherWithKey crypto method key
  | none => w

theorem writer_eq (salt : Bytes) : sender.writer crypto method salt =
    { state := .head .assembleHeader
      cipher := crypto.cipher method sender.sealKey salt
      buffer := salt ++ sender.identity crypto method salt
      rest := { streamTy := sender.streamTy, salt := salt, requestSalt := sender.requestSalt } } := by
  cases sender with
  | mk streamTy key identityKeys requestSalt userKey => cases requestSalt <;> cases userKey <;> rfl

end Sender

/-- Which writers and readers belong together: the reader's key, its
    configuration, and the user key that it reports. -/
inductive Session {crypto : CryptoSuite K} (cfg : ReaderConfig crypto) :
    Sender → (readerKey : Bytes) → (userKey : Option Bytes) → Prop where
  | request {key} (hserver : cfg.streamTy = .server) (hsingle : cfg.requireEih = false) :
      Session cfg { streamTy := .client, key := key, identityKeys := [], requestSalt := none
                    userKey := none } key none
  | userRequest {users user serverKey} (hserver : cfg.streamTy = .server)
      (heih : methodSupportEih cfg.method = true) (husers : cfg.userManager = some users)
      (huser : user ∈ users.users) :
      Session cfg { streamTy := .client, key := user.key, identityKeys := [serverKey]
                    requestSalt := none, userKey := none } serverKey (some user.key)
  | response {key identityKeys requestSalt userKey} (hclient : cfg.streamTy = .client)
      (hsalt : requestSalt.length = crypto.saltLen cfg.method) :
      Session cfg { streamTy := .server, key := key, identityKeys := identityKeys
                    requestSalt := some requestSalt, userKey := userKey } (userKey.getD key) none

namespace Session

variable {crypto : CryptoSuite K} {cfg : ReaderConfig crypto} {sender : Sender}
  {readerKey : Bytes} {userKey : Option Bytes}

/-- The identity header of a user's request. -/
theorem identity_eq (crypto : CryptoSuite K) {method : CipherKind} (heih : methodSupportEih method = true)
    (user : ServerUser) (serverKey salt : Bytes) :
    ∃ eihKey, eihKey? method (crypto.deriveKey (serverKey ++ salt)) = some eihKey ∧
      (Sender.mk .client user.key [serverKey] none none).identity crypto method salt =
        crypto.encryptBlock eihKey (user.identityHash crypto) := by
  obtain ⟨eihKey, hkey⟩ : ∃ eihKey,
      eihKey? method (crypto.deriveKey (serverKey ++ salt)) = some eihKey := by
    cases method <;> simp_all [methodSupportEih, eihKey?]
  refine ⟨eihKey, hkey, ?_⟩
  simp only [Sender.identity, heih, decide_true, Bool.and_self, if_true, identityHeaders, makeEih,
    hkey]
  rfl

theorem identity_length (h : Session cfg sender readerKey userKey) (salt : Bytes) :
    (sender.identity crypto cfg.method salt).length = cfg.eihLen := by
  cases h with
  | request hserver hsingle =>
    simp [Sender.identity, identityHeaders, ReaderConfig.eihLen, hsingle]
  | @userRequest users user _ hserver heih husers huser =>
    obtain ⟨eihKey, _, hidentity⟩ := identity_eq crypto heih user readerKey salt
    rw [hidentity, crypto.encryptBlock_length]
    simp [ReaderConfig.eihLen, ReaderConfig.requireEih, hserver, heih, husers]
  | response hclient hsalt =>
    simp [Sender.identity, ReaderConfig.eihLen, ReaderConfig.requireEih, hclient]

omit [BloomFilter B] in
/-- The reader picks the cipher that the stream is sealed under. -/
theorem selectCipher_eq (h : Session cfg sender readerKey userKey)
    (blockCorrect : crypto.BlockCorrect) (salt sealed : Bytes) {w : ReadState K B}
    (hnone : w.reader.rest.userKey = none) :
    selectCipher cfg readerKey salt (sender.identity crypto cfg.method salt ++ sealed) w =
      (.ready (crypto.cipher cfg.method sender.sealKey salt, sealed),
        { w with reader := { w.reader with rest := { w.reader.rest with userKey := userKey } } }) := by
  have hkeep : ({ w with reader := { w.reader with
      rest := { w.reader.rest with userKey := none } } } : ReadState K B) = w := by
    rw [← hnone]
  cases h with
  | request hserver hsingle =>
    rw [selectCipher, hsingle, hkeep]
    simp only [Sender.identity, identityHeaders, ite_self, List.nil_append]
    rfl
  | @userRequest users user _ hserver heih husers huser =>
    have hrequire : cfg.requireEih = true := by
      simp [ReaderConfig.requireEih, hserver, heih, husers]
    obtain ⟨eihKey, hkey, hidentity⟩ := identity_eq crypto heih user readerKey salt
    have hlen := crypto.encryptBlock_length eihKey (user.identityHash crypto)
    have hhash : (user.identityHash crypto).length = 16 := by
      simp [ServerUser.identityHash, crypto.hash_length]
    have hlong : ¬ (crypto.encryptBlock eihKey (user.identityHash crypto) ++ sealed).length < 16 := by
      rw [List.length_append]
      omega
    rw [hidentity, selectCipher, hrequire, husers, hkey]
    simp only [if_true, if_neg hlong, List.take_left' hlen, List.drop_left' hlen,
      blockCorrect _ _ hhash, ServerUserManager.getUserByHash_of_mem huser]
    rfl
  | response hclient hsalt =>
    have hrequire : cfg.requireEih = false := by simp [ReaderConfig.requireEih, hclient]
    rw [selectCipher, hrequire, hkeep]
    simp only [Sender.identity, reduceCtorEq, decide_false, Bool.false_and, Bool.false_eq_true,
      if_false, List.nil_append]
    rfl

/-- The stream type in the header is the one that the reader expects. -/
theorem streamTy_eq (h : Session cfg sender readerKey userKey) :
    sender.streamTy.byte = cfg.expectedStreamTy := by
  cases h with
  | request hserver _ => simp [ReaderConfig.expectedStreamTy, hserver, StreamType.byte]
  | userRequest hserver _ _ _ => simp [ReaderConfig.expectedStreamTy, hserver, StreamType.byte]
  | response hclient _ => simp [ReaderConfig.expectedStreamTy, hclient, StreamType.byte]

theorem requestSalt_length (h : Session cfg sender readerKey userKey) :
    (sender.requestSalt.getD []).length = cfg.requestSaltLen := by
  cases h with
  | request hserver _ => simp [ReaderConfig.requestSaltLen, hserver]
  | userRequest hserver _ _ _ => simp [ReaderConfig.requestSaltLen, hserver]
  | response hclient hsalt => simpa [ReaderConfig.requestSaltLen, hclient] using hsalt

omit [BloomFilter B] in
/-- The reader keeps the request salt of a response, and of nothing else. -/
theorem noteRequestSalt_eq (h : Session cfg sender readerKey userKey)
    (hpos : 0 < crypto.saltLen cfg.method) {w : ReadState K B} (hnone : w.reader.rest.requestSalt = none) :
    noteRequestSalt cfg (sender.requestSalt.getD []) w =
      { w with reader := { w.reader with
          rest := { w.reader.rest with requestSalt := sender.requestSalt } } } := by
  cases h with
  | request hserver _ => simp [noteRequestSalt, ReaderConfig.requestSaltLen, hserver, ← hnone]
  | userRequest hserver _ _ _ =>
    simp [noteRequestSalt, ReaderConfig.requestSaltLen, hserver, ← hnone]
  | response hclient _ => simp [noteRequestSalt, ReaderConfig.requestSaltLen, hclient, hpos]

end Session

/-! ## What the writer puts on the wire -/

section Writes

variable (crypto : CryptoSuite K) (method : CipherKind) (sender : Sender) (salt : Bytes)
  (sentAt : Time)

/-- The cipher of the stream. -/
def streamCipher : Cipher K := crypto.cipher method sender.sealKey salt

/-- The sealed header, which carries the length of the first payload. -/
def sealedHeader (length : Nat) : Bytes :=
  (crypto.scheme method).encrypt (streamCipher crypto method sender salt).key
    (streamCipher crypto method sender salt).nonce
    (headerPlain sender.streamTy sentAt.unixSecs sender.requestSalt length)

/-- The head of a stream: the salt, the identity headers and the sealed header. -/
def headOf (length : Nat) : Bytes :=
  salt ++ (sender.identity crypto method salt ++
    sealedHeader crypto method sender salt sentAt length)

/-- The stream of payloads; without any, the head has not been assembled. -/
def streamOf : List Bytes → Bytes
  | [] => salt ++ sender.identity crypto method salt
  | p :: ps => headOf crypto method sender salt sentAt p.length ++
      remaining (crypto.scheme method) ((streamCipher crypto method sender salt).skip 1)
        (.data p.length) (p :: ps)

/-- A new writer on a transport that has taken nothing. -/
def writeStart (schedule : List WriteEvent) : WriteWorld K AssembleHeader WriterFields :=
  { writer := sender.writer crypto method salt
    sink := { schedule := schedule, wire := [] } }

theorem streamOf_framing : Framing (writeProtocol crypto method)
    (streamCipher crypto method sender salt) (streamOf crypto method sender salt sentAt) where
  concat p ps q := by
    simp only [streamOf, List.cons_append, remaining, sealChunks_append, sealChunks, writeProtocol,
      Cipher.skip_skip, List.append_assoc, List.append_nil, List.length_cons, Nat.mul_add,
      Nat.mul_one, Nat.add_comm (2 * ps.length)]

theorem assembleHeader_eq (buf : Bytes) :
    assembleHeader (crypto.scheme method) sentAt buf (sender.writer crypto method salt) =
      (streamOf crypto method sender salt sentAt [buf],
        (streamCipher crypto method sender salt).skip 2) := by
  rw [Sender.writer_eq]
  simp [assembleHeader, streamOf, headOf, sealedHeader, remaining, sealChunks, Cipher.encryptPacket, streamCipher,
    CryptoSuite.cipher]

/-- What a sequence of write calls puts on the wire. -/
theorem wire_eq_streamOf {schedule : List WriteEvent} {buf : Bytes} {writes : List (Time × Bytes)}
    {acked : List (Bytes × Nat)} {w : WriteWorld K AssembleHeader WriterFields}
    (h : performs (pollWriteEncrypted crypto method) none ((sentAt, buf) :: writes)
      (writeStart crypto method sender salt schedule) = some (acked, w)) :
    Acked (writeProtocol crypto method) acked ∧ acked ≠ [] ∧
      w.sink.wire = streamOf crypto method sender salt sentAt (acknowledged acked) := by
  refine writes_spec (streamOf_framing crypto method sender salt sentAt) ?_ h
  refine pollWriteEncrypted_head (writeProtocol crypto method) (h := .assembleHeader) ?_ ?_
  · simp only [writeStart, Sender.writer_eq]
  · exact assembleHeader_eq crypto method sender salt sentAt _

end Writes

/-! ## Opening the header -/

/-- What the call that gets the header has to find: a clock close to the
    sender's, and a replay check that lets the salt pass. -/
structure Timely {crypto : CryptoSuite K} (cfg : ReaderConfig crypto) (sentAt : Time) (salt : Bytes)
    (call : ReadCall B) : Prop where
  clock : absDiff call.now.unixSecs sentAt.unixSecs ≤ serverStreamTimestampMaxDiff
  fresh : (checkSalt cfg call.now salt call.context).1 = .ok ()

/-- The fields of a header, behind which the buffer holds a tag. -/
theorem headerPlain_fields (streamTy : StreamType) (timestamp length : Nat) {n : Nat}
    {requestSalt : Option Bytes} (hlen : (requestSalt.getD []).length = n) (tail : Bytes) :
    let header := headerPlain streamTy timestamp requestSalt length ++ tail
    header.take 1 = bigEndian 1 streamTy.byte ∧
      (header.drop 1).take 8 = bigEndian 8 timestamp ∧
      (header.drop 9).take n = requestSalt.getD [] ∧
      (header.drop (9 + n)).take 2 = bigEndian 2 length := by
  intro header
  have h0 : header = bigEndian 1 streamTy.byte ++
      (bigEndian 8 timestamp ++ (requestSalt.getD [] ++ (bigEndian 2 length ++ tail))) := by
    simp only [header, headerPlain, List.append_assoc]
  have h1 : header.drop 1 = bigEndian 8 timestamp ++
      (requestSalt.getD [] ++ (bigEndian 2 length ++ tail)) := by
    rw [h0, List.drop_left' (bigEndian_length _ _)]
  have h9 : header.drop 9 = requestSalt.getD [] ++ (bigEndian 2 length ++ tail) := by
    rw [show 9 = 1 + 8 from rfl, ← List.drop_drop, h1, List.drop_left' (bigEndian_length _ _)]
  have hn : header.drop (9 + n) = bigEndian 2 length ++ tail := by
    rw [← List.drop_drop, h9, List.drop_left' hlen]
  refine ⟨?_, ?_, ?_, ?_⟩
  · rw [h0, List.take_left' (bigEndian_length _ _)]
  · rw [h1, List.take_left' (bigEndian_length _ _)]
  · rw [h9, List.take_left' hlen]
  · rw [hn, List.take_left' (bigEndian_length _ _)]

section Header

variable {crypto : CryptoSuite K} {cfg : ReaderConfig crypto} {sender : Sender}
  {readerKey : Bytes} {userKey : Option Bytes} {salt : Bytes} {sentAt : Time} {length : Nat}

/-- The fields of an honest header pass their checks. -/
theorem parseHeader_opens (h : Session cfg sender readerKey userKey)
    (hpos : 0 < crypto.saltLen cfg.method) (hts : sentAt.unixSecs < 2 ^ 64) (hlength : length < 65536)
    (tail : Bytes) (cipher : Cipher K) {call : ReadCall B} (timely : Timely cfg sentAt salt call)
    {w : ReadState K B} (hcontext : w.context = call.context)
    (hnone : w.reader.rest.requestSalt = none) :
    parseHeader cfg call.now salt
        (headerPlain sender.streamTy sentAt.unixSecs sender.requestSalt length ++ tail) cipher w =
      (.ready (some (.data length)),
        { w with
          reader := { w.reader with
            cipher := some cipher
            rest := { w.reader.rest with salt := some salt, requestSalt := sender.requestSalt } }
          context := (checkSalt cfg call.now salt call.context).2 }) := by
  obtain ⟨htype, htime, hsalt, hlen⟩ := headerPlain_fields sender.streamTy
    sentAt.unixSecs length h.requestSalt_length tail
  have hty : fromBigEndian (bigEndian 1 sender.streamTy.byte) = cfg.expectedStreamTy := by
    rw [fromBigEndian_bigEndian_of_lt (by cases sender.streamTy <;> decide), h.streamTy_eq]
  have hstamp : fromBigEndian (bigEndian 8 sentAt.unixSecs) = sentAt.unixSecs :=
    fromBigEndian_bigEndian_of_lt hts
  have hdata : fromBigEndian (bigEndian 2 length) = length := fromBigEndian_bigEndian_of_lt hlength
  have hclock := timely.clock
  have hfresh := timely.fresh
  rw [← hcontext] at hfresh ⊢
  simp only [parseHeader, htype, htime, hsalt, hlen, hty, hstamp, hdata, ne_eq, not_true_eq_false,
    if_false, if_neg (Nat.not_lt.2 hclock)]
  change finishHeader cfg call.now salt cipher length (noteRequestSalt cfg _ w) = _
  rw [h.noteRequestSalt_eq hpos hnone, finishHeader, PollM.get_bind]
  simp only [hfresh]
  rfl

/-- The reader before it has opened the header. -/
structure Unopened (readerKey : Bytes) (w : ReadState K B) : Prop where
  state : w.reader.state = .head { key := readerKey }
  rest : w.reader.rest = { salt := none, requestSalt := none, dataChunkCount := 0, userKey := none }

/-- What the reader reports once the header has opened. -/
def Reports (sender : Sender) (salt : Bytes) (userKey : Option Bytes) (fields : ReaderFields) :
    Prop :=
  fields.salt = some salt ∧ fields.requestSalt = sender.requestSalt ∧ fields.userKey = userKey

theorem headOf_length (sentAt : Time) (length : Nat) (h : Session cfg sender readerKey userKey)
    (hsalt : salt.length = crypto.saltLen cfg.method) :
    (headOf crypto cfg.method sender salt sentAt length).length = cfg.headerLen := by
  have := h.requestSalt_length
  simp only [headOf, sealedHeader, headerPlain, List.length_append, hsalt, h.identity_length,
    AeadScheme.encrypt_length, bigEndian_length, ReaderConfig.headerLen, CryptoSuite.tagLen]
  omega

/-- **The header opens.** -/
theorem pollReadHeader_opens (h : Session cfg sender readerKey userKey)
    (correct : (crypto.scheme cfg.method).Correct) (blockCorrect : crypto.BlockCorrect)
    (hpos : 0 < crypto.saltLen cfg.method) (hsalt : salt.length = crypto.saltLen cfg.method)
    (hts : sentAt.unixSecs < 2 ^ 64) (hlength : length < 65536) {call : ReadCall B}
    (timely : Timely cfg sentAt salt call) {w : ReadState K B} (hcontext : w.context = call.context)
    (unopened : Unopened readerKey w) {b : UInt8} {bs rest : Bytes} {s : Source}
    (hsource : w.source = .data b bs :: s) (hone : cfg.headerLen ≤ bs.length + 1)
    (hbytes : w.source.bytes = headOf crypto cfg.method sender salt sentAt length ++ rest) :
    ∃ w' : ReadState K B,
      pollReadHeader cfg call.now readerKey w = (.ready (some (.data length)), w') ∧
      w'.reader.cipher = some ((streamCipher crypto cfg.method sender salt).skip 1) ∧
      Reports sender salt userKey w'.reader.rest ∧ w'.source.bytes = rest ∧
      w'.source.pendings = w.source.pendings ∧ w'.source.failures = w.source.failures := by
  have hhead := headOf_length sentAt length h hsalt
  -- one read has the whole header in it
  have htake : (b :: bs).take cfg.headerLen =
      headOf crypto cfg.method sender salt sentAt length := by
    have hbytes' := congrArg (List.take cfg.headerLen) hbytes
    rw [List.take_left' hhead, hsource, Source.bytes,
      List.take_append_of_le_length (by simpa using hone)] at hbytes'
    exact hbytes'
  have hread : w.source.read cfg.headerLen =
      (.ready (headOf crypto cfg.method sender salt sentAt length),
        Source.unread ((b :: bs).drop cfg.headerLen) s) := by
    rw [hsource, Source.read, htake]
  obtain ⟨hafter, _, hpend, hfail, _⟩ := Source.read_ready hread
  have hrest : (Source.unread ((b :: bs).drop cfg.headerLen) s).bytes = rest := by
    rw [hbytes] at hafter
    exact (List.append_cancel_left hafter).symm
  have hne : headOf crypto cfg.method sender salt sentAt length ≠ [] := by
    refine List.length_pos_iff.1 ?_
    rw [hhead, ReaderConfig.headerLen]
    omega
  obtain ⟨buffer, hbuffer⟩ : ∃ buffer, readHeaderBytes cfg w =
      (.ready (headOf crypto cfg.method sender salt sentAt length),
        w.fill buffer (Source.unread ((b :: bs).drop cfg.headerLen) s)) := by
    rw [readHeaderBytes, hread]
    exact ⟨_, rfl⟩
  -- the cipher is the one that the header was sealed with
  have hselect := h.selectCipher_eq blockCorrect salt
    (sealedHeader crypto cfg.method sender salt sentAt length)
    (w := w.fill buffer (Source.unread ((b :: bs).drop cfg.headerLen) s))
    (by simp [ReadWorld.fill, unopened.rest])
  have hopen : (crypto.cipher cfg.method sender.sealKey salt).decryptPacket
      (crypto.scheme cfg.method) (sealedHeader crypto cfg.method sender salt sentAt length) = _ :=
    Cipher.decryptPacket_encrypt correct _ _
  have hchunk : (headOf crypto cfg.method sender salt sentAt length).drop
      (crypto.saltLen cfg.method) = sender.identity crypto cfg.method salt ++
        sealedHeader crypto cfg.method sender salt sentAt length := List.drop_left' hsalt
  have hsalt' : (headOf crypto cfg.method sender salt sentAt length).take
      (crypto.saltLen cfg.method) = salt := List.take_left' hsalt
  have hparse := parseHeader_opens h hpos hts hlength
    ((sealedHeader crypto cfg.method sender salt sentAt length).drop
      (headerPlain sender.streamTy sentAt.unixSecs sender.requestSalt length).length)
    ((streamCipher crypto cfg.method sender salt).skip 1) timely (w := { w with
      reader := { w.reader with buffer := buffer, rest := { w.reader.rest with userKey := userKey } }
      source := Source.unread ((b :: bs).drop cfg.headerLen) s })
    hcontext (by simp [unopened.rest])
  refine ⟨_, Eq.trans ?_ hparse, rfl, ⟨rfl, rfl, rfl⟩, hrest, hpend, hfail⟩
  rw [pollReadHeader, PollM.bind_ready hbuffer, if_neg hne, if_neg (by rw [hhead]; simp), hchunk,
    hsalt']
  dsimp only
  rw [PollM.bind_ready hselect]
  simp only [hopen, if_true]
  rfl

end Header

/-! ## Round trip -/

section RoundTrip

variable {crypto : CryptoSuite K} {cfg : ReaderConfig crypto} {sender : Sender}
  {readerKey : Bytes} {userKey : Option Bytes} {salt : Bytes} {sentAt : Time}

/-- The reader over a stream whose header has opened. -/
def openedSpec (cfg : ReaderConfig crypto) (sender : Sender) (salt : Bytes) (sentAt : Time)
    (userKey : Option Bytes) (p : Bytes) (ps : List Bytes) :
    ReaderSpec K ReadHeader ReaderFields B :=
  { total := streamOf crypto cfg.method sender salt sentAt (p :: ps)
    allowed := fun _ => True
    Opened := fun head c e => head = headOf crypto cfg.method sender salt sentAt p.length ∧
      c = (streamCipher crypto cfg.method sender salt).skip 1 ∧ e = .data p.length
    HeadInv := fun _ _ _ => False
    RestInv := Reports sender salt userKey
    Admits := fun _ _ => True
    Fine := fun _ fields _ => Reports sender salt userKey fields
    HeadEnds := False
    HeadFails := False
    AfterFails := False }

theorem openedSpec_holds (p : Bytes) (ps : List Bytes) :
    (openedSpec (B := B) cfg sender salt sentAt userKey p ps).Holds (readProtocol cfg) where
  checkLength_ok _ := trivial
  checkLength_error h := by cases h
  fine_of_admits _ h := h
  rest_of_fine h := h
  afterData_ok h hdata := by
    cases hdata
    exact h
  afterData_error _ hdata := by cases hdata
  readHead _ _ _ _ := fun _ ⟨_, ⟨_, hfalse, _⟩, _⟩ => hfalse.elim

omit [BloomFilter B] in
theorem openedSpec_honest (correct : (crypto.scheme cfg.method).Correct) {p : Bytes}
    {ps : List Bytes} (small : ∀ q ∈ p :: ps, q.length < 65536) :
    (openedSpec (B := B) cfg sender salt sentAt userKey p ps).Honest (crypto.scheme cfg.method)
      (p :: ps) where
  correct := correct
  small q hq := ⟨small q hq, trivial⟩
  opened := by
    rintro head c e rest ⟨rfl, rfl, rfl⟩ htotal
    exact ⟨⟨p, rfl, rfl⟩, List.append_cancel_left htotal⟩
  not_headEnds := id
  not_headFails := id
  not_afterFails := id

/-- A poll that finds nothing yet leaves the reader unopened. -/
theorem pollRead_pending (cfg : ReaderConfig crypto) {w : ReadState K B}
    (unopened : Unopened readerKey w) (call : ReadCall B)
    {s : Source} (hsource : w.source = .pending :: s) :
    ∃ w' : ReadState K B, pollReadDecrypted cfg call w = (.pending, w') ∧
      Unopened readerKey w' ∧ w'.source = s := by
  obtain ⟨buffer, hbuffer⟩ : ∃ buffer,
      readHeaderBytes cfg { w with context := call.context } =
        (.pending, ({ w with context := call.context } : ReadState K B).fill buffer s) := by
    rw [readHeaderBytes, hsource, Source.read]
    exact ⟨_, rfl⟩
  refine ⟨({ w with context := call.context } : ReadState K B).fill buffer s,
    PollM.loop_pending (readRound_again _) ?_, ⟨unopened.state, unopened.rest⟩, rfl⟩
  rw [readRound, PollM.get_bind, unopened.state]
  exact PollM.bind_pending (PollM.bind_pending hbuffer _) _

/-- The poll that gets the header goes on like a poll of the opened reader. -/
theorem pollRead_opens (h : Session cfg sender readerKey userKey)
    (correct : (crypto.scheme cfg.method).Correct) (blockCorrect : crypto.BlockCorrect)
    (hpos : 0 < crypto.saltLen cfg.method) (hsalt : salt.length = crypto.saltLen cfg.method)
    (hts : sentAt.unixSecs < 2 ^ 64) {p : Bytes} {ps : List Bytes} (hp : p.length < 65536)
    {w : ReadState K B} (unopened : Unopened readerKey w) {call : ReadCall B}
    (timely : Timely cfg sentAt salt call) {b : UInt8} {bs : Bytes} {s : Source}
    (hsource : w.source = .data b bs :: s) (hone : cfg.headerLen ≤ bs.length + 1)
    (hbytes : w.source.bytes = streamOf crypto cfg.method sender salt sentAt (p :: ps)) :
    ∃ w' : ReadState K B,
      pollReadDecrypted cfg call w = pollReadDecrypted cfg { call with context := w'.context } w' ∧
      (openedSpec cfg sender salt sentAt userKey p ps).Between (crypto.scheme cfg.method) [] w' ∧
      w'.source.pendings = w.source.pendings ∧ w'.source.failures = w.source.failures := by
  obtain ⟨w₁, hread, hcipher, hreports, hrest, hpend, hfail⟩ :=
    pollReadHeader_opens h correct blockCorrect hpos hsalt hts hp timely
      (w := { w with context := call.context }) rfl ⟨unopened.state, unopened.rest⟩ hsource hone hbytes
  refine ⟨(w₁.enter (.reading (.data p.length))).setHandshaked,
    PollM.loop_again (readRound_again _) ?_, ?_, hpend, hfail⟩
  · rw [readRound, PollM.get_bind, unopened.state]
    exact PollM.bind_ready hread _
  · refine .reading (e := .data p.length) rfl hcipher ?_ (Nat.zero_le _) hreports
    refine ⟨_, _, _, [], ⟨rfl, rfl, rfl⟩, .start, ?_⟩
    change headOf _ _ _ _ _ _ ++ w₁.source.bytes = _
    rw [hrest]
    rfl

/-- **An unopened reader of a session's stream** delivers its payloads, whatever
    its transport does before the header comes. -/
theorem receive_unopened (h : Session cfg sender readerKey userKey)
    (correct : (crypto.scheme cfg.method).Correct) (blockCorrect : crypto.BlockCorrect)
    (hpos : 0 < crypto.saltLen cfg.method) (hsalt : salt.length = crypto.saltLen cfg.method)
    (hts : sentAt.unixSecs < 2 ^ 64) {p : Bytes} {ps : List Bytes}
    (small : ∀ q ∈ p :: ps, q.length < 65536) :
    ∀ (calls : List (ReadCall B)) (w : ReadState K B), Unopened readerKey w →
      w.source.bytes = streamOf crypto cfg.method sender salt sentAt (p :: ps) →
      w.source.failures = 0 → w.source.OpensWith cfg.headerLen →
      (∀ call ∈ calls, 0 < call.room) →
      (∀ call, w.source.firstRead calls = some call → Timely cfg sentAt salt call) →
      ReaderSpec.Delivery (p :: ps) (Reports sender salt userKey)
        (w.source.pendings + (streamOf crypto cfg.method sender salt sentAt (p :: ps)).length <
          calls.length)
        (receive (pollReadDecrypted cfg) calls w)
  | [], _, _, _, _, _, _, _ =>
    ⟨List.nil_prefix, .inl rfl, fun h => (nomatch h), fun h => (nomatch h)⟩
  | call :: calls, w, unopened, hbytes, hio, hone, hroom, htimely => by
    cases hs : w.source with
    | nil => exact (hs ▸ hone).elim
    | cons event s =>
      cases event with
      | fail e => exact (hs ▸ hone).elim
      | pending =>
        obtain ⟨w', hpoll, unopened', rfl⟩ := pollRead_pending cfg unopened call hs
        rw [hs] at hbytes hio hone htimely
        have ih := receive_unopened h correct blockCorrect hpos hsalt hts small calls w' unopened'
          hbytes hio hone (fun c hc => hroom c (List.mem_cons_of_mem _ hc)) htimely
        rw [receive, hpoll]
        exact ⟨ih.bytes, ih.ending, ih.complete, fun henough => ih.ends (by
          simp only [Source.pendings, List.length_cons] at henough
          omega)⟩
      | data b bs =>
        rw [hs] at hone
        obtain ⟨w', hpoll, hbetween, hpend, hfail⟩ := pollRead_opens h correct blockCorrect hpos hsalt
          hts (small p (List.mem_cons_self ..)) unopened (htimely call (by rw [hs]; rfl)) hs hone hbytes
        -- from here on it is a reader between chunks, in the context that the check has left
        have hreceive : receive (pollReadDecrypted cfg) (call :: calls) w =
            receive (pollReadDecrypted cfg) ({ call with context := w'.context } :: calls) w' := by
          simp only [receive, hpoll]
        have hroom' : ∀ c ∈ { call with context := w'.context } :: calls, 0 < c.room := by
          intro c hc
          rcases List.mem_cons.1 hc with rfl | hc
          · exact hroom call (List.mem_cons_self ..)
          · exact hroom c (List.mem_cons_of_mem _ hc)
        have hdelivery := ReaderSpec.receive_honest (openedSpec_holds p ps)
          (openedSpec_honest correct small) (fun c hc => ⟨hroom' c hc, trivial⟩) hbetween
          (hfail.trans hio)
        rw [hreceive, ← hs, ← hpend]
        exact hdelivery

/-- **Round trip.** A session's reader that gets the header in one read delivers
    the acknowledged bytes, in order and nothing else, and then a clean end of
    stream, whatever the transport's schedule on either side; it reports the
    request salt and the user. -/
theorem session_roundTrip (h : Session cfg sender readerKey userKey)
    (correct : (crypto.scheme cfg.method).Correct) (blockCorrect : crypto.BlockCorrect)
    (hpos : 0 < crypto.saltLen cfg.method) (hsalt : salt.length = crypto.saltLen cfg.method)
    (hts : sentAt.unixSecs < 2 ^ 64) {schedule : List WriteEvent} {buf : Bytes}
    {writes : List (Time × Bytes)} {acked : List (Bytes × Nat)}
    {w' : WriteWorld K AssembleHeader WriterFields}
    (hwrites : performs (pollWriteEncrypted crypto cfg.method) none ((sentAt, buf) :: writes)
      (writeStart crypto cfg.method sender salt schedule) = some (acked, w'))
    {w : ReadState K B} (hreader : w.reader = DecryptedReader.new crypto cfg.method readerKey)
    (hsource : w.source.bytes = w'.sink.wire) (hio : w.source.failures = 0)
    (hone : w.source.OpensWith cfg.headerLen) {calls : List (ReadCall B)}
    (hroom : ∀ call ∈ calls, 0 < call.room)
    (htimely : ∀ call, w.source.firstRead calls = some call → Timely cfg sentAt salt call) :
    Acked (writeProtocol crypto cfg.method) acked ∧
      ReaderSpec.Delivery (acknowledged acked) (Reports sender salt userKey)
        (w.source.pendings + w'.sink.wire.length < calls.length)
        (receive (pollReadDecrypted cfg) calls w) := by
  obtain ⟨hacked, hsome, hwire⟩ := wire_eq_streamOf crypto cfg.method sender salt sentAt hwrites
  refine ⟨hacked, ?_⟩
  have unopened : Unopened readerKey w := by
    simp only [DecryptedReader.new, if_pos hpos] at hreader
    exact ⟨by rw [hreader], by rw [hreader]⟩
  obtain ⟨a, rest, rfl⟩ := List.exists_cons_of_ne_nil hsome
  rw [hwire] at hsource ⊢
  exact receive_unopened h correct blockCorrect hpos hsalt hts
    (fun q hq => Nat.lt_succ_of_le (hacked.length_le q hq)) calls w unopened hsource hio hone hroom
    htimely

end RoundTrip

/-! ### A sample session -/

def sampleUser : ServerUser := { name := "user", key := [7] }

def sampleUsers : ServerUserManager .transparent := ServerUserManager.new.addUser sampleUser

/-- A multi-user server. -/
def sampleServer (method : CipherKind) : ReaderConfig .transparent :=
  { streamTy := .server, method := method, userManager := some sampleUsers }

/-- A client of that server. -/
def sampleSender : Sender :=
  { streamTy := .client, key := [7], identityKeys := [[5]], requestSalt := none, userKey := none }

def sampleSalt : Bytes := List.replicate 16 1

/-- Two payloads; the call for the first one is pending once and repeated. -/
def sampleWrites (method : CipherKind) :
    Option (List (Bytes × Nat) × WriteWorld (Bytes × Bytes) AssembleHeader WriterFields) :=
  performs (pollWriteEncrypted .transparent method) none
    [(100 * Time.second, [1, 2, 3]), (101 * Time.second, [1, 2, 3]), (102 * Time.second, [4])]
    (writeStart .transparent method sampleSender sampleSalt
      [.accept 5, .pending, .accept 100, .accept 9, .accept 100])

def sampleStream (method : CipherKind) : Bytes :=
  streamOf .transparent method sampleSender sampleSalt (100 * Time.second) [[1, 2, 3], [4]]

/-- A reader before it has read anything. -/
def sampleRead (method : CipherKind) (source : Source) : ReadState (Bytes × Bytes) ExactFilter :=
  { reader := DecryptedReader.new .transparent method [5]
    context := .new true .server .default
    source := source }

/-- The sample stream in two reads, the header being in the first. -/
def sampleSource : Source :=
  .pending :: Source.unread ((sampleStream .aead2022Blake3Aes128Gcm).take 61)
    (.pending :: Source.unread ((sampleStream .aead2022Blake3Aes128Gcm).drop 61) [])

def sampleCalls (context : Context ExactFilter) (n : Nat) : List (ReadCall ExactFilter) :=
  List.replicate n { now := 110 * Time.second, context := context, room := 2 }

theorem session_roundTrip_sample :
    Acked (writeProtocol .transparent .aead2022Blake3Aes128Gcm) [([1, 2, 3], 3), ([4], 1)] ∧
      ReaderSpec.Delivery (acknowledged [([1, 2, 3], 3), ([4], 1)])
        (Reports sampleSender sampleSalt (some [7]))
        (sampleSource.pendings + (sampleStream .aead2022Blake3Aes128Gcm).length <
          (sampleCalls (.new true .server .default) 200).length)
        (receive (pollReadDecrypted (sampleServer .aead2022Blake3Aes128Gcm))
          (sampleCalls (.new true .server .default) 200)
          (sampleRead .aead2022Blake3Aes128Gcm sampleSource)) := by
  have hsession : Session (sampleServer .aead2022Blake3Aes128Gcm) sampleSender [5] (some [7]) :=
    .userRequest rfl rfl rfl (show sampleUser ∈ sampleUsers.users by decide)
  have hwrites : sampleWrites .aead2022Blake3Aes128Gcm =
      some ([([1, 2, 3], 3), ([4], 1)],
        { writer := { state := .assemblePacket, cipher := { key := ([7], sampleSalt), nonce := 4 }
                      buffer := []
                      rest := { streamTy := .client, salt := sampleSalt, requestSalt := none } }
          sink := { schedule := [], wire := sampleStream .aead2022Blake3Aes128Gcm } }) := by rfl
  refine session_roundTrip hsession (CryptoSuite.transparent_correct _)
    CryptoSuite.transparent_blockCorrect (by decide) rfl (by decide) hwrites
    (w := sampleRead .aead2022Blake3Aes128Gcm sampleSource) rfl rfl rfl (by decide : 59 ≤ 61)
    (fun call hcall => ?_) fun call hcall => ?_
  · obtain rfl := List.eq_of_mem_replicate hcall
    decide
  · obtain rfl := Option.some.inj hcall
    exact ⟨by decide, rfl⟩

/-- Where the round trip ends otherwise.  A server that has seen the salt refuses
    the stream; and a method without identity headers ignores the identity key,
    so that the server opens the header with its own key and not the user's. -/
theorem session_roundTrip_refused :
    ((sampleWrites .aead2022Blake3Aes128Gcm).map fun r => (r.1, r.2.sink.wire)) =
      some ([([1, 2, 3], 3), ([4], 1)], sampleStream .aead2022Blake3Aes128Gcm) ∧
    (receive (pollReadDecrypted (sampleServer .aead2022Blake3Aes128Gcm))
      (sampleCalls ((Context.new true .server .default).checkNonceReplay (105 * Time.second)
        .aead2022Blake3Aes128Gcm sampleSalt).2 1)
      (sampleRead .aead2022Blake3Aes128Gcm
        (Source.unread (sampleStream .aead2022Blake3Aes128Gcm) []))).ending =
          .failed (.ioError Context.repeatedNonce) ∧
    ((sampleWrites .aead2022Blake3Chacha20Poly1305).map fun r => (r.1, r.2.sink.wire)) =
      some ([([1, 2, 3], 3), ([4], 1)], sampleStream .aead2022Blake3Chacha20Poly1305) ∧
    (receive (pollReadDecrypted (sampleServer .aead2022Blake3Chacha20Poly1305))
      (sampleCalls (.new true .server .default) 1)
      (sampleRead .aead2022Blake3Chacha20Poly1305
        (Source.unread (sampleStream .aead2022Blake3Chacha20Poly1305) []))).ending =
          .failed .decryptHeaderChunkError :=
  ⟨rfl, by decide +kernel, rfl, by decide +kernel⟩

end Shadowsocks.Tcp.Aead2022
