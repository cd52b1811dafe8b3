import Shadowsocks.Config
import Shadowsocks.Tcp.ChunkReader
import Shadowsocks.Tcp.ChunkWriter

/-! # AEAD-2022 streams

`tcprelay::aead_2022`: a stream is a salt, on the way to a multi-user server an
identity header, a sealed header with the length of the first payload, that
payload, and then chunks.
-/

namespace Shadowsocks.Tcp.Aead2022

open Shadowsocks.Lib

/-- `MAX_PACKET_SIZE`. -/
def maxPacketSize : Nat := 0xFFFF

/-- `StreamType`: the side a reader or a writer is on. -/
inductive StreamType where
  | client
  | server
deriving DecidableEq, Repr

/-- The stream type's byte in a header. -/
def StreamType.byte : StreamType → Nat
  | .client => 0
  | .server => 1

inductive ProtocolError where
  | ioError (e : IoError)
  | headerTooShort (expected found : Nat)
  | missingExtendedIdentityHeader
  | invalidClientUser (userHash : Bytes)
  | decryptHeaderChunkError
  | decryptDataError
  | decryptLengthError
  | invalidStreamType (expected found : Nat)
  | invalidTimestamp (timestamp now : Nat)
deriving DecidableEq, Repr

/-- The part of a derived subkey that keys the identity header's AES; the other
    methods have no identity header. -/
def eihKey? (method : CipherKind) (subKey : Bytes) : Option Bytes :=
  match method with
  | .aead2022Blake3Aes128Gcm => some (subKey.take 16)
  | .aead2022Blake3Aes256Gcm => some (subKey.take 32)
  | _ => none

/-! ## Reading -/

/-- The state `ReadHeader`. -/
structure ReadHeader where
  key : Bytes
deriving DecidableEq, Repr

/-- The reader's own fields that change; `data_chunk_count` is a `u64`. -/
structure ReaderFields where
  salt : Option Bytes
  requestSalt : Option Bytes
  dataChunkCount : Nat
  userKey : Option Bytes
deriving DecidableEq, Repr

variable {K B : Type} [BloomFilter B]

abbrev DecryptedReader (K : Type) := ChunkReader K ReadHeader ReaderFields

abbrev ReadState (K B : Type) := ReadWorld K ReadHeader ReaderFields B

/-- The reader's own fields that never change. -/
structure ReaderConfig (crypto : CryptoSuite K) where
  streamTy : StreamType
  method : CipherKind
  userManager : Option (ServerUserManager crypto)

/-- `with_user_manager`.  The stream type, the method and the users are in the
    configuration. -/
def DecryptedReader.new (crypto : CryptoSuite K) (method : CipherKind) (key : Bytes) :
    DecryptedReader K :=
  let rest : ReaderFields :=
    { salt := none, requestSalt := none, dataChunkCount := 0, userKey := none }
  if crypto.saltLen method > 0 then
    { state := .head { key := key }, cipher := none, buffer := [], hasHandshaked := false
      rest := rest }
  else
    { state := .head { key := [] }, cipher := some (crypto.cipher method key []), buffer := []
      hasHandshaked := false, rest := rest }

namespace ReaderConfig

variable {crypto : CryptoSuite K} (cfg : ReaderConfig crypto)

/-- A response carries the request's salt. -/
def requestSaltLen : Nat :=
  match cfg.streamTy with
  | .client => crypto.saltLen cfg.method
  | .server => 0

def requireEih : Bool :=
  cfg.streamTy = .server && methodSupportEih cfg.method && cfg.userManager.isSome

def eihLen : Nat := if cfg.requireEih then 16 else 0

/-- The size of everything that must arrive in one read. -/
def headerLen : Nat :=
  crypto.saltLen cfg.method + cfg.eihLen + 1 + 8 + cfg.requestSaltLen + 2 + crypto.tagLen cfg.method

def expectedStreamTy : Nat :=
  match cfg.streamTy with
  | .client => 1
  | .server => 0

end ReaderConfig

section Header

variable {crypto : CryptoSuite K} (cfg : ReaderConfig crypto)

/-- The one read of the header.  The buffer is grown to the header's size first;
    the header is opened in place, but nothing reads the buffer afterwards. -/
def readHeaderBytes : PollM (ReadState K B) ProtocolError Bytes := fun w =>
  let buffer := w.reader.buffer ++ List.replicate (cfg.headerLen - w.reader.buffer.length) 0
  match w.source.read cfg.headerLen with
  | (.ready bs, s) => (.ready bs, w.fill (bs ++ buffer.drop bs.length) s)
  | (.pending, s) => (.pending, w.fill buffer s)
  | (.failed e, s) => (.failed (.ioError e), w.fill buffer s)
  | (.panicked, s) => (.panicked, w.fill buffer s)

def setUserKey (key : Bytes) (w : ReadState K B) : ReadState K B :=
  { w with reader := { w.reader with rest := { w.reader.rest with userKey := some key } } }

/-- The cipher that opens the header, and the header without its identity part:
    a multi-user server finds the user by the identity header. -/
def selectCipher (key salt chunk : Bytes) :
    PollM (ReadState K B) ProtocolError (Cipher K × Bytes) :=
  if cfg.requireEih then
    match cfg.userManager, eihKey? cfg.method (crypto.deriveKey (key ++ salt)) with
    | some users, some eihKey =>
      if chunk.length < 16 then PollM.fail .missingExtendedIdentityHeader
      else
        let userHash := crypto.decryptBlock eihKey (chunk.take 16)
        match users.getUserByHash userHash with
        | none => PollM.fail (.invalidClientUser userHash)
        | some user =>
          PollM.update (setUserKey user.key) >>= fun _ =>
            pure (crypto.cipher cfg.method user.key salt, chunk.drop 16)
    | _, _ => PollM.crash
  else pure (crypto.cipher cfg.method key salt, chunk)

/-- A response's request salt is kept. -/
def noteRequestSalt (requestSalt : Bytes) (w : ReadState K B) : ReadState K B :=
  if cfg.requestSaltLen > 0 then
    { w with reader := { w.reader with
        rest := { w.reader.rest with requestSalt := some requestSalt } } }
  else w

/-- The replay check of a header.  Only the server makes it: a client knows its
    responses by the request salt. -/
def checkSalt (now : Time) (salt : Bytes) (context : Context B) :
    Except IoError Unit × Context B :=
  match cfg.streamTy with
  | .server => context.checkNonceReplay now cfg.method salt
  | .client => (.ok (), context)

/-- The header has been accepted. -/
def acceptHeader (salt : Bytes) (cipher : Cipher K) (w : ReadState K B) : ReadState K B :=
  { w with reader := { w.reader with
      cipher := some cipher
      rest := { w.reader.rest with salt := some salt } } }

/-- The last checks of an opened header. -/
def finishHeader (now : Time) (salt : Bytes) (cipher : Cipher K) (length : Nat) :
    PollM (ReadState K B) ProtocolError (Option Expect) :=
  PollM.get >>= fun w =>
    let r := checkSalt cfg now salt w.context
    PollM.update (fun w => { w with context := r.2 }) >>= fun _ =>
      match r.1 with
      | .error e => PollM.fail (.ioError e)
      | .ok () =>
        PollM.update (acceptHeader salt cipher) >>= fun _ => pure (some (.data length))

/-- The fields of an opened header, in the order they are checked. -/
def parseHeader (now : Time) (salt header : Bytes) (cipher : Cipher K) :
    PollM (ReadState K B) ProtocolError (Option Expect) :=
  if fromBigEndian (header.take 1) ≠ cfg.expectedStreamTy then
    PollM.fail (.invalidStreamType cfg.expectedStreamTy (fromBigEndian (header.take 1)))
  else if absDiff now.unixSecs (fromBigEndian ((header.drop 1).take 8)) >
      serverStreamTimestampMaxDiff then
    PollM.fail (.invalidTimestamp (fromBigEndian ((header.drop 1).take 8)) now.unixSecs)
  else
    PollM.update (noteRequestSalt cfg ((header.drop 9).take cfg.requestSaltLen)) >>= fun _ =>
      finishHeader cfg now salt cipher
        (fromBigEndian ((header.drop (9 + cfg.requestSaltLen)).take 2))

/-- `poll_read_header`. -/
def pollReadHeader (now : Time) (key : Bytes) :
    PollM (ReadState K B) ProtocolError (Option Expect) :=
  readHeaderBytes cfg >>= fun header =>
    if header = [] then pure none
    else if header.length ≠ cfg.headerLen then
      PollM.fail (.headerTooShort cfg.headerLen header.length)
    else
      let salt := header.take (crypto.saltLen cfg.method)
      selectCipher cfg key salt (header.drop (crypto.saltLen cfg.method)) >>= fun r =>
        let opened := r.1.decryptPacket (crypto.scheme cfg.method) r.2
        if opened.1 then parseHeader cfg now salt opened.2.1 opened.2.2
        else PollM.fail .decryptHeaderChunkError

omit [BloomFilter B] in
theorem readHeaderBytes_stock (N : Nat) :
    Triple (fun w : ReadState K B => w.source.bytes.length ≤ N) (readHeaderBytes cfg)
      (Post.ifReady fun _ w => w.source.bytes.length ≤ N) := by
  intro w hw
  unfold readHeaderBytes
  cases hr : w.source.read cfg.headerLen with
  | mk r s =>
    cases r with
    | ready bs =>
      have := congrArg List.length (Source.read_ready hr).1
      rw [List.length_append] at this
      change s.bytes.length ≤ N
      omega
    | pending => trivial
    | failed e => trivial
    | panicked => trivial

omit [BloomFilter B] in
theorem selectCipher_stock (key salt chunk : Bytes) (N : Nat) :
    Triple (fun w : ReadState K B => w.source.bytes.length ≤ N) (selectCipher cfg key salt chunk)
      (Post.ifReady fun _ w => w.source.bytes.length ≤ N) := by
  unfold selectCipher
  split
  · cases cfg.userManager with
    | none => exact Triple.crash fun _ _ => trivial
    | some users =>
      cases eihKey? cfg.method (crypto.deriveKey (key ++ salt)) with
      | none => exact Triple.crash fun _ _ => trivial
      | some eihKey =>
        dsimp only
        split
        · exact Triple.fail fun _ _ => trivial
        · cases users.getUserByHash (crypto.decryptBlock eihKey (chunk.take 16)) with
          | none => exact Triple.fail fun _ _ => trivial
          | some user => exact fun w hw => hw
  · exact Triple.pure fun _ h => h

theorem finishHeader_stock (now : Time) (salt : Bytes) (cipher : Cipher K) (length N : Nat) :
    Triple (fun w : ReadState K B => w.source.bytes.length ≤ N)
      (finishHeader cfg now salt cipher length)
      (Post.ifReady fun _ w => w.source.bytes.length ≤ N) := by
  refine Triple.get fun w hw => ?_
  cases hr : (checkSalt cfg now salt w.context).1 with
  | error e => trivial
  | ok _ => exact hw

theorem parseHeader_stock (now : Time) (salt header : Bytes) (cipher : Cipher K) (N : Nat) :
    Triple (fun w : ReadState K B => w.source.bytes.length ≤ N)
      (parseHeader cfg now salt header cipher)
      (Post.ifReady fun _ w => w.source.bytes.length ≤ N) := by
  unfold parseHeader
  split
  · exact Triple.fail fun _ _ => trivial
  · split
    · exact Triple.fail fun _ _ => trivial
    · refine Triple.update (M := fun w => w.source.bytes.length ≤ N) (fun w hw => ?_)
        (finishHeader_stock cfg now salt cipher _ N)
      unfold noteRequestSalt
      split <;> exact hw

theorem pollReadHeader_stock (now : Time) (key : Bytes) (N : Nat) :
    Triple (fun w : ReadState K B => w.source.bytes.length ≤ N) (pollReadHeader cfg now key)
      (Post.ifReady fun _ w => w.source.bytes.length ≤ N) := by
  refine Triple.bind (readHeaderBytes_stock cfg N) fun header => ?_
  split
  · exact Triple.pure fun _ h => h
  · split
    · exact Triple.fail fun _ _ => trivial
    · refine Triple.bind (selectCipher_stock cfg _ _ _ N) fun r => ?_
      dsimp only
      split
      · exact parseHeader_stock cfg now _ _ _ N
      · exact Triple.fail fun _ _ => trivial

def readProtocol : ChunkProtocol K ReadHeader ReaderFields B ProtocolError where
  scheme := crypto.scheme cfg.method
  ioError := .ioError
  decryptLengthError := .decryptLengthError
  decryptDataError := .decryptDataError
  checkLength _ := .ok ()
  readHead now h := pollReadHeader cfg now h.key
  afterData _ fields context :=
    (.ok (), { fields with dataChunkCount := (fields.dataChunkCount + 1) % 2 ^ 64 }, context)
  readHead_stock {now h w _ _} hr :=
    (pollReadHeader_stock cfg now h.key w.stock).of_ready (Nat.le_add_right _ _) hr

/-- `DecryptedReader::poll_read_decrypted`. -/
def pollReadDecrypted (call : ReadCall B) : PollM (ReadState K B) ProtocolError Bytes :=
  pollRead (readProtocol cfg) call

end Header

/-! ## Writing -/

/-- The state `AssembleHeader`. -/
inductive AssembleHeader where
  | assembleHeader
deriving DecidableEq, Repr

/-- The writer's own fields. -/
structure WriterFields where
  streamTy : StreamType
  salt : Bytes
  requestSalt : Option Bytes
deriving DecidableEq, Repr

abbrev EncryptedWriter (K : Type) := ChunkWriter K AssembleHeader WriterFields

/-- `make_eih`: the identity header of a key under a subkey; nothing for the
    methods that have none, where the code does not come. -/
def makeEih (crypto : CryptoSuite K) (method : CipherKind) (subKey ipsk : Bytes) : Bytes :=
  match eihKey? method subKey with
  | some eihKey => crypto.encryptBlock eihKey ((crypto.hash ipsk).take 16)
  | none => []

/-- The identity headers of a chain of keys: each key's under the subkey of the
    one before, the last one being the client's own. -/
def identityHeaders (crypto : CryptoSuite K) (method : CipherKind) (key nonce : Bytes) :
    (subKey : Option Bytes) → (identityKeys : List Bytes) → Bytes
  | none, [] => []
  | some subKey, [] => makeEih crypto method subKey key
  | none, ipsk :: rest =>
    identityHeaders crypto method key nonce (some (crypto.deriveKey (ipsk ++ nonce))) rest
  | some subKey, ipsk :: rest =>
    makeEih crypto method subKey ipsk ++
      identityHeaders crypto method key nonce (some (crypto.deriveKey (ipsk ++ nonce))) rest

/-- `with_identity`. -/
def EncryptedWriter.withIdentity (crypto : CryptoSuite K) (streamTy : StreamType)
    (method : CipherKind) (key nonce : Bytes) (identityKeys : List Bytes) : EncryptedWriter K :=
  { state := .head .assembleHeader
    cipher := crypto.cipher method key nonce
    buffer := nonce ++ if streamTy = .client && methodSupportEih method then
      identityHeaders crypto method key nonce none identityKeys else []
    rest := { streamTy := streamTy, salt := nonce, requestSalt := none } }

/-- `set_request_salt`. -/
def EncryptedWriter.setRequestSalt (requestSalt : Bytes) (w : EncryptedWriter K) :
    EncryptedWriter K :=
  { w with rest := { w.rest with requestSalt := some requestSalt } }

/-- `reset_cipher_with_key`. -/
def EncryptedWriter.resetCipherWithKey (crypto : CryptoSuite K) (method : CipherKind) (key : Bytes)
    (w : EncryptedWriter K) : EncryptedWriter K :=
  { w with cipher := crypto.cipher method key w.rest.salt }

/-- The plaintext of the header. -/
def headerPlain (streamTy : StreamType) (timestamp : Nat) (requestSalt : Option Bytes)
    (length : Nat) : Bytes :=
  bigEndian 1 streamTy.byte ++
    (bigEndian 8 timestamp ++ (requestSalt.getD [] ++ bigEndian 2 length))

/-- The header and the first payload, behind what the buffer holds already. -/
def assembleHeader (scheme : AeadScheme K) (now : Time) (buf : Bytes) (w : EncryptedWriter K) :
    Bytes × Cipher K :=
  let header := w.cipher.encryptPacket scheme
    (headerPlain w.rest.streamTy now.unixSecs w.rest.requestSalt buf.length)
  let data := header.2.encryptPacket scheme buf
  (w.buffer ++ header.1 ++ data.1, data.2)

def writeProtocol (crypto : CryptoSuite K) (method : CipherKind) :
    WriteProtocol K AssembleHeader WriterFields where
  scheme := crypto.scheme method
  maxPacketSize := maxPacketSize
  assembleHead now _ buf w := assembleHeader (crypto.scheme method) now buf w

/-- `EncryptedWriter::poll_write_encrypted`. -/
def pollWriteEncrypted (crypto : CryptoSuite K) (method : CipherKind) (now : Time) (buf : Bytes) :
    PollM (WriteWorld K AssembleHeader WriterFields) IoError Nat :=
  Tcp.pollWriteEncrypted (writeProtocol crypto method) now buf

end Shadowsocks.Tcp.Aead2022
