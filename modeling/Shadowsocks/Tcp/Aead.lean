import Shadowsocks.Tcp.ChunkReader
import Shadowsocks.Tcp.ChunkWriter

/-! # AEAD (v1) streams

`tcprelay::aead`: a stream is a salt and then chunks.
-/

namespace Shadowsocks.Tcp.Aead

open Shadowsocks.Lib

/-- `MAX_PACKET_SIZE`. -/
def maxPacketSize : Nat := 0x3FFF

/-- `ProtocolError`; `HeaderTooShort` is never built. -/
inductive ProtocolError where
  | ioError (e : IoError)
  | decryptDataError
  | decryptLengthError
  | dataTooLong (plen : Nat)
deriving DecidableEq, Repr

/-! ## Reading -/

/-- The state `WaitSalt`. -/
structure WaitSalt where
  key : Bytes
deriving DecidableEq, Repr

/-- The reader's own field: the salt, until it has been checked. -/
structure ReaderFields where
  salt : Option Bytes
deriving DecidableEq, Repr

variable {K B : Type} [BloomFilter B]

abbrev DecryptedReader (K : Type) := ChunkReader K WaitSalt ReaderFields

abbrev ReadState (K B : Type) := ReadWorld K WaitSalt ReaderFields B

def DecryptedReader.new (crypto : CryptoSuite K) (method : CipherKind) (key : Bytes) :
    DecryptedReader K :=
  if crypto.saltLen method > 0 then
    { state := .head { key := key }
      cipher := none
      buffer := []
      hasHandshaked := false
      rest := { salt := none } }
  else
    { state := .readLength
      cipher := some (crypto.cipher method key [])
      buffer := []
      hasHandshaked := false
      rest := { salt := none } }

/-- The salt has been read: it is kept for the replay check and keys the cipher. -/
def takeSalt (crypto : CryptoSuite K) (method : CipherKind) (key salt : Bytes)
    (w : ReadState K B) : ReadState K B :=
  { w with reader := { w.reader with
      cipher := some (crypto.cipher method key salt)
      rest := { salt := some salt } } }

/-- `poll_read_salt`. -/
def pollReadSalt (crypto : CryptoSuite K) (method : CipherKind) (key : Bytes) :
    PollM (ReadState K B) ProtocolError Unit :=
  (pollReadExact (crypto.saltLen method)).mapErr .ioError >>= fun n =>
    if n < crypto.saltLen method then PollM.fail (.ioError .unexpectedEof)
    else PollM.update fun w =>
      takeSalt crypto method key (w.reader.buffer.take (crypto.saltLen method)) w

/-- The salt is checked once, after the first payload has opened, so that nobody
    can fill the filter with salts that key nothing. -/
def checkSalt (method : CipherKind) (now : Time) (fields : ReaderFields) (context : Context B) :
    Except ProtocolError Unit × ReaderFields × Context B :=
  match fields.salt with
  | some salt =>
    let r := context.checkNonceReplay now method salt
    (r.1.mapError .ioError, { salt := none }, r.2)
  | none => (.ok (), fields, context)

def checkLength (plen : Nat) : Except ProtocolError Unit :=
  if plen > maxPacketSize then .error (.dataTooLong plen) else .ok ()

def readProtocol (crypto : CryptoSuite K) (method : CipherKind) :
    ChunkProtocol K WaitSalt ReaderFields B ProtocolError where
  scheme := crypto.scheme method
  ioError := .ioError
  decryptLengthError := .decryptLengthError
  decryptDataError := .decryptDataError
  checkLength := checkLength
  readHead _ h := pollReadSalt crypto method h.key >>= fun _ => pure (some .length)
  afterData := checkSalt method
  readHead_stock {now h w e w'} hr := by
    have hstock : Triple (fun v => v.stock = w.stock) (pollReadSalt crypto method h.key)
        (Post.ifReady fun _ (v : ReadState K B) => v.source.bytes.length ≤ w.stock) := by
      refine Triple.bind (Triple.mapErr (pollReadExact_stock _ w.stock)) fun n => ?_
      split
      · exact Triple.fail fun _ _ => trivial
      · rintro v ⟨hv, _⟩
        change v.source.bytes.length ≤ w.stock
        rw [← hv]
        exact Nat.le_add_right _ _
    have hhead : Triple (fun v => v.stock = w.stock)
        (pollReadSalt crypto method h.key >>= fun _ => pure (some Expect.length))
        (Post.ifReady fun _ (v : ReadState K B) => v.source.bytes.length ≤ w.stock) :=
      Triple.bind hstock fun _ => Triple.pure fun _ h => h
    exact hhead.of_ready rfl hr

/-- `DecryptedReader::poll_read_decrypted`. -/
def pollReadDecrypted (crypto : CryptoSuite K) (method : CipherKind) (call : ReadCall B) :
    PollM (ReadState K B) ProtocolError Bytes :=
  pollRead (readProtocol crypto method) call

/-! ## Writing -/

/-- The writer's own field. -/
structure WriterFields where
  salt : Bytes
deriving DecidableEq, Repr

abbrev EncryptedWriter (K : Type) := ChunkWriter K Empty WriterFields

/-- The nonce goes out in front of the first chunk. -/
def EncryptedWriter.new (crypto : CryptoSuite K) (method : CipherKind) (key nonce : Bytes) :
    EncryptedWriter K :=
  { state := .assemblePacket
    cipher := crypto.cipher method key nonce
    buffer := nonce
    rest := { salt := nonce } }

def writeProtocol (crypto : CryptoSuite K) (method : CipherKind) :
    WriteProtocol K Empty WriterFields where
  scheme := crypto.scheme method
  maxPacketSize := maxPacketSize
  assembleHead _ h := h.elim

/-- `EncryptedWriter::poll_write_encrypted`. -/
def pollWriteEncrypted (crypto : CryptoSuite K) (method : CipherKind) (now : Time) (buf : Bytes) :
    PollM (WriteWorld K Empty WriterFields) IoError Nat :=
  Tcp.pollWriteEncrypted (writeProtocol crypto method) now buf

end Shadowsocks.Tcp.Aead
