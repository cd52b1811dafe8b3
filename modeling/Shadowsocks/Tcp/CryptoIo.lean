import Shadowsocks.Tcp.Aead
import Shadowsocks.Tcp.Aead2022
import Shadowsocks.Tcp.Stream

/-! # Encrypted streams of any method

`tcprelay::crypto_io`: the reader and the writer of a method, chosen by its category, and the
stream that joins them to a transport.  The method, the side and the users never change; they are
the configuration `cfg` of all three.
-/

namespace Shadowsocks.Tcp.CryptoIo

open Shadowsocks.Lib

inductive ProtocolError where
  | ioError (e : IoError)
  | streamError (e : Stream.ProtocolError)
  | aeadError (e : Aead.ProtocolError)
  | aead2022Error (e : Aead2022.ProtocolError)
deriving DecidableEq, Repr

/-- What the proxy streams return as an `io::Error`: one of the transport, one that a protocol
    error was converted to, or the one of a response that answers another request. -/
inductive Failure where
  | io (e : IoError)
  | protocol (e : ProtocolError)
  | unmatchedSalt
deriving DecidableEq, Repr

/-- `From<ProtocolError> for io::Error`. -/
def ProtocolError.toFailure : ProtocolError → Failure
  | .ioError e => .io e
  | .streamError (.ioError e) => .io e
  | .aeadError (.ioError e) => .io e
  | .aead2022Error (.ioError e) => .io e
  | e => .protocol e

variable {K S B : Type} [BloomFilter B]

/-! ## The reader -/

inductive DecryptedReader (K S : Type) where
  | none
  | aead (reader : Aead.DecryptedReader K)
  | stream (reader : Stream.DecryptedReader S)
  | aead2022 (reader : Aead2022.DecryptedReader K)

namespace DecryptedReader

/-- `with_user_manager`. -/
def withUserManager {crypto : CryptoSuite K} (cfg : Aead2022.ReaderConfig crypto)
    (suite : Stream.StreamSuite S) (key : Bytes) : DecryptedReader K S :=
  match cfg.method.category with
  | .stream => .stream (.new suite cfg.method key)
  | .aead => .aead (.new crypto cfg.method key)
  | .none => .none
  | .aead2022 => .aead2022 (.new crypto cfg.method key)

/-- The received IV or salt. -/
def nonce : DecryptedReader K S → Option Bytes
  | .stream reader => reader.iv
  | .aead reader => reader.rest.salt
  | .none => Option.none
  | .aead2022 reader => reader.rest.salt

/-- The received request salt, unless it is empty. -/
def requestNonce : DecryptedReader K S → Option Bytes
  | .stream _ => Option.none
  | .aead _ => Option.none
  | .none => Option.none
  | .aead2022 reader => reader.rest.requestSalt.filter (· ≠ [])

def userKey : DecryptedReader K S → Option Bytes
  | .stream _ => Option.none
  | .aead _ => Option.none
  | .none => Option.none
  | .aead2022 reader => reader.rest.userKey

def handshaked : DecryptedReader K S → Bool
  | .stream reader => reader.hasHandshaked
  | .aead reader => reader.hasHandshaked
  | .none => true
  | .aead2022 reader => reader.hasHandshaked

end DecryptedReader

/-! ## The writer -/

inductive EncryptedWriter (K S : Type) where
  | none
  | aead (writer : Aead.EncryptedWriter K)
  | stream (writer : Stream.EncryptedWriter S)
  | aead2022 (writer : Aead2022.EncryptedWriter K)

namespace EncryptedWriter

/-- `with_identity`. -/
def withIdentity {crypto : CryptoSuite K} (cfg : Aead2022.ReaderConfig crypto)
    (suite : Stream.StreamSuite S) (key nonce : Bytes) (identityKeys : List Bytes) :
    EncryptedWriter K S :=
  match cfg.method.category with
  | .stream => .stream (.new suite cfg.method key nonce)
  | .aead => .aead (.new crypto cfg.method key nonce)
  | .none => .none
  | .aead2022 =>
    .aead2022 (.withIdentity crypto cfg.streamTy cfg.method key nonce identityKeys)

/-- The IV or the salt that is sent. -/
def nonce : EncryptedWriter K S → Bytes
  | .stream writer => writer.iv
  | .aead writer => writer.rest.salt
  | .none => []
  | .aead2022 writer => writer.rest.salt

/-- `set_request_nonce`, which panics for the other categories. -/
def setRequestNonce (requestNonce : Bytes) : EncryptedWriter K S → Option (EncryptedWriter K S)
  | .aead2022 writer => some (.aead2022 (writer.setRequestSalt requestNonce))
  | .aead _ => Option.none
  | .stream _ => Option.none
  | .none => Option.none

/-- `reset_cipher_with_key`, which panics for the other categories. -/
def resetCipherWithKey (crypto : CryptoSuite K) (method : CipherKind) (key : Bytes) :
    EncryptedWriter K S → Option (EncryptedWriter K S)
  | .aead2022 writer => some (.aead2022 (writer.resetCipherWithKey crypto method key))
  | .aead _ => Option.none
  | .stream _ => Option.none
  | .none => Option.none

end EncryptedWriter

/-! ## The stream -/

/-- `CryptoStream`, with the two directions of its transport and the context as the last poll
    left it. -/
structure CryptoStream (K S B : Type) where
  source : Source
  sink : Sink
  dec : DecryptedReader K S
  enc : EncryptedWriter K S
  hasHandshaked : Bool
  context : Context B

namespace CryptoStream

variable {crypto : CryptoSuite K} (cfg : Aead2022.ReaderConfig crypto)
  (suite : Stream.StreamSuite S)

/-- `from_stream_with_identity`; `nonce` is the IV or the salt that was drawn.  The fast path of
    the method without a cipher ends with the same reader and writer. -/
def fromStreamWithIdentity (context : Context B) (source : Source) (sink : Sink)
    (key nonce : Bytes) (identityKeys : List Bytes) : CryptoStream K S B :=
  { source := source
    sink := sink
    dec := .withUserManager cfg suite key
    enc := .withIdentity cfg suite key nonce identityKeys
    hasHandshaked := false
    context := context }

/-- `received_nonce`. -/
def receivedNonce (s : CryptoStream K S B) : Option Bytes := s.dec.nonce

/-- `sent_nonce`. -/
def sentNonce (s : CryptoStream K S B) : Bytes := s.enc.nonce

/-- `received_request_nonce`. -/
def receivedRequestNonce (s : CryptoStream K S B) : Option Bytes := s.dec.requestNonce

/-- `set_request_nonce_with_received`: the writer, once the reader has a nonce. -/
def setRequestNonceWithReceived : PollM (CryptoStream K S B) Failure Bool := fun s =>
  match s.dec.nonce with
  | none => (.ready false, s)
  | some nonce =>
    match s.enc.setRequestNonce nonce with
    | some enc => (.ready true, { s with enc := enc })
    | none => (.panicked, s)

/-- The first part of `current_data_chunk_remaining`, which panics for the other categories. -/
def dataChunkCount : PollM (CryptoStream K S B) Failure Nat := fun s =>
  match s.dec with
  | .aead2022 reader => (.ready reader.rest.dataChunkCount, s)
  | .aead _ => (.panicked, s)
  | .stream _ => (.panicked, s)
  | .none => (.panicked, s)

/-- `DecryptedReader::poll_read_decrypted` on the stream's transport. -/
def pollDec (call : ReadCall B) : PollM (CryptoStream K S B) ProtocolError Bytes := fun s =>
  match s.dec with
  | .stream reader =>
    (PollM.mapErr .streamError (Stream.pollReadDecrypted suite cfg.method call.now call.room)).on
      { reader := reader, context := call.context, source := s.source }
      fun w => { s with dec := .stream w.reader, source := w.source, context := w.context }
  | .aead reader =>
    (PollM.mapErr .aeadError (Aead.pollReadDecrypted crypto cfg.method call)).on
      { reader := reader, context := call.context, source := s.source }
      fun w => { s with dec := .aead w.reader, source := w.source, context := w.context }
  | .none =>
    (PollM.mapErr .ioError (Source.read call.room)).on s.source
      fun source => { s with source := source, context := call.context }
  | .aead2022 reader =>
    (PollM.mapErr .aead2022Error (Aead2022.pollReadDecrypted cfg call)).on
      { reader := reader, context := call.context, source := s.source }
      fun w => { s with dec := .aead2022 w.reader, source := w.source, context := w.context }

/-- The first poll that is ready after the handshake: the writer goes over to the key of the
    user, if there is one. -/
def noteHandshake : PollM (CryptoStream K S B) ProtocolError Unit := fun s =>
  if s.hasHandshaked = false ∧ s.dec.handshaked then
    let s' := { s with hasHandshaked := true }
    match s.dec.userKey with
    | none => (.ready (), s')
    | some key =>
      match s.enc.resetCipherWithKey crypto cfg.method key with
      | some enc => (.ready (), { s' with enc := enc })
      | none => (.panicked, s')
  else (.ready (), s)

/-- `poll_read_decrypted`. -/
def pollReadDecrypted (call : ReadCall B) : PollM (CryptoStream K S B) ProtocolError Bytes :=
  pollDec cfg suite call >>= fun out => noteHandshake cfg >>= fun _ => pure out

/-- `poll_write_encrypted`. -/
def pollWriteEncrypted (now : Time) (buf : Bytes) : PollM (CryptoStream K S B) ProtocolError Nat :=
  fun s =>
    match s.enc with
    | .stream writer =>
      (PollM.mapErr (fun e => .streamError (.ioError e)) (Stream.pollWriteEncrypted suite buf)).on
        { writer := writer, sink := s.sink }
        fun w => { s with enc := .stream w.writer, sink := w.sink }
    | .aead writer =>
      (PollM.mapErr (fun e => .aeadError (.ioError e))
        (Aead.pollWriteEncrypted crypto cfg.method now buf)).on
        { writer := writer, sink := s.sink }
        fun w => { s with enc := .aead w.writer, sink := w.sink }
    | .none =>
      (PollM.mapErr .ioError (Sink.write buf)).on s.sink fun sink => { s with sink := sink }
    | .aead2022 writer =>
      (PollM.mapErr (fun e => .aead2022Error (.ioError e))
        (Aead2022.pollWriteEncrypted crypto cfg.method now buf)).on
        { writer := writer, sink := s.sink }
        fun w => { s with enc := .aead2022 w.writer, sink := w.sink }

end CryptoStream

end Shadowsocks.Tcp.CryptoIo
