import Shadowsocks.Tcp.Stream
import Shadowsocks.Udp.Aead2022
import Shadowsocks.Udp.ProxySocket

/-! # Datagrams of the older methods

`udprelay::{crypto_io, stream, aead}`: a datagram is a salt or IV (the plain method has none) and
the sealed address and payload.  It is opened where it stands, and its payload is moved to the
front of the buffer.  A decoder is a poll function on that buffer (`decrypt_encrypt`).
-/

namespace Shadowsocks.Udp.CryptoIo

open Shadowsocks.Lib Shadowsocks.Net
open Shadowsocks.Tcp.Stream (StreamSuite)

inductive StreamError where
  | packetTooShort (expected found : Nat)
  | invalidAddress (e : Socks5.Error)
deriving DecidableEq, Repr

inductive AeadError where
  | packetTooShortForSalt (expected found : Nat)
  | packetTooShortForTag (expected found : Nat)
  | invalidAddress (e : Socks5.Error)
  | decryptPayloadError
deriving DecidableEq, Repr

inductive ProtocolError where
  | invalidAddress (e : Socks5.Error)
  | streamError (e : StreamError)
  | aeadError (e : AeadError)
  | aead2022Error (e : Aead2022.ProtocolError)
deriving DecidableEq, Repr

/-! ## Buffers -/

section Buffers

variable {ε : Type}

/-- `resize(len, 0)`. -/
def resize (len : Nat) (buf : Bytes) : Bytes :=
  buf.take len ++ List.replicate (len - buf.length) 0

/-- What `generate_nonce` leaves of a buffer: the nonce, in place of its first bytes. -/
def generateNonce (nonce buf : Bytes) : Bytes := nonce ++ buf.drop nonce.length

/-- `copy_within(start..stop, 0)`, which panics on a range that is not there. -/
def copyWithin (start stop : Nat) : PollM Bytes ε Unit := fun buf =>
  if start ≤ stop ∧ stop ≤ buf.length then
    let moved := (buf.take stop).drop start
    (.ready (), moved ++ buf.drop moved.length)
  else (.panicked, buf)

/-- `parse_packet`: how much of a packet is its address. -/
def parsePacket (invalidAddress : Socks5.Error → ε) (packet : Bytes) :
    PollM Bytes ε (Nat × Address) := fun buf =>
  match Address.readCursor packet with
  | (.ready address, rest) => (.ready (packet.length - rest.length, address), buf)
  | (.pending, _) => (.pending, buf)
  | (.failed err, _) => (.failed (invalidAddress err), buf)
  | (.panicked, _) => (.panicked, buf)

end Buffers

/-! ## Stream ciphers -/

section StreamCiphers

variable {S : Type} (suite : StreamSuite S) (method : CipherKind)

/-- `encrypt_payload_stream`, with the IV that it draws. -/
def encryptPayloadStream (key : Bytes) (addr : Address) (payload iv dst : Bytes) : Option Bytes :=
  let ivLen := suite.ivLen method
  let dst := resize ivLen dst
  let dst := if ivLen > 0 then generateNonce iv dst else dst
  addr.writeToBuf.map fun address =>
    let packet := dst ++ address ++ payload
    let cipher := suite.cipher method key (dst.take ivLen)
    packet.take ivLen ++ (suite.encryptPacket cipher (packet.drop ivLen)).1

def decryptPayloadStream (key : Bytes) : PollM Bytes StreamError (Nat × Address) :=
  PollM.get >>= fun payload =>
    let plen := payload.length
    let ivLen := suite.ivLen method
    if plen < ivLen then PollM.fail (.packetTooShort ivLen plen)
    else
      let iv := payload.take ivLen
      let opened := suite.decryptPacket (suite.cipher method key iv) (payload.drop ivLen)
      let data := opened.2.1
      PollM.update (fun _ => iv ++ data) >>= fun _ =>
        -- `assert!`
        if opened.1 = false then PollM.crash
        else parsePacket .invalidAddress data >>= fun (dn, addr) =>
          let dataStartIdx := ivLen + dn
          let dataLength := plen - dataStartIdx
          copyWithin dataStartIdx plen >>= fun _ => pure (dataLength, addr)

end StreamCiphers

/-! ## AEAD ciphers -/

section AeadCiphers

variable {K : Type} (crypto : CryptoSuite K) (method : CipherKind)

/-- `encrypt_payload_aead`, with the salt that it draws.  The room for the tag is the cipher's to
    fill. -/
def encryptPayloadAead (key : Bytes) (addr : Address) (payload salt dst : Bytes) : Option Bytes :=
  let saltLen := crypto.saltLen method
  let dst := resize saltLen dst
  let dst := if saltLen > 0 then generateNonce salt dst else dst
  addr.writeToBuf.map fun address =>
    let packet := dst ++ address ++ payload
    let cipher := crypto.cipher method key (dst.take saltLen)
    packet.take saltLen ++ (cipher.encryptPacket (crypto.scheme method) (packet.drop saltLen)).1

def decryptPayloadAead (key : Bytes) : PollM Bytes AeadError (Nat × Address) :=
  PollM.get >>= fun payload =>
    let plen := payload.length
    let saltLen := crypto.saltLen method
    if plen < saltLen then PollM.fail (.packetTooShortForSalt saltLen plen)
    else
      let salt := payload.take saltLen
      let data := payload.drop saltLen
      let cipher := crypto.cipher method key salt
      let tagLen := crypto.tagLen method
      if data.length < tagLen then PollM.fail (.packetTooShortForTag tagLen data.length)
      else
        let opened := cipher.decryptPacket (crypto.scheme method) data
        PollM.update (fun _ => salt ++ opened.2.1) >>= fun _ =>
          if opened.1 = false then PollM.fail .decryptPayloadError
          else
            let dataLen := data.length - tagLen
            parsePacket .invalidAddress (opened.2.1.take dataLen) >>= fun (dn, addr) =>
              let dataLength := dataLen - dn
              let dataStartIdx := saltLen + dn
              let dataEndIdx := dataStartIdx + dataLength
              copyWithin dataStartIdx dataEndIdx >>= fun _ => pure (dataLength, addr)

end AeadCiphers

/-! ## All methods -/

section Methods

variable {K S : Type} (crypto : CryptoSuite K) (suite : StreamSuite S) (method : CipherKind)

/-- The plain method. -/
def decryptPayloadNone : PollM Bytes ProtocolError (Nat × Address) :=
  PollM.get >>= fun payload => parsePacket .invalidAddress payload >>= fun (pos, address) =>
    copyWithin pos payload.length >>= fun _ => pure (payload.length - pos, address)

/-- `encrypt_client_payload`; `aead2022` is `encrypt_client_payload_aead_2022`. -/
def encryptClientPayload (aead2022 : Option Bytes) (key : Bytes) (addr : Address)
    (payload nonce dst : Bytes) : Option Bytes :=
  match method.category with
  | .none => addr.writeToBuf.map fun address => dst ++ address ++ payload
  | .stream => encryptPayloadStream suite method key addr payload nonce dst
  | .aead => encryptPayloadAead crypto method key addr payload nonce dst
  | .aead2022 => aead2022

/-- `encrypt_server_payload`; `aead2022` is `encrypt_server_payload_aead_2022`. -/
def encryptServerPayload (aead2022 : Option Bytes) (key : Bytes) (addr : Address)
    (payload nonce dst : Bytes) : Option Bytes :=
  match method.category with
  | .none => addr.writeToBuf.map fun address => dst ++ address ++ payload
  | .stream => encryptPayloadStream suite method key addr payload nonce dst
  | .aead => encryptPayloadAead crypto method key addr payload nonce dst
  | .aead2022 => aead2022

/-- What is read of a datagram: the length of its payload, its address and its control data. -/
abbrev Opened := Nat × Address × Option UdpSocketControlData

/-- `.map(|(n, a)| (n, a, None))`. -/
def withoutControl {ε : Type} (x : PollM Bytes ε (Nat × Address)) : PollM Bytes ε Opened :=
  x >>= fun (n, a) => pure (n, a, none)

/-- `decrypt_client_payload`; `aead2022` is `decrypt_client_payload_aead_2022`. -/
def decryptClientPayload (aead2022 : PollM Bytes Aead2022.ProtocolError Opened) (key : Bytes) :
    PollM Bytes ProtocolError Opened :=
  match method.category with
  | .none => withoutControl decryptPayloadNone
  | .stream => PollM.mapErr .streamError (withoutControl (decryptPayloadStream suite method key))
  | .aead => PollM.mapErr .aeadError (withoutControl (decryptPayloadAead crypto method key))
  | .aead2022 => PollM.mapErr .aead2022Error aead2022

/-- `decrypt_server_payload`; `aead2022` is `decrypt_server_payload_aead_2022`. -/
def decryptServerPayload (aead2022 : PollM Bytes Aead2022.ProtocolError Opened) (key : Bytes) :
    PollM Bytes ProtocolError Opened :=
  match method.category with
  | .none => withoutControl decryptPayloadNone
  | .stream => PollM.mapErr .streamError (withoutControl (decryptPayloadStream suite method key))
  | .aead => PollM.mapErr .aeadError (withoutControl (decryptPayloadAead crypto method key))
  | .aead2022 => PollM.mapErr .aead2022Error aead2022

/-- `decrypt_server_payload_aead_2022` in its buffer, to the front of which it moves the payload. -/
def decryptServerPayloadAead2022 (now : Time) (key : Bytes) :
    PollM Bytes Aead2022.ProtocolError Opened := fun buf =>
  match Aead2022.decryptServerPayload crypto method now key buf with
  | .ready p =>
    (.ready (p.payload.length, p.addr, some p.control), p.payload ++ buf.drop p.payload.length)
  | .pending => (.pending, buf)
  | .failed e => (.failed e, buf)
  | .panicked => (.panicked, buf)

end Methods

/-! ## There and back -/

section Parts

variable {ε : Type}

/-- A resized buffer holds the nonce and nothing else, when the nonce has its length. -/
theorem generateNonce_resize {nonce : Bytes} (dst : Bytes) :
    (if nonce.length > 0 then generateNonce nonce (resize nonce.length dst)
      else resize nonce.length dst) = nonce := by
  have hlength : (resize nonce.length dst).length = nonce.length := by
    simp only [resize, List.length_append, List.length_take, List.length_replicate]
    omega
  by_cases hpos : nonce.length > 0
  · rw [if_pos hpos, generateNonce, List.drop_of_length_le (Nat.le_of_eq hlength), List.append_nil]
  · obtain rfl : nonce = [] := List.length_eq_zero_iff.1 (by omega)
    rw [if_neg hpos]
    exact List.length_eq_zero_iff.1 hlength

theorem parsePacket_sealed (invalidAddress : Socks5.Error → ε) {addr : Address}
    (haddr : addr.IsPortable) {address : Bytes} (hw : addr.writeToBuf = some address)
    (payload buf : Bytes) :
    parsePacket invalidAddress (address ++ payload) buf = (.ready (address.length, addr), buf) := by
  simp only [parsePacket, Address.readCursor_writeToBuf haddr hw, List.length_append,
    Nat.add_sub_cancel]

/-- What is moved to the front is what stood between the two ends. -/
theorem copyWithin_eq (front moved back : Bytes) (start : Nat) {stop : Nat} (hstart : front.length = start)
    (hstop : start + moved.length = stop) :
    (copyWithin start stop : PollM Bytes ε Unit) (front ++ moved ++ back) =
      (.ready (), moved ++ (front ++ moved ++ back).drop moved.length) := by
  have hrange : start ≤ stop ∧ stop ≤ (front ++ moved ++ back).length := by
    simp only [List.length_append]
    omega
  have hslice : ((front ++ moved ++ back).take stop).drop start = moved := by
    rw [List.take_left' (by rw [List.length_append]; omega), List.drop_left' hstart]
  unfold copyWithin
  rw [if_pos hrange, hslice]

end Parts

/-- The decoder returns the address and a length, and that much of the buffer is the payload. -/
def Opens {ε : Type} (x : PollM Bytes ε (Nat × Address)) (packet : Bytes) (addr : Address)
    (payload : Bytes) : Prop :=
  ∃ buf, x packet = (.ready (payload.length, addr), buf) ∧ buf.take payload.length = payload

section RoundTrip

variable {K S : Type} {crypto : CryptoSuite K} {suite : StreamSuite S} {method : CipherKind}
  {addr : Address} {address : Bytes}

/-- Under the same key and IV decryption inverts encryption. -/
def Inverts (suite : StreamSuite S) (method : CipherKind) : Prop :=
  ∀ key iv p,
    let cipher := suite.cipher method key iv
    let opened := suite.decryptPacket cipher (suite.encryptPacket cipher p).1
    opened.1 = true ∧ opened.2.1 = p

theorem opens_none (haddr : addr.IsPortable) (hw : addr.writeToBuf = some address)
    (payload : Bytes) : Opens decryptPayloadNone (address ++ payload) addr payload := by
  refine ⟨payload ++ (address ++ payload).drop payload.length, ?_, List.take_left ..⟩
  have hmove := copyWithin_eq (ε := ProtocolError) address payload [] address.length rfl rfl
  rw [List.append_nil] at hmove
  unfold decryptPayloadNone
  rw [PollM.get_bind, PollM.bind_ready (parsePacket_sealed _ haddr hw payload _)]
  simp only [List.length_append, Nat.add_sub_cancel_left]
  rw [PollM.bind_ready hmove]
  rfl

theorem opens_stream (hinverts : Inverts suite method) (haddr : addr.IsPortable)
    (hw : addr.writeToBuf = some address) (key payload : Bytes) {iv : Bytes}
    (hiv : iv.length = suite.ivLen method) :
    Opens (decryptPayloadStream suite method key)
      (iv ++ (suite.encryptPacket (suite.cipher method key iv) (address ++ payload)).1) addr
      payload := by
  obtain ⟨hopened, hplain⟩ := hinverts key iv (address ++ payload)
  have hlength := suite.encryptPacket_length (suite.cipher method key iv) (address ++ payload)
  generalize (suite.encryptPacket (suite.cipher method key iv) (address ++ payload)).1 = message
    at hopened hplain hlength
  have hplen : (iv ++ message).length = suite.ivLen method + address.length + payload.length := by
    rw [List.length_append, hlength, List.length_append, hiv, Nat.add_assoc]
  have hmove := copyWithin_eq (ε := StreamError) (iv ++ address) payload []
    (suite.ivLen method + address.length) (by rw [List.length_append, hiv]) hplen.symm
  rw [List.append_nil, List.append_assoc iv] at hmove
  refine ⟨payload ++ (iv ++ (address ++ payload)).drop payload.length, ?_, List.take_left ..⟩
  unfold decryptPayloadStream
  rw [PollM.get_bind]
  simp only [List.take_left' hiv, List.drop_left' hiv, hopened, hplain]
  rw [if_neg (by omega), PollM.update_bind, if_neg (by decide),
    PollM.bind_ready (parsePacket_sealed _ haddr hw payload _)]
  dsimp only
  rw [PollM.bind_ready hmove, hplen, Nat.add_sub_cancel_left]
  rfl

theorem opens_aead (hcorrect : (crypto.scheme method).Correct) (haddr : addr.IsPortable)
    (hw : addr.writeToBuf = some address) (key payload : Bytes) {salt : Bytes}
    (hsalt : salt.length = crypto.saltLen method) :
    Opens (decryptPayloadAead crypto method key)
      (salt ++ ((crypto.cipher method key salt).encryptPacket (crypto.scheme method)
        (address ++ payload)).1) addr payload := by
  have hopened := Cipher.decryptPacket_encrypt hcorrect (crypto.cipher method key salt)
    (address ++ payload)
  have hlength : ((crypto.scheme method).encrypt (crypto.cipher method key salt).key
      (crypto.cipher method key salt).nonce (address ++ payload)).length =
        (address ++ payload).length + crypto.tagLen method :=
    (crypto.scheme method).encrypt_length ..
  unfold Cipher.encryptPacket
  dsimp only
  generalize (crypto.scheme method).encrypt (crypto.cipher method key salt).key
    (crypto.cipher method key salt).nonce (address ++ payload) = message at hopened hlength
  generalize message.drop (address ++ payload).length = tag at hopened
  have hdataLen : message.length - crypto.tagLen method = (address ++ payload).length := by
    rw [hlength, Nat.add_sub_cancel]
  have hmove := copyWithin_eq (ε := AeadError) (salt ++ address) payload tag
    (crypto.saltLen method + address.length)
    (by rw [List.length_append, hsalt]) rfl
  refine ⟨payload ++ (salt ++ address ++ payload ++ tag).drop payload.length, ?_, List.take_left ..⟩
  unfold decryptPayloadAead
  rw [PollM.get_bind]
  simp only [List.take_left' hsalt, List.drop_left' hsalt, hopened]
  rw [if_neg (by rw [List.length_append]; omega), if_neg (by omega), PollM.update_bind,
    if_neg (by decide), hdataLen, List.take_left,
    PollM.bind_ready (parsePacket_sealed _ haddr hw payload _)]
  simp only [List.length_append, Nat.add_sub_cancel_left, ← List.append_assoc]
  rw [PollM.bind_ready hmove]
  rfl

theorem withoutControl_opens {ε : Type} {x : PollM Bytes ε (Nat × Address)} {packet buf : Bytes}
    {n : Nat} (h : x packet = (.ready (n, addr), buf)) :
    withoutControl x packet = (.ready (n, addr, none), buf) :=
  PollM.bind_ready h _

theorem encryptPayloadStream_eq (hw : addr.writeToBuf = some address) (key payload : Bytes)
    {iv : Bytes} (hiv : iv.length = suite.ivLen method) (dst : Bytes) :
    encryptPayloadStream suite method key addr payload iv dst =
      some (iv ++ (suite.encryptPacket (suite.cipher method key iv) (address ++ payload)).1) := by
  simp only [encryptPayloadStream, ← hiv, generateNonce_resize, hw, Option.map_some,
    List.take_length, List.append_assoc, List.take_left, List.drop_left]

theorem encryptPayloadAead_eq (hw : addr.writeToBuf = some address) (key payload : Bytes)
    {salt : Bytes} (hsalt : salt.length = crypto.saltLen method) (dst : Bytes) :
    encryptPayloadAead crypto method key addr payload salt dst =
      some (salt ++ ((crypto.cipher method key salt).encryptPacket (crypto.scheme method)
        (address ++ payload)).1) := by
  simp only [encryptPayloadAead, ← hsalt, generateNonce_resize, hw, Option.map_some,
    List.take_length, List.append_assoc, List.take_left, List.drop_left]

/-- A packet depends on its address through what is written of it. -/
theorem encryptServerPayload_congr {addr' : Address} (h : addr.writeToBuf = addr'.writeToBuf)
    (sealed2022 : Option Bytes) (key payload nonce dst : Bytes) :
    encryptServerPayload crypto suite method sealed2022 key addr payload nonce dst =
      encryptServerPayload crypto suite method sealed2022 key addr' payload nonce dst := by
  unfold encryptServerPayload encryptPayloadStream encryptPayloadAead
  rw [h]

/-- What a server seals under one of the older methods, a client opens. -/
theorem serverPayload_sealed (hlegacy : method.category ≠ .aead2022)
    (hinverts : method.category = .stream → Inverts suite method)
    (hcorrect : method.category = .aead → (crypto.scheme method).Correct) (haddr : addr.IsPortable)
    (hw : addr.writeToBuf = some address) (key payload : Bytes) {nonce : Bytes}
    (hiv : method.category = .stream → nonce.length = suite.ivLen method)
    (hsalt : method.category = .aead → nonce.length = crypto.saltLen method)
    (sealed2022 : Option Bytes) (server2022 : PollM Bytes Aead2022.ProtocolError Opened) :
    ∃ packet buf,
      encryptServerPayload crypto suite method sealed2022 key addr payload nonce [] = some packet ∧
      decryptServerPayload crypto suite method server2022 key packet =
        (.ready (payload.length, addr, none), buf) ∧
      buf.take payload.length = payload := by
  unfold encryptServerPayload decryptServerPayload
  cases hcategory : method.category with
  | none =>
    obtain ⟨buf, hopens, htake⟩ := opens_none haddr hw payload
    exact ⟨address ++ payload, buf, by simp [hw], withoutControl_opens hopens, htake⟩
  | stream =>
    obtain ⟨buf, hopens, htake⟩ :=
      opens_stream (hinverts hcategory) haddr hw key payload (hiv hcategory)
    refine ⟨_, buf, encryptPayloadStream_eq hw key payload (hiv hcategory) [], ?_, htake⟩
    simp only [PollM.mapErr, withoutControl_opens hopens]
  | aead =>
    obtain ⟨buf, hopens, htake⟩ :=
      opens_aead (hcorrect hcategory) haddr hw key payload (hsalt hcategory)
    refine ⟨_, buf, encryptPayloadAead_eq hw key payload (hsalt hcategory) [], ?_, htake⟩
    simp only [PollM.mapErr, withoutControl_opens hopens]
  | aead2022 => exact absurd hcategory hlegacy

/-- The two ends differ in their AEAD-2022 functions only. -/
theorem decryptClientPayload_legacy (hlegacy : method.category ≠ .aead2022)
    (client2022 server2022 : PollM Bytes Aead2022.ProtocolError Opened) (key : Bytes) :
    decryptClientPayload crypto suite method client2022 key =
      decryptServerPayload crypto suite method server2022 key := by
  unfold decryptClientPayload decryptServerPayload
  cases hcategory : method.category with
  | none => rfl
  | stream => rfl
  | aead => rfl
  | aead2022 => exact absurd hcategory hlegacy

/-- **There and back.** In both directions a datagram of one of the older methods opens to its
    address and a length, and that much of the buffer is the payload that was sealed. -/
theorem decrypt_encrypt (hlegacy : method.category ≠ .aead2022)
    (hinverts : method.category = .stream → Inverts suite method)
    (hcorrect : method.category = .aead → (crypto.scheme method).Correct) (haddr : addr.IsPortable)
    (key payload : Bytes) {nonce : Bytes}
    (hiv : method.category = .stream → nonce.length = suite.ivLen method)
    (hsalt : method.category = .aead → nonce.length = crypto.saltLen method)
    (sealed2022 : Option Bytes) (client2022 server2022 : PollM Bytes Aead2022.ProtocolError Opened) :
    ∃ packet,
      encryptClientPayload crypto suite method sealed2022 key addr payload nonce [] = some packet ∧
      encryptServerPayload crypto suite method sealed2022 key addr payload nonce [] = some packet ∧
      ∃ buf,
        decryptClientPayload crypto suite method client2022 key packet =
          (.ready (payload.length, addr, none), buf) ∧
        decryptServerPayload crypto suite method server2022 key packet =
          (.ready (payload.length, addr, none), buf) ∧
        buf.take payload.length = payload := by
  obtain ⟨address, hw⟩ := Address.writeToBuf_isSome haddr
  obtain ⟨packet, buf, hsealed, hopened, htake⟩ :=
    serverPayload_sealed hlegacy hinverts hcorrect haddr hw key payload hiv hsalt sealed2022 server2022
  refine ⟨packet, hsealed, hsealed, buf, ?_, hopened, htake⟩
  rw [decryptClientPayload_legacy hlegacy client2022 server2022]
  exact hopened

/-- A payload for a domain name, under a cipher without secrecy. -/
theorem decrypt_encrypt_sample :
    ∃ packet,
      encryptClientPayload CryptoSuite.transparent StreamSuite.transparent (.aead 1) none
        [1, 2, 3] (.domainNameAddress "example.com" 53) [4, 5, 6, 7] (List.replicate 16 7) [] =
          some packet ∧
      encryptServerPayload CryptoSuite.transparent StreamSuite.transparent (.aead 1) none
        [1, 2, 3] (.domainNameAddress "example.com" 53) [4, 5, 6, 7] (List.replicate 16 7) [] =
          some packet ∧
      ∃ buf,
        decryptClientPayload CryptoSuite.transparent StreamSuite.transparent (.aead 1)
            PollM.crash [1, 2, 3] packet =
          (.ready (4, .domainNameAddress "example.com" 53, none), buf) ∧
        decryptServerPayload CryptoSuite.transparent StreamSuite.transparent (.aead 1)
            PollM.crash [1, 2, 3] packet =
          (.ready (4, .domainNameAddress "example.com" 53, none), buf) ∧
        buf.take 4 = [4, 5, 6, 7] := by
  have haddr : (Address.domainNameAddress "example.com" 53).IsPortable := ⟨by decide, by decide⟩
  exact decrypt_encrypt (by decide) (fun h => absurd h (by decide))
    (fun _ => CryptoSuite.transparent_correct (.aead 1)) haddr [1, 2, 3] [4, 5, 6, 7]
    (fun h => absurd h (by decide)) (fun _ => rfl) none PollM.crash PollM.crash

end RoundTrip

end Shadowsocks.Udp.CryptoIo
