import Shadowsocks.Context
import Shadowsocks.Net.Socks5
import Shadowsocks.Udp.ProxySocket

/-! # AEAD-2022 datagrams

`udprelay::aead_2022`.  The session id and the packet id of a datagram are the AES block
in front of it, and the last 12 bytes of that block are the AEAD's nonce; on the way to
a multi-user server an identity header follows.

The cipher cache only saves work and is left out.
-/

namespace Shadowsocks.Udp.Aead2022

open Shadowsocks.Lib Shadowsocks.Net

/-- `CLIENT_SOCKET_TYPE`. -/
def clientSocketType : Nat := 0

/-- `SERVER_SOCKET_TYPE`. -/
def serverSocketType : Nat := 1

/-- `SERVER_PACKET_TIMESTAMP_MAX_DIFF`, in seconds. -/
def serverPacketTimestampMaxDiff : Nat := 30

inductive ProtocolError where
  | packetTooShort (expected found : Nat)
  | invalidAddress (e : Socks5.Error)
  | decryptPayloadError
  | invalidClientUser (userHash : Bytes)
  | invalidSocketType (expected found : Nat)
  | invalidTimestamp (timestamp now : Nat)
  | ioError (e : IoError)
deriving DecidableEq, Repr

/-- `a[i] ^= b[i]` for each byte of a block. -/
def xorBlock (a b : Bytes) : Bytes := a.zipWith (· ^^^ ·) b

variable {K : Type}

section Methods

variable (crypto : CryptoSuite K) (method : CipherKind)

/-- `get_nonce_len`: the nonce that is sent in front of a datagram. -/
def getNonceLen : Option Nat :=
  match method with
  | .aead2022Blake3Aes128Gcm => some 0
  | .aead2022Blake3Aes256Gcm => some 0
  | .aead2022Blake3Chacha20Poly1305 => some (crypto.nonceLen method)
  | .aead2022Blake3Chacha8Poly1305 => some (crypto.nonceLen method)
  -- `unreachable!`
  | _ => none

variable {crypto method}

/-- The methods that use the key directly. -/
def IsChacha (method : CipherKind) : Prop :=
  method = .aead2022Blake3Chacha20Poly1305 ∨ method = .aead2022Blake3Chacha8Poly1305

/-- The methods with a header block of their own. -/
def IsAes (method : CipherKind) : Prop :=
  method = .aead2022Blake3Aes128Gcm ∨ method = .aead2022Blake3Aes256Gcm

theorem isChacha_or_isAes (h : method.isAead2022 = true) : IsChacha method ∨ IsAes method := by
  cases method with
  | aead2022Blake3Aes128Gcm => exact .inr (.inl rfl)
  | aead2022Blake3Aes256Gcm => exact .inr (.inr rfl)
  | aead2022Blake3Chacha20Poly1305 => exact .inl (.inl rfl)
  | aead2022Blake3Chacha8Poly1305 => exact .inl (.inr rfl)
  | _ => cases h

theorem isAes_of_supportEih (h : methodSupportEih method = true) : IsAes method := by
  cases method with
  | aead2022Blake3Aes128Gcm => exact .inl rfl
  | aead2022Blake3Aes256Gcm => exact .inr rfl
  | _ => cases h

theorem IsChacha.supportEih (h : IsChacha method) : methodSupportEih method = false := by
  rcases h with rfl | rfl <;> rfl

theorem IsAes.supportEih (h : IsAes method) : methodSupportEih method = true := by
  rcases h with rfl | rfl <;> rfl

theorem IsChacha.getNonceLen (h : IsChacha method) :
    getNonceLen crypto method = some (crypto.nonceLen method) := by
  rcases h with rfl | rfl <;> rfl

theorem IsAes.getNonceLen (h : IsAes method) : getNonceLen crypto method = some 0 := by
  rcases h with rfl | rfl <;> rfl

theorem IsChacha.udpKey (h : IsChacha method) (key : Bytes) (sessionId sessionId' : Nat) :
    crypto.udpKey method key sessionId = crypto.udpKey method key sessionId' := by
  rcases h with rfl | rfl
  · exact crypto.udpKey_chacha20 key sessionId sessionId'
  · exact crypto.udpKey_chacha8 key sessionId sessionId'

end Methods

variable (crypto : CryptoSuite K) (method : CipherKind)

/-! ## Sealing -/

/-- `make_eih`. -/
def makeEih (ipsk ipskn sessionIdPacketId : Bytes) : Bytes :=
  crypto.encryptBlock ipsk (xorBlock ((crypto.hash ipskn).take 16) sessionIdPacketId)

/-- `encrypt_message`, on a packet without the room for the tag. -/
def encryptMessage (ipsk key packet : Bytes) (sessionId eihLen : Nat) : Option Bytes :=
  let cipherKey := crypto.udpKey method key sessionId
  let sealed (nonce message : Bytes) :=
    (crypto.udpScheme method).encrypt cipherKey (fromBigEndian nonce) message
  let chacha :=
    let nonceSize := crypto.nonceLen method
    packet.take nonceSize ++ sealed (packet.take nonceSize) (packet.drop nonceSize)
  let aes :=
    let packetHeader := packet.take 16
    let message := packet.drop 16
    crypto.encryptBlock ipsk packetHeader ++ message.take eihLen ++
      sealed (packetHeader.drop 4) (message.drop eihLen)
  match method with
  | .aead2022Blake3Chacha20Poly1305 => some chacha
  | .aead2022Blake3Chacha8Poly1305 => some chacha
  | .aead2022Blake3Aes128Gcm => some aes
  | .aead2022Blake3Aes256Gcm => some aes
  -- `unreachable!`
  | _ => none

/-- `encrypt_client_payload_aead_2022`, with the nonce and the padding that it draws. -/
def encryptClientPayload (now : Time) (key : Bytes) (addr : Address)
    (control : UdpSocketControlData) (identityKeys : List Bytes) (payload nonce padding : Bytes) :
    Option Bytes :=
  let requireEih := methodSupportEih method && !identityKeys.isEmpty
  let eihSize := if requireEih then identityKeys.length * 16 else 0
  let sessionIdPacketId := bigEndian 8 control.clientSessionId ++ bigEndian 8 control.packetId
  let eih :=
    if requireEih then
      ((identityKeys.zip (identityKeys.drop 1 ++ [key])).map fun (ipsk, ipskn) =>
        makeEih crypto ipsk ipskn sessionIdPacketId).flatten
    else []
  match getNonceLen crypto method, addr.writeToBuf with
  | some nonceSize, some address =>
    let packet := nonce.take nonceSize ++ sessionIdPacketId ++ eih ++
      bigEndian 1 clientSocketType ++ bigEndian 8 now.unixSecs ++ bigEndian 2 padding.length ++
      padding ++ address ++ payload
    encryptMessage crypto method (identityKeys.headD key) key packet control.clientSessionId eihSize
  | _, _ => none

/-- `encrypt_server_payload_aead_2022`, with the nonce and the padding that it draws. -/
def encryptServerPayload (now : Time) (key : Bytes) (addr : Address)
    (control : UdpSocketControlData) (payload nonce padding : Bytes) : Option Bytes :=
  match getNonceLen crypto method, addr.writeToBuf with
  | some nonceSize, some address =>
    let packet := nonce.take nonceSize ++ bigEndian 8 control.serverSessionId ++
      bigEndian 8 control.packetId ++ bigEndian 1 serverSocketType ++ bigEndian 8 now.unixSecs ++
      bigEndian 8 control.clientSessionId ++ bigEndian 2 padding.length ++ padding ++ address ++
      payload
    encryptMessage crypto method key key packet control.serverSessionId 0
  | _, _ => none

/-! ## Opening -/

/-- `decrypt_packet` with `?`. -/
def decryptPacket (cipherKey : K) (nonce message : Bytes) : Polled ProtocolError Bytes :=
  match (crypto.udpScheme method).decrypt? cipherKey (fromBigEndian nonce) message with
  | some plain => .ready plain
  | none => .failed .decryptPayloadError

variable {crypto}

/-- `decrypt_message`: the user whose key opened the packet, and what is between the
    nonce and the tag afterwards.  Splitting a packet that is too short panics. -/
def decryptMessage (key packet : Bytes) (userManager : Option (ServerUserManager crypto)) :
    Polled ProtocolError (Option ServerUser × Bytes) :=
  let chacha :=
    let nonceSize := crypto.nonceLen method
    let message := packet.drop nonceSize
    -- the session id is read for the cache, before the packet is opened
    if packet.length < nonceSize ∨ message.length < 8 then .panicked
    else
      let cipherKey := crypto.udpKey method key (fromBigEndian (message.take 8))
      (decryptPacket crypto method cipherKey (packet.take nonceSize) message).map fun plain =>
        (none, plain)
  let aes :=
    if packet.length < 16 then .panicked
    else
      let packetHeader := crypto.decryptBlock key (packet.take 16)
      let message := packet.drop 16
      let sessionId := fromBigEndian (packetHeader.take 8)
      let nonce := (packetHeader.drop 4).take 12
      match userManager with
      | some users =>
        if message.length < 16 then .panicked
        else
          let eih := xorBlock (crypto.decryptBlock key (message.take 16)) packetHeader
          match users.getUserByHash eih with
          | none => .failed (.invalidClientUser eih)
          | some user =>
            (decryptPacket crypto method (crypto.udpKey method user.key sessionId) nonce
              (message.drop 16)).map fun plain => (some user, packetHeader ++ eih ++ plain)
      | none =>
        (decryptPacket crypto method (crypto.udpKey method key sessionId) nonce message).map
          fun plain => (none, packetHeader ++ plain)
  match method with
  | .aead2022Blake3Chacha20Poly1305 => chacha
  | .aead2022Blake3Chacha8Poly1305 => chacha
  | .aead2022Blake3Aes128Gcm => aes
  | .aead2022Blake3Aes256Gcm => aes
  -- `unreachable!`
  | _ => .panicked

/-- A datagram that has been opened.  Its timestamp is checked and then dropped by the
    code; it stands here to say when the datagram was sealed. -/
structure OpenedPacket where
  payload : Bytes
  addr : Address
  control : UdpSocketControlData
  timestamp : Nat
deriving DecidableEq

/-- The end of an opened packet: padding, address and payload. -/
def readPaddedPayload : PollM Bytes ProtocolError (Address × Bytes) :=
  getUint 2 >>= fun paddingSize => seekCurrent paddingSize >>= fun _ =>
    PollM.mapErr .invalidAddress Address.readCursor >>= fun addr =>
      PollM.get >>= fun payload => pure (addr, payload)

/-- What `decrypt_client_payload_aead_2022` reads from the opened packet. -/
def readClientPacket (now : Time) (requireEih : Bool) (user : Option ServerUser) :
    PollM Bytes ProtocolError OpenedPacket :=
  getUint 8 >>= fun clientSessionId => getUint 8 >>= fun packetId =>
    (if requireEih then advance 16 else pure ()) >>= fun _ =>
      getUint 1 >>= fun socketType =>
        if socketType ≠ clientSocketType then
          PollM.fail (.invalidSocketType clientSocketType socketType)
        else getUint 8 >>= fun timestamp =>
          if absDiff now.unixSecs timestamp > serverPacketTimestampMaxDiff then
            PollM.fail (.invalidTimestamp timestamp now.unixSecs)
          else readPaddedPayload >>= fun (addr, payload) =>
            pure
              { payload := payload, addr := addr, timestamp := timestamp
                control :=
                  { clientSessionId := clientSessionId, serverSessionId := 0
                    packetId := packetId, user := user } }

/-- `decrypt_client_payload_aead_2022`. -/
def decryptClientPayload (now : Time) (key payload : Bytes)
    (userManager : Option (ServerUserManager crypto)) : Polled ProtocolError OpenedPacket :=
  match getNonceLen crypto method with
  | none => .panicked
  | some nonceLen =>
    let requireEih := methodSupportEih method && userManager.isSome
    let eihLen := if requireEih then 16 else 0
    let headerLen := nonceLen + crypto.tagLen method + 8 + 8 + eihLen + 1 + 8 + 2
    if payload.length < headerLen then .failed (.packetTooShort headerLen payload.length)
    else
      match decryptMessage method key payload userManager with
      | .ready (user, data) => (readClientPacket now requireEih user data).1
      | .pending => .pending
      | .failed e => .failed e
      | .panicked => .panicked

/-- What `decrypt_server_payload_aead_2022` reads from the opened packet. -/
def readServerPacket (now : Time) : PollM Bytes ProtocolError OpenedPacket :=
  getUint 8 >>= fun serverSessionId => getUint 8 >>= fun packetId =>
    getUint 1 >>= fun socketType =>
      if socketType ≠ serverSocketType then
        PollM.fail (.invalidSocketType serverSocketType socketType)
      else getUint 8 >>= fun timestamp =>
        if absDiff now.unixSecs timestamp > serverPacketTimestampMaxDiff then
          PollM.fail (.invalidTimestamp timestamp now.unixSecs)
        else getUint 8 >>= fun clientSessionId =>
          readPaddedPayload >>= fun (addr, payload) =>
            pure
              { payload := payload, addr := addr, timestamp := timestamp
                control :=
                  { clientSessionId := clientSessionId, serverSessionId := serverSessionId
                    packetId := packetId, user := none } }

variable (crypto)

/-- `decrypt_server_payload_aead_2022`. -/
def decryptServerPayload (now : Time) (key payload : Bytes) : Polled ProtocolError OpenedPacket :=
  match getNonceLen crypto method with
  | none => .panicked
  | some nonceLen =>
    -- the client session id is not counted
    let headerLen := nonceLen + crypto.tagLen method + 8 + 8 + 1 + 8 + 2
    if payload.length < headerLen then .failed (.packetTooShort headerLen payload.length)
    else
      match decryptMessage method key payload (none : Option (ServerUserManager crypto)) with
      | .ready (_, data) => (readServerPacket now data).1
      | .pending => .pending
      | .failed e => .failed e
      | .panicked => .panicked

variable {crypto}

/-- What is read has a timestamp in range, and the user whose key opened it. -/
theorem readClientPacket_fields (now : Time) (requireEih : Bool) (user : Option ServerUser) :
    Triple (fun _ => True) (readClientPacket now requireEih user) (Post.ifReady fun p _ =>
      absDiff now.unixSecs p.timestamp ≤ serverPacketTimestampMaxDiff ∧ p.control.user = user) := by
  apply Triple.bind_ifReady
  intro clientSessionId
  apply Triple.bind_ifReady
  intro packetId
  apply Triple.bind_ifReady
  intro _
  apply Triple.bind_ifReady
  intro socketType
  by_cases htype : socketType ≠ clientSocketType
  · rw [if_pos htype]
    exact Triple.fail fun _ _ => trivial
  · rw [if_neg htype]
    apply Triple.bind_ifReady
    intro timestamp
    by_cases hlate : absDiff now.unixSecs timestamp > serverPacketTimestampMaxDiff
    · rw [if_pos hlate]
      exact Triple.fail fun _ _ => trivial
    · rw [if_neg hlate]
      apply Triple.bind_ifReady
      intro payload
      exact Triple.pure fun _ _ => ⟨Nat.not_lt.1 hlate, rfl⟩

/-- A datagram that is opened is long enough, and is read from what its key opened. -/
theorem decryptClientPayload_ready {now : Time} {key payload : Bytes}
    {userManager : Option (ServerUserManager crypto)} {p : OpenedPacket}
    (h : decryptClientPayload method now key payload userManager = .ready p) :
    ∃ user data, decryptMessage method key payload userManager = .ready (user, data) ∧
      (readClientPacket now (methodSupportEih method && userManager.isSome) user data).1 =
        .ready p := by
  unfold decryptClientPayload at h
  cases hnonce : getNonceLen crypto method with
  | none => simp [hnonce] at h
  | some nonceLen =>
  simp only [hnonce] at h
  generalize nonceLen + crypto.tagLen method + 8 + 8 +
    (if (methodSupportEih method && userManager.isSome) = true then 16 else 0) + 1 + 8 + 2 =
    headerLen at h
  by_cases hshort : payload.length < headerLen
  · rw [if_pos hshort] at h
    cases h
  · rw [if_neg hshort] at h
    cases hmessage : decryptMessage method key payload userManager with
    | ready opened =>
      rw [hmessage] at h
      exact ⟨opened.1, opened.2, rfl, h⟩
    | pending => simp [hmessage] at h
    | failed e => simp [hmessage] at h
    | panicked => simp [hmessage] at h

theorem decryptClientPayload_timestamp {now : Time} {key payload : Bytes}
    {userManager : Option (ServerUserManager crypto)} {p : OpenedPacket}
    (h : decryptClientPayload method now key payload userManager = .ready p) :
    absDiff now.unixSecs p.timestamp ≤ serverPacketTimestampMaxDiff := by
  obtain ⟨user, data, -, hread⟩ := decryptClientPayload_ready method h
  exact ((readClientPacket_fields now _ user).of_ready trivial (Prod.ext hread rfl)).1

theorem map_decryptPacket_user {cipherKey : K} {nonce message data : Bytes}
    {user user' : Option ServerUser} {f : Bytes → Bytes}
    (h : (decryptPacket crypto method cipherKey nonce message).map (fun plain => (user, f plain)) =
      .ready (user', data)) : user' = user := by
  unfold decryptPacket at h
  split at h
  · cases h
    rfl
  · cases h

/-- A packet is opened by the key of a user of the server, or by the server's own. -/
theorem decryptMessage_known {key packet : Bytes}
    {userManager : Option (ServerUserManager crypto)} {user : ServerUser} {data : Bytes}
    (h : decryptMessage method key packet userManager = .ready (some user, data)) :
    methodSupportEih method = true ∧ ∃ users, userManager = some users ∧ user ∈ users.users := by
  unfold decryptMessage at h
  cases method with
  | aead2022Blake3Chacha20Poly1305 | aead2022Blake3Chacha8Poly1305 =>
    dsimp only at h
    split at h
    · cases h
    · cases map_decryptPacket_user _ h
  | aead2022Blake3Aes128Gcm | aead2022Blake3Aes256Gcm =>
    dsimp only at h
    split at h
    · cases h
    split at h
    · next users =>
      split at h
      · cases h
      split at h
      · cases h
      · next found hfound =>
        cases map_decryptPacket_user _ h
        exact ⟨rfl, users, rfl, List.mem_of_find?_eq_some hfound⟩
    · cases map_decryptPacket_user _ h
  | _ => cases h

/-- The user of a datagram is one that the server knows. -/
theorem decryptClientPayload_known {now : Time} {key payload : Bytes}
    {userManager : Option (ServerUserManager crypto)} {p : OpenedPacket} {user : ServerUser}
    (h : decryptClientPayload method now key payload userManager = .ready p)
    (huser : p.control.user = some user) :
    methodSupportEih method = true ∧ ∃ users, userManager = some users ∧ user ∈ users.users := by
  obtain ⟨opened, data, hmessage, hread⟩ := decryptClientPayload_ready method h
  have hsame := ((readClientPacket_fields now _ opened).of_ready trivial (Prod.ext hread rfl)).2
  rw [hsame.symm.trans huser] at hmessage
  exact decryptMessage_known method hmessage

end Shadowsocks.Udp.Aead2022
