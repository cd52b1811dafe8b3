import Shadowsocks.Udp.Aead2022

/-! # AEAD-2022 datagrams round trip

What one end seals, the other end opens, in both directions and with or without an
identity header.  A datagram is sealed and opened as a nonce, a header block and a body
(`decryptMessage_plain`, `decryptMessage_user`), and the fields are read back one after
the other.
-/

namespace Shadowsocks.Udp.Aead2022

open Shadowsocks.Lib Shadowsocks.Net

/-! ## The end of a packet -/

theorem readPaddedPayload_sealed {addr : Address} (haddr : addr.IsPortable) {address : Bytes}
    (hw : addr.writeToBuf = some address) {padding : Bytes} (hpad : padding.length < 2 ^ 16)
    (payload : Bytes) :
    readPaddedPayload (bigEndian 2 padding.length ++ (padding ++ (address ++ payload))) =
      (.ready (addr, payload), payload) := by
  have haddress : PollM.mapErr ProtocolError.invalidAddress Address.readCursor (address ++ payload) =
      (.ready addr, payload) := by
    simp only [PollM.mapErr, Address.readCursor_writeToBuf haddr hw]
  have hseek : (seekCurrent padding.length : PollM Bytes ProtocolError Unit)
      (padding ++ (address ++ payload)) = (.ready (), address ++ payload) := by
    show (Polled.ready (), (padding ++ (address ++ payload)).drop padding.length) = _
    rw [List.drop_left]
  unfold readPaddedPayload
  rw [getUint_bind hpad, PollM.bind_ready hseek, PollM.bind_ready haddress]
  rfl

/-! ## The fields of a packet -/

/-- Control data as a datagram can carry it: the ids are `u64`s. -/
structure ControlFits (control : UdpSocketControlData) : Prop where
  clientSessionId : control.clientSessionId < 2 ^ 64
  serverSessionId : control.serverSessionId < 2 ^ 64
  packetId : control.packetId < 2 ^ 64

/-- The session id and the packet id, in front of a packet. -/
def headerBlock (sessionId packetId : Nat) : Bytes := bigEndian 8 sessionId ++ bigEndian 8 packetId

@[simp] theorem headerBlock_length (sessionId packetId : Nat) :
    (headerBlock sessionId packetId).length = 16 := by
  simp [headerBlock]

theorem fromBigEndian_headerBlock {sessionId : Nat} (h : sessionId < 2 ^ 64) (packetId : Nat)
    (rest : Bytes) : fromBigEndian ((headerBlock sessionId packetId ++ rest).take 8) = sessionId := by
  rw [headerBlock, List.append_assoc, List.take_left' (bigEndian_length 8 sessionId)]
  exact fromBigEndian_bigEndian_of_lt h

/-- What follows the header block on the way to a server. -/
def clientBody (sealedAt : Time) (padding address payload : Bytes) : Bytes :=
  bigEndian 1 clientSocketType ++ (bigEndian 8 sealedAt.unixSecs ++
    (bigEndian 2 padding.length ++ (padding ++ (address ++ payload))))

/-- What follows the header block on the way to a client. -/
def serverBody (sealedAt : Time) (clientSessionId : Nat) (padding address payload : Bytes) : Bytes :=
  bigEndian 1 serverSocketType ++ (bigEndian 8 sealedAt.unixSecs ++ (bigEndian 8 clientSessionId ++
    (bigEndian 2 padding.length ++ (padding ++ (address ++ payload)))))

section Fields

variable {now sealedAt : Time} {addr : Address} {address padding : Bytes}
  (hrange : absDiff now.unixSecs sealedAt.unixSecs ≤ serverPacketTimestampMaxDiff)
  (htime : sealedAt.unixSecs < 2 ^ 64) (haddr : addr.IsPortable)
  (hw : addr.writeToBuf = some address) (hpad : padding.length < 2 ^ 16)
include hrange htime haddr hw hpad

theorem readClientPacket_sealed {control : UdpSocketControlData} (hfits : ControlFits control)
    (payload : Bytes) {requireEih : Bool} {eih : Bytes}
    (heih : eih.length = if requireEih then 16 else 0) (user : Option ServerUser) :
    (readClientPacket now requireEih user (headerBlock control.clientSessionId control.packetId ++
        (eih ++ clientBody sealedAt padding address payload))).1 =
      .ready
        { payload := payload, addr := addr, timestamp := sealedAt.unixSecs
          control := { control with serverSessionId := 0, user := user } } := by
  have hadvance : (if requireEih then advance 16 else pure () : PollM Bytes ProtocolError Unit)
      (eih ++ clientBody sealedAt padding address payload) =
        (.ready (), clientBody sealedAt padding address payload) := by
    cases requireEih with
    | true =>
      have heih : eih.length = 16 := heih
      rw [if_pos rfl, advance_ready (by simp [heih]), List.drop_left' heih]
    | false =>
      obtain rfl := List.length_eq_zero_iff.1 heih
      rfl
  unfold readClientPacket headerBlock
  rw [List.append_assoc, getUint_bind hfits.clientSessionId, getUint_bind hfits.packetId,
    PollM.bind_ready hadvance, clientBody, getUint_bind (by decide), if_neg (by decide),
    getUint_bind htime, if_neg (Nat.not_lt.2 hrange),
    PollM.bind_ready (readPaddedPayload_sealed haddr hw hpad payload)]
  rfl

theorem readServerPacket_sealed {control : UdpSocketControlData} (hfits : ControlFits control)
    (payload : Bytes) :
    (readServerPacket now (headerBlock control.serverSessionId control.packetId ++
        serverBody sealedAt control.clientSessionId padding address payload)).1 =
      .ready
        { payload := payload, addr := addr, timestamp := sealedAt.unixSecs
          control := { control with user := none } } := by
  unfold readServerPacket headerBlock
  rw [List.append_assoc, getUint_bind hfits.serverSessionId, getUint_bind hfits.packetId, serverBody,
    getUint_bind (by decide), if_neg (by decide), getUint_bind htime, if_neg (Nat.not_lt.2 hrange),
    getUint_bind hfits.clientSessionId,
    PollM.bind_ready (readPaddedPayload_sealed haddr hw hpad payload)]
  rfl

end Fields

/-- A packet out of the time range is not read. -/
theorem readServerPacket_stale {now sealedAt : Time}
    (hlate : serverPacketTimestampMaxDiff < absDiff now.unixSecs sealedAt.unixSecs)
    (htime : sealedAt.unixSecs < 2 ^ 64) {control : UdpSocketControlData} (hfits : ControlFits control)
    (padding address payload : Bytes) :
    (readServerPacket now (headerBlock control.serverSessionId control.packetId ++
        serverBody sealedAt control.clientSessionId padding address payload)).1 =
      .failed (.invalidTimestamp sealedAt.unixSecs now.unixSecs) := by
  unfold readServerPacket headerBlock
  rw [List.append_assoc, getUint_bind hfits.serverSessionId, getUint_bind hfits.packetId, serverBody,
    getUint_bind (by decide), if_neg (by decide), getUint_bind htime, if_pos hlate]
  rfl

/-! ## Sealing and opening -/

variable {K : Type} {crypto : CryptoSuite K} {method : CipherKind}

/-- A body under the AEAD of a method. -/
def sealBody (crypto : CryptoSuite K) (method : CipherKind) (key : Bytes) (sessionId : Nat)
    (nonce body : Bytes) : Bytes :=
  (crypto.udpScheme method).encrypt (crypto.udpKey method key sessionId) (fromBigEndian nonce) body

@[simp] theorem sealBody_length (key : Bytes) (sessionId : Nat) (nonce body : Bytes) :
    (sealBody crypto method key sessionId nonce body).length = body.length + crypto.tagLen method := by
  rw [sealBody, AeadScheme.encrypt_length, crypto.udpScheme_tagLen, CryptoSuite.tagLen]

theorem decryptPacket_sealBody (hcorrect : (crypto.udpScheme method).Correct) (key : Bytes)
    (sessionId : Nat) (nonce body : Bytes) :
    decryptPacket crypto method (crypto.udpKey method key sessionId) nonce
      (sealBody crypto method key sessionId nonce body) = .ready body := by
  simp only [decryptPacket, sealBody, hcorrect (crypto.udpKey method key sessionId)]

theorem encryptMessage_chacha (h : IsChacha method) {nonce : Bytes}
    (hnonce : nonce.length = crypto.nonceLen method) (ipsk key body : Bytes) (sessionId eihLen : Nat) :
    encryptMessage crypto method ipsk key (nonce ++ body) sessionId eihLen =
      some (nonce ++ sealBody crypto method key sessionId nonce body) := by
  rcases h with rfl | rfl <;>
    simp only [encryptMessage, sealBody, List.take_left' hnonce, List.drop_left' hnonce]

theorem encryptMessage_aes (h : IsAes method) {header eih : Bytes} (hheader : header.length = 16)
    {eihLen : Nat} (heih : eih.length = eihLen) (ipsk key body : Bytes) (sessionId : Nat) :
    encryptMessage crypto method ipsk key (header ++ (eih ++ body)) sessionId eihLen =
      some (crypto.encryptBlock ipsk header ++
        (eih ++ sealBody crypto method key sessionId (header.drop 4) body)) := by
  rcases h with rfl | rfl <;>
    simp only [encryptMessage, sealBody, List.take_left' hheader, List.drop_left' hheader,
      List.take_left' heih, List.drop_left' heih, List.append_assoc]

theorem decryptMessage_chacha (h : IsChacha method) (hcorrect : (crypto.udpScheme method).Correct)
    {nonce : Bytes} (hnonce : nonce.length = crypto.nonceLen method) (key : Bytes) {body : Bytes}
    (hbody : 8 ≤ body.length) (sessionId : Nat) (userManager : Option (ServerUserManager crypto)) :
    decryptMessage method key (nonce ++ sealBody crypto method key sessionId nonce body) userManager =
      .ready (none, body) := by
  have hopen (sessionId' : Nat) : decryptPacket crypto method (crypto.udpKey method key sessionId') nonce
      (sealBody crypto method key sessionId nonce body) = .ready body := by
    rw [h.udpKey key sessionId' sessionId]
    exact decryptPacket_sealBody hcorrect key sessionId nonce body
  have hlen : ¬ ((nonce ++ sealBody crypto method key sessionId nonce body).length <
      crypto.nonceLen method ∨ (sealBody crypto method key sessionId nonce body).length < 8) := by
    simp [hnonce]
    omega
  rcases h with rfl | rfl <;>
    simp only [decryptMessage, List.drop_left' hnonce, if_neg hlen, List.take_left' hnonce, hopen,
      Polled.map]

/-- A datagram without an identity header. -/
theorem decryptMessage_plain (h : IsAes method) (hblock : crypto.BlockCorrect)
    (hcorrect : (crypto.udpScheme method).Correct) (key body : Bytes) {sessionId : Nat}
    (hsession : sessionId < 2 ^ 64) (packetId : Nat) :
    let header := headerBlock sessionId packetId
    decryptMessage method key (crypto.encryptBlock key header ++
        sealBody crypto method key sessionId (header.drop 4) body)
        (none : Option (ServerUserManager crypto)) =
      .ready (none, header ++ body) := by
  have hlen := crypto.encryptBlock_length key (headerBlock sessionId packetId)
  have hnonce : ((headerBlock sessionId packetId).drop 4).take 12 =
      (headerBlock sessionId packetId).drop 4 := List.take_of_length_le (by simp)
  have hid : fromBigEndian ((headerBlock sessionId packetId).take 8) = sessionId := by
    simpa using fromBigEndian_headerBlock hsession packetId []
  have hdec := hblock key (headerBlock sessionId packetId) (by simp)
  have hlong (rest : Bytes) :
      ¬ (crypto.encryptBlock key (headerBlock sessionId packetId) ++ rest).length < 16 := by
    simp [hlen]
  rcases h with rfl | rfl <;>
    simp only [decryptMessage, if_neg (hlong _), List.take_left' hlen, List.drop_left' hlen, hdec, hid,
      hnonce, decryptPacket_sealBody hcorrect, Polled.map]

/-- Applying a block twice gives back what it was applied to. -/
theorem xorBlock_xorBlock {a b : Bytes} (h : a.length = b.length) :
    xorBlock (xorBlock a b) b = a := by
  induction a generalizing b with
  | nil => rfl
  | cons x a ih =>
    cases b with
    | nil => cases h
    | cons y b =>
      have hx : x ^^^ y ^^^ y = x := by rw [UInt8.xor_assoc, UInt8.xor_self, UInt8.xor_zero]
      show (x ^^^ y ^^^ y) :: xorBlock (xorBlock a b) b = x :: a
      rw [hx, ih (Nat.succ.inj h)]

/-- A datagram with the identity header of a user. -/
theorem decryptMessage_user (h : IsAes method) (hblock : crypto.BlockCorrect)
    (hcorrect : (crypto.udpScheme method).Correct) (key body : Bytes) {sessionId : Nat}
    (hsession : sessionId < 2 ^ 64) (packetId : Nat) {users : ServerUserManager crypto}
    {user : ServerUser} (huser : user ∈ users.users) :
    let header := headerBlock sessionId packetId
    decryptMessage method key (crypto.encryptBlock key header ++
        (makeEih crypto key user.key header ++
          sealBody crypto method user.key sessionId (header.drop 4) body)) (some users) =
      .ready (some user, header ++ (user.identityHash crypto ++ body)) := by
  have hlen := crypto.encryptBlock_length key (headerBlock sessionId packetId)
  have hnonce : ((headerBlock sessionId packetId).drop 4).take 12 =
      (headerBlock sessionId packetId).drop 4 := List.take_of_length_le (by simp)
  have hid : fromBigEndian ((headerBlock sessionId packetId).take 8) = sessionId := by
    simpa using fromBigEndian_headerBlock hsession packetId []
  have hdec := hblock key (headerBlock sessionId packetId) (by simp)
  have hhash : ((crypto.hash user.key).take 16).length = 16 := by simp [crypto.hash_length]
  have heihLen : (makeEih crypto key user.key (headerBlock sessionId packetId)).length = 16 :=
    crypto.encryptBlock_length _ _
  have heih : xorBlock (crypto.decryptBlock key (makeEih crypto key user.key
      (headerBlock sessionId packetId))) (headerBlock sessionId packetId) =
        user.identityHash crypto := by
    rw [makeEih, hblock key _ (by simp [xorBlock, hhash]), xorBlock_xorBlock (by simp [hhash])]
    rfl
  have hfound := ServerUserManager.getUserByHash_of_mem huser
  have hlong (rest : Bytes) :
      ¬ (crypto.encryptBlock key (headerBlock sessionId packetId) ++ rest).length < 16 := by
    simp [hlen]
  have hlong' (rest : Bytes) :
      ¬ (makeEih crypto key user.key (headerBlock sessionId packetId) ++ rest).length < 16 := by
    simp [heihLen]
  rcases h with rfl | rfl <;>
    simp only [decryptMessage, if_neg (hlong _), if_neg (hlong' _), List.take_left' hlen,
      List.drop_left' hlen, List.take_left' heihLen,
      List.drop_left' heihLen, hdec, hid, hnonce, heih, hfound, decryptPacket_sealBody hcorrect,
      Polled.map, List.append_assoc]

/-! ## Round trips -/

theorem decryptClientPayload_eq {now : Time} {key packet : Bytes}
    {userManager : Option (ServerUserManager crypto)} {nonceLen : Nat} {user : Option ServerUser}
    {data : Bytes} (hnonce : getNonceLen crypto method = some nonceLen)
    (hlen : nonceLen + crypto.tagLen method + 8 + 8 +
      (if (methodSupportEih method && userManager.isSome) = true then 16 else 0) + 1 + 8 + 2 ≤
        packet.length)
    (hmessage : decryptMessage method key packet userManager = .ready (user, data)) :
    decryptClientPayload method now key packet userManager =
      (readClientPacket now (methodSupportEih method && userManager.isSome) user data).1 := by
  simp only [decryptClientPayload, hnonce, hmessage]
  exact if_neg (Nat.not_lt.2 hlen)

theorem decryptServerPayload_eq {now : Time} {key packet : Bytes} {nonceLen : Nat}
    {user : Option ServerUser} {data : Bytes} (hnonce : getNonceLen crypto method = some nonceLen)
    (hlen : nonceLen + crypto.tagLen method + 8 + 8 + 1 + 8 + 2 ≤ packet.length)
    (hmessage : decryptMessage method key packet (none : Option (ServerUserManager crypto)) =
      .ready (user, data)) :
    decryptServerPayload crypto method now key packet = (readServerPacket now data).1 := by
  simp only [decryptServerPayload, hnonce, hmessage]
  exact if_neg (Nat.not_lt.2 hlen)

/-- A packet without an identity header: what its key opens of it. -/
theorem plain_roundTrip (h2022 : method.isAead2022 = true) (hblock : crypto.BlockCorrect)
    (hcorrect : (crypto.udpScheme method).Correct) (key nonce body : Bytes)
    (hnonce : crypto.nonceLen method ≤ nonce.length) {sessionId : Nat}
    (hsession : sessionId < 2 ^ 64) (packetId : Nat) :
    ∃ nonceLen packet, getNonceLen crypto method = some nonceLen ∧
      encryptMessage crypto method key key
        (nonce.take nonceLen ++ (headerBlock sessionId packetId ++ body)) sessionId 0 = some packet ∧
      packet.length = nonceLen + 16 + body.length + crypto.tagLen method ∧
      decryptMessage method key packet (none : Option (ServerUserManager crypto)) =
        .ready (none, headerBlock sessionId packetId ++ body) := by
  rcases isChacha_or_isAes h2022 with hchacha | haes
  · have hlen : (nonce.take (crypto.nonceLen method)).length = crypto.nonceLen method := by
      simp [hnonce]
    refine ⟨_, _, hchacha.getNonceLen, encryptMessage_chacha hchacha hlen .., ?_,
      decryptMessage_chacha hchacha hcorrect hlen key (by simp; omega) ..⟩
    simp [hnonce]
    omega
  · have hseal : encryptMessage crypto method key key (headerBlock sessionId packetId ++ ([] ++ body))
        sessionId 0 = some _ :=
      encryptMessage_aes haes (headerBlock_length sessionId packetId) rfl key key body sessionId
    refine ⟨0, _, haes.getNonceLen, hseal, ?_, ?_⟩
    · simp [crypto.encryptBlock_length]
      omega
    · exact decryptMessage_plain haes hblock hcorrect key body hsession packetId

/-- A packet with the identity header of a user: what the server's key opens of it. -/
theorem user_roundTrip (haes : IsAes method) (hblock : crypto.BlockCorrect)
    (hcorrect : (crypto.udpScheme method).Correct) (key body : Bytes) {sessionId : Nat}
    (hsession : sessionId < 2 ^ 64) (packetId : Nat) {users : ServerUserManager crypto}
    {user : ServerUser} (huser : user ∈ users.users) :
    ∃ packet, encryptMessage crypto method key user.key (headerBlock sessionId packetId ++
        (makeEih crypto key user.key (headerBlock sessionId packetId) ++ body)) sessionId 16 =
        some packet ∧
      packet.length = 16 + 16 + body.length + crypto.tagLen method ∧
      decryptMessage method key packet (some users) =
        .ready (some user, headerBlock sessionId packetId ++ (user.identityHash crypto ++ body)) := by
  have heih : (makeEih crypto key user.key (headerBlock sessionId packetId)).length = 16 :=
    crypto.encryptBlock_length _ _
  refine ⟨_, encryptMessage_aes haes (headerBlock_length sessionId packetId) heih key user.key body
    sessionId, ?_, decryptMessage_user haes hblock hcorrect key body hsession packetId huser⟩
  simp [crypto.encryptBlock_length, heih]
  omega

/-- What a client reads of a packet that a server sealed.  The body names the client's session
    as well. -/
theorem serverPayload_sealed (h2022 : method.isAead2022 = true) (hblock : crypto.BlockCorrect)
    (hcorrect : (crypto.udpScheme method).Correct) (sealedAt : Time) {addr : Address}
    {address : Bytes} (hw : addr.writeToBuf = some address) {control : UdpSocketControlData}
    (hsession : control.serverSessionId < 2 ^ 64) {nonce padding : Bytes}
    (hnonce : crypto.nonceLen method ≤ nonce.length) (key payload : Bytes) :
    ∃ packet, encryptServerPayload crypto method sealedAt key addr control payload nonce padding =
        some packet ∧
      ∀ now, decryptServerPayload crypto method now key packet =
        (readServerPacket now (headerBlock control.serverSessionId control.packetId ++
          serverBody sealedAt control.clientSessionId padding address payload)).1 := by
  obtain ⟨nonceLen, packet, hn, hseal, hlen, hopen⟩ := plain_roundTrip h2022 hblock hcorrect key nonce
    (serverBody sealedAt control.clientSessionId padding address payload) hnonce
    hsession control.packetId
  refine ⟨packet, ?_, fun now => decryptServerPayload_eq hn ?_ hopen⟩
  · rw [← hseal]
    simp [encryptServerPayload, hn, hw, headerBlock, serverBody]
  · simp [hlen, serverBody]
    omega

/-- **Datagrams round trip.** What a client seals, a server opens, without an identity
    header or with the one of a user that the server knows; and what a server seals, a
    client opens. -/
theorem payload_roundTrip (crypto : CryptoSuite K) (method : CipherKind)
    (h2022 : method.isAead2022 = true) (hblock : crypto.BlockCorrect)
    (hcorrect : (crypto.udpScheme method).Correct) {now sealedAt : Time}
    (hrange : absDiff now.unixSecs sealedAt.unixSecs ≤ serverPacketTimestampMaxDiff)
    (htime : sealedAt.unixSecs < 2 ^ 64) {addr : Address} (haddr : addr.IsPortable)
    {control : UdpSocketControlData} (hfits : ControlFits control) {nonce padding : Bytes}
    (hnonce : crypto.nonceLen method ≤ nonce.length) (hpad : padding.length < 2 ^ 16)
    (key payload : Bytes) :
    (∃ packet, encryptClientPayload crypto method sealedAt key addr control [] payload nonce padding =
        some packet ∧
      decryptClientPayload method now key packet (none : Option (ServerUserManager crypto)) =
        .ready
          { payload := payload, addr := addr, timestamp := sealedAt.unixSecs
            control := { control with serverSessionId := 0, user := none } }) ∧
    (methodSupportEih method = true → ∀ (users : ServerUserManager crypto) (user : ServerUser),
      user ∈ users.users →
      ∃ packet, encryptClientPayload crypto method sealedAt user.key addr control [key] payload nonce
          padding = some packet ∧
        decryptClientPayload method now key packet (some users) =
          .ready
            { payload := payload, addr := addr, timestamp := sealedAt.unixSecs
              control := { control with serverSessionId := 0, user := some user } }) ∧
    ∃ packet, encryptServerPayload crypto method sealedAt key addr control payload nonce padding =
        some packet ∧
      decryptServerPayload crypto method now key packet =
        .ready
          { payload := payload, addr := addr, timestamp := sealedAt.unixSecs
            control := { control with user := none } } := by
  obtain ⟨address, hw⟩ := Address.writeToBuf_isSome haddr
  refine ⟨?_, fun heih users user huser => ?_, ?_⟩
  · -- a client without identity keys
    obtain ⟨nonceLen, packet, hn, hseal, hlen, hopen⟩ := plain_roundTrip h2022 hblock hcorrect key nonce
      (clientBody sealedAt padding address payload) hnonce hfits.clientSessionId control.packetId
    refine ⟨packet, ?_, ?_⟩
    · rw [← hseal]
      simp [encryptClientPayload, hn, hw, headerBlock, clientBody]
    · have hread : (readClientPacket now false none
          (headerBlock control.clientSessionId control.packetId ++
            ([] ++ clientBody sealedAt padding address payload))).1 = .ready _ :=
        readClientPacket_sealed hrange htime haddr hw hpad hfits payload rfl none
      rw [decryptClientPayload_eq hn ?_ hopen, Option.isSome_none, Bool.and_false]
      · exact hread
      · simp [hlen, clientBody]
        omega
  · -- behind a user's hash, which the server finds
    have haes := isAes_of_supportEih heih
    obtain ⟨packet, hseal, hlen, hopen⟩ := user_roundTrip haes hblock hcorrect key
      (clientBody sealedAt padding address payload) hfits.clientSessionId control.packetId huser
    have hhash : (user.identityHash crypto).length = 16 := by
      simp [ServerUser.identityHash, crypto.hash_length]
    have hread : (readClientPacket now true (some user)
        (headerBlock control.clientSessionId control.packetId ++ (user.identityHash crypto ++
          clientBody sealedAt padding address payload))).1 = .ready _ :=
      readClientPacket_sealed hrange htime haddr hw hpad hfits payload hhash (some user)
    refine ⟨packet, ?_, ?_⟩
    · rw [← hseal]
      simp [encryptClientPayload, haes.getNonceLen, hw, heih, headerBlock, clientBody]
    · rw [decryptClientPayload_eq haes.getNonceLen ?_ hopen, heih, Option.isSome_some, Bool.and_true]
      · exact hread
      · simp [hlen, heih, clientBody]
        omega
  · refine (serverPayload_sealed h2022 hblock hcorrect sealedAt hw hfits.serverSessionId hnonce key
      payload).imp fun packet hsealed => ⟨hsealed.1, (hsealed.2 now).trans ?_⟩
    exact readServerPacket_sealed hrange htime haddr hw hpad hfits payload

/-- A datagram to a domain name, with three bytes of padding, opened 20 seconds later. -/
theorem payload_roundTrip_sample :
    ∃ packet, encryptServerPayload CryptoSuite.transparent .aead2022Blake3Aes256Gcm
        (100 * Time.second) (List.replicate 32 1) (.domainNameAddress "example.com" 443)
        { clientSessionId := 7, serverSessionId := 9, packetId := 1, user := none } [1, 2]
        (List.replicate 24 0) [0, 0, 0] = some packet ∧
      decryptServerPayload CryptoSuite.transparent .aead2022Blake3Aes256Gcm (120 * Time.second)
        (List.replicate 32 1) packet =
        .ready
          { payload := [1, 2], addr := .domainNameAddress "example.com" 443, timestamp := 100
            control := { clientSessionId := 7, serverSessionId := 9, packetId := 1, user := none } } :=
  have haddr : (Address.domainNameAddress "example.com" 443).IsPortable :=
    ⟨by decide, by decide +kernel⟩
  (payload_roundTrip CryptoSuite.transparent .aead2022Blake3Aes256Gcm rfl
    CryptoSuite.transparent_blockCorrect (CryptoSuite.transparent_udpCorrect _) (by decide) (by decide)
    haddr ⟨by decide, by decide, by decide⟩ (Nat.le_refl _) (by decide)
    (List.replicate 32 1) [1, 2]).2.2

end Shadowsocks.Udp.Aead2022
