import Shadowsocks.Udp.Aead2022

/-! # Datagrams that make the decoders panic

A minimum length is checked before a datagram is opened, and the reads after that trust
it.  Two reads do not: the port of a domain name, in both directions, and what follows
the timestamp on the way to a client, where the minimum leaves out the client session
id (`decrypt_ne_panicked_iff`).
-/

namespace Shadowsocks.Udp.Aead2022

open Shadowsocks.Lib Shadowsocks.Net

/-! ## Reading past the end -/

/-- A domain name address that ends within its port. -/
def cutsPort : Bytes → Bool
  | atyp :: domainLen :: rest =>
    decide (atyp.toNat = Socks5.addrTypeDomainName) && decide (domainLen.toNat ≤ rest.length) &&
      decide (rest.length < domainLen.toNat + 2)
  | _ => false

section Readers

variable {ε α : Type} {bs : Bytes}

theorem getUint_bind_ready {width : Nat} (h : width ≤ bs.length) (f : Nat → PollM Bytes ε α) :
    (getUint width >>= f) bs = f (fromBigEndian (bs.take width)) (bs.drop width) :=
  PollM.bind_ready (getUint_ready h) f

theorem getUint_bind_panicked {width : Nat} (h : bs.length < width) (f : Nat → PollM Bytes ε α) :
    (getUint width >>= f) bs = (.panicked, bs) :=
  PollM.bind_panicked (getUint_panicked h) f

theorem fromBigEndian_singleton (b : UInt8) : fromBigEndian [b] = b.toNat := by
  simp [fromBigEndian]

theorem pure_ne_panicked (a : α) : ((pure a : PollM Bytes ε α) bs).1 ≠ .panicked :=
  fun h => nomatch h

theorem fail_ne_panicked (e : ε) : ((PollM.fail e : PollM Bytes ε α) bs).1 ≠ .panicked :=
  fun h => nomatch h

/-- Only the first of two reads can panic if the second cannot. -/
theorem bind_panicked_iff {β : Type} {x : PollM Bytes ε α} {f : α → PollM Bytes ε β}
    (hf : ∀ a bs, (f a bs).1 ≠ .panicked) :
    ((x >>= f) bs).1 = .panicked ↔ (x bs).1 = .panicked := by
  cases hx : x bs with
  | mk outcome rest =>
    cases outcome with
    | ready a =>
      rw [PollM.bind_ready hx]
      exact ⟨fun h => absurd h (hf a rest), fun h => nomatch h⟩
    | pending =>
      rw [PollM.bind_pending hx]
      exact ⟨fun h => (nomatch h), fun h => (nomatch h)⟩
    | failed e =>
      rw [PollM.bind_failed hx]
      exact ⟨fun h => (nomatch h), fun h => (nomatch h)⟩
    | panicked =>
      rw [PollM.bind_panicked hx]
      exact ⟨fun _ => rfl, fun _ => rfl⟩

theorem mapErr_panicked_iff {ε' : Type} {x : PollM Bytes ε α} {g : ε → ε'} :
    (PollM.mapErr g x bs).1 = .panicked ↔ (x bs).1 = .panicked := by
  unfold PollM.mapErr
  split <;> next hx => simp [hx]

end Readers

theorem readCursor_panicked_iff (bs : Bytes) :
    (Address.readCursor bs).1 = .panicked ↔ cutsPort bs = true := by
  match bs with
  | [] => simp [Address.readCursor, remaining_bind, PollM.fail, cutsPort]
  | [_] => simp [Address.readCursor, remaining_bind, PollM.fail, cutsPort]
  | atyp :: domainLen :: rest =>
    unfold Address.readCursor
    rw [remaining_bind, if_neg (by simp), getUint_bind_ready (by simp)]
    simp only [List.take_succ_cons, List.take_zero, List.drop_succ_cons, List.drop_zero,
      fromBigEndian_singleton]
    -- only behind a domain name the port is read without a check
    by_cases hdomain : atyp.toNat = Socks5.addrTypeDomainName
    · have h4 : atyp.toNat ≠ Socks5.addrTypeIpv4 := by
        rw [hdomain]
        decide
      have h6 : atyp.toNat ≠ Socks5.addrTypeIpv6 := by
        rw [hdomain]
        decide
      rw [if_neg h4, if_neg h6, if_pos hdomain, getUint_bind_ready (by simp), remaining_bind]
      simp only [List.take_succ_cons, List.take_zero, List.drop_succ_cons, List.drop_zero,
        fromBigEndian_singleton]
      by_cases hname : rest.length < domainLen.toNat
      · rw [if_pos hname]
        simp [PollM.fail, cutsPort, Nat.not_le.2 hname]
      · rw [if_neg hname, PollM.bind_ready (copyToSlice_ready (Nat.not_lt.1 hname))]
        by_cases hport : rest.length < domainLen.toNat + 2
        · rw [getUint_bind_panicked (by rw [List.length_drop]; omega)]
          simp [cutsPort, hdomain, hport, Nat.not_lt.1 hname]
        · rw [getUint_bind_ready (by rw [List.length_drop]; omega)]
          simp only [cutsPort, hport, decide_false, Bool.and_false, Bool.false_eq_true, iff_false]
          cases fromUtf8 (rest.take domainLen.toNat) with
          | none => exact fail_ne_panicked _
          | some host => exact pure_ne_panicked _
    · -- the other types check what they read
      have hcut : cutsPort (atyp :: domainLen :: rest) = false := by simp [cutsPort, hdomain]
      rw [hcut]
      simp only [Bool.false_eq_true, iff_false]
      by_cases h4 : atyp.toNat = Socks5.addrTypeIpv4
      · rw [if_pos h4, remaining_bind]
        by_cases hshort : (domainLen :: rest).length < 4 + 2
        · rw [if_pos hshort]
          exact fail_ne_panicked _
        · rw [if_neg hshort, getUint_bind_ready (by omega),
            getUint_bind_ready (by rw [List.length_drop]; omega)]
          exact pure_ne_panicked _
      · by_cases h6 : atyp.toNat = Socks5.addrTypeIpv6
        · rw [if_neg h4, if_pos h6, remaining_bind]
          by_cases hshort : (domainLen :: rest).length < 16 + 2
          · rw [if_pos hshort]
            exact fail_ne_panicked _
          · rw [if_neg hshort, getUint_bind_ready (by omega),
              getUint_bind_ready (by rw [List.length_drop]; omega)]
            exact pure_ne_panicked _
        · rw [if_neg h4, if_neg h6, if_neg hdomain]
          exact fail_ne_panicked _

/-- The end of a packet cannot be read: its padding length or its address is cut. -/
def cutsPadded (bs : Bytes) : Bool :=
  decide (bs.length < 2) || cutsPort ((bs.drop 2).drop (fromBigEndian (bs.take 2)))

theorem readPaddedPayload_panicked_iff (bs : Bytes) :
    (readPaddedPayload bs).1 = .panicked ↔ cutsPadded bs = true := by
  unfold readPaddedPayload cutsPadded
  by_cases hshort : bs.length < 2
  · rw [getUint_bind_panicked hshort]
    simp [hshort]
  · have hseek (n : Nat) : (seekCurrent n : PollM Bytes ProtocolError Unit) (bs.drop 2) =
        (.ready (), (bs.drop 2).drop n) := rfl
    have hlast (addr : Address) (bs : Bytes) : ((PollM.get >>= fun payload => pure (addr, payload) :
        PollM Bytes ProtocolError (Address × Bytes)) bs).1 ≠ .panicked :=
      pure_ne_panicked (addr, bs)
    rw [getUint_bind_ready (Nat.not_lt.1 hshort), PollM.bind_ready (hseek _), bind_panicked_iff hlast,
      mapErr_panicked_iff, readCursor_panicked_iff]
    simp [hshort]

/-! ## The packets that panic -/

/-- The header passes its checks: the type, and the timestamp after it. -/
def passesChecks (now : Time) (socketType : Nat) (bs : Bytes) : Bool :=
  decide (fromBigEndian (bs.take 1) = socketType) &&
    decide (absDiff now.unixSecs (fromBigEndian ((bs.drop 1).take 8)) ≤ serverPacketTimestampMaxDiff)

theorem passesChecks_iff {now : Time} {socketType : Nat} {bs : Bytes} :
    passesChecks now socketType bs = true ↔ fromBigEndian (bs.take 1) = socketType ∧
      absDiff now.unixSecs (fromBigEndian ((bs.drop 1).take 8)) ≤ serverPacketTimestampMaxDiff := by
  rw [passesChecks, Bool.and_eq_true, decide_eq_true_iff, decide_eq_true_iff]

/-- A packet from a client that passes its checks and ends too early. -/
def cutsClientPacket (now : Time) (requireEih : Bool) (data : Bytes) : Bool :=
  let rest := data.drop (if requireEih then 32 else 16)
  passesChecks now clientSocketType rest && cutsPadded (rest.drop 9)

/-- A packet from a server that passes its checks and ends too early. -/
def cutsServerPacket (now : Time) (data : Bytes) : Bool :=
  let rest := data.drop 16
  passesChecks now serverSocketType rest &&
    (decide (rest.length < 17) || cutsPadded (rest.drop 17))

theorem readClientPacket_panicked_iff (now : Time) {requireEih : Bool} (user : Option ServerUser)
    {data : Bytes} (hlen : (if requireEih then 32 else 16) + 11 ≤ data.length) :
    (readClientPacket now requireEih user data).1 = .panicked ↔
      cutsClientPacket now requireEih data = true := by
  have hlen16 : 16 ≤ data.length := by
    cases requireEih <;> simp at hlen <;> omega
  have hskip : (if requireEih then advance 16 else pure () : PollM Bytes ProtocolError Unit)
      ((data.drop 8).drop 8) = (.ready (), data.drop (if requireEih then 32 else 16)) := by
    cases requireEih with
    | true =>
      have hlen : 32 + 11 ≤ data.length := hlen
      rw [if_pos rfl, advance_ready (by simp; omega)]
      simp
    | false => simp; rfl
  unfold readClientPacket cutsClientPacket
  rw [getUint_bind_ready (by omega), getUint_bind_ready (by simp; omega), PollM.bind_ready hskip]
  generalize hrest : data.drop (if requireEih then 32 else 16) = rest
  have hrestLen : 11 ≤ rest.length := by
    rw [← hrest, List.length_drop]
    omega
  rw [getUint_bind_ready (by omega), Bool.and_eq_true, passesChecks_iff]
  by_cases htype : fromBigEndian (rest.take 1) = clientSocketType
  · rw [if_neg (not_not.2 htype), getUint_bind_ready (by simp; omega)]
    by_cases hlate : absDiff now.unixSecs (fromBigEndian ((rest.drop 1).take 8)) >
        serverPacketTimestampMaxDiff
    · rw [if_pos hlate]
      exact ⟨fun h => absurd h (fail_ne_panicked _), fun h => absurd h.1.2 (Nat.not_le.2 hlate)⟩
    · rw [if_neg hlate, bind_panicked_iff fun _ _ => pure_ne_panicked _,
        readPaddedPayload_panicked_iff, List.drop_drop]
      exact ⟨fun h => ⟨⟨htype, Nat.not_lt.1 hlate⟩, h⟩, fun h => h.2⟩
  · rw [if_pos htype]
    exact ⟨fun h => absurd h (fail_ne_panicked _), fun h => absurd h.1.1 htype⟩

theorem readServerPacket_panicked_iff (now : Time) {data : Bytes} (hlen : 27 ≤ data.length) :
    (readServerPacket now data).1 = .panicked ↔ cutsServerPacket now data = true := by
  unfold readServerPacket cutsServerPacket
  rw [getUint_bind_ready (by omega), getUint_bind_ready (by simp; omega), List.drop_drop]
  generalize hrest : data.drop (8 + 8) = rest
  have hrestLen : 11 ≤ rest.length := by
    rw [← hrest, List.length_drop]
    omega
  rw [getUint_bind_ready (by omega), Bool.and_eq_true, passesChecks_iff, Bool.or_eq_true,
    decide_eq_true_iff]
  by_cases htype : fromBigEndian (rest.take 1) = serverSocketType
  · rw [if_neg (not_not.2 htype), getUint_bind_ready (by simp; omega)]
    by_cases hlate : absDiff now.unixSecs (fromBigEndian ((rest.drop 1).take 8)) >
        serverPacketTimestampMaxDiff
    · rw [if_pos hlate]
      exact ⟨fun h => absurd h (fail_ne_panicked _), fun h => absurd h.1.2 (Nat.not_le.2 hlate)⟩
    · rw [if_neg hlate]
      by_cases hshort : rest.length < 17
      · rw [getUint_bind_panicked (by simp; omega)]
        exact ⟨fun _ => ⟨⟨htype, Nat.not_lt.1 hlate⟩, .inl hshort⟩, fun _ => rfl⟩
      · rw [getUint_bind_ready (by simp; omega), bind_panicked_iff fun _ _ => pure_ne_panicked _,
          readPaddedPayload_panicked_iff, List.drop_drop, List.drop_drop]
        exact ⟨fun h => ⟨⟨htype, Nat.not_lt.1 hlate⟩, .inr h⟩, fun h => h.2.resolve_left hshort⟩
  · rw [if_pos htype]
    exact ⟨fun h => absurd h (fail_ne_panicked _), fun h => absurd h.1.1 htype⟩

/-! ## Opening -/

variable {K : Type} {crypto : CryptoSuite K} {method : CipherKind}

theorem decryptPacket_cases (cipherKey : K) (nonce message : Bytes) :
    decryptPacket crypto method cipherKey nonce message = .failed .decryptPayloadError ∨
      ∃ plain, decryptPacket crypto method cipherKey nonce message = .ready plain ∧
        message.length = plain.length + crypto.tagLen method := by
  unfold decryptPacket
  split
  · next plain hplain =>
    refine .inr ⟨plain, rfl, ?_⟩
    rw [CryptoSuite.tagLen, ← crypto.udpScheme_tagLen]
    exact (crypto.udpScheme method).decrypt_length hplain
  · exact .inl rfl

/-- A packet is opened, and something may be put in front of what it holds. -/
theorem map_decryptPacket_cases (cipherKey : K) (nonce message : Bytes) (user : Option ServerUser)
    (front : Bytes) :
    (∃ e, (decryptPacket crypto method cipherKey nonce message).map
        (fun plain => (user, front ++ plain)) = .failed e) ∨
      ∃ data, (decryptPacket crypto method cipherKey nonce message).map
          (fun plain => (user, front ++ plain)) = .ready (user, data) ∧
        front.length + message.length = data.length + crypto.tagLen method := by
  rcases decryptPacket_cases cipherKey nonce message with hfailed | ⟨plain, hready, hlen⟩
  · exact .inl ⟨_, by rw [hfailed]; rfl⟩
  · refine .inr ⟨front ++ plain, by rw [hready]; rfl, ?_⟩
    rw [hlen, List.length_append, Nat.add_assoc]

theorem isAead2022_of_getNonceLen {nonceLen : Nat} (h : getNonceLen crypto method = some nonceLen) :
    method.isAead2022 = true := by
  cases method <;> first | rfl | cases h

theorem isAead2022_of_getNonceLen_none (h : getNonceLen crypto method = none) :
    method.isAead2022 = false := by
  cases method <;> first | rfl | cases h

/-- Opening failed, or left all but the nonce and the tag. -/
def OpensFrom (crypto : CryptoSuite K) (method : CipherKind) (nonceLen : Nat) (packet : Bytes)
    (outcome : Polled ProtocolError (Option ServerUser × Bytes)) : Prop :=
  (∃ e, outcome = .failed e) ∨ ∃ user data, outcome = .ready (user, data) ∧
    packet.length = nonceLen + data.length + crypto.tagLen method

section Opening

variable {key packet : Bytes}

theorem decryptMessage_opens_chacha (h : IsChacha method)
    (hlen : crypto.nonceLen method + 8 ≤ packet.length)
    (userManager : Option (ServerUserManager crypto)) :
    OpensFrom crypto method (crypto.nonceLen method) packet
      (decryptMessage method key packet userManager) := by
  have hlong : ¬ (packet.length < crypto.nonceLen method ∨
      (packet.drop (crypto.nonceLen method)).length < 8) := by
    rw [List.length_drop]
    omega
  have heq : decryptMessage method key packet userManager =
      (decryptPacket crypto method
        (crypto.udpKey method key (fromBigEndian ((packet.drop (crypto.nonceLen method)).take 8)))
        (packet.take (crypto.nonceLen method)) (packet.drop (crypto.nonceLen method))).map
          fun plain => (none, [] ++ plain) := by
    rcases h with rfl | rfl <;> exact if_neg hlong
  rw [heq]
  rcases map_decryptPacket_cases _ _ _ none [] with hfailed | ⟨data, hready, hdata⟩
  · exact .inl hfailed
  · refine .inr ⟨none, data, hready, ?_⟩
    rw [List.length_drop, List.length_nil] at hdata
    omega

theorem decryptMessage_opens_plain (h : IsAes method) (hlen : 16 ≤ packet.length) :
    OpensFrom crypto method 0 packet
      (decryptMessage method key packet (none : Option (ServerUserManager crypto))) := by
  have hlong : ¬ packet.length < 16 := Nat.not_lt.2 hlen
  have hheader : (crypto.decryptBlock key (packet.take 16)).length = 16 :=
    crypto.decryptBlock_length key _ (by rw [List.length_take]; omega)
  have heq : decryptMessage method key packet (none : Option (ServerUserManager crypto)) =
      (decryptPacket crypto method (crypto.udpKey method key
        (fromBigEndian ((crypto.decryptBlock key (packet.take 16)).take 8)))
        (((crypto.decryptBlock key (packet.take 16)).drop 4).take 12) (packet.drop 16)).map
          fun plain => (none, crypto.decryptBlock key (packet.take 16) ++ plain) := by
    rcases h with rfl | rfl <;> exact if_neg hlong
  rw [heq]
  rcases map_decryptPacket_cases _ _ _ none _ with hfailed | ⟨data, hready, hdata⟩
  · exact .inl hfailed
  · refine .inr ⟨none, data, hready, ?_⟩
    rw [List.length_drop, hheader] at hdata
    omega

theorem decryptMessage_opens_user (h : IsAes method) (hlen : 32 ≤ packet.length)
    (users : ServerUserManager crypto) :
    OpensFrom crypto method 0 packet (decryptMessage method key packet (some users)) := by
  have hlong : ¬ packet.length < 16 := by omega
  have hlong' : ¬ (packet.drop 16).length < 16 := by
    rw [List.length_drop]
    omega
  have hheader : (crypto.decryptBlock key (packet.take 16)).length = 16 :=
    crypto.decryptBlock_length key _ (by rw [List.length_take]; omega)
  have hblock : (crypto.decryptBlock key ((packet.drop 16).take 16)).length = 16 :=
    crypto.decryptBlock_length key _ (by rw [List.length_take, List.length_drop]; omega)
  have heih : (xorBlock (crypto.decryptBlock key ((packet.drop 16).take 16))
      (crypto.decryptBlock key (packet.take 16))).length = 16 := by
    rw [xorBlock, List.length_zipWith, hheader, hblock, Nat.min_self]
  have hopens : ∀ user, OpensFrom crypto method 0 packet
      ((decryptPacket crypto method (crypto.udpKey method user.key
        (fromBigEndian ((crypto.decryptBlock key (packet.take 16)).take 8)))
        (((crypto.decryptBlock key (packet.take 16)).drop 4).take 12)
        ((packet.drop 16).drop 16)).map fun plain => (some user,
          crypto.decryptBlock key (packet.take 16) ++
            xorBlock (crypto.decryptBlock key ((packet.drop 16).take 16))
              (crypto.decryptBlock key (packet.take 16)) ++ plain)) := by
    intro user
    rcases map_decryptPacket_cases _ _ _ (some user) _ with hfailed | ⟨data, hready, hdata⟩
    · exact .inl hfailed
    · refine .inr ⟨some user, data, hready, ?_⟩
      rw [List.length_drop, List.length_drop, List.length_append, hheader, heih] at hdata
      omega
  -- both AES methods take the same branch
  rcases h with rfl | rfl <;> unfold decryptMessage <;> dsimp only <;>
    rw [if_neg hlong, if_neg hlong'] <;> split
  · exact .inl ⟨_, rfl⟩
  · exact hopens _
  · exact .inl ⟨_, rfl⟩
  · exact hopens _

/-- A packet that is long enough is opened without a panic. -/
theorem decryptMessage_opens {userManager : Option (ServerUserManager crypto)} {nonceLen : Nat}
    (hnonce : getNonceLen crypto method = some nonceLen)
    (hlen : nonceLen + (if (methodSupportEih method && userManager.isSome) = true then 32 else 16) ≤
      packet.length) :
    OpensFrom crypto method nonceLen packet (decryptMessage method key packet userManager) := by
  rcases isChacha_or_isAes (isAead2022_of_getNonceLen hnonce) with hchacha | haes
  · obtain rfl := Option.some.inj (hchacha.getNonceLen.symm.trans hnonce)
    rw [hchacha.supportEih, Bool.false_and, if_neg Bool.false_ne_true] at hlen
    exact decryptMessage_opens_chacha hchacha (by omega) userManager
  · obtain rfl := Option.some.inj (haes.getNonceLen.symm.trans hnonce)
    rw [haes.supportEih, Bool.true_and, Nat.zero_add] at hlen
    cases userManager with
    | none => exact decryptMessage_opens_plain haes hlen
    | some users => exact decryptMessage_opens_user haes hlen users

end Opening

/-! ## The decoders -/

/-- `header_len` of `decrypt_client_payload_aead_2022`. -/
def clientHeaderLen (crypto : CryptoSuite K) (method : CipherKind) (requireEih : Bool) : Nat :=
  (getNonceLen crypto method).getD 0 + crypto.tagLen method + 8 + 8 +
    (if requireEih then 16 else 0) + 1 + 8 + 2

/-- `header_len` of `decrypt_server_payload_aead_2022`. -/
def serverHeaderLen (crypto : CryptoSuite K) (method : CipherKind) : Nat :=
  (getNonceLen crypto method).getD 0 + crypto.tagLen method + 8 + 8 + 1 + 8 + 2

theorem decryptClientPayload_ne_panicked_iff (now : Time) (key payload : Bytes)
    (userManager : Option (ServerUserManager crypto)) :
    decryptClientPayload method now key payload userManager ≠ .panicked ↔
      method.isAead2022 = true ∧ ∀ user data,
        clientHeaderLen crypto method (methodSupportEih method && userManager.isSome) ≤
          payload.length →
        decryptMessage method key payload userManager = .ready (user, data) →
          cutsClientPacket now (methodSupportEih method && userManager.isSome) data = false := by
  unfold decryptClientPayload clientHeaderLen
  cases hnonce : getNonceLen crypto method with
  | none => simp [isAead2022_of_getNonceLen_none hnonce]
  | some nonceLen =>
    simp only [isAead2022_of_getNonceLen hnonce, true_and, Option.getD_some]
    generalize hrequire : (methodSupportEih method && userManager.isSome) = requireEih
    by_cases hshort : payload.length < nonceLen + crypto.tagLen method + 8 + 8 +
        (if requireEih = true then 16 else 0) + 1 + 8 + 2
    · rw [if_pos hshort]
      exact ⟨fun _ _ _ hlong => absurd hshort (Nat.not_lt.2 hlong), fun _ h => (nomatch h)⟩
    · rw [if_neg hshort]
      have hlong := Nat.not_lt.1 hshort
      have hopens : OpensFrom crypto method nonceLen payload
          (decryptMessage method key payload userManager) := by
        apply decryptMessage_opens hnonce
        rw [hrequire]
        cases requireEih <;> simp at hlong ⊢ <;> omega
      rcases hopens with ⟨e, hfailed⟩ | ⟨user, data, hready, hlen⟩
      · rw [hfailed]
        exact ⟨fun _ _ _ _ h => (nomatch h), fun _ h => (nomatch h)⟩
      · -- what has opened is as long as the header needs
        have hdata : (if requireEih = true then 32 else 16) + 11 ≤ data.length := by
          cases requireEih <;> simp at hlong ⊢ <;> omega
        rw [hready]
        have hiff := readClientPacket_panicked_iff now user hdata
        constructor
        · intro hne user' data' _ h
          cases h
          exact Bool.eq_false_iff.2 fun hcut => hne (hiff.2 hcut)
        · intro hcuts hpanicked
          exact absurd (hiff.1 hpanicked) (Bool.eq_false_iff.1 (hcuts user data hlong rfl))

theorem decryptServerPayload_ne_panicked_iff (now : Time) (key payload : Bytes) :
    decryptServerPayload crypto method now key payload ≠ .panicked ↔
      method.isAead2022 = true ∧ ∀ user data, serverHeaderLen crypto method ≤ payload.length →
        decryptMessage method key payload (none : Option (ServerUserManager crypto)) =
          .ready (user, data) →
        cutsServerPacket now data = false := by
  unfold decryptServerPayload serverHeaderLen
  cases hnonce : getNonceLen crypto method with
  | none => simp [isAead2022_of_getNonceLen_none hnonce]
  | some nonceLen =>
    simp only [isAead2022_of_getNonceLen hnonce, true_and, Option.getD_some]
    by_cases hshort : payload.length < nonceLen + crypto.tagLen method + 8 + 8 + 1 + 8 + 2
    · rw [if_pos hshort]
      exact ⟨fun _ _ _ hlong => absurd hshort (Nat.not_lt.2 hlong), fun _ h => (nomatch h)⟩
    · rw [if_neg hshort]
      have hlong := Nat.not_lt.1 hshort
      have hopens : OpensFrom crypto method nonceLen payload
          (decryptMessage method key payload (none : Option (ServerUserManager crypto))) := by
        apply decryptMessage_opens hnonce
        rw [Option.isSome_none, Bool.and_false, if_neg Bool.false_ne_true]
        omega
      rcases hopens with ⟨e, hfailed⟩ | ⟨user, data, hready, hlen⟩
      · rw [hfailed]
        exact ⟨fun _ _ _ _ h => (nomatch h), fun _ h => (nomatch h)⟩
      · rw [hready]
        have hiff := readServerPacket_panicked_iff now (show 27 ≤ data.length by omega)
        constructor
        · intro hne user' data' _ h
          cases h
          exact Bool.eq_false_iff.2 fun hcut => hne (hiff.2 hcut)
        · intro hcuts hpanicked
          exact absurd (hiff.1 hpanicked) (Bool.eq_false_iff.1 (hcuts user data hlong rfl))

/-- **Hostile datagrams.** A decoder panics exactly on a datagram that opens to a packet
    which passes its checks and ends too early (or for a method that is not its own). -/
theorem decrypt_ne_panicked_iff (crypto : CryptoSuite K) (method : CipherKind) (now : Time)
    (key payload : Bytes) (userManager : Option (ServerUserManager crypto)) :
    (decryptClientPayload method now key payload userManager ≠ .panicked ↔
      method.isAead2022 = true ∧ ∀ user data,
        clientHeaderLen crypto method (methodSupportEih method && userManager.isSome) ≤
          payload.length →
        decryptMessage method key payload userManager = .ready (user, data) →
          cutsClientPacket now (methodSupportEih method && userManager.isSome) data = false) ∧
    (decryptServerPayload crypto method now key payload ≠ .panicked ↔
      method.isAead2022 = true ∧ ∀ user data, serverHeaderLen crypto method ≤ payload.length →
        decryptMessage method key payload (none : Option (ServerUserManager crypto)) =
          .ready (user, data) →
        cutsServerPacket now data = false) :=
  ⟨decryptClientPayload_ne_panicked_iff now key payload userManager,
    decryptServerPayload_ne_panicked_iff now key payload⟩

/-! ### Samples -/

/-- A packet with the ids 7 and 1 that someone with the key has sealed, and what follows
    the ids. -/
def hostileDatagram (rest : Bytes) : Bytes :=
  (encryptMessage CryptoSuite.transparent .aead2022Blake3Aes128Gcm (List.replicate 16 1)
    (List.replicate 16 1) (bigEndian 8 7 ++ bigEndian 8 1 ++ rest) 7 0).getD []

/-- An empty domain name without a port; and a packet to a client of the minimum length. -/
theorem decrypt_panics :
    decryptClientPayload .aead2022Blake3Aes128Gcm (100 * Time.second) (List.replicate 16 1)
        (hostileDatagram ([0] ++ bigEndian 8 100 ++ [0, 0] ++ [3, 0]))
        (none : Option (ServerUserManager CryptoSuite.transparent)) = .panicked ∧
      decryptServerPayload CryptoSuite.transparent .aead2022Blake3Aes128Gcm (100 * Time.second)
        (List.replicate 16 1) (hostileDatagram ([1] ++ bigEndian 8 100 ++ [0, 0])) = .panicked :=
  ⟨by decide +kernel, by decide +kernel⟩

end Shadowsocks.Udp.Aead2022
