import Shadowsocks.Udp.DecoderPanics

/-! # The two address decoders

The same grammar is decoded twice: from a datagram that has arrived (`readCursor`), and from a
stream (`readFrom`).  They agree on every byte string but those on which the first one reads the
port of a domain name without looking whether it is there.
-/

namespace Shadowsocks.Udp.Aead2022

open Shadowsocks.Lib Shadowsocks.Net

/-- The same address and the same bytes left, or an error from both. -/
def DecodersAgree (bs : Bytes) : Prop :=
  (∃ addr rest, Address.readCursor bs = (.ready addr, rest) ∧
      Address.readFrom bs = (.ready addr, rest)) ∨
    (∃ e, (Address.readCursor bs).1 = .failed e) ∧ ∃ e, (Address.readFrom bs).1 = .failed e

section ReadExact

variable {α : Type} {len : Nat} {bs : Bytes}

theorem readExact_bind_ready (h : len ≤ bs.length) (f : Bytes → PollM Bytes Socks5.Error α) :
    (PollM.mapErr .ioError (readExact len) >>= f) bs = f (bs.take len) (bs.drop len) := by
  apply PollM.bind_ready
  simp only [PollM.mapErr, readExact, if_neg (Nat.not_lt.2 h)]

theorem readExact_bind_failed (h : bs.length < len) (f : Bytes → PollM Bytes Socks5.Error α) :
    (PollM.mapErr .ioError (readExact len) >>= f) bs = (.failed (.ioError .unexpectedEof), []) := by
  apply PollM.bind_failed
  simp only [PollM.mapErr, readExact, if_pos h]

end ReadExact

/-- What `readFrom` does after the type of an address. -/
theorem readFrom_cons (atyp : UInt8) (rest : Bytes) :
    Address.readFrom (atyp :: rest) =
      (if atyp.toNat = Socks5.addrTypeIpv4 then
        PollM.mapErr .ioError (readExact 6) >>= fun buf =>
          pure (.socketAddress
            (.v4 (BitVec.ofNat 32 (fromBigEndian (buf.take 4))) (fromBigEndian (buf.drop 4))))
      else if atyp.toNat = Socks5.addrTypeIpv6 then
        PollM.mapErr .ioError (readExact 18) >>= fun buf =>
          pure (.socketAddress (.v6 (BitVec.ofNat 128 (fromBigEndian (buf.take 16)))
            (fromBigEndian (buf.drop 16)) 0 0))
      else if atyp.toNat = Socks5.addrTypeDomainName then
        PollM.mapErr .ioError (readExact 1) >>= fun lengthBuf =>
          PollM.mapErr .ioError (readExact (fromBigEndian lengthBuf + 2)) >>= fun rawAddr =>
            match fromUtf8 (rawAddr.take (fromBigEndian lengthBuf)) with
            | some host =>
              pure (.domainNameAddress host (fromBigEndian (rawAddr.drop (fromBigEndian lengthBuf))))
            | none => PollM.fail .addressDomainInvalidEncoding
      else PollM.fail (.addressTypeNotSupported atyp.toNat) : PollM Bytes Socks5.Error Address)
        rest := by
  unfold Address.readFrom
  have htype : fromBigEndian ((atyp :: rest).take 1) = atyp.toNat := fromBigEndian_singleton atyp
  rw [readExact_bind_ready (by simp), htype]
  rfl

/-- What `readCursor` does after the type of an address that has more to it. -/
theorem readCursor_cons (atyp second : UInt8) (rest : Bytes) :
    Address.readCursor (atyp :: second :: rest) =
      (if atyp.toNat = Socks5.addrTypeIpv4 then
        remaining >>= fun left =>
          if left < 4 + 2 then PollM.fail Address.invalidBuf
          else getUint 4 >>= fun ip => getUint 2 >>= fun port =>
            pure (.socketAddress (.v4 (BitVec.ofNat 32 ip) port))
      else if atyp.toNat = Socks5.addrTypeIpv6 then
        remaining >>= fun left =>
          if left < 16 + 2 then PollM.fail Address.invalidBuf
          else getUint 16 >>= fun ip => getUint 2 >>= fun port =>
            pure (.socketAddress (.v6 (BitVec.ofNat 128 ip) port 0 0))
      else if atyp.toNat = Socks5.addrTypeDomainName then
        getUint 1 >>= fun domainLen => remaining >>= fun left =>
          if left < domainLen then PollM.fail .addressDomainInvalidEncoding
          else copyToSlice domainLen >>= fun buf => getUint 2 >>= fun port =>
            match fromUtf8 buf with
            | some host => pure (.domainNameAddress host port)
            | none => PollM.fail .addressDomainInvalidEncoding
      else PollM.fail (.addressTypeNotSupported atyp.toNat) : PollM Bytes Socks5.Error Address)
        (second :: rest) := by
  unfold Address.readCursor
  have htype : fromBigEndian ((atyp :: second :: rest).take 1) = atyp.toNat :=
    fromBigEndian_singleton atyp
  rw [remaining_bind, if_neg (by simp), getUint_bind_ready (by simp), htype]
  rfl

/-- An address of which only the type has come is an error to both. -/
theorem decodersAgree_type (atyp : UInt8) : DecodersAgree [atyp] := by
  refine .inr ⟨⟨_, rfl⟩, ?_⟩
  rw [readFrom_cons]
  split
  · exact ⟨_, congrArg Prod.fst (readExact_bind_failed (by simp) _)⟩
  · split
    · exact ⟨_, congrArg Prod.fst (readExact_bind_failed (by simp) _)⟩
    · split
      · exact ⟨_, congrArg Prod.fst (readExact_bind_failed (by simp) _)⟩
      · exact ⟨_, rfl⟩

/-- An IP address and a port, of a width that both know. -/
theorem decodersAgree_ip {width : Nat} {addr : Nat → Nat → Address} (bs : Bytes) :
    let cursor : PollM Bytes Socks5.Error Address := remaining >>= fun left =>
      if left < width + 2 then PollM.fail Address.invalidBuf
      else getUint width >>= fun ip => getUint 2 >>= fun port => pure (addr ip port)
    let stream : PollM Bytes Socks5.Error Address :=
      PollM.mapErr .ioError (readExact (width + 2)) >>= fun buf =>
        pure (addr (fromBigEndian (buf.take width)) (fromBigEndian (buf.drop width)))
    (∃ addr rest, cursor bs = (.ready addr, rest) ∧ stream bs = (.ready addr, rest)) ∨
      (∃ e, (cursor bs).1 = .failed e) ∧ ∃ e, (stream bs).1 = .failed e := by
  intro cursor stream
  by_cases hshort : bs.length < width + 2
  · refine .inr ⟨⟨Address.invalidBuf, ?_⟩, _, congrArg Prod.fst (readExact_bind_failed hshort _)⟩
    simp only [cursor, remaining_bind, if_pos hshort]
    rfl
  · have hlong := Nat.not_lt.1 hshort
    refine .inl ⟨addr (fromBigEndian (bs.take width)) (fromBigEndian ((bs.drop width).take 2)),
      bs.drop (width + 2), ?_, ?_⟩
    · simp only [cursor, remaining_bind, if_neg hshort]
      rw [getUint_bind_ready (by omega), getUint_bind_ready (by rw [List.length_drop]; omega),
        List.drop_drop]
      rfl
    · simp only [stream]
      rw [readExact_bind_ready hlong, List.take_take, Nat.min_eq_left (Nat.le_add_right width 2),
        List.drop_take, Nat.add_sub_cancel_left]
      rfl

theorem decodersAgree_of_not_cutsPort {bs : Bytes} (h : cutsPort bs = false) : DecodersAgree bs := by
  match bs with
  | [] => exact .inr ⟨⟨_, rfl⟩, ⟨_, rfl⟩⟩
  | [atyp] => exact decodersAgree_type atyp
  | atyp :: second :: rest =>
    unfold DecodersAgree
    rw [readCursor_cons, readFrom_cons]
    by_cases h4 : atyp.toNat = Socks5.addrTypeIpv4
    · rw [if_pos h4, if_pos h4]
      exact decodersAgree_ip (second :: rest)
    · rw [if_neg h4, if_neg h4]
      by_cases h6 : atyp.toNat = Socks5.addrTypeIpv6
      · rw [if_pos h6, if_pos h6]
        exact decodersAgree_ip (second :: rest)
      · rw [if_neg h6, if_neg h6]
        by_cases hdomain : atyp.toNat = Socks5.addrTypeDomainName
        · rw [if_pos hdomain, if_pos hdomain, getUint_bind_ready (by simp), remaining_bind,
            readExact_bind_ready (by simp)]
          simp only [List.take_succ_cons, List.take_zero, List.drop_succ_cons, List.drop_zero,
            fromBigEndian_singleton]
          by_cases hname : rest.length < second.toNat
          · rw [if_pos hname, readExact_bind_failed (by omega)]
            exact .inr ⟨⟨_, rfl⟩, ⟨_, rfl⟩⟩
          · -- the port is there, or the datagram would have been cut within it
            have hport : second.toNat + 2 ≤ rest.length := by
              simp only [cutsPort, hdomain, Nat.not_lt.1 hname, decide_true, Bool.true_and,
                decide_eq_false_iff_not] at h
              omega
            rw [if_neg hname, PollM.bind_ready (copyToSlice_ready (Nat.not_lt.1 hname)),
              getUint_bind_ready (by rw [List.length_drop]; omega), readExact_bind_ready hport,
              List.take_take, Nat.min_eq_left (Nat.le_add_right _ 2), List.drop_take,
              Nat.add_sub_cancel_left, List.drop_drop]
            cases fromUtf8 (rest.take second.toNat) with
            | none => exact .inr ⟨⟨_, rfl⟩, ⟨_, rfl⟩⟩
            | some host => exact .inl ⟨_, _, rfl, rfl⟩
        · rw [if_neg hdomain, if_neg hdomain]
          exact .inr ⟨⟨_, rfl⟩, ⟨_, rfl⟩⟩

/-- **One grammar.** The decoders agree, without a panic, on exactly the byte strings that are not
    a domain name address cut within its port. -/
theorem decoders_agree_iff (bs : Bytes) : DecodersAgree bs ↔ cutsPort bs = false := by
  refine ⟨fun h => ?_, decodersAgree_of_not_cutsPort⟩
  rw [Bool.eq_false_iff]
  intro hcut
  have hpanicked := (readCursor_panicked_iff bs).2 hcut
  obtain ⟨addr, rest, hready, -⟩ | ⟨⟨e, hfailed⟩, -⟩ := h
  · rw [hready] at hpanicked
    cases hpanicked
  · rw [hfailed] at hpanicked
    cases hpanicked

/-- An empty domain name and nothing after it. -/
theorem decoders_disagree : (Address.readCursor [3, 0]).1 = .panicked ∧
    (Address.readFrom [3, 0]).1 = .failed (.ioError .unexpectedEof) ∧ ¬ DecodersAgree [3, 0] := by
  refine ⟨by decide, by decide, ?_⟩
  rintro (⟨addr, rest, hready, -⟩ | ⟨⟨e, hfailed⟩, -⟩)
  · cases hready
  · cases hfailed

end Shadowsocks.Udp.Aead2022
