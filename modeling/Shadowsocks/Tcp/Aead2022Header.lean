import Shadowsocks.Tcp.Aead2022
import Shadowsocks.Tcp.ChunkReaderRuns

/-! # The header that a reader has accepted

Whatever a peer sends, an AEAD-2022 reader that delivers anything has opened one header out of
it, and from then on reports what that header said and reads under the key that it was sealed
under (`frame`).
-/

namespace Shadowsocks.Tcp.Aead2022

open Shadowsocks.Lib
open Shadowsocks.Tcp.Frame

variable {K B : Type} [BloomFilter B] {crypto : CryptoSuite K} (cfg : ReaderConfig crypto)

/-- The key that a header is sealed under; on a multi-user server that of the user whom its
    identity header names. -/
def headerKey? (key salt chunk : Bytes) : Option Bytes :=
  if cfg.requireEih then
    match cfg.userManager, eihKey? cfg.method (crypto.deriveKey (key ++ salt)) with
    | some users, some eihKey =>
      if chunk.length < 16 then none
      else (users.getUserByHash (crypto.decryptBlock eihKey (chunk.take 16))).map (·.key)
    | _, _ => none
  else some key

/-- A header among the bytes of the peer that opens under its key. -/
structure AcceptedHeader (key peer : Bytes) where
  block : Bytes
  sealKey : Bytes
  received : block <:+: peer
  length : block.length = cfg.headerLen
  sealKey_eq : headerKey? cfg key (block.take (crypto.saltLen cfg.method))
    (block.drop (crypto.saltLen cfg.method)) = some sealKey
  opens : ((crypto.cipher cfg.method sealKey
    (block.take (crypto.saltLen cfg.method))).decryptPacket (crypto.scheme cfg.method)
      ((block.drop (crypto.saltLen cfg.method)).drop cfg.eihLen)).1 = true

namespace AcceptedHeader

variable {cfg} {key peer : Bytes} (header : AcceptedHeader cfg key peer)

def salt : Bytes := header.block.take (crypto.saltLen cfg.method)

/-- The header without its salt and its identity part, opened. -/
def plain : Bytes :=
  ((crypto.cipher cfg.method header.sealKey header.salt).decryptPacket (crypto.scheme cfg.method)
    ((header.block.drop (crypto.saltLen cfg.method)).drop cfg.eihLen)).2.1

/-- The request salt of a response. -/
def requestSalt : Bytes := (header.plain.drop 9).take cfg.requestSaltLen

/-- The user whom the identity header names. -/
def Identifies (users : ServerUserManager crypto) (user : ServerUser) : Prop :=
  ∃ eihKey, eihKey? cfg.method (crypto.deriveKey (key ++ header.salt)) = some eihKey ∧
    users.getUserByHash (crypto.decryptBlock eihKey
      ((header.block.drop (crypto.saltLen cfg.method)).take 16)) = some user

/-- On a multi-user server a header is sealed under the key of the user whom it names. -/
theorem identifies {users : ServerUserManager crypto} (husers : cfg.userManager = some users)
    (hrequire : cfg.requireEih = true) :
    ∃ user, header.Identifies users user ∧ user.key = header.sealKey := by
  have hkey := header.sealKey_eq
  unfold headerKey? at hkey
  rw [if_pos hrequire, husers] at hkey
  split at hkey
  · next eihKey heih hnamed =>
    cases heih
    split at hkey
    · cases hkey
    · obtain ⟨user, hfound, huser⟩ := Option.map_eq_some_iff.1 hkey
      exact ⟨user, ⟨eihKey, hnamed, hfound⟩, huser⟩
  · cases hkey

/-- What the reader's fields and its session key say of the header. -/
structure Reported (sessionKey : K) (fields : ReaderFields) : Prop where
  salt : fields.salt = some header.salt
  sessionKey : sessionKey = crypto.sessionKey cfg.method header.sealKey header.salt
  userKey : fields.userKey = if cfg.requireEih then some header.sealKey else none
  requestSalt : 0 < cfg.requestSaltLen → fields.requestSalt = some header.requestSalt

end AcceptedHeader

/-- Before the header: what is still to come is the end of what the peer sends. -/
structure Unaccepted (key peer : Bytes) (w : ReadState K B) : Prop where
  state : w.reader.state = .head { key := key }
  salt : w.reader.rest.salt = none
  dataChunkCount : w.reader.rest.dataChunkCount = 0
  userKey : cfg.requireEih = false → w.reader.rest.userKey = none
  source : w.source.bytes <:+ peer

section Header

variable {cfg} {key peer : Bytes} {h : ReadHeader}

/-- What has not been accepted, with the user that the identity header names. -/
def Selected (cfg : ReaderConfig crypto) (key peer : Bytes) (h : ReadHeader) (sealKey : Bytes)
    (w : ReadState K B) : Prop :=
  w.AtHead h (Unaccepted cfg key peer) ∧
    (cfg.requireEih = true → w.reader.rest.userKey = some sealKey)

omit [BloomFilter B] in
theorem readHeaderBytes_unaccepted :
    Triple (ReadWorld.AtHead h (Unaccepted (B := B) cfg key peer)) (readHeaderBytes cfg)
      { ready := fun block w => w.AtHead h (Unaccepted cfg key peer) ∧ block <:+: peer
        pending := ReadWorld.AtHead h (Unaccepted cfg key peer)
        failed := fun _ => ReadWorld.AtHead h (Unaccepted cfg key peer)
        panicked := ReadWorld.AtHead h (Unaccepted cfg key peer) } := by
  intro w hw
  obtain ⟨before, hpeer⟩ := hw.before.source
  have hfill : ∀ (buffer : Bytes) (s : Source), s.bytes <:+ peer →
      (w.fill buffer s).AtHead h (Unaccepted cfg key peer) := fun buffer s hs =>
    ⟨hw.state, hw.handshaked, hw.before.state, hw.before.salt, hw.before.dataChunkCount,
      hw.before.userKey, hs⟩
  unfold readHeaderBytes
  rcases hr : w.source.read cfg.headerLen with ⟨res, s⟩
  cases res with
  | ready block =>
    have hbytes := (Source.read_ready hr).1
    rw [hbytes] at hpeer
    refine ⟨hfill _ s ⟨before ++ block, ?_⟩, before, s.bytes, ?_⟩
    · rw [List.append_assoc]
      exact hpeer
    · rw [List.append_assoc]
      exact hpeer
  | pending => exact hfill _ s ((Source.read_pending hr).1 ▸ hw.before.source)
  | failed e => exact hfill _ s ((Source.read_failed hr).1 ▸ hw.before.source)
  | panicked => exact absurd hr Source.read_ne_panicked

omit [BloomFilter B] in
theorem selectCipher_unaccepted (salt chunk : Bytes) :
    Triple (ReadWorld.AtHead h (Unaccepted (B := B) cfg key peer))
      (selectCipher cfg key salt chunk)
      { ready := fun r w => ∃ sealKey, headerKey? cfg key salt chunk = some sealKey ∧
          r = (crypto.cipher cfg.method sealKey salt, chunk.drop cfg.eihLen) ∧
          Selected cfg key peer h sealKey w
        pending := ReadWorld.AtHead h (Unaccepted cfg key peer)
        failed := fun _ => ReadWorld.AtHead h (Unaccepted cfg key peer)
        panicked := ReadWorld.AtHead h (Unaccepted cfg key peer) } := by
  intro w hw
  unfold selectCipher headerKey? ReaderConfig.eihLen
  cases hrequire : cfg.requireEih with
  | false => exact ⟨key, rfl, rfl, hw, fun heih => absurd (hrequire.symm.trans heih) Bool.false_ne_true⟩
  | true =>
    simp only [if_true]
    cases cfg.userManager with
    | none => exact hw
    | some users =>
      cases eihKey? cfg.method (crypto.deriveKey (key ++ salt)) with
      | none => exact hw
      | some eihKey =>
        dsimp only
        split
        · exact hw
        · next hlong =>
          cases huser : users.getUserByHash (crypto.decryptBlock eihKey (chunk.take 16)) with
          | none => exact hw
          | some user =>
            refine ⟨user.key, rfl, rfl, ⟨hw.state, hw.handshaked, ?_⟩, fun _ => rfl⟩
            exact ⟨hw.before.state, hw.before.salt, hw.before.dataChunkCount,
              fun hnot => absurd (hrequire.symm.trans hnot) Bool.noConfusion, hw.before.source⟩

/-- A header that passes its checks is accepted, and reported. -/
theorem parseHeader_accepted (header : AcceptedHeader cfg key peer) (now : Time)
    {cipher : Cipher K} (hcipher : cipher.key = crypto.sessionKey cfg.method header.sealKey header.salt) :
    Triple (Selected (B := B) cfg key peer h header.sealKey)
      (parseHeader cfg now header.salt header.plain cipher)
      { ready := fun e w => e.isSome ∧ w.reader.cipher = some cipher ∧
          header.Reported cipher.key w.reader.rest ∧ w.reader.rest.dataChunkCount = 0
        pending := ReadWorld.AtHead h (Unaccepted cfg key peer)
        failed := fun _ => ReadWorld.AtHead h (Unaccepted cfg key peer)
        panicked := ReadWorld.AtHead h (Unaccepted cfg key peer) } := by
  unfold parseHeader
  split
  · exact Triple.fail fun w hw => hw.1
  · split
    · exact Triple.fail fun w hw => hw.1
    · -- noting the request's salt touches nothing of what was known before
      have hnoted : ∀ w : ReadState K B, Selected cfg key peer h header.sealKey w →
          Selected cfg key peer h header.sealKey
              (noteRequestSalt cfg header.requestSalt w) ∧
            (0 < cfg.requestSaltLen →
              (noteRequestSalt cfg header.requestSalt w).reader.rest.requestSalt =
                some header.requestSalt) := by
        intro w hw
        unfold noteRequestSalt
        split
        · refine ⟨⟨⟨hw.1.state, hw.1.handshaked, ?_⟩, hw.2⟩, fun _ => rfl⟩
          exact ⟨hw.1.before.state, hw.1.before.salt, hw.1.before.dataChunkCount,
            hw.1.before.userKey, hw.1.before.source⟩
        · next hnone => exact ⟨hw, fun hpos => absurd hpos hnone⟩
      apply Triple.update (M := fun w => Selected cfg key peer h header.sealKey w ∧
        (0 < cfg.requestSaltLen → w.reader.rest.requestSalt = some header.requestSalt)) hnoted
      apply Triple.get
      rintro w ⟨hw, hsalt⟩
      -- the replay check changes the context alone, whatever it says
      have hcontext : Selected cfg key peer h header.sealKey
          { w with context := (checkSalt cfg now header.salt w.context).2 } :=
        ⟨⟨hw.1.state, hw.1.handshaked, hw.1.before.state, hw.1.before.salt,
          hw.1.before.dataChunkCount, hw.1.before.userKey, hw.1.before.source⟩, hw.2⟩
      dsimp only
      cases hcheck : (checkSalt cfg now header.salt w.context).1 with
      | error e => exact hcontext.1
      | ok _ =>
        refine ⟨rfl, rfl, ⟨rfl, hcipher, ?_, hsalt⟩, hw.1.before.dataChunkCount⟩
        change w.reader.rest.userKey = _
        cases hrequire : cfg.requireEih with
        | true => exact hw.2 hrequire
        | false => exact hw.1.before.userKey hrequire

/-- What is known once a header has been accepted and `n` data chunks have opened. -/
def Known (cfg : ReaderConfig crypto) (key peer : Bytes) (n : Nat) (sessionKey : K)
    (fields : ReaderFields) : Prop :=
  (∃ header : AcceptedHeader cfg key peer, header.Reported sessionKey fields) ∧
    fields.dataChunkCount = n % 2 ^ 64

theorem pollReadHeader_accepted (now : Time) :
    Triple (ReadWorld.AtHead h (Unaccepted (B := B) cfg key peer)) (pollReadHeader cfg now h.key)
      { ready := fun e w => match e with
          | none => w.AtHead h (Unaccepted cfg key peer)
          | some _ => ∃ c, w.reader.cipher = some c ∧ Known cfg key peer 0 c.key w.reader.rest
        pending := ReadWorld.AtHead h (Unaccepted cfg key peer)
        failed := fun _ => ReadWorld.AtHead h (Unaccepted cfg key peer)
        panicked := ReadWorld.AtHead h (Unaccepted cfg key peer) } := by
  apply Triple.seq readHeaderBytes_unaccepted
  · intro block
    split
    · exact Triple.pure fun w hw => hw.1
    · split
      · exact Triple.fail fun w hw => hw.1
      · next hlength =>
        rw [ne_eq, not_not] at hlength
        apply Triple.of_state
        rintro w ⟨hw, hreceived⟩
        have hkey : h.key = key := by
          have hstate := hw.state.symm.trans hw.before.state
          cases hstate
          rfl
        rw [hkey]
        refine Triple.weaken (P := ReadWorld.AtHead h (Unaccepted cfg key peer)) ?_
          fun t ht => ht ▸ hw
        refine Triple.seq (selectCipher_unaccepted _ _) (fun r => ?_) (fun _ h => h)
          (fun _ _ h => h) fun _ h => h
        apply Triple.of_state
        rintro w' ⟨sealKey, hsealKey, rfl, hselected⟩
        dsimp only
        split
        · next hopens =>
          -- the block has opened, so it is a header whatever comes of parsing it
          let header : AcceptedHeader cfg key peer :=
            { block := block, sealKey := sealKey, received := hreceived, length := hlength
              sealKey_eq := hsealKey, opens := hopens }
          have hcipher := decryptPacket_key (crypto.scheme cfg.method)
            (crypto.cipher cfg.method sealKey header.salt)
            ((block.drop (crypto.saltLen cfg.method)).drop cfg.eihLen)
          have hparse := parseHeader_accepted (h := h) (B := B) header now hcipher
          refine Triple.weaken (hparse.strengthen ?_) fun t ht => ht ▸ hselected
          refine ⟨?_, fun _ h => h, fun _ _ h => h, fun _ h => h⟩
          rintro e t ⟨hsome, hc, hreported, hcount⟩
          obtain ⟨e, rfl⟩ := Option.isSome_iff_exists.1 hsome
          exact ⟨_, hc, ⟨header, hreported⟩, hcount⟩
        · exact Triple.fail fun t ht => ht ▸ hselected.1
  · exact fun _ h => h
  · exact fun _ _ h => h
  · exact fun _ h => h

/-- What an AEAD-2022 reader keeps over all its polls. -/
def frame (cfg : ReaderConfig crypto) (key peer : Bytes) :
    Frame (readProtocol (B := B) cfg) where
  Before := Unaccepted cfg key peer
  After := Known cfg key peer
  before_context _ h := ⟨h.state, h.salt, h.dataChunkCount, h.userKey, h.source⟩
  readHead now _ := pollReadHeader_accepted now
  afterData {_ n _ _ _ _ _ _} h hdata := by
    cases hdata
    obtain ⟨⟨header, hreported⟩, hcount⟩ := h
    refine ⟨⟨header, hreported.salt, hreported.sessionKey, hreported.userKey,
      hreported.requestSalt⟩, ?_⟩
    change (_ + 1) % 2 ^ 64 = (n + 1) % 2 ^ 64
    rw [hcount, Nat.mod_add_mod]

end Header

end Shadowsocks.Tcp.Aead2022
