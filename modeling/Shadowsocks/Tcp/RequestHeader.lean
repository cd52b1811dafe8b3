import Shadowsocks.Net.Socks5RoundTrip
import Shadowsocks.Tcp.ProxyClientStream

/-! # The request header codec

The header that opens a stream is an address, for AEAD-2022 with a padding behind it.  The encoder
of this module forgets the address of an AEAD-2022 header, and no encoding of an address has room for
its flow and its scope (`codec_iff`).  The client does not use it.  Of what the client writes all
but the padding of an AEAD-2022 header must have come (`readFrom_truncated_iff`).
-/

namespace Shadowsocks.Tcp.Protocol

open Shadowsocks.Lib Shadowsocks.Net

def maxPaddingSize : Nat := 900

/-! ## Skipping the padding -/

/-- A reader that ends after `limit` more bytes. -/
structure Take where
  inner : Bytes
  limit : Nat
deriving DecidableEq, Repr

namespace Take

/-- `read` into a buffer of `cap` bytes.  How much of what is to come a single read gives is for
    `piece` to say; it is nothing only at the end. -/
def read (piece : Bytes → Nat) (cap : Nat) : PollM Take IoError Nat := fun r =>
  let n := min r.inner.length (min r.limit (min cap (piece r.inner + 1)))
  (.ready n, { inner := r.inner.drop n, limit := r.limit - n })

/-- A round of the loop that reads the padding into a small buffer. -/
def skipRound (piece : Bytes → Nat) : PollM Take IoError (Option Unit) :=
  read piece 64 >>= fun n => if n = 0 then pure (some ()) else pure none

theorem skipRound_eq (piece : Bytes → Nat) (r : Take) :
    ∃ n, n ≤ r.limit ∧ (n = 0 → r.inner = [] ∨ r.limit = 0) ∧ skipRound piece r =
      (.ready (if n = 0 then some () else none),
        { inner := r.inner.drop n, limit := r.limit - n }) := by
  obtain ⟨n, hn⟩ : ∃ n, n = min r.inner.length (min r.limit (min 64 (piece r.inner + 1))) := ⟨_, rfl⟩
  have hread : read piece 64 r =
      (.ready n, { inner := r.inner.drop n, limit := r.limit - n }) := by
    rw [hn]
    rfl
  refine ⟨n, by omega, fun hzero => ?_, ?_⟩
  · rw [← List.length_eq_zero_iff]
    omega
  · unfold skipRound
    rw [PollM.bind_ready hread]
    split <;> rfl

theorem skipRound_decreases (piece : Bytes → Nat) {r r' : Take}
    (h : skipRound piece r = (.ready none, r')) : r'.limit < r.limit := by
  obtain ⟨n, hlimit, -, hround⟩ := skipRound_eq piece r
  rw [hround] at h
  by_cases hzero : n = 0
  · rw [if_pos hzero] at h
    cases h
  · rw [if_neg hzero] at h
    cases h
    change r.limit - n < r.limit
    omega

/-- Reads until nothing comes. -/
def skip (piece : Bytes → Nat) : PollM Take IoError Unit :=
  PollM.loop (skipRound piece) limit (skipRound_decreases piece)

/-- Whatever the pieces are, what is skipped is the limit, or all there is. -/
theorem skip_eq (piece : Bytes → Nat) (r : Take) :
    ∃ limit, skip piece r = (.ready (), { inner := r.inner.drop r.limit, limit := limit }) := by
  induction hlimit : r.limit using Nat.strongRecOn generalizing r with
  | ind limit ih =>
    subst hlimit
    obtain ⟨n, hle, hend, hround⟩ := skipRound_eq piece r
    by_cases hzero : n = 0
    · rw [if_pos hzero] at hround
      have hleft : r.inner.drop n = r.inner.drop r.limit := by
        obtain hnone | hlimit := hend hzero
        · simp [hnone]
        · rw [hzero, hlimit]
      rw [← hleft]
      exact ⟨r.limit - n, PollM.loop_ready _ hround⟩
    · rw [if_neg hzero] at hround
      obtain ⟨limit, hskip⟩ := ih (r.limit - n) (by omega)
        { inner := r.inner.drop n, limit := r.limit - n } rfl
      rw [List.drop_drop, Nat.add_sub_cancel' hle] at hskip
      exact ⟨limit, (PollM.loop_again _ hround).trans hskip⟩

end Take

/-- `take(limit)` of the reader, read to its end. -/
def skipPadding (piece : Bytes → Nat) (limit : Nat) : PollM Bytes IoError Unit := fun bs =>
  (Take.skip piece).on { inner := bs, limit := limit } Take.inner

theorem skipPadding_eq (piece : Bytes → Nat) (limit : Nat) (bs : Bytes) :
    skipPadding piece limit bs = (.ready (), bs.drop limit) := by
  obtain ⟨left, hskip⟩ := Take.skip_eq piece { inner := bs, limit := limit }
  unfold skipPadding PollM.on
  rw [hskip]

/-! ## Headers -/

structure StreamTcpRequestHeader where
  addr : Address
deriving DecidableEq, Repr

namespace StreamTcpRequestHeader

def readFrom : PollM Bytes IoError StreamTcpRequestHeader :=
  PollM.mapErr Socks5.Error.toIoError Address.readFrom >>= fun addr => pure { addr := addr }

def writeToBuf (header : StreamTcpRequestHeader) : Option Bytes := header.addr.writeToBuf

def serializedLen (header : StreamTcpRequestHeader) : Nat := Socks5.getAddrLen header.addr

end StreamTcpRequestHeader

structure Aead2022TcpRequestHeader where
  addr : Address
  paddingSize : Nat
deriving DecidableEq, Repr

namespace Aead2022TcpRequestHeader

def readFrom (piece : Bytes → Nat) : PollM Bytes IoError Aead2022TcpRequestHeader :=
  PollM.mapErr Socks5.Error.toIoError Address.readFrom >>= fun addr =>
    readExact 2 >>= fun paddingSizeBuffer =>
      let paddingSize := fromBigEndian paddingSizeBuffer
      (if paddingSize > 0 then skipPadding piece paddingSize else pure ()) >>= fun _ =>
        pure { addr := addr, paddingSize := paddingSize }

/-- `write_to_buf`, to a buffer with room for the header.  The padding is what stands in the
    buffer's memory; too long a padding fails the assertion. -/
def writeToBuf (memory : Nat → UInt8) (header : Aead2022TcpRequestHeader) : Option Bytes :=
  if header.paddingSize ≤ maxPaddingSize then
    -- the address is not written
    some (bigEndian 2 header.paddingSize ++ (List.range header.paddingSize).map memory)
  else none

def serializedLen (header : Aead2022TcpRequestHeader) : Nat :=
  Socks5.getAddrLen header.addr + 2 + header.paddingSize

end Aead2022TcpRequestHeader

inductive TcpRequestHeader where
  | stream (header : StreamTcpRequestHeader)
  | aead2022 (header : Aead2022TcpRequestHeader)
deriving DecidableEq, Repr

namespace TcpRequestHeader

def readFrom (piece : Bytes → Nat) (method : CipherKind) : PollM Bytes IoError TcpRequestHeader :=
  match method.category with
  | .none | .aead => StreamTcpRequestHeader.readFrom >>= fun header => pure (.stream header)
  | .stream => StreamTcpRequestHeader.readFrom >>= fun header => pure (.stream header)
  | .aead2022 =>
    Aead2022TcpRequestHeader.readFrom piece >>= fun header => pure (.aead2022 header)

/-- `write_to_buf` of a header, owned or borrowed. -/
def writeToBuf (memory : Nat → UInt8) : TcpRequestHeader → Option Bytes
  | stream header => header.writeToBuf
  | aead2022 header => header.writeToBuf memory

def serializedLen : TcpRequestHeader → Nat
  | stream header => header.serializedLen
  | aead2022 header => header.serializedLen

/-- A header of the methods of a category. -/
def IsOf (category : CipherCategory) : TcpRequestHeader → Prop
  | stream _ => category ≠ .aead2022
  | aead2022 _ => category = .aead2022

def addr : TcpRequestHeader → Address
  | stream header => header.addr
  | aead2022 header => header.addr

/-- A header whose fields are in their ranges: a port is a `u16`, a domain name has a length of one
    byte, and the padding has at most its greatest size. -/
def InRange : TcpRequestHeader → Prop
  | stream header => header.addr.HasPort ∧ header.addr.NameFits
  | aead2022 header =>
    (header.addr.HasPort ∧ header.addr.NameFits) ∧ header.paddingSize ≤ maxPaddingSize

/-- What is written of the header has the length that was foreseen, and is the header to the
    decoder, whatever follows it, and nothing when it is cut short. -/
def CodecHolds (piece : Bytes → Nat) (memory : Nat → UInt8) (method : CipherKind)
    (header : TcpRequestHeader) : Prop :=
  ∃ bs, header.writeToBuf memory = some bs ∧ bs.length = header.serializedLen ∧
    Accepts (readFrom piece method) bs header

end TcpRequestHeader

section Codec

variable {piece : Bytes → Nat} {memory : Nat → UInt8} {method : CipherKind}

theorem readFrom_of_isAead2022 (h : method.category = .aead2022) :
    TcpRequestHeader.readFrom piece method =
      (Aead2022TcpRequestHeader.readFrom piece >>= fun header => pure (.aead2022 header)) := by
  unfold TcpRequestHeader.readFrom
  rw [h]

theorem readFrom_of_not_isAead2022 (h : method.category ≠ .aead2022) :
    TcpRequestHeader.readFrom piece method =
      (StreamTcpRequestHeader.readFrom >>= fun header => pure (.stream header)) := by
  unfold TcpRequestHeader.readFrom
  cases hcategory : method.category with
  | aead2022 => exact absurd hcategory h
  | _ => rfl

theorem StreamTcpRequestHeader.readFrom_writeToBuf {addr : Address} (h : addr.IsPortable)
    {bs : Bytes} (hw : addr.writeToBuf = some bs) (rest : Bytes) :
    StreamTcpRequestHeader.readFrom (bs ++ rest) = (.ready { addr := addr }, rest) := by
  have haddr : PollM.mapErr Socks5.Error.toIoError Address.readFrom (bs ++ rest) =
      (.ready addr, rest) := by
    simp only [PollM.mapErr, Address.readFrom_writeToBuf h hw rest]
  exact PollM.bind_ready haddr _

theorem StreamTcpRequestHeader.framed_readFrom : Framed StreamTcpRequestHeader.readFrom :=
  (Address.framed_readFrom.mapErr _).bind fun _ => Framed.pure _

/-- A header without a padding is its address. -/
theorem accepts_stream {addr : Address} (h : addr.IsPortable)
    (hmethod : method.category ≠ .aead2022) {bs : Bytes} (hw : addr.writeToBuf = some bs) :
    Accepts (TcpRequestHeader.readFrom piece method) bs (.stream { addr := addr }) := by
  rw [readFrom_of_not_isAead2022 hmethod]
  have hframed : Framed (StreamTcpRequestHeader.readFrom >>= fun header =>
      (pure (.stream header) : PollM Bytes IoError TcpRequestHeader)) :=
    StreamTcpRequestHeader.framed_readFrom.bind fun _ => Framed.pure _
  exact hframed.accepts (PollM.bind_ready (StreamTcpRequestHeader.readFrom_writeToBuf h hw []) _)

theorem getAddrLen_pos (addr : Address) : 0 < Socks5.getAddrLen addr := by
  cases addr with
  | socketAddress sa => cases sa <;> exact Nat.succ_pos _
  | domainNameAddress host port => exact Nat.succ_pos _

theorem codecHolds_stream {addr : Address} (h : addr.IsPortable)
    (hmethod : method.category ≠ .aead2022) :
    TcpRequestHeader.CodecHolds piece memory method (.stream { addr := addr }) := by
  obtain ⟨bs, hw⟩ := Address.writeToBuf_isSome h
  exact ⟨bs, hw, Address.writeToBuf_length hw, accepts_stream h hmethod hw⟩

/-- A header with a padding is written without its address, which is not what its length says. -/
theorem not_codecHolds_aead2022 (header : Aead2022TcpRequestHeader) :
    ¬ TcpRequestHeader.CodecHolds piece memory method (.aead2022 header) := by
  rintro ⟨bs, hw, hlength, -⟩
  have hpos := getAddrLen_pos header.addr
  simp only [TcpRequestHeader.writeToBuf, Aead2022TcpRequestHeader.writeToBuf] at hw
  split at hw
  · obtain rfl := Option.some.inj hw
    simp only [List.length_append, bigEndian_length, List.length_map, List.length_range,
      TcpRequestHeader.serializedLen, Aead2022TcpRequestHeader.serializedLen] at hlength
    omega
  · cases hw

/-- A header without a padding is read back without the flow and the scope of its address. -/
theorem codecHolds_stream_iff {addr : Address} (hport : addr.HasPort) (hname : addr.NameFits)
    (hmethod : method.category ≠ .aead2022) :
    TcpRequestHeader.CodecHolds piece memory method (.stream { addr := addr }) ↔
      addr.IsUnscoped := by
  constructor
  · rintro ⟨bs, hw, -, haccepts⟩
    have hwire : addr.wireAddr.writeToBuf = some bs := (Address.writeToBuf_wireAddr addr).trans hw
    have hread : Accepts (TcpRequestHeader.readFrom piece method) bs
        (.stream { addr := addr.wireAddr }) :=
      accepts_stream (Address.wireAddr_portable hport hname) hmethod hwire
    have hsame := (haccepts.whole []).symm.trans (hread.whole [])
    have haddr : addr = addr.wireAddr := by
      injection hsame with hheader
      injection hheader with hheader
      injection hheader with hheader
      injection hheader
    exact (Address.wireAddr_eq_iff addr).1 haddr.symm
  · exact fun h => codecHolds_stream ((Address.isPortable_iff addr).2 ⟨hport, hname, h⟩) hmethod

/-- **The request header codec.** It does what it should for every category but AEAD-2022, of an
    address that has neither flow nor scope. -/
theorem codec_iff (piece : Bytes → Nat) (memory : Nat → UInt8) (method : CipherKind)
    (header : TcpRequestHeader) (hof : header.IsOf method.category) (h : header.InRange) :
    header.CodecHolds piece memory method ↔
      method.category ≠ .aead2022 ∧ header.addr.IsUnscoped := by
  cases header with
  | stream header =>
    rw [codecHolds_stream_iff h.1 h.2 hof]
    exact ⟨fun hunscoped => ⟨hof, hunscoped⟩, fun hcodec => hcodec.2⟩
  | aead2022 header =>
    exact ⟨fun hcodec => absurd hcodec (not_codecHolds_aead2022 header),
      fun hcodec => absurd hof hcodec.1⟩

/-- An address for AES-128-GCM of 2022: nothing is left of it. -/
theorem codec_forgets_address :
    let header : TcpRequestHeader :=
      .aead2022 ⟨.socketAddress (.v4 0x01020304#32 80), 0⟩
    header.writeToBuf (fun _ => 0) = some [0, 0] ∧ header.serializedLen = 9 ∧
      (TcpRequestHeader.readFrom (fun _ => 63) .aead2022Blake3Aes128Gcm [0, 0]).1 =
        .failed (.other "address type 0x0 not supported") ∧
      ¬ header.CodecHolds (fun _ => 63) (fun _ => 0) .aead2022Blake3Aes128Gcm :=
  ⟨by decide, by decide, by decide +kernel, not_codecHolds_aead2022 _⟩

/-- The same header by the theorem, one of the stream ciphers, and one whose scope is lost. -/
theorem codec_samples :
    ¬ (TcpRequestHeader.aead2022 ⟨.socketAddress (.v4 0x01020304#32 80), 0⟩).CodecHolds
        (fun _ => 63) (fun _ => 0) .aead2022Blake3Aes128Gcm ∧
      (TcpRequestHeader.stream ⟨.domainNameAddress "example.com" 80⟩).CodecHolds
        (fun _ => 63) (fun _ => 0) (.stream 1) ∧
      ¬ (TcpRequestHeader.stream ⟨.socketAddress (.v6 0xfe80 80 0 1)⟩).CodecHolds
        (fun _ => 63) (fun _ => 0) (.stream 1) := by
  have hport : 80 < 2 ^ 16 := by decide
  have hstream : CipherCategory.stream ≠ .aead2022 := by decide
  have haead := codec_iff (fun _ => 63) (fun _ => 0) .aead2022Blake3Aes128Gcm
    (.aead2022 ⟨.socketAddress (.v4 0x01020304#32 80), 0⟩) rfl ⟨⟨hport, trivial⟩, Nat.zero_le _⟩
  have hnamed := codec_iff (fun _ => 63) (fun _ => 0) (.stream 1)
    (.stream ⟨.domainNameAddress "example.com" 80⟩) hstream
    ⟨hport, (by decide : "example.com".toUTF8.data.toList.length ≤ 255)⟩
  have hscoped := codec_iff (fun _ => 63) (fun _ => 0) (.stream 1)
    (.stream ⟨.socketAddress (.v6 0xfe80 80 0 1)⟩) hstream ⟨hport, trivial⟩
  exact ⟨fun hcodec => (haead.1 hcodec).1 rfl, hnamed.2 ⟨hstream, trivial⟩,
    fun hcodec => absurd (hscoped.1 hcodec).2.2 (by decide)⟩

end Codec

/-! ## What the client writes -/

section Client

variable {piece : Bytes → Nat} {method : CipherKind}

/-- The header of a request as the decoder understands it. -/
def headerOf (method : CipherKind) (paddingSize : Nat) (addr : Address) : TcpRequestHeader :=
  if method.isAead2022 then .aead2022 { addr := addr, paddingSize := paddingSize }
  else .stream { addr := addr }

theorem Aead2022TcpRequestHeader.readFrom_address {addr : Address} (h : addr.IsPortable)
    {address : Bytes} (hw : addr.writeToBuf = some address) (rest : Bytes) :
    Aead2022TcpRequestHeader.readFrom piece (address ++ rest) =
      (readExact 2 >>= fun paddingSizeBuffer =>
        (if fromBigEndian paddingSizeBuffer > 0 then
          skipPadding piece (fromBigEndian paddingSizeBuffer) else pure ()) >>= fun _ =>
        (pure { addr := addr, paddingSize := fromBigEndian paddingSizeBuffer } :
          PollM Bytes IoError Aead2022TcpRequestHeader)) rest := by
  have haddr : PollM.mapErr Socks5.Error.toIoError Address.readFrom (address ++ rest) =
      (.ready addr, rest) := by
    simp only [PollM.mapErr, Address.readFrom_writeToBuf h hw rest]
  exact PollM.bind_ready haddr _

/-- Once the size of the padding has come nothing fails. -/
theorem Aead2022TcpRequestHeader.readFrom_padding {addr : Address} (h : addr.IsPortable)
    {address : Bytes} (hw : addr.writeToBuf = some address) {paddingSize : Nat}
    (hsize : paddingSize < 2 ^ 16) (rest : Bytes) :
    Aead2022TcpRequestHeader.readFrom piece (address ++ (bigEndian 2 paddingSize ++ rest)) =
      (.ready { addr := addr, paddingSize := paddingSize }, rest.drop paddingSize) := by
  have hbuffer : readExact 2 (bigEndian 2 paddingSize ++ rest) =
      (.ready (bigEndian 2 paddingSize), rest) := by
    have hlong : ¬(bigEndian 2 paddingSize ++ rest).length < 2 := by
      rw [List.length_append, bigEndian_length]
      omega
    unfold readExact
    rw [if_neg hlong, List.take_left' (bigEndian_length 2 _),
      List.drop_left' (bigEndian_length 2 _)]
  have hvalue : fromBigEndian (bigEndian 2 paddingSize) = paddingSize :=
    fromBigEndian_bigEndian_of_lt hsize
  rw [readFrom_address h hw, PollM.bind_ready hbuffer, hvalue]
  by_cases hpos : paddingSize > 0
  · rw [if_pos hpos, PollM.bind_ready (skipPadding_eq piece paddingSize rest)]
    rfl
  · obtain rfl : paddingSize = 0 := by omega
    rfl

theorem Aead2022TcpRequestHeader.readFrom_truncated_iff {addr : Address} (h : addr.IsPortable)
    {address : Bytes} (hw : addr.writeToBuf = some address) {padding : Bytes}
    (hsize : padding.length < 2 ^ 16) {part : Bytes}
    (hpart : part <+: address ++ (bigEndian 2 padding.length ++ padding)) :
    (∃ e rest, Aead2022TcpRequestHeader.readFrom piece part = (.failed e, rest)) ↔
      part.length < address.length + 2 := by
  by_cases hshort : part.length < address.length
  · have hprefix : part <+: address :=
      List.prefix_of_prefix_length_le hpart (List.prefix_append _ _) (Nat.le_of_lt hshort)
    have hready : Address.readFrom (address ++ []) = (.ready addr, []) :=
      Address.readFrom_writeToBuf h hw []
    obtain ⟨e, rest, hfailed⟩ := ((Address.framed_readFrom.accepts hready).mapErr
      Socks5.Error.toIoError).truncated part hprefix fun heq => by
        rw [heq] at hshort
        omega
    exact ⟨fun _ => by omega, fun _ => ⟨e, rest, PollM.bind_failed hfailed _⟩⟩
  · obtain ⟨part, rfl⟩ : address <+: part :=
      List.prefix_of_prefix_length_le (List.prefix_append _ _) hpart (Nat.not_lt.1 hshort)
    have hrest := (List.prefix_append_right_inj address).1 hpart
    rw [List.length_append, Nat.add_lt_add_iff_left]
    by_cases hcut : part.length < 2
    · refine ⟨fun _ => hcut, fun _ => ⟨.unexpectedEof, [], ?_⟩⟩
      have hsizeCut : readExact 2 part = (.failed .unexpectedEof, []) := if_pos hcut
      rw [readFrom_address h hw]
      exact PollM.bind_failed hsizeCut _
    · -- whatever there is of the padding, the loop takes its end for the end of the padding
      obtain ⟨part, rfl⟩ : bigEndian 2 padding.length <+: part :=
        List.prefix_of_prefix_length_le (List.prefix_append _ _) hrest (by
          rw [bigEndian_length]
          exact Nat.not_lt.1 hcut)
      rw [readFrom_padding h hw hsize]
      exact ⟨fun ⟨_, _, hfailed⟩ => (nomatch hfailed), fun hlt => absurd hlt hcut⟩

/-- A header that ends early is refused, unless it ends within its padding. -/
theorem readFrom_truncated_iff {addr : Address} (h : addr.IsPortable) {padding bs : Bytes}
    (hsize : padding.length < 2 ^ 16)
    (hheader : ProxyClientStream.requestHeader method padding addr = some bs) {part : Bytes}
    (hpart : part <+: bs) (hne : part ≠ bs) :
    (∃ e rest, TcpRequestHeader.readFrom piece method part = (.failed e, rest)) ↔
      (method.isAead2022 = true → part.length < Socks5.getAddrLen addr + 2) := by
  obtain ⟨address, hw, hbs⟩ := Option.map_eq_some_iff.1 hheader
  by_cases hmethod : method.isAead2022 = true
  · rw [if_pos hmethod, List.append_assoc] at hbs
    subst hbs
    have hiff : (∃ e rest, Aead2022TcpRequestHeader.readFrom piece part = (.failed e, rest)) ↔
        part.length < Socks5.getAddrLen addr + 2 := by
      rw [← Address.writeToBuf_length hw]
      exact Aead2022TcpRequestHeader.readFrom_truncated_iff h hw hsize hpart
    rw [readFrom_of_isAead2022 (of_decide_eq_true hmethod)]
    constructor
    · rintro ⟨e, rest, hfailed⟩ -
      exact hiff.1 ⟨e, rest, PollM.bind_pure_eq_failed hfailed⟩
    · intro hcut
      obtain ⟨e, rest, hfailed⟩ := hiff.2 (hcut hmethod)
      exact ⟨e, rest, PollM.bind_failed hfailed _⟩
  · rw [if_neg hmethod] at hbs
    subst hbs
    exact ⟨fun _ hyes => absurd hyes hmethod, fun _ =>
      (accepts_stream h (fun heq => hmethod (decide_eq_true heq)) hw).truncated part hpart hne⟩

end Client

end Shadowsocks.Tcp.Protocol
