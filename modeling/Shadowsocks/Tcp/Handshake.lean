import Shadowsocks.Tcp.ProxyServerStream
import Shadowsocks.Tcp.ReaderDelivery
import Shadowsocks.Tcp.RequestHeader

/-! # The server's handshake

`ProxyServerStream::handshake` reads the request header from the stream itself.  Of a header it
reads no byte too many, however it arrives (`Protocol.reading_yields`).  With all the bytes at
hand it is the reader of `TcpRequestHeader.readFrom` (`Protocol.reading_onBytes`), for which what the
client writes is the header that it meant (`Protocol.readFrom_requestHeader`).
-/

namespace Shadowsocks.Net.Address

open Shadowsocks.Lib Socks5

/-- `Address::read_from`, on a stream. -/
def reading : Reading Socks5.Error Address :=
  ((Reading.readExact 1).mapErr .ioError).bind fun addrTypeBuf =>
    let addrType := fromBigEndian addrTypeBuf
    if addrType = addrTypeIpv4 then
      ((Reading.readExact 6).mapErr .ioError).bind fun buf =>
        .done (.socketAddress
          (.v4 (BitVec.ofNat 32 (fromBigEndian (buf.take 4))) (fromBigEndian (buf.drop 4))))
    else if addrType = addrTypeIpv6 then
      ((Reading.readExact 18).mapErr .ioError).bind fun buf =>
        .done (.socketAddress
          (.v6 (BitVec.ofNat 128 (fromBigEndian (buf.take 16))) (fromBigEndian (buf.drop 16)) 0 0))
    else if addrType = addrTypeDomainName then
      ((Reading.readExact 1).mapErr .ioError).bind fun lengthBuf =>
        let length := fromBigEndian lengthBuf
        ((Reading.readExact (length + 2)).mapErr .ioError).bind fun rawAddr =>
          match fromUtf8 (rawAddr.take length) with
          | some host => .done (.domainNameAddress host (fromBigEndian (rawAddr.drop length)))
          | none => .failed .addressDomainInvalidEncoding
    else .failed (.addressTypeNotSupported addrType)

/-- What is written of an address is read back, and nothing behind it, however it arrives. -/
theorem reading_yields {addr : Address} (h : addr.IsPortable) {bs : Bytes}
    (hw : addr.writeToBuf = some bs) : reading.Yields bs addr := by
  have htype {n : Nat} (hn : n < 256 ^ 1) : fromBigEndian (bigEndian 1 n) = n :=
    fromBigEndian_bigEndian_of_lt hn
  -- each form is its type, and then what the type announces
  cases addr with
  | socketAddress sa =>
    cases sa with
    | v4 ip port =>
      obtain rfl := Option.some.inj hw
      have hport : port < 256 ^ 2 := h
      have hip : ip.toNat < 256 ^ 4 := ip.isLt
      rw [List.append_assoc]
      refine Reading.readExact_bind_yields (bigEndian_length 1 _) _ ?_
      simp only [htype (show addrTypeIpv4 < 256 ^ 1 by decide), if_true]
      rw [← List.append_nil (bigEndian 4 ip.toNat ++ bigEndian 2 port)]
      refine Reading.readExact_bind_yields (by simp) _ ⟨rfl, ?_⟩
      rw [List.take_left' (bigEndian_length 4 _), List.drop_left' (bigEndian_length 4 _),
        fromBigEndian_bigEndian_of_lt hip, fromBigEndian_bigEndian_of_lt hport, BitVec.ofNat_toNat,
        BitVec.setWidth_eq]
    | v6 ip port flowinfo scopeId =>
      obtain rfl := Option.some.inj hw
      obtain ⟨hport, rfl, rfl⟩ := h
      have hip : ip.toNat < 256 ^ 16 := ip.isLt
      rw [List.append_assoc]
      refine Reading.readExact_bind_yields (bigEndian_length 1 _) _ ?_
      simp only [htype (show addrTypeIpv6 < 256 ^ 1 by decide)]
      rw [if_neg (by decide), if_pos trivial,
        ← List.append_nil (bigEndian 16 ip.toNat ++ bigEndian 2 port)]
      refine Reading.readExact_bind_yields (by simp) _ ⟨rfl, ?_⟩
      rw [List.take_left' (bigEndian_length 16 _), List.drop_left' (bigEndian_length 16 _),
        fromBigEndian_bigEndian_of_lt hip, fromBigEndian_bigEndian_of_lt hport, BitVec.ofNat_toNat,
        BitVec.setWidth_eq]
  | domainNameAddress host port =>
    obtain ⟨hport, hlen⟩ := h
    obtain rfl := Option.some.inj ((if_pos hlen).symm.trans hw)
    rw [List.append_assoc, List.append_assoc]
    refine Reading.readExact_bind_yields (bigEndian_length 1 _) _ ?_
    simp only [htype (show addrTypeDomainName < 256 ^ 1 by decide)]
    rw [if_neg (by decide), if_neg (by decide), if_pos trivial]
    refine Reading.readExact_bind_yields (bigEndian_length 1 _) _ ?_
    simp only [htype (show host.toUTF8.data.toList.length < 256 ^ 1 by omega)]
    rw [← List.append_nil (host.toUTF8.data.toList ++ bigEndian 2 port)]
    refine Reading.readExact_bind_yields (by simp) _ ?_
    rw [List.take_left, List.drop_left, fromBigEndian_bigEndian_of_lt hport, fromUtf8_toUTF8]
    exact ⟨rfl, rfl⟩

theorem readExact_onBytes (piece : Bytes → Nat) (len : Nat) :
    (Reading.readExact len).onBytes piece = readExact len := by
  funext input
  exact Reading.fill_onBytes piece len len [] input le_rfl

/-- With all bytes at hand it is the reader of `readFrom`, whatever the pieces. -/
theorem reading_onBytes (piece : Bytes → Nat) : reading.onBytes piece = readFrom := by
  have hexact (len : Nat) : ((Reading.readExact len).mapErr Socks5.Error.ioError).onBytes piece =
      PollM.mapErr .ioError (readExact len) := by
    rw [Reading.onBytes_mapErr, readExact_onBytes]
  unfold reading readFrom
  rw [Reading.onBytes_bind, hexact]
  congr 1
  funext addrTypeBuf
  dsimp only
  split
  · rw [Reading.onBytes_bind, hexact]
    rfl
  · split
    · rw [Reading.onBytes_bind, hexact]
      rfl
    · split
      · rw [Reading.onBytes_bind, hexact]
        congr 1
        funext lengthBuf
        rw [Reading.onBytes_bind, hexact]
        congr 1
        funext rawAddr
        cases fromUtf8 (rawAddr.take (fromBigEndian lengthBuf)) <;> rfl
      · rfl

end Shadowsocks.Net.Address

namespace Shadowsocks.Tcp.Protocol

open Shadowsocks.Lib Shadowsocks.Net

/-! ## Headers -/

/-- `take(limit)` of the stream, read to its end into a small buffer, in so many reads at most. -/
def skip : (reads limit : Nat) → Reading IoError Unit
  | 0, _ => .done ()
  | reads + 1, limit =>
    if limit = 0 then .done ()
    else .read (min limit 64) fun bs =>
      if bs = [] then .done () else skip reads (limit - bs.length)

def StreamTcpRequestHeader.reading : Reading IoError StreamTcpRequestHeader :=
  (Address.reading.mapErr Socks5.Error.toIoError).bind fun addr => .done { addr := addr }

def Aead2022TcpRequestHeader.reading : Reading IoError Aead2022TcpRequestHeader :=
  (Address.reading.mapErr Socks5.Error.toIoError).bind fun addr =>
    (Reading.readExact 2).bind fun paddingSizeBuffer =>
      let paddingSize := fromBigEndian paddingSizeBuffer
      (if paddingSize > 0 then skip paddingSize paddingSize else .done ()).bind fun _ =>
        .done { addr := addr, paddingSize := paddingSize }

/-- `TcpRequestHeader::read_from`, on a stream. -/
def TcpRequestHeader.reading (method : CipherKind) : Reading IoError TcpRequestHeader :=
  match method.category with
  | .none | .aead => StreamTcpRequestHeader.reading.bind fun header => .done (.stream header)
  | .stream => StreamTcpRequestHeader.reading.bind fun header => .done (.stream header)
  | .aead2022 => Aead2022TcpRequestHeader.reading.bind fun header => .done (.aead2022 header)

theorem skip_yields : ∀ (reads : Nat) (used : Bytes), used.length ≤ reads →
    (skip reads used.length).Yields used ()
  | 0, used, hreads => ⟨List.length_eq_zero_iff.1 (Nat.le_zero.1 hreads), rfl⟩
  | reads + 1, used, hreads => by
    unfold skip
    split
    · next hzero => exact ⟨List.length_eq_zero_iff.1 hzero, rfl⟩
    · next hpos =>
      refine ⟨by omega, Nat.min_le_left _ _, ?_⟩
      rintro chunk rest rfl hne -
      have hchunk := List.length_pos_iff.2 hne
      rw [List.length_append] at hreads
      have hrest := skip_yields reads rest (by omega)
      simpa only [if_neg hne, List.length_append, Nat.add_sub_cancel_left] using hrest

/-- The header that the client writes is read as it was meant, and nothing behind it, however it
    arrives. -/
theorem reading_yields {method : CipherKind} {addr : Address} (h : addr.IsPortable)
    {padding bs : Bytes} (hsize : padding.length < 2 ^ 16)
    (hheader : ProxyClientStream.requestHeader method padding addr = some bs) :
    (TcpRequestHeader.reading method).Yields bs (headerOf method padding.length addr) := by
  obtain ⟨address, hw, hbs⟩ := Option.map_eq_some_iff.1 hheader
  have haddress := (Address.reading_yields h hw).mapErr Socks5.Error.toIoError
  have hstream : (StreamTcpRequestHeader.reading.bind fun header =>
      Reading.done (TcpRequestHeader.stream header)).Yields address (.stream { addr := addr }) :=
    (haddress.map StreamTcpRequestHeader.mk).map TcpRequestHeader.stream
  -- an AEAD-2022 header has padding behind the address
  by_cases hmethod : method.isAead2022 = true
  · rw [if_pos hmethod, List.append_assoc] at hbs
    subst hbs
    have hskip : (if padding.length > 0 then skip padding.length padding.length
        else Reading.done ()).Yields padding () := by
      split
      · exact skip_yields _ padding le_rfl
      · next hnone => exact ⟨List.length_eq_zero_iff.1 (by omega), rfl⟩
    have hvalue : fromBigEndian (bigEndian 2 padding.length) = padding.length :=
      fromBigEndian_bigEndian_of_lt hsize
    simp only [TcpRequestHeader.reading, of_decide_eq_true hmethod, headerOf, if_pos hmethod]
    refine Reading.Yields.map TcpRequestHeader.aead2022 (Reading.Yields.bind ?_ haddress)
    refine Reading.Yields.bind ?_ (Reading.readExact_yields (bigEndian_length 2 _))
    rw [hvalue]
    exact hskip.map fun _ => Aead2022TcpRequestHeader.mk addr padding.length
  · rw [if_neg hmethod] at hbs
    subst hbs
    rw [headerOf, if_neg hmethod]
    cases hcat : method.category with
    | aead2022 => exact absurd (decide_eq_true hcat) hmethod
    | none | aead | stream =>
      simp only [TcpRequestHeader.reading, hcat]
      exact hstream

theorem skip_onBytes (piece : Bytes → Nat) : ∀ (reads limit : Nat) (input : Bytes),
    limit ≤ reads → (skip reads limit).onBytes piece input = (.ready (), input.drop limit)
  | 0, limit, input, hreads => by
    obtain rfl := Nat.le_zero.1 hreads
    rfl
  | reads + 1, limit, input, hreads => by
    unfold skip
    by_cases hzero : limit = 0
    · subst hzero
      rfl
    · obtain ⟨n, hn⟩ : ∃ n, n = min (min limit 64) (piece input + 1) := ⟨_, rfl⟩
      rw [if_neg hzero, Reading.onBytes_read, ← hn]
      by_cases hnone : input = []
      · subst hnone
        simp [Reading.onBytes, pure]
      · have hpos := List.length_pos_iff.2 hnone
        have hsome : input.take n ≠ [] := by
          rw [← List.length_pos_iff, List.length_take]
          omega
        have hdrop : input.drop (n + (limit - (input.take n).length)) = input.drop limit := by
          rw [List.length_take]
          by_cases hshort : input.length ≤ n
          · rw [List.drop_eq_nil_of_le (by omega), List.drop_eq_nil_of_le (by omega)]
          · congr 1
            omega
        rw [if_neg hsome, skip_onBytes piece reads _ _ (by rw [List.length_take]; omega),
          List.drop_drop, hdrop]

theorem StreamTcpRequestHeader.reading_onBytes (piece : Bytes → Nat) :
    StreamTcpRequestHeader.reading.onBytes piece = StreamTcpRequestHeader.readFrom := by
  rw [reading, Reading.onBytes_bind, Reading.onBytes_mapErr, Address.reading_onBytes]
  rfl

theorem Aead2022TcpRequestHeader.reading_onBytes (piece : Bytes → Nat) :
    Aead2022TcpRequestHeader.reading.onBytes piece = Aead2022TcpRequestHeader.readFrom piece := by
  rw [reading, Reading.onBytes_bind, Reading.onBytes_mapErr, Address.reading_onBytes]
  unfold readFrom
  congr 1
  funext addr
  rw [Reading.onBytes_bind, Address.readExact_onBytes]
  congr 1
  funext paddingSizeBuffer
  dsimp only
  rw [Reading.onBytes_bind]
  congr 1
  funext input
  split
  · rw [skip_onBytes piece _ _ _ le_rfl, skipPadding_eq]
  · rfl

/-- With all bytes at hand it is the reader of `readFrom`. -/
theorem reading_onBytes (piece : Bytes → Nat) (method : CipherKind) :
    (TcpRequestHeader.reading method).onBytes piece = TcpRequestHeader.readFrom piece method := by
  unfold TcpRequestHeader.reading TcpRequestHeader.readFrom
  cases method.category with
  | aead2022 =>
    dsimp only
    rw [Reading.onBytes_bind, Aead2022TcpRequestHeader.reading_onBytes]
    rfl
  | none | aead | stream =>
    dsimp only
    rw [Reading.onBytes_bind, StreamTcpRequestHeader.reading_onBytes]
    rfl

/-- **What the client writes.** The header in front of its first packet is read as it was meant,
    and what follows it is left. -/
theorem readFrom_requestHeader (piece : Bytes → Nat) {method : CipherKind} {addr : Address}
    (h : addr.IsPortable) {padding bs : Bytes} (hsize : padding.length < 2 ^ 16)
    (hheader : ProxyClientStream.requestHeader method padding addr = some bs) (rest : Bytes) :
    TcpRequestHeader.readFrom piece method (bs ++ rest) =
      (.ready (headerOf method padding.length addr), rest) := by
  rw [← reading_onBytes]
  exact (reading_yields h hsize hheader).onBytes piece rest

end Shadowsocks.Tcp.Protocol

namespace Shadowsocks.Tcp

open Shadowsocks.Lib Shadowsocks.Net CryptoIo

variable {K S B : Type} [BloomFilter B]

/-- `current_data_chunk_remaining`, which panics for the other categories. -/
def CryptoIo.CryptoStream.currentDataChunkRemaining :
    PollM (CryptoStream K S B) Failure (Nat × Nat) := fun s =>
  match s.dec with
  | .aead2022 reader =>
    let remaining := match reader.state with
      | .bufferedData pos => reader.buffer.length - pos
      | .head _ => 0
      | .readLength => 0
      | .readData _ => 0
    (.ready (reader.rest.dataChunkCount, remaining), s)
  | .aead _ => (.panicked, s)
  | .stream _ => (.panicked, s)
  | .none => (.panicked, s)

namespace ProxyServerStream

variable {crypto : CryptoSuite K} (cfg : Aead2022.ReaderConfig crypto)
  (suite : Stream.StreamSuite S)

/-- `poll_read`, with so much room. -/
def readAt (moment : Moment B) (room : Nat) : PollM (ProxyServerStream K S B) Failure Bytes :=
  pollRead cfg suite (moment.call room)

/-- What is checked of a header that has been read: a first chunk with neither payload nor padding
    is refused. -/
def checkHeader (header : Protocol.TcpRequestHeader) :
    PollM (ProxyServerStream K S B) Failure Address :=
  match header with
  | .stream header => pure header.addr
  | .aead2022 header =>
    if header.paddingSize = 0 then
      inner CryptoStream.currentDataChunkRemaining >>= fun (chunkCount, chunkRemaining) =>
        if chunkCount = 1 ∧ chunkRemaining = 0 then
          PollM.fail (.io (.other "no payload in first data chunk, and padding is 0"))
        -- a header in several chunks is only warned of
        else pure header.addr
    else pure header.addr

/-- `handshake`, with the polls of its reads. -/
def handshake (calls : List (Moment B)) (s : ProxyServerStream K S B) :
    Reading.Driven (Moment B) Failure Address × ProxyServerStream K S B :=
  match beginHandshake s with
  | (.ready (), s) =>
    match Reading.drive (readAt cfg suite) id calls
      ((Protocol.TcpRequestHeader.reading cfg.method).mapErr Failure.io) s with
    | (.done header calls, s) =>
      match checkHeader header s with
      | (.ready addr, s) => (.done addr calls, s)
      | (.failed e, s) => (.failed e, s)
      | (.pending, s) => (.waiting, s)
      | (.panicked, s) => (.panicked, s)
    | (.waiting, s) => (.waiting, s)
    | (.failed e, s) => (.failed e, s)
    | (.panicked, s) => (.panicked, s)
  | (.failed e, s) => (.failed e, s)
  | (.pending, s) => (.waiting, s)
  | (.panicked, s) => (.panicked, s)

end ProxyServerStream

end Shadowsocks.Tcp
