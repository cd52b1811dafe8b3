import Shadowsocks.Lib.Transport
import Shadowsocks.Net.Address

/-! # SOCKS5 addresses on the wire

`Address` as the SOCKS5 module reads and writes it.  There are two readers: one over a
datagram that has arrived as a whole (`readCursor`), and one over a stream
(`readFrom`), where what has not arrived is waited for and the end of the stream is an
error.
-/

namespace Shadowsocks.Net

open Shadowsocks.Lib

/-! ## Reading bytes -/

section Reading

variable {ε : Type}

/-- `get_u8`, `get_u16` and so on of a cursor, which panic where too few bytes remain. -/
def getUint (width : Nat) : PollM Bytes ε Nat := fun bs =>
  if bs.length < width then (.panicked, bs)
  else (.ready (fromBigEndian (bs.take width)), bs.drop width)

/-- `copy_to_slice`, which panics too. -/
def copyToSlice (len : Nat) : PollM Bytes ε Bytes := fun bs =>
  if bs.length < len then (.panicked, bs) else (.ready (bs.take len), bs.drop len)

/-- `advance`, which panics too. -/
def advance (len : Nat) : PollM Bytes ε Unit := fun bs =>
  if bs.length < len then (.panicked, bs) else (.ready (), bs.drop len)

/-- `seek(SeekFrom::Current(..))`, which may go past the end. -/
def seekCurrent (offset : Nat) : PollM Bytes ε Unit :=
  PollM.update fun bs => bs.drop offset

/-- `remaining()`. -/
def remaining : PollM Bytes ε Nat := fun bs => (.ready bs.length, bs)

/-- `read_exact` from a stream, of which the state is what the peer will send. -/
def readExact (len : Nat) : PollM Bytes IoError Bytes := fun bs =>
  if bs.length < len then (.failed .unexpectedEof, [])
  else (.ready (bs.take len), bs.drop len)

theorem getUint_ready {width : Nat} {bs : Bytes} (h : width ≤ bs.length) :
    (getUint width : PollM Bytes ε Nat) bs =
      (.ready (fromBigEndian (bs.take width)), bs.drop width) :=
  if_neg (Nat.not_lt.2 h)

theorem getUint_panicked {width : Nat} {bs : Bytes} (h : bs.length < width) :
    (getUint width : PollM Bytes ε Nat) bs = (.panicked, bs) :=
  if_pos h

theorem getUint_bigEndian {width n : Nat} (h : n < 256 ^ width) (rest : Bytes) :
    (getUint width : PollM Bytes ε Nat) (bigEndian width n ++ rest) = (.ready n, rest) := by
  rw [getUint_ready (by simp), List.take_left' (bigEndian_length width n),
    List.drop_left' (bigEndian_length width n), fromBigEndian_bigEndian_of_lt h]

theorem getUint_bind {α : Type} {width n : Nat} (h : n < 256 ^ width) (rest : Bytes)
    (f : Nat → PollM Bytes ε α) : (getUint width >>= f) (bigEndian width n ++ rest) = f n rest :=
  PollM.bind_ready (getUint_bigEndian h rest) f

theorem remaining_bind {α : Type} (f : Nat → PollM Bytes ε α) (bs : Bytes) :
    (remaining >>= f) bs = f bs.length bs := rfl

theorem copyToSlice_ready {len : Nat} {bs : Bytes} (h : len ≤ bs.length) :
    (copyToSlice len : PollM Bytes ε Bytes) bs = (.ready (bs.take len), bs.drop len) :=
  if_neg (Nat.not_lt.2 h)

theorem advance_ready {len : Nat} {bs : Bytes} (h : len ≤ bs.length) :
    (advance len : PollM Bytes ε Unit) bs = (.ready (), bs.drop len) :=
  if_neg (Nat.not_lt.2 h)

end Reading

/-! ## Errors -/

namespace Socks5

inductive Reply where
  | succeeded
  | generalFailure
  | connectionNotAllowed
  | networkUnreachable
  | hostUnreachable
  | connectionRefused
  | ttlExpired
  | commandNotSupported
  | addressTypeNotSupported
  | otherReply (code : Nat)
deriving DecidableEq, Repr

inductive Error where
  | ioError (e : IoError)
  | addressTypeNotSupported (addrType : Nat)
  | addressDomainInvalidEncoding
  | unsupportedSocksVersion (version : Nat)
  | unsupportedCommand (command : Nat)
  | unsupportedPasswdAuthVersion (version : Nat)
  | passwdAuthInvalidRequest
  | reply (r : Reply)
deriving DecidableEq, Repr

def addrTypeIpv4 : Nat := 0x01
def addrTypeDomainName : Nat := 0x03
def addrTypeIpv6 : Nat := 0x04

end Socks5

/-! ## Addresses -/

/-- `String::from_utf8`. -/
def fromUtf8 (bs : Bytes) : Option String := String.fromUTF8? ⟨bs.toArray⟩

namespace Address

open Socks5

/-- The error of a cursor that holds too little. -/
def invalidBuf : Socks5.Error := .ioError (.other "invalid buf")

def readCursor : PollM Bytes Socks5.Error Address :=
  remaining >>= fun left =>
    if left < 2 then PollM.fail invalidBuf
    else getUint 1 >>= fun atyp =>
      if atyp = addrTypeIpv4 then
        remaining >>= fun left =>
          if left < 4 + 2 then PollM.fail invalidBuf
          else getUint 4 >>= fun ip => getUint 2 >>= fun port =>
            pure (.socketAddress (.v4 (BitVec.ofNat 32 ip) port))
      else if atyp = addrTypeIpv6 then
        remaining >>= fun left =>
          if left < 16 + 2 then PollM.fail invalidBuf
          else getUint 16 >>= fun ip => getUint 2 >>= fun port =>
            pure (.socketAddress (.v6 (BitVec.ofNat 128 ip) port 0 0))
      else if atyp = addrTypeDomainName then
        getUint 1 >>= fun domainLen => remaining >>= fun left =>
          if left < domainLen then PollM.fail .addressDomainInvalidEncoding
          -- nothing checks that the port is there
          else copyToSlice domainLen >>= fun buf => getUint 2 >>= fun port =>
            match fromUtf8 buf with
            | some host => pure (.domainNameAddress host port)
            | none => PollM.fail .addressDomainInvalidEncoding
      else PollM.fail (.addressTypeNotSupported atyp)

def readFrom : PollM Bytes Socks5.Error Address :=
  PollM.mapErr .ioError (readExact 1) >>= fun addrTypeBuf =>
    let addrType := fromBigEndian addrTypeBuf
    if addrType = addrTypeIpv4 then
      PollM.mapErr .ioError (readExact 6) >>= fun buf =>
        pure (.socketAddress
          (.v4 (BitVec.ofNat 32 (fromBigEndian (buf.take 4))) (fromBigEndian (buf.drop 4))))
    else if addrType = addrTypeIpv6 then
      PollM.mapErr .ioError (readExact 18) >>= fun buf =>
        pure (.socketAddress
          (.v6 (BitVec.ofNat 128 (fromBigEndian (buf.take 16))) (fromBigEndian (buf.drop 16)) 0 0))
    else if addrType = addrTypeDomainName then
      PollM.mapErr .ioError (readExact 1) >>= fun lengthBuf =>
        let length := fromBigEndian lengthBuf
        PollM.mapErr .ioError (readExact (length + 2)) >>= fun rawAddr =>
          match fromUtf8 (rawAddr.take length) with
          | some host => pure (.domainNameAddress host (fromBigEndian (rawAddr.drop length)))
          | none => PollM.fail .addressDomainInvalidEncoding
    else PollM.fail (.addressTypeNotSupported addrType)

/-- `write_to_buf`; a domain name of more than 255 bytes fails its assertion. -/
def writeToBuf : Address → Option Bytes
  | .socketAddress (.v4 ip port) =>
    some (bigEndian 1 addrTypeIpv4 ++ bigEndian 4 ip.toNat ++ bigEndian 2 port)
  | .socketAddress (.v6 ip port _ _) =>
    some (bigEndian 1 addrTypeIpv6 ++ bigEndian 16 ip.toNat ++ bigEndian 2 port)
  | .domainNameAddress host port =>
    let name := host.toUTF8.data.toList
    if name.length ≤ 255 then
      some (bigEndian 1 addrTypeDomainName ++ bigEndian 1 name.length ++ name ++ bigEndian 2 port)
    else none

/-! ### Round trip -/

/-- The addresses that the wire format can carry: a port is a `u16`, and an IPv6
    address has no flow and no scope. -/
def IsPortable : Address → Prop
  | .socketAddress (.v4 _ port) => port < 2 ^ 16
  | .socketAddress (.v6 _ port flowinfo scopeId) => port < 2 ^ 16 ∧ flowinfo = 0 ∧ scopeId = 0
  | .domainNameAddress host port => port < 2 ^ 16 ∧ host.toUTF8.data.toList.length ≤ 255

theorem writeToBuf_isSome {addr : Address} (h : addr.IsPortable) : ∃ bs, addr.writeToBuf = some bs := by
  cases addr with
  | socketAddress sa => cases sa <;> exact ⟨_, rfl⟩
  | domainNameAddress host port => exact ⟨_, if_pos h.2⟩

theorem fromUtf8_toUTF8 (host : String) : fromUtf8 host.toUTF8.data.toList = some host := by
  have hvalid : ByteArray.IsValidUTF8 ⟨host.toUTF8.data.toList.toArray⟩ := host.isValidUTF8
  exact dif_pos hvalid

/-- What begins with enough bytes is not too short. -/
theorem not_short {n : Nat} {xs ys zs : Bytes} (h : n ≤ xs.length + ys.length) :
    ¬(xs ++ (ys ++ zs)).length < n := by
  rw [List.length_append, List.length_append]
  omega

/-- What is written of an address is read back, whatever follows. -/
theorem readCursor_writeToBuf {addr : Address} (h : addr.IsPortable) {bs : Bytes}
    (hw : addr.writeToBuf = some bs) (rest : Bytes) :
    readCursor (bs ++ rest) = (.ready addr, rest) := by
  cases addr with
  | socketAddress sa =>
    cases sa with
    | v4 ip port =>
      obtain rfl := Option.some.inj hw
      have hport : port < 256 ^ 2 := h
      have hip : ip.toNat < 256 ^ 4 := ip.isLt
      simp only [readCursor, List.append_assoc]
      rw [remaining_bind, if_neg (not_short (by simp)), getUint_bind (by decide), if_pos rfl,
        remaining_bind, if_neg (not_short (by simp)), getUint_bind hip, getUint_bind hport,
        BitVec.ofNat_toNat, BitVec.setWidth_eq]
      rfl
    | v6 ip port flowinfo scopeId =>
      obtain rfl := Option.some.inj hw
      obtain ⟨hport, rfl, rfl⟩ := h
      have hip : ip.toNat < 256 ^ 16 := ip.isLt
      simp only [readCursor, List.append_assoc]
      rw [remaining_bind, if_neg (not_short (by simp)), getUint_bind (by decide), if_neg (by decide),
        if_pos rfl, remaining_bind, if_neg (not_short (by simp)), getUint_bind hip,
        getUint_bind hport, BitVec.ofNat_toNat, BitVec.setWidth_eq]
      rfl
  | domainNameAddress host port =>
    obtain ⟨hport, hlen⟩ := h
    obtain rfl := Option.some.inj ((if_pos hlen).symm.trans hw)
    have hlen' : host.toUTF8.data.toList.length < 256 ^ 1 := by omega
    simp only [readCursor, List.append_assoc]
    rw [remaining_bind, if_neg (not_short (by simp)), getUint_bind (by decide), if_neg (by decide),
      if_neg (by decide), if_pos rfl, getUint_bind hlen', remaining_bind,
      if_neg (by simp), PollM.bind_ready (copyToSlice_ready (by simp)), List.take_left,
      List.drop_left, getUint_bind hport]
    simp only [fromUtf8_toUTF8]
    rfl

end Address

end Shadowsocks.Net
