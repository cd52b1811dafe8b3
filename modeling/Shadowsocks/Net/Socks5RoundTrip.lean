import Shadowsocks.Lib.Reader
import Shadowsocks.Net.Socks5Messages

/-! # SOCKS5 messages there and back

What is written of a message is read back, and nothing after it is touched
(`Message.message_round_trip`).  A message that ends early is refused, but for the response to a
username and a password: of that the first byte is enough (`truncated_refused_iff`).
-/

namespace Shadowsocks.Net

open Shadowsocks.Lib

section ReadExact

variable {α : Type} {len : Nat}

theorem readExact_bind {ε : Type} {g : IoError → ε} {buf : Bytes} (h : buf.length = len)
    (rest : Bytes) (f : Bytes → PollM Bytes ε α) :
    (PollM.mapErr g (readExact len) >>= f) (buf ++ rest) = f buf rest := by
  apply PollM.bind_ready
  have hlong : ¬ (buf ++ rest).length < len := by
    rw [List.length_append]
    omega
  simp only [PollM.mapErr, readExact, if_neg hlong, List.take_left' h, List.drop_left' h]

theorem framed_readExact (len : Nat) : Framed (readExact len) := by
  intro bs rest buf h
  obtain ⟨rfl, hlength⟩ := readExact_eq_ready h
  refine ⟨buf, rfl, fun rest' => ?_, fun part hpart hne => ⟨.unexpectedEof, [], if_pos ?_⟩⟩
  · have hlong : ¬ (buf ++ rest').length < len := by
      rw [List.length_append]
      omega
    simp only [readExact, if_neg hlong, List.take_left' hlength, List.drop_left' hlength]
  · rw [← hlength]
    exact lt_of_le_of_ne hpart.length_le fun heq => hne (hpart.eq_of_length heq)

end ReadExact

namespace Address

theorem readFrom_writeToBuf {addr : Address} (h : addr.IsPortable) {bs : Bytes}
    (hw : addr.writeToBuf = some bs) (rest : Bytes) : readFrom (bs ++ rest) = (.ready addr, rest) := by
  have htype {n : Nat} (hn : n < 256 ^ 1) : fromBigEndian (bigEndian 1 n) = n :=
    fromBigEndian_bigEndian_of_lt hn
  -- each form is its type, and then what the type announces
  cases addr with
  | socketAddress sa =>
    cases sa with
    | v4 ip port =>
      obtain rfl := Option.some.inj hw
      have hport : port < 256 ^ 2 := h
      have hip : ip.toNat < 256 ^ 4 := ip.isLt
      rw [readFrom, List.append_assoc, List.append_assoc, readExact_bind (bigEndian_length 1 _)]
      simp only [htype (show Socks5.addrTypeIpv4 < 256 ^ 1 by decide), if_true]
      rw [← List.append_assoc, readExact_bind (by simp), List.take_left' (bigEndian_length 4 _),
        List.drop_left' (bigEndian_length 4 _), fromBigEndian_bigEndian_of_lt hip,
        fromBigEndian_bigEndian_of_lt hport, BitVec.ofNat_toNat, BitVec.setWidth_eq]
      rfl
    | v6 ip port flowinfo scopeId =>
      obtain rfl := Option.some.inj hw
      obtain ⟨hport, rfl, rfl⟩ := h
      have hip : ip.toNat < 256 ^ 16 := ip.isLt
      rw [readFrom, List.append_assoc, List.append_assoc, readExact_bind (bigEndian_length 1 _)]
      simp only [htype (show Socks5.addrTypeIpv6 < 256 ^ 1 by decide)]
      rw [if_neg (by decide), if_pos trivial, ← List.append_assoc, readExact_bind (by simp),
        List.take_left' (bigEndian_length 16 _), List.drop_left' (bigEndian_length 16 _),
        fromBigEndian_bigEndian_of_lt hip, fromBigEndian_bigEndian_of_lt hport,
        BitVec.ofNat_toNat, BitVec.setWidth_eq]
      rfl
  | domainNameAddress host port =>
    obtain ⟨hport, hlen⟩ := h
    obtain rfl := Option.some.inj ((if_pos hlen).symm.trans hw)
    rw [readFrom, List.append_assoc, List.append_assoc, List.append_assoc,
      readExact_bind (bigEndian_length 1 _)]
    simp only [htype (show Socks5.addrTypeDomainName < 256 ^ 1 by decide)]
    rw [if_neg (by decide), if_neg (by decide), if_pos trivial,
      readExact_bind (bigEndian_length 1 _)]
    simp only [htype (show host.toUTF8.data.toList.length < 256 ^ 1 by omega)]
    rw [← List.append_assoc, readExact_bind (by simp), List.take_left, List.drop_left,
      fromBigEndian_bigEndian_of_lt hport, fromUtf8_toUTF8]
    rfl

/-! ### Any address -/

/-- An address as the wire carries it, without flow and scope. -/
def wireAddr : Address → Address
  | .socketAddress (.v6 ip port _ _) => .socketAddress (.v6 ip port 0 0)
  | addr => addr

/-- The port is a `u16`. -/
def HasPort : Address → Prop
  | .socketAddress (.v4 _ port) => port < 2 ^ 16
  | .socketAddress (.v6 _ port _ _) => port < 2 ^ 16
  | .domainNameAddress _ port => port < 2 ^ 16

instance : (addr : Address) → Decidable addr.HasPort
  | .socketAddress (.v4 _ port) => inferInstanceAs (Decidable (port < 2 ^ 16))
  | .socketAddress (.v6 _ port _ _) => inferInstanceAs (Decidable (port < 2 ^ 16))
  | .domainNameAddress _ port => inferInstanceAs (Decidable (port < 2 ^ 16))

/-- The length of a name fits into its byte. -/
def NameFits : Address → Prop
  | .socketAddress _ => True
  | .domainNameAddress host _ => host.toUTF8.data.toList.length ≤ 255

/-- An IPv6 address has no flow and no scope. -/
def IsUnscoped : Address → Prop
  | .socketAddress (.v6 _ _ flowinfo scopeId) => flowinfo = 0 ∧ scopeId = 0
  | _ => True

theorem isPortable_iff (addr : Address) :
    addr.IsPortable ↔ addr.HasPort ∧ addr.NameFits ∧ addr.IsUnscoped := by
  cases addr with
  | socketAddress sa =>
    cases sa with
    | v4 ip port => exact ⟨fun h => ⟨h, trivial, trivial⟩, fun h => h.1⟩
    | v6 ip port flowinfo scopeId => exact ⟨fun h => ⟨h.1, trivial, h.2⟩, fun h => ⟨h.1, h.2.2⟩⟩
  | domainNameAddress host port => exact ⟨fun h => ⟨h.1, h.2, trivial⟩, fun h => ⟨h.1, h.2.1⟩⟩

theorem wireAddr_eq_iff (addr : Address) : wireAddr addr = addr ↔ addr.IsUnscoped := by
  cases addr with
  | socketAddress sa =>
    cases sa with
    | v4 ip port => exact ⟨fun _ => trivial, fun _ => rfl⟩
    | v6 ip port flowinfo scopeId =>
      constructor
      · intro h
        cases h
        exact ⟨rfl, rfl⟩
      · rintro ⟨rfl, rfl⟩
        rfl
  | domainNameAddress host port => exact ⟨fun _ => trivial, fun _ => rfl⟩

theorem writeToBuf_wireAddr (addr : Address) :
    (wireAddr addr).writeToBuf = addr.writeToBuf := by
  cases addr with
  | socketAddress sa => cases sa <;> rfl
  | domainNameAddress host port => rfl

theorem nameFits_of_writeToBuf {addr : Address} {bs : Bytes} (hw : addr.writeToBuf = some bs) :
    addr.NameFits := by
  cases addr with
  | socketAddress sa => trivial
  | domainNameAddress host port =>
    by_contra hlong
    have hlong : ¬ host.toUTF8.data.toList.length ≤ 255 := hlong
    rw [writeToBuf, if_neg hlong] at hw
    cases hw

/-- What can be written can be read back. -/
theorem wireAddr_portable {addr : Address} (hport : addr.HasPort) (hname : addr.NameFits) :
    (wireAddr addr).IsPortable := by
  cases addr with
  | socketAddress sa =>
    cases sa with
    | v4 ip port => exact hport
    | v6 ip port flowinfo scopeId => exact ⟨hport, rfl, rfl⟩
  | domainNameAddress host port => exact ⟨hport, hname⟩

theorem writeToBuf_length {addr : Address} {bs : Bytes} (hw : addr.writeToBuf = some bs) :
    bs.length = Socks5.getAddrLen addr := by
  cases addr with
  | socketAddress sa =>
    cases sa <;>
      · obtain rfl := Option.some.inj hw
        simp [Socks5.getAddrLen]
  | domainNameAddress host port =>
    simp only [writeToBuf] at hw
    split at hw
    · obtain rfl := Option.some.inj hw
      simp [Socks5.getAddrLen]
      omega
    · cases hw

/-- An address is refused as long as a part of it is missing. -/
theorem framed_readFrom : Framed readFrom := by
  refine ((framed_readExact 1).mapErr _).bind fun addrTypeBuf => ?_
  dsimp only
  split
  · exact ((framed_readExact 6).mapErr _).bind fun _ => Framed.pure _
  · split
    · exact ((framed_readExact 18).mapErr _).bind fun _ => Framed.pure _
    · split
      · refine ((framed_readExact 1).mapErr _).bind fun lengthBuf => ?_
        refine ((framed_readExact _).mapErr _).bind fun rawAddr => ?_
        cases fromUtf8 (rawAddr.take (fromBigEndian lengthBuf)) with
        | none => exact Framed.fail _
        | some host => exact Framed.pure _
      · exact Framed.fail _

end Address

namespace Socks5

theorem readBuf_bind {α : Type} (len : Nat) {buf : Bytes} (h : buf.length = len) (rest : Bytes)
    (f : Bytes → PollM Bytes Error α) : (readBuf len >>= f) (buf ++ rest) = f buf rest :=
  readExact_bind h rest f

theorem framed_readBuf (len : Nat) : Framed (readBuf len) := (framed_readExact len).mapErr _

/-! ## One message at a time -/

theorem toNat_ofNat_length {bs : Bytes} (h : bs.length ≤ 255) :
    (UInt8.ofNat bs.length).toNat = bs.length :=
  UInt8.toNat_ofNat_of_lt' (Nat.lt_succ_of_le h)

@[simp] theorem Command.fromU8_asU8 (command : Command) :
    Command.fromU8 command.asU8 = some command := by
  cases command <;> rfl

/-- A reply that is not one of the others by its code. -/
def Reply.IsCanonical : Reply → Prop
  | .otherReply code => 0x08 < code ∧ code < 256
  | _ => True

theorem Reply.fromU8_asU8 {reply : Reply} (h : reply.IsCanonical) :
    Reply.fromU8 reply.asU8 = reply := by
  cases reply with
  | otherReply code =>
    obtain ⟨hother, hbyte⟩ := h
    have hcode : (UInt8.ofNat code).toNat = code := UInt8.toNat_ofNat_of_lt' hbyte
    have hne {n : UInt8} (hn : n.toNat ≤ 0x08) : UInt8.ofNat code ≠ n := by
      rintro rfl
      omega
    unfold Reply.fromU8 Reply.asU8
    rw [if_neg (hne (by decide)), if_neg (hne (by decide)), if_neg (hne (by decide)),
      if_neg (hne (by decide)), if_neg (hne (by decide)), if_neg (hne (by decide)),
      if_neg (hne (by decide)), if_neg (hne (by decide)), if_neg (hne (by decide)), hcode]
  | _ => rfl

theorem HandshakeRequest.readFrom_writeToBuf {req : HandshakeRequest}
    (h : req.methods.length ≤ 255) (rest : Bytes) :
    readFrom (req.writeToBuf ++ rest) = (.ready req, rest) := by
  have hcount : (UInt8.ofNat req.methods.length).toNat = req.methods.length :=
    toNat_ofNat_length h
  have hform : req.writeToBuf ++ rest =
      [socks5Version, UInt8.ofNat req.methods.length] ++ (req.methods ++ rest) := by
    simp [writeToBuf]
  unfold readFrom
  rw [hform, readBuf_bind 2 rfl]
  simp only [List.getD_cons_zero, List.getD_cons_succ, hcount]
  rw [if_neg (not_not.2 rfl), readBuf_bind _ rfl]
  rfl

theorem PasswdAuthRequest.readFrom_writeToBuf {req : PasswdAuthRequest}
    (h : new req.uname req.passwd = some req) (rest : Bytes) :
    readFrom (req.writeToBuf ++ rest) = (.ready req, rest) := by
  obtain ⟨huname, hulen, hpasswd, hplen⟩ : req.uname ≠ [] ∧ req.uname.length ≤ 255 ∧
      req.passwd ≠ [] ∧ req.passwd.length ≤ 255 := by
    unfold new at h
    split at h
    · assumption
    · cases h
  have hucount : (UInt8.ofNat req.uname.length).toNat = req.uname.length :=
    toNat_ofNat_length hulen
  have hpcount : (UInt8.ofNat req.passwd.length).toNat = req.passwd.length :=
    toNat_ofNat_length hplen
  have hform : req.writeToBuf ++ rest = [0x01] ++ ([UInt8.ofNat req.uname.length] ++
      (req.uname ++ ([UInt8.ofNat req.passwd.length] ++ (req.passwd ++ rest)))) := by
    simp [writeToBuf]
  unfold readFrom
  rw [hform, readBuf_bind 1 rfl, if_neg (by decide), readBuf_bind 1 rfl]
  simp only [List.getD_cons_zero, hucount]
  rw [if_neg (fun hzero => huname (List.length_eq_zero_iff.1 hzero)), readBuf_bind _ rfl,
    readBuf_bind 1 rfl]
  simp only [List.getD_cons_zero, hpcount]
  rw [if_neg (fun hzero => hpasswd (List.length_eq_zero_iff.1 hzero)), readBuf_bind _ rfl]
  rfl

/-- A message that is three bytes and an address. -/
theorem readFrom_addressed {α : Type} (front : Bytes) (mk : Address → α) {address : Bytes}
    {addr : Address} {f : Bytes → PollM Bytes Error α} (hfront : front.length = 3)
    (hf : f front = (Address.readFrom >>= fun address => pure (mk address)))
    (haddr : addr.IsPortable) (hw : addr.writeToBuf = some address) (rest : Bytes) :
    (readBuf 3 >>= f) (front ++ address ++ rest) = (.ready (mk addr), rest) := by
  rw [List.append_assoc, readBuf_bind 3 hfront, hf,
    PollM.bind_ready (Address.readFrom_writeToBuf haddr hw rest)]
  rfl

theorem TcpRequestHeader.readFrom_writeToBuf {req : TcpRequestHeader} {address : Bytes}
    (haddr : req.address.IsPortable) (hw : req.address.writeToBuf = some address) (rest : Bytes) :
    readFrom ([socks5Version, req.command.asU8, 0x00] ++ address ++ rest) = (.ready req, rest) := by
  obtain ⟨command, addr⟩ := req
  exact readFrom_addressed [socks5Version, command.asU8, 0x00] (TcpRequestHeader.mk command) rfl
    (by simp) haddr hw rest

theorem TcpResponseHeader.readFrom_writeToBuf {resp : TcpResponseHeader} {address : Bytes}
    (hreply : resp.reply.IsCanonical) (haddr : resp.address.IsPortable)
    (hw : resp.address.writeToBuf = some address) (rest : Bytes) :
    readFrom ([socks5Version, resp.reply.asU8, 0x00] ++ address ++ rest) = (.ready resp, rest) := by
  obtain ⟨reply, addr⟩ := resp
  exact readFrom_addressed [socks5Version, reply.asU8, 0x00] (TcpResponseHeader.mk reply) rfl
    (by simp [Reply.fromU8_asU8 hreply]) haddr hw rest

theorem UdpAssociateHeader.readFrom_writeToBuf {header : UdpAssociateHeader} {address : Bytes}
    (haddr : header.address.IsPortable) (hw : header.address.writeToBuf = some address)
    (rest : Bytes) :
    readFrom ([0x00, 0x00, header.frag] ++ address ++ rest) = (.ready header, rest) :=
  readFrom_addressed [0x00, 0x00, header.frag] (UdpAssociateHeader.mk header.frag) rfl rfl haddr hw
    rest

/-! ## All of them -/

/-- The messages of the protocol. -/
inductive Message where
  | address (m : Address)
  | tcpRequestHeader (m : TcpRequestHeader)
  | tcpResponseHeader (m : TcpResponseHeader)
  | handshakeRequest (m : HandshakeRequest)
  | handshakeResponse (m : HandshakeResponse)
  | udpAssociateHeader (m : UdpAssociateHeader)
  | passwdAuthRequest (m : PasswdAuthRequest)
  | passwdAuthResponse (m : PasswdAuthResponse)
deriving DecidableEq, Repr

inductive MessageKind where
  | address
  | tcpRequestHeader
  | tcpResponseHeader
  | handshakeRequest
  | handshakeResponse
  | udpAssociateHeader
  | passwdAuthRequest
  | passwdAuthResponse
deriving DecidableEq, Repr

/-- The `read_from` of a type of messages. -/
def MessageKind.readFrom : MessageKind → PollM Bytes Error Message
  | .address => Address.readFrom >>= fun m => pure (.address m)
  | .tcpRequestHeader => TcpRequestHeader.readFrom >>= fun m => pure (.tcpRequestHeader m)
  | .tcpResponseHeader => TcpResponseHeader.readFrom >>= fun m => pure (.tcpResponseHeader m)
  | .handshakeRequest => HandshakeRequest.readFrom >>= fun m => pure (.handshakeRequest m)
  | .handshakeResponse => HandshakeResponse.readFrom >>= fun m => pure (.handshakeResponse m)
  | .udpAssociateHeader => UdpAssociateHeader.readFrom >>= fun m => pure (.udpAssociateHeader m)
  | .passwdAuthRequest => PasswdAuthRequest.readFrom >>= fun m => pure (.passwdAuthRequest m)
  | .passwdAuthResponse => PasswdAuthResponse.readFrom >>= fun m => pure (.passwdAuthResponse m)

namespace Message

def kind : Message → MessageKind
  | address _ => .address
  | tcpRequestHeader _ => .tcpRequestHeader
  | tcpResponseHeader _ => .tcpResponseHeader
  | handshakeRequest _ => .handshakeRequest
  | handshakeResponse _ => .handshakeResponse
  | udpAssociateHeader _ => .udpAssociateHeader
  | passwdAuthRequest _ => .passwdAuthRequest
  | passwdAuthResponse _ => .passwdAuthResponse

def writeToBuf : Message → Option Bytes
  | address m => m.writeToBuf
  | tcpRequestHeader m => m.writeToBuf
  | tcpResponseHeader m => m.writeToBuf
  | handshakeRequest m => some m.writeToBuf
  | handshakeResponse m => some m.writeToBuf
  | udpAssociateHeader m => m.writeToBuf
  | passwdAuthRequest m => some m.writeToBuf
  | passwdAuthResponse m => some m.writeToBuf

def serializedLen : Message → Nat
  | address m => getAddrLen m
  | tcpRequestHeader m => m.serializedLen
  | tcpResponseHeader m => m.serializedLen
  | handshakeRequest m => m.serializedLen
  | handshakeResponse m => m.serializedLen
  | udpAssociateHeader m => m.serializedLen
  | passwdAuthRequest m => m.serializedLen
  | passwdAuthResponse m => m.serializedLen

/-- The messages that the wire format can carry. -/
def IsPortable : Message → Prop
  | address m => m.IsPortable
  | tcpRequestHeader m => m.address.IsPortable
  | tcpResponseHeader m => m.reply.IsCanonical ∧ m.address.IsPortable
  | handshakeRequest m => m.methods.length ≤ 255
  | handshakeResponse _ => True
  | udpAssociateHeader m => m.address.IsPortable
  | passwdAuthRequest m => PasswdAuthRequest.new m.uname m.passwd = some m
  | passwdAuthResponse _ => True

/-- **There and back.** What is written of a message has the length that was foreseen, is read
    back as the message, and not a byte that follows it is taken. -/
theorem message_round_trip {m : Message} (h : m.IsPortable) :
    ∃ bs, m.writeToBuf = some bs ∧ bs.length = m.serializedLen ∧
      ∀ rest, m.kind.readFrom (bs ++ rest) = (.ready m, rest) := by
  cases m with
  | address m =>
    obtain ⟨bs, hw⟩ := Address.writeToBuf_isSome h
    exact ⟨bs, hw, Address.writeToBuf_length hw, fun rest =>
      PollM.bind_ready (Address.readFrom_writeToBuf h hw rest) _⟩
  | tcpRequestHeader m =>
    obtain ⟨address, hw⟩ := Address.writeToBuf_isSome h
    refine ⟨[socks5Version, m.command.asU8, 0x00] ++ address, ?_, ?_, fun rest =>
      PollM.bind_ready (TcpRequestHeader.readFrom_writeToBuf h hw rest) _⟩
    · simp [writeToBuf, TcpRequestHeader.writeToBuf, hw]
    · simp [serializedLen, TcpRequestHeader.serializedLen, Address.writeToBuf_length hw]
  | tcpResponseHeader m =>
    obtain ⟨address, hw⟩ := Address.writeToBuf_isSome h.2
    refine ⟨[socks5Version, m.reply.asU8, 0x00] ++ address, ?_, ?_, fun rest =>
      PollM.bind_ready (TcpResponseHeader.readFrom_writeToBuf h.1 h.2 hw rest) _⟩
    · simp [writeToBuf, TcpResponseHeader.writeToBuf, hw]
    · simp [serializedLen, TcpResponseHeader.serializedLen, Address.writeToBuf_length hw]
  | handshakeRequest m =>
    refine ⟨m.writeToBuf, rfl, ?_, fun rest =>
      PollM.bind_ready (HandshakeRequest.readFrom_writeToBuf h rest) _⟩
    simp [serializedLen, HandshakeRequest.serializedLen, HandshakeRequest.writeToBuf]
    omega
  | handshakeResponse m => exact ⟨m.writeToBuf, rfl, rfl, fun rest => rfl⟩
  | udpAssociateHeader m =>
    obtain ⟨address, hw⟩ := Address.writeToBuf_isSome h
    refine ⟨[0x00, 0x00, m.frag] ++ address, ?_, ?_, fun rest =>
      PollM.bind_ready (UdpAssociateHeader.readFrom_writeToBuf h hw rest) _⟩
    · simp [writeToBuf, UdpAssociateHeader.writeToBuf, hw]
    · simp [serializedLen, UdpAssociateHeader.serializedLen, Address.writeToBuf_length hw]
      omega
  | passwdAuthRequest m =>
    refine ⟨m.writeToBuf, rfl, ?_, fun rest =>
      PollM.bind_ready (PasswdAuthRequest.readFrom_writeToBuf h rest) _⟩
    simp [serializedLen, PasswdAuthRequest.serializedLen, PasswdAuthRequest.writeToBuf]
    omega
  | passwdAuthResponse m => exact ⟨m.writeToBuf, rfl, rfl, fun rest => rfl⟩

/-- A reply with a code that has no name, from an address given by its name. -/
theorem message_round_trip_reply :
    ∃ bs, (tcpResponseHeader ⟨.otherReply 9, .domainNameAddress "example.com" 443⟩).writeToBuf =
        some bs ∧ bs.length = 18 ∧
      ∀ rest, MessageKind.tcpResponseHeader.readFrom (bs ++ rest) =
        (.ready (tcpResponseHeader ⟨.otherReply 9, .domainNameAddress "example.com" 443⟩), rest) :=
  message_round_trip (m := tcpResponseHeader ⟨.otherReply 9, .domainNameAddress "example.com" 443⟩)
    ⟨⟨by decide, by decide⟩, by decide, by decide⟩

end Message

/-! ## Messages that end early -/

theorem HandshakeRequest.framed_readFrom : Framed readFrom := by
  refine (framed_readBuf 2).bind fun buf => ?_
  dsimp only
  split
  · exact Framed.fail _
  · exact (framed_readBuf _).bind fun _ => Framed.pure _

theorem HandshakeResponse.framed_readFrom : Framed readFrom := by
  refine (framed_readBuf 2).bind fun buf => ?_
  dsimp only
  split
  · exact Framed.fail _
  · exact Framed.pure _

theorem PasswdAuthRequest.framed_readFrom : Framed readFrom := by
  refine (framed_readBuf 1).bind fun verBuf => ?_
  split
  · exact Framed.fail _
  · refine (framed_readBuf 1).bind fun ulenBuf => ?_
    dsimp only
    split
    · exact Framed.fail _
    · refine (framed_readBuf _).bind fun uname => (framed_readBuf 1).bind fun plenBuf => ?_
      split
      · exact Framed.fail _
      · exact (framed_readBuf _).bind fun _ => Framed.pure _

theorem TcpRequestHeader.framed_readFrom : Framed readFrom := by
  refine (framed_readBuf 3).bind fun buf => ?_
  dsimp only
  split
  · exact Framed.fail _
  · split
    · exact Framed.fail _
    · exact Address.framed_readFrom.bind fun _ => Framed.pure _

theorem TcpResponseHeader.framed_readFrom : Framed readFrom := by
  refine (framed_readBuf 3).bind fun buf => ?_
  dsimp only
  split
  · exact Framed.fail _
  · exact Address.framed_readFrom.bind fun _ => Framed.pure _

theorem UdpAssociateHeader.framed_readFrom : Framed readFrom :=
  (framed_readBuf 3).bind fun _ => Address.framed_readFrom.bind fun _ => Framed.pure _

/-- All readers but one ask for every byte of their messages. -/
theorem MessageKind.framed_readFrom {kind : MessageKind} (h : kind ≠ .passwdAuthResponse) :
    Framed kind.readFrom := by
  cases kind with
  | address => exact Address.framed_readFrom.bind fun _ => Framed.pure _
  | tcpRequestHeader => exact TcpRequestHeader.framed_readFrom.bind fun _ => Framed.pure _
  | tcpResponseHeader => exact TcpResponseHeader.framed_readFrom.bind fun _ => Framed.pure _
  | handshakeRequest => exact HandshakeRequest.framed_readFrom.bind fun _ => Framed.pure _
  | handshakeResponse => exact HandshakeResponse.framed_readFrom.bind fun _ => Framed.pure _
  | udpAssociateHeader => exact UdpAssociateHeader.framed_readFrom.bind fun _ => Framed.pure _
  | passwdAuthRequest => exact PasswdAuthRequest.framed_readFrom.bind fun _ => Framed.pure _
  | passwdAuthResponse => exact absurd rfl h

/-- Only the first byte decides whether a response is accepted. -/
theorem PasswdAuthResponse.readFrom_cons (ver : UInt8) (bs : Bytes) :
    readFrom (ver :: bs) =
      if ver ≠ 0x01 then (.failed (.unsupportedPasswdAuthVersion ver.toNat), bs.drop 1)
      else (.ready { status := bs.headD 0 }, bs.drop 1) := by
  have hbuf : readUnchecked 2 (ver :: bs) = (.ready [ver, bs.headD 0], bs.drop 1) := by
    cases bs <;> rfl
  unfold readFrom
  rw [PollM.bind_ready hbuf]
  simp only [List.getD_cons_zero, List.getD_cons_succ]
  split <;> rfl

/-- **Truncated messages.** What a reader accepts it refuses as soon as something is missing, but
    for the authentication response, of which its version alone is accepted. -/
theorem truncated_refused_iff {kind : MessageKind} {used rest : Bytes} {m : Message}
    (h : kind.readFrom (used ++ rest) = (.ready m, rest)) {part : Bytes} (hpart : part <+: used)
    (hne : part ≠ used) :
    (∃ e rest, kind.readFrom part = (.failed e, rest)) ↔
      ¬ (kind = .passwdAuthResponse ∧ part ≠ []) := by
  by_cases hkind : kind = .passwdAuthResponse
  · subst hkind
    obtain ⟨resp, behind, hresp, -⟩ := PollM.bind_eq_ready h
    match part, used, hpart with
    | [], _, _ => exact ⟨fun _ hboth => hboth.2 rfl, fun _ => ⟨_, _, rfl⟩⟩
    | ver :: part, ver' :: used, hpart =>
      obtain ⟨rfl, -⟩ := List.cons_prefix_cons.1 hpart
      rw [List.cons_append, PasswdAuthResponse.readFrom_cons] at hresp
      split at hresp
      · cases hresp
      · next hver =>
        -- the version is right, and with that the part is accepted too
        have haccepted : MessageKind.passwdAuthResponse.readFrom (ver :: part) =
            (.ready (.passwdAuthResponse { status := part.headD 0 }), part.drop 1) :=
          PollM.bind_ready (by rw [PasswdAuthResponse.readFrom_cons, if_neg hver]) _
        constructor
        · rintro ⟨e, rest', hfailed⟩
          cases haccepted.symm.trans hfailed
        · exact fun hnot => absurd ⟨rfl, List.cons_ne_nil _ _⟩ hnot
  · exact ⟨fun _ hboth => hkind hboth.1, fun _ =>
      ((MessageKind.framed_readFrom hkind).accepts h).truncated part hpart hne⟩

/-- A response that tells of a failure, cut after its first byte, tells of a success. -/
theorem truncated_response_accepted :
    MessageKind.passwdAuthResponse.readFrom [0x01, 0xff] =
        (.ready (.passwdAuthResponse { status := 0xff }), []) ∧
      MessageKind.passwdAuthResponse.readFrom [0x01] =
        (.ready (.passwdAuthResponse { status := 0x00 }), []) ∧
      ¬ ∀ (kind : MessageKind) (used rest : Bytes) (m : Message),
        kind.readFrom (used ++ rest) = (.ready m, rest) → ∀ part, part <+: used → part ≠ used →
          ∃ e rest, kind.readFrom part = (.failed e, rest) := by
  refine ⟨rfl, rfl, fun hall => ?_⟩
  obtain ⟨e, rest, hfailed⟩ := hall .passwdAuthResponse [0x01, 0xff] [] _ rfl [0x01]
    ⟨[0xff], rfl⟩ (by decide)
  cases hfailed

/-- The same response by the theorem, and a handshake that is cut. -/
theorem truncated_refused_samples :
    ((∃ e rest, MessageKind.passwdAuthResponse.readFrom [0x01] = (.failed e, rest)) ↔
        ¬ (MessageKind.passwdAuthResponse = .passwdAuthResponse ∧ ([0x01] : Bytes) ≠ [])) ∧
      ((∃ e rest, MessageKind.handshakeRequest.readFrom [0x05, 0x01] = (.failed e, rest)) ↔
        ¬ (MessageKind.handshakeRequest = .passwdAuthResponse ∧ ([0x05, 0x01] : Bytes) ≠ [])) :=
  ⟨truncated_refused_iff (show MessageKind.passwdAuthResponse.readFrom ([0x01, 0xff] ++ []) =
        (.ready (.passwdAuthResponse { status := 0xff }), []) from rfl) ⟨[0xff], rfl⟩ (by decide),
    truncated_refused_iff (show MessageKind.handshakeRequest.readFrom ([0x05, 0x01, 0x00] ++ [0x07]) =
        (.ready (.handshakeRequest { methods := [0x00] }), [0x07]) from rfl) ⟨[0x00], rfl⟩ (by decide)⟩

end Socks5

end Shadowsocks.Net
