import Shadowsocks.Net.Socks5

/-! # SOCKS5 messages

What a SOCKS5 server reads of its client and writes to it: the two messages of the handshake, the
two of the username/password subnegotiation, the request and the response.  A message that is read
is the bytes that its own `writeToBuf` makes, so what the client has sent is known from what the
server has understood (`HandshakeRequest.readFrom_eq`, `PasswdAuthRequest.readFrom_eq`).
-/

namespace Shadowsocks.Net

open Shadowsocks.Lib

/-- What `read_exact` has read comes before what is left. -/
theorem readExact_eq_ready {len : Nat} {bs buf rest : Bytes}
    (h : readExact len bs = (.ready buf, rest)) : bs = buf ++ rest ∧ buf.length = len := by
  unfold readExact at h
  split at h
  · cases h
  · next hlong =>
    cases h
    refine ⟨(List.take_append_drop len bs).symm, ?_⟩
    rw [List.length_take]
    omega

namespace Socks5

def socks5Version : UInt8 := 0x05

def authMethodNone : UInt8 := 0x00
def authMethodPassword : UInt8 := 0x02
def authMethodNotAcceptable : UInt8 := 0xff

inductive Command where
  | tcpConnect
  | tcpBind
  | udpAssociate
deriving DecidableEq, Repr

def Command.fromU8 (code : UInt8) : Option Command :=
  if code = 0x01 then some .tcpConnect
  else if code = 0x02 then some .tcpBind
  else if code = 0x03 then some .udpAssociate
  else none

def Command.asU8 : Command → UInt8
  | .tcpConnect => 0x01
  | .tcpBind => 0x02
  | .udpAssociate => 0x03

def Reply.asU8 : Reply → UInt8
  | .succeeded => 0x00
  | .generalFailure => 0x01
  | .connectionNotAllowed => 0x02
  | .networkUnreachable => 0x03
  | .hostUnreachable => 0x04
  | .connectionRefused => 0x05
  | .ttlExpired => 0x06
  | .commandNotSupported => 0x07
  | .addressTypeNotSupported => 0x08
  | .otherReply code => UInt8.ofNat code

def Reply.fromU8 (code : UInt8) : Reply :=
  if code = 0x00 then .succeeded
  else if code = 0x01 then .generalFailure
  else if code = 0x02 then .connectionNotAllowed
  else if code = 0x03 then .networkUnreachable
  else if code = 0x04 then .hostUnreachable
  else if code = 0x05 then .connectionRefused
  else if code = 0x06 then .ttlExpired
  else if code = 0x07 then .commandNotSupported
  else if code = 0x08 then .addressTypeNotSupported
  else .otherReply code.toNat

/-- `as_reply`.  No read is refused a connection, so its errors are all the same here. -/
def Error.asReply : Error → Reply
  | .ioError _ => .generalFailure
  | .addressTypeNotSupported _ => .addressTypeNotSupported
  | .addressDomainInvalidEncoding => .generalFailure
  | .unsupportedSocksVersion _ => .generalFailure
  | .unsupportedCommand _ => .commandNotSupported
  | .unsupportedPasswdAuthVersion _ => .generalFailure
  | .passwdAuthInvalidRequest => .generalFailure
  | .reply r => r

/-- A number as `{:#x}` prints it. -/
def hexText (n : Nat) : String := "0x" ++ String.ofList (Nat.toDigits 16 n)

/-- The text of a reply. -/
def Reply.text : Reply → String
  | .succeeded => "Succeeded"
  | .addressTypeNotSupported => "Address type not supported"
  | .commandNotSupported => "Command not supported"
  | .connectionNotAllowed => "Connection not allowed"
  | .connectionRefused => "Connection refused"
  | .generalFailure => "General failure"
  | .hostUnreachable => "Host unreachable"
  | .networkUnreachable => "Network unreachable"
  | .otherReply code => "Other reply (" ++ toString code ++ ")"
  | .ttlExpired => "TTL expired"

/-- `From<Error> for io::Error`: an error that is not of the stream goes by its text. -/
def Error.toIoError : Error → IoError
  | .ioError e => e
  | .addressTypeNotSupported addrType =>
    .other ("address type " ++ hexText addrType ++ " not supported")
  | .addressDomainInvalidEncoding => .other "address domain name must be UTF-8 encoding"
  | .unsupportedSocksVersion version => .other ("unsupported socks version " ++ hexText version)
  | .unsupportedCommand command => .other ("unsupported command " ++ hexText command)
  | .unsupportedPasswdAuthVersion version =>
    .other ("unsupported username/password authentication version " ++ hexText version)
  | .passwdAuthInvalidRequest => .other "username/password authentication invalid request"
  | .reply r => .other r.text

/-- `read_exact` into a buffer, in the error type of the protocol. -/
def readBuf (len : Nat) : PollM Bytes Error Bytes := PollM.mapErr .ioError (readExact len)

theorem readBuf_eq_ready {len : Nat} {bs buf rest : Bytes}
    (h : readBuf len bs = (.ready buf, rest)) : bs = buf ++ rest ∧ buf.length = len :=
  readExact_eq_ready (PollM.mapErr_eq_ready h)

/-- `read_exact` into a zeroed buffer, its result thrown away. -/
def readUnchecked (len : Nat) : PollM Bytes Error Bytes := fun bs =>
  (.ready ((bs ++ List.replicate len 0).take len), bs.drop len)

/-- `get_addr_len`. -/
def getAddrLen : Address → Nat
  | .socketAddress (.v4 _ _) => 1 + 4 + 2
  | .socketAddress (.v6 _ _ _ _) => 1 + 8 * 2 + 2
  | .domainNameAddress host _ => 1 + 1 + host.toUTF8.data.toList.length + 2

/-! ## The handshake -/

structure HandshakeRequest where
  methods : Bytes
deriving DecidableEq, Repr

namespace HandshakeRequest

def readFrom : PollM Bytes Error HandshakeRequest :=
  readBuf 2 >>= fun buf =>
    let ver := buf.getD 0 0
    let nmet := buf.getD 1 0
    if ver ≠ socks5Version then PollM.fail (.unsupportedSocksVersion ver.toNat)
    else readBuf nmet.toNat >>= fun methods => pure { methods := methods }

def writeToBuf (req : HandshakeRequest) : Bytes :=
  socks5Version :: UInt8.ofNat req.methods.length :: req.methods

def serializedLen (req : HandshakeRequest) : Nat := 2 + req.methods.length

theorem readFrom_eq {bs rest : Bytes} {req : HandshakeRequest}
    (h : readFrom bs = (.ready req, rest)) : bs = req.writeToBuf ++ rest := by
  obtain ⟨buf, behind, hbuf, hrest⟩ := PollM.bind_eq_ready h
  obtain ⟨rfl, hlength⟩ := readBuf_eq_ready hbuf
  obtain ⟨ver, nmet, rfl⟩ := List.length_eq_two.1 hlength
  dsimp only at hrest
  split at hrest
  · cases hrest
  · next hver =>
    obtain ⟨methods, rest', hmethods, hend⟩ := PollM.bind_eq_ready hrest
    obtain ⟨rfl, hnmet⟩ := readBuf_eq_ready hmethods
    cases hend
    obtain rfl : ver = socks5Version := not_not.1 hver
    have hcount : UInt8.ofNat methods.length = nmet := by
      rw [hnmet]
      exact UInt8.ofNat_toNat
    simp [writeToBuf, hcount]

end HandshakeRequest

structure HandshakeResponse where
  chosenMethod : UInt8
deriving DecidableEq, Repr

def HandshakeResponse.readFrom : PollM Bytes Error HandshakeResponse :=
  readBuf 2 >>= fun buf =>
    let ver := buf.getD 0 0
    let met := buf.getD 1 0
    if ver ≠ socks5Version then PollM.fail (.unsupportedSocksVersion ver.toNat)
    else pure { chosenMethod := met }

def HandshakeResponse.serializedLen (_resp : HandshakeResponse) : Nat := 2

def HandshakeResponse.writeToBuf (resp : HandshakeResponse) : Bytes :=
  [socks5Version, resp.chosenMethod]

/-! ## Username and password -/

structure PasswdAuthRequest where
  uname : Bytes
  passwd : Bytes
deriving DecidableEq, Repr

namespace PasswdAuthRequest

/-- `new`, which asserts that there are from 1 to 255 bytes of each. -/
def new (uname passwd : Bytes) : Option PasswdAuthRequest :=
  if uname ≠ [] ∧ uname.length ≤ 255 ∧ passwd ≠ [] ∧ passwd.length ≤ 255 then
    some { uname := uname, passwd := passwd }
  else none

def readFrom : PollM Bytes Error PasswdAuthRequest :=
  readBuf 1 >>= fun verBuf =>
    -- the only version of the subnegotiation
    if verBuf.getD 0 0 ≠ 0x01 then
      PollM.fail (.unsupportedPasswdAuthVersion (verBuf.getD 0 0).toNat)
    else readBuf 1 >>= fun ulenBuf =>
      let ulen := (ulenBuf.getD 0 0).toNat
      if ulen = 0 then PollM.fail .passwdAuthInvalidRequest
      else readBuf ulen >>= fun uname => readBuf 1 >>= fun plenBuf =>
        let plen := (plenBuf.getD 0 0).toNat
        if plen = 0 then PollM.fail .passwdAuthInvalidRequest
        else readBuf plen >>= fun passwd => pure { uname := uname, passwd := passwd }

def writeToBuf (req : PasswdAuthRequest) : Bytes :=
  0x01 :: UInt8.ofNat req.uname.length ::
    (req.uname ++ UInt8.ofNat req.passwd.length :: req.passwd)

def serializedLen (req : PasswdAuthRequest) : Nat :=
  1 + 1 + req.uname.length + 1 + req.passwd.length

theorem readFrom_eq {bs rest : Bytes} {req : PasswdAuthRequest}
    (h : readFrom bs = (.ready req, rest)) : bs = req.writeToBuf ++ rest := by
  obtain ⟨verBuf, _, hver, hversioned⟩ := PollM.bind_eq_ready h
  obtain ⟨rfl, hlength⟩ := readBuf_eq_ready hver
  obtain ⟨ver, rfl⟩ := List.length_eq_one_iff.1 hlength
  split at hversioned
  · cases hversioned
  · next hversion =>
    obtain ⟨ulenBuf, _, hulen, hnamed⟩ := PollM.bind_eq_ready hversioned
    obtain ⟨rfl, hlength⟩ := readBuf_eq_ready hulen
    obtain ⟨ulen, rfl⟩ := List.length_eq_one_iff.1 hlength
    dsimp only at hnamed
    split at hnamed
    · cases hnamed
    · obtain ⟨uname, _, huname, hsecond⟩ := PollM.bind_eq_ready hnamed
      obtain ⟨rfl, hunameLength⟩ := readBuf_eq_ready huname
      obtain ⟨plenBuf, _, hplen, hlocked⟩ := PollM.bind_eq_ready hsecond
      obtain ⟨rfl, hlength⟩ := readBuf_eq_ready hplen
      obtain ⟨plen, rfl⟩ := List.length_eq_one_iff.1 hlength
      split at hlocked
      · cases hlocked
      · obtain ⟨passwd, _, hpasswd, hend⟩ := PollM.bind_eq_ready hlocked
        obtain ⟨rfl, hpasswdLength⟩ := readBuf_eq_ready hpasswd
        cases hend
        obtain rfl : ver = 0x01 := not_not.1 hversion
        have hucount : UInt8.ofNat uname.length = ulen := by
          rw [hunameLength]
          exact UInt8.ofNat_toNat
        have hpcount : UInt8.ofNat passwd.length = plen := by
          rw [hpasswdLength]
          exact UInt8.ofNat_toNat
        simp [writeToBuf, hucount, hpcount]

end PasswdAuthRequest

structure PasswdAuthResponse where
  status : UInt8
deriving DecidableEq, Repr

def PasswdAuthResponse.readFrom : PollM Bytes Error PasswdAuthResponse :=
  -- the only reader that does not look whether its bytes have come
  readUnchecked 2 >>= fun buf =>
    if buf.getD 0 0 ≠ 0x01 then PollM.fail (.unsupportedPasswdAuthVersion (buf.getD 0 0).toNat)
    else pure { status := buf.getD 1 0 }

def PasswdAuthResponse.serializedLen (_resp : PasswdAuthResponse) : Nat := 2

def PasswdAuthResponse.writeToBuf (resp : PasswdAuthResponse) : Bytes := [0x01, resp.status]

/-! ## Request and response -/

structure TcpRequestHeader where
  command : Command
  address : Address
deriving DecidableEq, Repr

def TcpRequestHeader.readFrom : PollM Bytes Error TcpRequestHeader :=
  readBuf 3 >>= fun buf =>
    let ver := buf.getD 0 0
    if ver ≠ socks5Version then PollM.fail (.unsupportedSocksVersion ver.toNat)
    else
      let cmd := buf.getD 1 0
      match Command.fromU8 cmd with
      | none => PollM.fail (.unsupportedCommand cmd.toNat)
      | some command => Address.readFrom >>= fun address =>
        pure { command := command, address := address }

def TcpRequestHeader.writeToBuf (req : TcpRequestHeader) : Option Bytes :=
  req.address.writeToBuf.map fun address =>
    socks5Version :: req.command.asU8 :: 0x00 :: address

def TcpRequestHeader.serializedLen (req : TcpRequestHeader) : Nat := getAddrLen req.address + 3

structure TcpResponseHeader where
  reply : Reply
  address : Address
deriving DecidableEq, Repr

def TcpResponseHeader.readFrom : PollM Bytes Error TcpResponseHeader :=
  readBuf 3 >>= fun buf =>
    let ver := buf.getD 0 0
    let replyCode := buf.getD 1 0
    if ver ≠ socks5Version then PollM.fail (.unsupportedSocksVersion ver.toNat)
    else Address.readFrom >>= fun address =>
      pure { reply := Reply.fromU8 replyCode, address := address }

/-- `write_to_buf`, which fails its assertion with the address's. -/
def TcpResponseHeader.writeToBuf (resp : TcpResponseHeader) : Option Bytes :=
  resp.address.writeToBuf.map fun address =>
    socks5Version :: resp.reply.asU8 :: 0x00 :: address

def TcpResponseHeader.serializedLen (resp : TcpResponseHeader) : Nat :=
  getAddrLen resp.address + 3

structure UdpAssociateHeader where
  frag : UInt8
  address : Address
deriving DecidableEq, Repr

namespace UdpAssociateHeader

def readFrom : PollM Bytes Error UdpAssociateHeader :=
  readBuf 3 >>= fun buf =>
    -- the reserved bytes may be any
    let frag := buf.getD 2 0
    Address.readFrom >>= fun address => pure { frag := frag, address := address }

def writeToBuf (header : UdpAssociateHeader) : Option Bytes :=
  header.address.writeToBuf.map fun address => 0x00 :: 0x00 :: header.frag :: address

def serializedLen (header : UdpAssociateHeader) : Nat := 3 + getAddrLen header.address

end UdpAssociateHeader

end Socks5

end Shadowsocks.Net
