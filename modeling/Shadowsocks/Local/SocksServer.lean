import Shadowsocks.Config
import Shadowsocks.Net.Socks5Messages

/-! # The local SOCKS server

One TCP connection of `SocksTcpServer`, from its first byte to the tunnel.  The listener also takes
SOCKS4 and HTTP where they are built in, and tells them apart by the first byte.

The client is all that it will send before it closes its side; one that stalls has got no further.
Whatever the server does is logged with what it has read of the client by then.
-/

namespace Shadowsocks.Local

open Shadowsocks.Lib Shadowsocks.Net

/-! ## Configuration -/

/-- `Socks5AuthPasswdConfig`: passwords by user name. -/
structure Socks5AuthPasswdConfig where
  passwd : List (String × String)
  nodup : (passwd.map Prod.fst).Nodup

namespace Socks5AuthPasswdConfig

def new : Socks5AuthPasswdConfig := { passwd := [], nodup := List.nodup_nil }

/-- `add_user`: the last password of a user counts. -/
def addUser (config : Socks5AuthPasswdConfig) (userName password : String) :
    Socks5AuthPasswdConfig :=
  { passwd := (userName, password) :: config.passwd.filter fun user => user.1 ≠ userName
    nodup := by
      rw [List.map_cons, List.nodup_cons]
      exact ⟨by simp, config.nodup.sublist (List.filter_sublist.map _)⟩ }

def checkUser (config : Socks5AuthPasswdConfig) (userName password : String) : Bool :=
  match config.passwd.find? fun user => user.1 = userName with
  | some user => user.2 = password
  | none => false

def totalUsers (config : Socks5AuthPasswdConfig) : Nat := config.passwd.length

theorem mem_of_checkUser {config : Socks5AuthPasswdConfig} {userName password : String}
    (h : config.checkUser userName password = true) : (userName, password) ∈ config.passwd := by
  unfold checkUser at h
  split at h
  · next user hfound =>
    obtain rfl : user.1 = userName := by simpa using List.find?_some hfound
    obtain rfl : user.2 = password := by simpa using h
    exact List.mem_of_find?_eq_some hfound
  · cases h

end Socks5AuthPasswdConfig

structure Socks5AuthConfig where
  passwd : Socks5AuthPasswdConfig

def Socks5AuthConfig.authRequired (config : Socks5AuthConfig) : Bool :=
  config.passwd.totalUsers > 0

/-! ## SOCKS4 -/

namespace Socks4

def socks4Version : UInt8 := 4

inductive Command where
  | connect
  | bind
deriving DecidableEq, Repr

def Command.fromU8 (code : UInt8) : Option Command :=
  if code = 1 then some .connect else if code = 2 then some .bind else none

inductive ResultCode where
  | requestGranted
  | requestRejectedOrFailed
  | requestRejectedCannotConnect
  | requestRejectedDifferentUserId
  | other (code : UInt8)
deriving DecidableEq, Repr

def ResultCode.asU8 : ResultCode → UInt8
  | requestGranted => 90
  | requestRejectedOrFailed => 91
  | requestRejectedCannotConnect => 92
  | requestRejectedDifferentUserId => 93
  | other code => code

inductive Error where
  | ioError (e : IoError)
  | addressHostInvalidEncoding
  | unsupportedSocksVersion (version : UInt8)
deriving DecidableEq, Repr

structure HandshakeRequest where
  cd : Command
  /-- Already converted to the address type of SOCKS5, which has both kinds. -/
  dst : Address
  userId : Bytes
deriving DecidableEq, Repr

/-- `read_until`, with the delimiter if it has come. -/
def readUntil {ε : Type} (delim : UInt8) : PollM Bytes ε Bytes := fun bs =>
  let len := (bs.takeWhile (· ≠ delim)).length + 1
  (.ready (bs.take len), bs.drop len)

/-- What comes before the next zero byte. -/
def readName : PollM Bytes Error Bytes :=
  readUntil 0 >>= fun name =>
    if name = [] ∨ name.getLast? ≠ some 0 then PollM.fail (.ioError .unexpectedEof)
    else pure name.dropLast

def HandshakeRequest.readFrom : PollM Bytes Error HandshakeRequest :=
  PollM.mapErr .ioError (readExact 8) >>= fun buf =>
    let vn := buf.getD 0 0
    if vn ≠ socks4Version then PollM.fail (.unsupportedSocksVersion vn)
    else match Command.fromU8 (buf.getD 1 0) with
      -- the error names the version where it means the command
      | none => PollM.fail (.unsupportedSocksVersion (buf.getD 1 0))
      | some command =>
        let port := fromBigEndian ((buf.drop 2).take 2)
        let ip := buf.drop 4
        readName >>= fun userId =>
          if ip.take 3 = [0, 0, 0] ∧ ip.getD 3 0 ≠ 0 then
            -- SOCKS4a, with the name of the host behind
            readName >>= fun host =>
              match fromUtf8 host with
              | some host => pure
                { cd := command, dst := .domainNameAddress host port, userId := userId }
              | none => PollM.fail .addressHostInvalidEncoding
          else pure
            { cd := command
              dst := .socketAddress (.v4 (BitVec.ofNat 32 (fromBigEndian ip)) port)
              userId := userId }

/-- `HandshakeResponse::write_to_buf`. -/
def ResultCode.writeToBuf (cd : ResultCode) : Bytes := [0, cd.asU8, 0, 0, 0, 0, 0, 0]

end Socks4

/-! ## Conversations -/

/-- What the server writes to its client. -/
inductive Message where
  | handshake (resp : Socks5.HandshakeResponse)
  | passwdAuth (resp : Socks5.PasswdAuthResponse)
  | response (resp : Socks5.TcpResponseHeader)
  | socks4 (cd : Socks4.ResultCode)
deriving DecidableEq, Repr

def Message.writeToBuf : Message → Option Bytes
  | .handshake resp => some resp.writeToBuf
  | .passwdAuth resp => some resp.writeToBuf
  | .response resp => resp.writeToBuf
  | .socks4 cd => some cd.writeToBuf

inductive Effect where
  | sent (message : Message)
  | connects (target : Address)
  | relays (target : Address)
deriving DecidableEq, Repr

/-- Something that the server does, with what it has read of the client by then. -/
structure Event where
  effect : Effect
  read : Bytes
deriving DecidableEq, Repr

/-- A connection with a client: what has been read of it and what has not, what its next writes
    come to (they succeed where nothing is said), and what the server has done. -/
structure Conversation where
  read : Bytes
  unread : Bytes
  writes : List (Option IoError)
  log : List Event
deriving DecidableEq, Repr

/-- Why a connection attempt fails, as far as the reply depends on it. -/
inductive ConnectError where
  | connectionRefused
  | connectionAborted
  | other (e : IoError)
deriving DecidableEq, Repr

/-- What a handler returns as an `io::Error`: an error of the client's transport or of the target,
    or one that an error of a protocol was converted to. -/
inductive Failure where
  | io (e : IoError)
  | connect (e : ConnectError)
  | socks5 (e : Socks5.Error)
  | socks4 (e : Socks4.Error)
  | passwdAuthRequest (e : Socks5.Error)
deriving DecidableEq, Repr

/-- `From<Error> for io::Error`. -/
def Failure.ofSocks5 : Socks5.Error → Failure
  | .ioError e => .io e
  | e => .socks5 e

def Failure.ofSocks4 : Socks4.Error → Failure
  | .ioError e => .io e
  | e => .socks4 e

section Conversations

variable {ε ε' α : Type}

def Conversation.record (effect : Effect) (s : Conversation) : Conversation :=
  { s with log := s.log ++ [{ effect := effect, read := s.read }] }

/-- What a reader takes is read; a read that fails has taken everything. -/
def receive (x : PollM Bytes ε α) : PollM Conversation ε α := fun s =>
  x.on s.unread fun rest =>
    { s with read := s.read ++ s.unread.take (s.unread.length - rest.length), unread := rest }

/-- `write_to`. -/
def send (message : Message) : PollM Conversation Failure Unit := fun s =>
  match message.writeToBuf with
  | none => (.panicked, s)
  | some _ =>
    let s' := s.record (.sent message)
    match s.writes with
    | [] => (.ready (), s')
    | none :: writes => (.ready (), { s' with writes := writes })
    | some e :: writes => (.failed (.io e), { s' with writes := writes })

/-- `let _ = ..`. -/
def ignore (x : PollM Conversation ε Unit) : PollM Conversation ε' Unit :=
  PollM.handle x fun _ => pure ()

/-- The first byte, which stays unread. -/
def peek : PollM Conversation Failure UInt8 := fun s =>
  match s.unread with
  | [] => (.failed (.io .unexpectedEof), s)
  | b :: _ => (.ready b, s)

end Conversations

/-! ## The handler -/

/-- `SocksTcpHandler`.  What a connection attempt comes to, with the local address of one that
    succeeds, and what the HTTP handler does, is up to the outside. -/
structure SocksTcpHandler where
  udpBindAddr : Address
  balancerIsEmpty : Bool
  mode : Config.Mode
  socks5Auth : Socks5AuthConfig
  peerAddr : SocketAddr
  connect : Address → Except ConnectError (Except IoError SocketAddr)
  connectBypassed : Address → Except ConnectError (Except IoError SocketAddr)
  httpHandler : PollM Conversation Failure Unit
  /-- The features that are built in. -/
  localSocks4 : Bool
  localHttp : Bool

namespace SocksTcpHandler

variable (handler : SocksTcpHandler)

/-- A connection to the target, directly if there is no server. -/
def connectTarget (target : Address) :
    PollM Conversation Failure (Except ConnectError (Except IoError SocketAddr)) :=
  PollM.update (Conversation.record (.connects target)) >>= fun _ =>
    pure (if handler.balancerIsEmpty then handler.connectBypassed target
      else handler.connect target)

/-- `establish_tcp_tunnel`; what it relays is left out. -/
def establishTcpTunnel (target : Address) : PollM Conversation Failure Unit :=
  PollM.update (Conversation.record (.relays target))

/-! ### SOCKS5 -/

def passwordAuthStatusFailure : UInt8 := 255

/-- `check_auth_password`. -/
def checkAuthPassword : PollM Conversation Failure Unit :=
  PollM.handle (receive Socks5.PasswdAuthRequest.readFrom) (fun err =>
      ignore (send (.passwdAuth { status := err.asReply.asU8 })) >>= fun _ =>
        PollM.fail (.passwdAuthRequest err)) >>= fun req =>
    match fromUtf8 req.uname with
    | none =>
      ignore (send (.passwdAuth { status := passwordAuthStatusFailure })) >>= fun _ =>
        PollM.fail (.io (.other
          "Username/Password Authentication Initial request uname contains invaid characters"))
    | some userName =>
      match fromUtf8 req.passwd with
      | none =>
        ignore (send (.passwdAuth { status := passwordAuthStatusFailure })) >>= fun _ =>
          PollM.fail (.io (.other
            "Username/Password Authentication Initial request passwd contains invaid characters"))
      | some password =>
        if handler.socks5Auth.passwd.checkUser userName password then
          send (.passwdAuth { status := 0 })
        else
          send (.passwdAuth { status := passwordAuthStatusFailure }) >>= fun _ =>
            PollM.fail (.io (.other (("Username/Password Authentication failed, user: " ++
              userName) ++ (", password: " ++ password))))

/-- `check_auth`: the first method of the client's list that is supported. -/
def checkAuth : List UInt8 → PollM Conversation Failure Unit
  | [] =>
    send (.handshake { chosenMethod := Socks5.authMethodNotAcceptable }) >>= fun _ =>
      PollM.fail (.io (.other "currently shadowsocks-rust does not support authentication"))
  | method :: methods =>
    if method = Socks5.authMethodPassword then
      send (.handshake { chosenMethod := Socks5.authMethodPassword }) >>= fun _ =>
        handler.checkAuthPassword
    else if method = Socks5.authMethodNone then
      if handler.socks5Auth.authRequired then checkAuth methods
      else send (.handshake { chosenMethod := Socks5.authMethodNone })
    else checkAuth methods

def respond (reply : Socks5.Reply) (address : Address) : PollM Conversation Failure Unit :=
  send (.response { reply := reply, address := address })

/-- `handle_tcp_connect`. -/
def handleTcpConnect (target : Address) : PollM Conversation Failure Unit :=
  if !handler.mode.enableTcp then respond .commandNotSupported target
  else handler.connectTarget target >>= fun remote =>
    match remote with
    | .ok (.ok localAddr) =>
      respond .succeeded (.socketAddress localAddr) >>= fun _ => establishTcpTunnel target
    | .ok (.error e) => PollM.fail (.io e)
    | .error err =>
      let reply := match err with
        | .connectionRefused => Socks5.Reply.connectionRefused
        | .connectionAborted => Socks5.Reply.hostUnreachable
        | .other _ => Socks5.Reply.networkUnreachable
      respond reply (.socketAddress (.v4 0 0)) >>= fun _ => PollM.fail (.connect err)

/-- `handle_udp_associate`; the connection is then held until its end, which is not looked at. -/
def handleUdpAssociate (clientAddr : Address) : PollM Conversation Failure Unit :=
  if !handler.mode.enableUdp then respond .commandNotSupported clientAddr
  else respond .succeeded handler.udpBindAddr

/-- `handle_socks5_client`, once the client has been let in. -/
def handleRequest : PollM Conversation Failure Unit :=
  PollM.handle (receive Socks5.TcpRequestHeader.readFrom) (fun err =>
      respond err.asReply (.socketAddress handler.peerAddr) >>= fun _ =>
        PollM.fail (Failure.ofSocks5 err)) >>= fun header =>
    match header.command with
    | .tcpConnect => handler.handleTcpConnect header.address
    | .udpAssociate => handler.handleUdpAssociate header.address
    | .tcpBind => respond .commandNotSupported header.address

/-- `handle_socks5_client`. -/
def handleSocks5Client : PollM Conversation Failure Unit :=
  PollM.handle (receive Socks5.HandshakeRequest.readFrom >>= fun req => pure (some req)) (fun err =>
      match err with
      | .ioError .unexpectedEof => pure none
      | err => PollM.fail (Failure.ofSocks5 err)) >>= fun handshakeReq =>
    match handshakeReq with
    | none => pure ()
    | some req => handler.checkAuth req.methods >>= fun _ => handler.handleRequest

/-! ### SOCKS4 -/

/-- `handle_socks4_connect`. -/
def handleSocks4Connect (target : Address) : PollM Conversation Failure Unit :=
  if !handler.mode.enableTcp then send (.socks4 .requestRejectedOrFailed)
  else handler.connectTarget target >>= fun remote =>
    match remote with
    -- nothing asks for the local address here
    | .ok _ => send (.socks4 .requestGranted) >>= fun _ => establishTcpTunnel target
    | .error err =>
      let resultCode := match err with
        | .connectionRefused => Socks4.ResultCode.requestRejectedCannotConnect
        | .connectionAborted => Socks4.ResultCode.requestRejectedCannotConnect
        | .other _ => Socks4.ResultCode.requestRejectedOrFailed
      send (.socks4 resultCode) >>= fun _ => PollM.fail (.connect err)

/-- `handle_socks4_client`. -/
def handleSocks4Client : PollM Conversation Failure Unit :=
  PollM.handle (receive Socks4.HandshakeRequest.readFrom >>= fun req => pure (some req)) (fun err =>
      match err with
      | .ioError .unexpectedEof => pure none
      | err => PollM.fail (Failure.ofSocks4 err)) >>= fun handshakeReq =>
    match handshakeReq with
    | none => pure ()
    | some req =>
      match req.cd with
      | .connect => handler.handleSocks4Connect req.dst
      | .bind => send (.socks4 .requestRejectedOrFailed)

/-! ### Dispatch -/

/-- The first letters of the HTTP methods, in either case. -/
def httpLetters : List UInt8 :=
  [0x47, 0x67, 0x48, 0x68, 0x50, 0x70, 0x44, 0x64, 0x43, 0x63, 0x4f, 0x6f, 0x54, 0x74]

/-- `handle_tcp_client`. -/
def handleTcpClient : PollM Conversation Failure Unit :=
  if !handler.localSocks4 && !handler.localHttp then handler.handleSocks5Client
  else peek >>= fun version =>
    if handler.localSocks4 && version = 0x04 then handler.handleSocks4Client
    else if version = 0x05 then handler.handleSocks5Client
    else if handler.localHttp && version ∈ httpLetters then handler.httpHandler
    else PollM.fail (.io (.other "unsupported socks version"))

end SocksTcpHandler

end Shadowsocks.Local
