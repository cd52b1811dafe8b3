import Shadowsocks.Net.Connect
import Shadowsocks.Server.Context

/-! # The TCP server's outbound connections

`TcpServer::run` and `TcpServerClient::serve`, from a client that has sent its target
address to the connection that is made for it.  What is copied over the connection
afterwards is left out.
-/

namespace Shadowsocks.Server

open Shadowsocks.Lib Shadowsocks.Net

/-- `serve`, after the handshake: the address that the tunnel leads to, if the target is
    not blocked. -/
def serve [Idna] (context : ServiceContext) (targetAddr : Address) :
    PollM Dialer IoError (Option SocketAddr) := fun d =>
  let (blocked, answers) := context.checkOutboundBlocked targetAddr d.answers
  let d := { d with answers := answers }
  if blocked then (.ready none, d)
  else (connectRemote context.ipv6First targetAddr >>= fun addr => pure (some addr)) d

/-- `run` for one client, who asks for a target. -/
def acceptClient [Idna] (context : ServiceContext) (peerAddr : SocketAddr)
    (targetAddr : Address) : PollM Dialer IoError (Option SocketAddr) :=
  if context.checkClientBlocked peerAddr then pure none else serve context targetAddr

end Shadowsocks.Server
