import Shadowsocks.Config
import Shadowsocks.Net.Address

/-! # Proxy sockets

What a `ProxySocket` is given to seal with every datagram, and the key that it
seals it under.
-/

namespace Shadowsocks.Udp

open Shadowsocks.Lib Shadowsocks.Net

structure UdpSocketControlData where
  clientSessionId : Nat
  serverSessionId : Nat
  packetId : Nat
  user : Option ServerUser
deriving DecidableEq, Repr

/-- `DEFAULT_SOCKET_CONTROL`: what a datagram is sealed with that is sent without
    control data. -/
def defaultSocketControl : UdpSocketControlData :=
  { clientSessionId := 0, serverSessionId := 0, packetId := 0, user := none }

/-- The key under which `encrypt_send_buffer` of a server's socket seals: the user's
    where the control data names one, the socket's own otherwise. -/
def serverSendKey (key : Bytes) (control : UdpSocketControlData) : Bytes :=
  match control.user with
  | some user => user.key
  | none => key

end Shadowsocks.Udp
