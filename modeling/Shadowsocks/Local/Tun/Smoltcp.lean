import Shadowsocks.Lib.RingBuffer
import Shadowsocks.Lib.Wire

/-! # The TCP sockets of smoltcp

What the manager of TUN connections uses of smoltcp.  A `Smoltcp` is an implementation of its
sockets, of which only the states around `close` are relied on; what the network does to a socket
while the interface is polled is left open.
-/

namespace Shadowsocks.Local.Tun

open Shadowsocks.Lib

inductive TcpState where
  | closed
  | listen
  | synSent
  | synReceived
  | established
  | finWait1
  | finWait2
  | closeWait
  | closing
  | lastAck
  | timeWait
deriving DecidableEq, Repr

namespace TcpState

/-- The transmit half is open. -/
def maySend : TcpState → Bool
  | established => true
  | closeWait => true
  | _ => false

/-- What becomes of the state when the socket is closed. -/
def afterClose : TcpState → TcpState
  | listen => closed
  | synSent => closed
  | synReceived => finWait1
  | established => finWait1
  | closeWait => lastAck
  | state => state

theorem maySend_afterClose (state : TcpState) : state.afterClose.maySend = false := by
  cases state <;> rfl

end TcpState

/-- Sockets of type `S`; `ι` is what happens while the interface is polled. -/
structure Smoltcp (S ι : Type) where
  state : S → TcpState
  poll : ι → S → S
  close : S → S
  abort : S → S
  mayRecv : S → Bool
  /-- The largest contiguous slice of the receive buffer. -/
  recvSlice : S → Bytes
  consume : S → Nat → S
  /-- The length of the largest contiguous free slice of the send buffer. -/
  sendRoom : S → Nat
  enqueue : S → Bytes → S
  state_close : ∀ socket, state (close socket) = (state socket).afterClose
  state_consume : ∀ socket n, state (consume socket n) = state socket

namespace Smoltcp

variable {S ι β : Type} (smol : Smoltcp S ι)

def maySend (socket : S) : Bool := (smol.state socket).maySend

def canSend (socket : S) : Bool := smol.maySend socket && 0 < smol.sendRoom socket

def canRecv (socket : S) : Bool := smol.mayRecv socket && !(smol.recvSlice socket).isEmpty

/-- Fails if the receive half is not open; `f` says how much of the slice it has taken. -/
def recv (socket : S) (f : Bytes → Nat × β) : Option (β × S) :=
  if smol.mayRecv socket then
    let (n, b) := f (smol.recvSlice socket)
    some (b, smol.consume socket n)
  else none

/-- Fails if the transmit half is not open; `f` fills the slice. -/
def send (socket : S) (f : Nat → Bytes × β) : Option (Bytes × β × S) :=
  if smol.maySend socket then
    let (bytes, b) := f (smol.sendRoom socket)
    some (bytes, b, smol.enqueue socket bytes)
  else none

/-- A socket that was closed accepts nothing. -/
theorem canSend_of_state {socket socket' : S}
    (h : smol.state socket' = smol.state (smol.close socket)) : smol.canSend socket' = false := by
  rw [canSend, maySend, h, smol.state_close, TcpState.maySend_afterClose, Bool.false_and]

end Smoltcp

end Shadowsocks.Local.Tun
