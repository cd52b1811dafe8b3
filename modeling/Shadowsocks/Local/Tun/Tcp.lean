import Shadowsocks.Lib.Loop
import Shadowsocks.Lib.Poll
import Shadowsocks.Local.Tun.Smoltcp

/-! # TCP connections of a TUN device

A `TcpConnection` shares a control block with the manager thread, which moves bytes between the
block's buffers and the socket.  `Connection` is the block with the socket that belongs to it and
a record of the bytes that went through; wakers are left out.
-/

namespace Shadowsocks.Local.Tun

open Shadowsocks.Lib
open RingBuffer (contents window isEmpty isFull enqueueSlice dequeueSlice)

inductive TcpSocketState where
  | normal
  | close
  | closing
  | closed
deriving DecidableEq, Repr

/-- The control block, with buffers of type `R`. -/
structure TcpSocketControl (R : Type) where
  sendBuffer : R
  recvBuffer : R
  recvState : TcpSocketState
  sendState : TcpSocketState

/-- `ErrorKind::BrokenPipe`. -/
inductive WriteError where
  | brokenPipe
deriving DecidableEq, Repr

namespace TcpSocketControl

variable {R : Type} [RingBuffer R UInt8]

def new (sendBufferSize recvBufferSize : Nat) : TcpSocketControl R :=
  { sendBuffer := RingBuffer.new sendBufferSize, recvBuffer := RingBuffer.new recvBufferSize
    recvState := .normal, sendState := .normal }

/-! ### The connection's side -/

/-- A half that is still open will be closed. -/
def toClose (state : TcpSocketState) : TcpSocketState :=
  if state = .normal then .close else state

def drop (control : TcpSocketControl R) : TcpSocketControl R :=
  { control with
    recvState := toClose control.recvState
    sendState := toClose control.sendState }

/-- `poll_read`, into a buffer of the given size. -/
def pollRead (size : Nat) : PollM (TcpSocketControl R) Empty Bytes := fun control =>
  if isEmpty control.recvBuffer then
    if control.recvState = .closed then (.ready [], control) else (.pending, control)
  else
    let (bytes, recvBuffer) := dequeueSlice control.recvBuffer size
    (.ready bytes, { control with recvBuffer })

def pollWrite (buf : Bytes) : PollM (TcpSocketControl R) WriteError Nat := fun control =>
  if control.sendState ≠ .normal then (.failed .brokenPipe, control)
  else if isFull control.sendBuffer then (.pending, control)
  else
    let (n, sendBuffer) := enqueueSlice control.sendBuffer buf
    (.ready n, { control with sendBuffer })

def pollShutdown : PollM (TcpSocketControl R) Empty Unit := fun control =>
  if control.sendState = .closed then (.ready (), control)
  else (.pending, { control with sendState := toClose control.sendState })

end TcpSocketControl

/-! ### The manager's side -/

structure Connection (S R : Type) where
  control : TcpSocketControl R
  socket : S
  /-- The socket is in the manager's set. -/
  managed : Bool
  /-- The bytes that `pollWrite` has taken. -/
  acknowledged : Bytes
  /-- The bytes that the socket has taken. -/
  handed : Bytes
  /-- The socket was closed otherwise than by the manager's `close`. -/
  reset : Bool

namespace Connection

variable {S R ι : Type} [RingBuffer R UInt8] (smol : Smoltcp S ι)

def new (socket : S) (sendBufferSize recvBufferSize : Nat) : Connection S R :=
  { control := .new sendBufferSize recvBufferSize, socket, managed := true, acknowledged := [],
    handed := [], reset := false }

/-- The socket was found closed. -/
def forget (c : Connection S R) : Connection S R :=
  { c with
    control := { c.control with sendState := .closed, recvState := .closed }
    managed := false
    reset := c.reset || c.control.sendState ≠ .closing }

/-- SHUT_WR. -/
def closeWrite (c : Connection S R) : Connection S R :=
  if c.control.sendState = .close then
    { c with socket := smol.close c.socket, control := { c.control with sendState := .closing } }
  else c

/-- What a failed `recv` does. -/
def abortRecv (c : Connection S R) : Connection S R :=
  { c with
    socket := smol.abort c.socket
    reset := true
    control := { c.control with
      recvState := if c.control.recvState = .normal then .closed else c.control.recvState } }

/-- What a failed `send` does. -/
def abortSend (c : Connection S R) : Connection S R :=
  { c with
    socket := smol.abort c.socket
    reset := true
    control := { c.control with
      sendState := if c.control.sendState = .normal then .closed else c.control.sendState } }

def recvRound (c : Connection S R) : Round (Connection S R) (Connection S R) :=
  if smol.canRecv c.socket && !isFull c.control.recvBuffer then
    match smol.recv c.socket (enqueueSlice c.control.recvBuffer) with
    | some (recvBuffer, socket) => .again { c with socket, control := { c.control with recvBuffer } }
    | none => .leave (c.abortRecv smol)
  else .leave c

def sendRound (c : Connection S R) : Round (Connection S R) (Connection S R) :=
  if smol.canSend c.socket && !isEmpty c.control.sendBuffer then
    match smol.send c.socket (dequeueSlice c.control.sendBuffer) with
    | some (bytes, sendBuffer, socket) =>
      .again { c with
        socket, handed := c.handed ++ bytes, control := { c.control with sendBuffer } }
    | none => .leave (c.abortSend smol)
  else .leave c

theorem recvRound_again {c c' : Connection S R} (h : c.recvRound smol = .again c') :
    smol.canRecv c.socket = true ∧ isFull c.control.recvBuffer = false ∧
      c' = { c with
        socket := smol.consume c.socket
          (enqueueSlice c.control.recvBuffer (smol.recvSlice c.socket)).1
        control := { c.control with
          recvBuffer := (enqueueSlice c.control.recvBuffer (smol.recvSlice c.socket)).2 } } := by
  unfold recvRound at h
  split at h
  · next hcan =>
    rw [Bool.and_eq_true, Bool.not_eq_true'] at hcan
    have hmay : smol.mayRecv c.socket = true := (Bool.and_eq_true_iff.1 hcan.1).1
    rw [Smoltcp.recv, if_pos hmay] at h
    exact ⟨hcan.1, hcan.2, (Round.again.inj h).symm⟩
  · cases h

theorem recvRound_leave {c c' : Connection S R} (h : c.recvRound smol = .leave c') : c' = c := by
  unfold recvRound at h
  split at h
  · next hcan =>
    rw [Bool.and_eq_true] at hcan
    have hmay : smol.mayRecv c.socket = true := (Bool.and_eq_true_iff.1 hcan.1).1
    rw [Smoltcp.recv, if_pos hmay] at h
    cases h
  · exact (Round.leave.inj h).symm

theorem sendRound_again {c c' : Connection S R} (h : c.sendRound smol = .again c') :
    smol.canSend c.socket = true ∧ isEmpty c.control.sendBuffer = false ∧
      c' = { c with
        socket := smol.enqueue c.socket
          (dequeueSlice c.control.sendBuffer (smol.sendRoom c.socket)).1
        handed := c.handed ++ (dequeueSlice c.control.sendBuffer (smol.sendRoom c.socket)).1
        control := { c.control with
          sendBuffer := (dequeueSlice c.control.sendBuffer (smol.sendRoom c.socket)).2 } } := by
  unfold sendRound at h
  split at h
  · next hcan =>
    rw [Bool.and_eq_true, Bool.not_eq_true'] at hcan
    have hmay : smol.maySend c.socket = true := (Bool.and_eq_true_iff.1 hcan.1).1
    rw [Smoltcp.send, if_pos hmay] at h
    exact ⟨hcan.1, hcan.2, (Round.again.inj h).symm⟩
  · cases h

theorem sendRound_leave {c c' : Connection S R} (h : c.sendRound smol = .leave c') : c' = c := by
  unfold sendRound at h
  split at h
  · next hcan =>
    rw [Bool.and_eq_true] at hcan
    have hmay : smol.maySend c.socket = true := (Bool.and_eq_true_iff.1 hcan.1).1
    rw [Smoltcp.send, if_pos hmay] at h
    cases h
  · exact (Round.leave.inj h).symm

/-- `while socket.can_recv() && !control.recv_buffer.is_full()`. -/
def recvLoop : Loop (Connection S R) (Connection S R) where
  body := recvRound smol
  measure c := window c.control.recvBuffer
  decreases := by
    intro c c' h
    obtain ⟨hcan, hfull, rfl⟩ := recvRound_again smol h
    refine RingBuffer.enqueueSlice_window_lt hfull fun hnil => ?_
    rw [Smoltcp.canRecv, hnil, Bool.and_eq_true] at hcan
    cases hcan.2

/-- `while socket.can_send() && !control.send_buffer.is_empty()`. -/
def sendLoop : Loop (Connection S R) (Connection S R) where
  body := sendRound smol
  measure c := (contents c.control.sendBuffer).length
  decreases := by
    intro c c' h
    obtain ⟨hcan, hempty, rfl⟩ := sendRound_again smol h
    rw [Smoltcp.canSend, Bool.and_eq_true] at hcan
    exact RingBuffer.dequeueSlice_length_lt hempty (of_decide_eq_true hcan.2)

/-- The local client has closed our receiver. -/
def closeRead (c : Connection S R) : Connection S R :=
  if c.control.recvState = .normal ∧ smol.mayRecv c.socket = false ∧
      smol.state c.socket ∉ [.listen, .synReceived, .established, .finWait1, .finWait2] then
    { c with control := { c.control with recvState := .closed } }
  else c

/-- What one iteration of the manager does with the socket. -/
def handle (c : Connection S R) : Connection S R :=
  if smol.state c.socket = .closed then c.forget
  else
    let c := c.closeWrite smol
    -- the pending buffer is processed after the close
    let c := (recvLoop smol).run c
    let c := c.closeRead smol
    (sendLoop smol).run c

/-- One iteration of the manager: the interface is polled first. -/
def iterate (i : ι) (c : Connection S R) : Connection S R :=
  if c.managed then { c with socket := smol.poll i c.socket }.handle smol else c

end Connection

end Shadowsocks.Local.Tun
