import Mathlib.Data.List.Induction
import Shadowsocks.Local.Tun.Tcp

/-! # Shutting a TUN connection down

What was acknowledged is what the socket has been handed and what still waits in the send buffer
(`Conserved`).  The manager closes the socket before it processes the buffer, and a closed socket
takes nothing more, so a run loses nothing exactly when the buffer was empty whenever the manager
closed the socket (`lossless_iff`).
-/

namespace Shadowsocks.Local.Tun

open Shadowsocks.Lib
open RingBuffer (contents isEmpty)

/-- What happens to a connection. -/
inductive Event (ι : Type) where
  | pollRead (size : Nat)
  | pollWrite (buf : Bytes)
  | pollShutdown
  | drop
  | iterate (i : ι)

namespace Connection

variable {S R ι : Type} [RingBuffer R UInt8] (smol : Smoltcp S ι)

/-- The bytes that a poll has acknowledged. -/
def taken (buf : Bytes) : Polled WriteError Nat → Bytes
  | .ready n => buf.take n
  | _ => []

def step (c : Connection S R) : Event ι → Connection S R
  | .pollRead size => { c with control := (TcpSocketControl.pollRead size c.control).2 }
  | .pollWrite buf =>
    { c with
      control := (TcpSocketControl.pollWrite buf c.control).2
      acknowledged := c.acknowledged ++ taken buf (TcpSocketControl.pollWrite buf c.control).1 }
  | .pollShutdown => { c with control := (TcpSocketControl.pollShutdown c.control).2 }
  | .drop => { c with control := c.control.drop }
  | .iterate i => c.iterate smol i

def run (c : Connection S R) (events : List (Event ι)) : Connection S R :=
  events.foldl (step smol) c

/-! ### The parts of an iteration -/

/-- `c'` is as `c`, but for the receive half. -/
structure SameWrite (c c' : Connection S R) : Prop where
  state : smol.state c'.socket = smol.state c.socket
  sendBuffer : c'.control.sendBuffer = c.control.sendBuffer
  sendState : c'.control.sendState = c.control.sendState
  managed : c'.managed = c.managed
  acknowledged : c'.acknowledged = c.acknowledged
  handed : c'.handed = c.handed
  reset : c'.reset = c.reset

omit [RingBuffer R UInt8] in
theorem SameWrite.rfl {c : Connection S R} : SameWrite smol c c :=
  { state := Eq.refl _, sendBuffer := Eq.refl _, sendState := Eq.refl _, managed := Eq.refl _,
    acknowledged := Eq.refl _, handed := Eq.refl _, reset := Eq.refl _ }

theorem recvLoop_sameWrite (c : Connection S R) : SameWrite smol c ((recvLoop smol).run c) := by
  refine (recvLoop smol).run_rel ?_ ?_ c
  · intro c c' h
    rw [recvRound_leave smol h]
    exact .rfl smol
  · intro c c₁ c' h ih
    obtain ⟨-, -, rfl⟩ := recvRound_again smol h
    exact { ih with state := ih.state.trans (smol.state_consume _ _) }

omit [RingBuffer R UInt8] in
theorem closeRead_sameWrite (c : Connection S R) : SameWrite smol c (c.closeRead smol) := by
  unfold closeRead
  split
  · exact { SameWrite.rfl smol with }
  · exact .rfl smol

/-- What the send loop does: it moves bytes from the buffer to the socket. -/
structure Moved (c c' : Connection S R) : Prop where
  sendState : c'.control.sendState = c.control.sendState
  managed : c'.managed = c.managed
  acknowledged : c'.acknowledged = c.acknowledged
  bytes : c'.handed ++ contents c'.control.sendBuffer = c.handed ++ contents c.control.sendBuffer
  reset : c'.reset = c.reset

theorem sendLoop_moved (c : Connection S R) : Moved c ((sendLoop smol).run c) := by
  refine (sendLoop smol).run_rel ?_ ?_ c
  · intro c c' h
    rw [sendRound_leave smol h]
    exact { sendState := rfl, managed := rfl, acknowledged := rfl, bytes := rfl, reset := rfl }
  · intro c c₁ c' h ih
    obtain ⟨-, -, rfl⟩ := sendRound_again smol h
    refine { ih with bytes := ih.bytes.trans ?_ }
    rw [List.append_assoc, RingBuffer.dequeueSlice_append]

/-- Nothing is moved to a socket that takes nothing, or from an empty buffer. -/
theorem sendLoop_idle {c : Connection S R}
    (h : smol.canSend c.socket = false ∨ contents c.control.sendBuffer = []) :
    (sendLoop smol).run c = c := by
  refine (sendLoop smol).run_leave (if_neg fun hcan => ?_)
  rw [Bool.and_eq_true, Bool.not_eq_true', isEmpty] at hcan
  obtain hclosed | hempty := h
  · exact Bool.false_ne_true (hclosed.symm.trans hcan.1)
  · rw [hempty] at hcan
    cases hcan.2

/-! ### One iteration -/

/-- The iteration closes the socket. -/
def Closes (c : Connection S R) (i : ι) : Prop :=
  c.managed = true ∧ smol.state (smol.poll i c.socket) ≠ .closed ∧ c.control.sendState = .close

/-- An iteration that closes the socket moves nothing. -/
theorem iterate_closes {c : Connection S R} {i : ι} (h : Closes smol c i) :
    (c.iterate smol i).control.sendState = .closing ∧
      (c.iterate smol i).control.sendBuffer = c.control.sendBuffer ∧
      (c.iterate smol i).managed = true ∧ (c.iterate smol i).acknowledged = c.acknowledged ∧
      (c.iterate smol i).handed = c.handed ∧ (c.iterate smol i).reset = c.reset := by
  obtain ⟨hmanaged, hopen, hclose⟩ := h
  rw [iterate, if_pos hmanaged, handle, if_neg hopen, closeWrite, if_pos hclose]
  dsimp only
  generalize hc : ({ c with
    socket := smol.close (smol.poll i c.socket)
    control := { c.control with sendState := .closing } } : Connection S R) = closed
  have hrecv := recvLoop_sameWrite smol closed
  have hread := closeRead_sameWrite smol ((recvLoop smol).run closed)
  have hstate : smol.state (((recvLoop smol).run closed).closeRead smol).socket =
      smol.state (smol.close (smol.poll i c.socket)) := by
    rw [hread.state, hrecv.state, ← hc]
  rw [sendLoop_idle smol (.inl (smol.canSend_of_state hstate)), hread.sendState, hrecv.sendState,
    hread.sendBuffer, hrecv.sendBuffer, hread.managed, hrecv.managed, hread.acknowledged,
    hrecv.acknowledged, hread.handed, hrecv.handed, hread.reset, hrecv.reset, ← hc]
  exact ⟨rfl, rfl, hmanaged, rfl, rfl, rfl⟩

/-- Another iteration that finds the socket open keeps the state of the write half. -/
theorem iterate_open {c : Connection S R} {i : ι} (hmanaged : c.managed = true)
    (hopen : smol.state (smol.poll i c.socket) ≠ .closed) (hclose : c.control.sendState ≠ .close) :
    Moved c (c.iterate smol i) ∧
      (contents c.control.sendBuffer = [] →
        contents (c.iterate smol i).control.sendBuffer = []) := by
  rw [iterate, if_pos hmanaged, handle, if_neg hopen, closeWrite, if_neg hclose]
  dsimp only
  generalize hc : ({ c with socket := smol.poll i c.socket } : Connection S R) = polled
  have hrecv := recvLoop_sameWrite smol polled
  have hread := closeRead_sameWrite smol ((recvLoop smol).run polled)
  have hbuffer : (((recvLoop smol).run polled).closeRead smol).control.sendBuffer =
      c.control.sendBuffer := by rw [hread.sendBuffer, hrecv.sendBuffer, ← hc]
  have hsend := sendLoop_moved smol (((recvLoop smol).run polled).closeRead smol)
  constructor
  · exact
      { sendState := by rw [hsend.sendState, hread.sendState, hrecv.sendState, ← hc]
        managed := by rw [hsend.managed, hread.managed, hrecv.managed, ← hc]
        acknowledged := by rw [hsend.acknowledged, hread.acknowledged, hrecv.acknowledged, ← hc]
        bytes := by rw [hsend.bytes, hbuffer, hread.handed, hrecv.handed, ← hc]
        reset := by rw [hsend.reset, hread.reset, hrecv.reset, ← hc] }
  · intro hempty
    rw [sendLoop_idle smol (.inr (hbuffer ▸ hempty)), hbuffer, hempty]

theorem iterate_closed {c : Connection S R} {i : ι} (hmanaged : c.managed = true)
    (hclosed : smol.state (smol.poll i c.socket) = .closed) :
    c.iterate smol i = { c with socket := smol.poll i c.socket }.forget := by
  rw [iterate, if_pos hmanaged, handle, if_pos hclosed]

theorem iterate_unmanaged {c : Connection S R} {i : ι} (h : ¬c.managed = true) :
    c.iterate smol i = c := if_neg h

/-! ### Every step -/

/-- All that was acknowledged is in the socket or in the buffer. -/
structure Conserved (c : Connection S R) : Prop where
  bytes : c.handed ++ contents c.control.sendBuffer = c.acknowledged
  reset : c.managed = true → c.reset = false

theorem conserved_new (socket : S) (sendBufferSize recvBufferSize : Nat) :
    Conserved (new socket sendBufferSize recvBufferSize : Connection S R) :=
  { bytes := RingBuffer.contents_new sendBufferSize, reset := fun _ => rfl }

theorem pollWrite_bytes (buf : Bytes) (control : TcpSocketControl R) :
    contents (TcpSocketControl.pollWrite buf control).2.sendBuffer =
      contents control.sendBuffer ++ taken buf (TcpSocketControl.pollWrite buf control).1 := by
  unfold TcpSocketControl.pollWrite
  split
  · exact (List.append_nil _).symm
  · split
    · exact (List.append_nil _).symm
    · exact RingBuffer.contents_enqueueSlice control.sendBuffer buf

theorem pollRead_sendBuffer (size : Nat) (control : TcpSocketControl R) :
    (TcpSocketControl.pollRead size control).2.sendBuffer = control.sendBuffer ∧
      (TcpSocketControl.pollRead size control).2.sendState = control.sendState := by
  unfold TcpSocketControl.pollRead
  split
  · split
    · exact ⟨rfl, rfl⟩
    · exact ⟨rfl, rfl⟩
  · exact ⟨rfl, rfl⟩

omit [RingBuffer R UInt8] in
theorem pollShutdown_sendBuffer (control : TcpSocketControl R) :
    (TcpSocketControl.pollShutdown control).2.sendBuffer = control.sendBuffer := by
  unfold TcpSocketControl.pollShutdown
  split
  · rfl
  · rfl

theorem conserved_iterate {c : Connection S R} (h : Conserved c) (i : ι) :
    Conserved (c.iterate smol i) := by
  by_cases hmanaged : c.managed = true
  · by_cases hclosed : smol.state (smol.poll i c.socket) = .closed
    · rw [iterate_closed smol hmanaged hclosed]
      exact { bytes := h.bytes, reset := fun hfalse => (nomatch hfalse) }
    · by_cases hclose : c.control.sendState = .close
      · obtain ⟨-, hbuffer, -, hacknowledged, hhanded, hreset⟩ :=
          iterate_closes smol ⟨hmanaged, hclosed, hclose⟩
        exact
          { bytes := by rw [hbuffer, hacknowledged, hhanded, h.bytes]
            reset := fun _ => hreset.trans (h.reset hmanaged) }
      · have hmoved := (iterate_open smol hmanaged hclosed hclose).1
        exact
          { bytes := hmoved.bytes.trans (h.bytes.trans hmoved.acknowledged.symm)
            reset := fun _ => hmoved.reset.trans (h.reset hmanaged) }
  · rw [iterate_unmanaged smol hmanaged]
    exact h

theorem conserved_step {c : Connection S R} (h : Conserved c) (e : Event ι) :
    Conserved (c.step smol e) := by
  cases e with
  | pollRead size =>
    refine { h with bytes := ?_ }
    rw [step, (pollRead_sendBuffer size c.control).1]
    exact h.bytes
  | pollWrite buf =>
    refine { h with bytes := ?_ }
    rw [step]
    dsimp only
    rw [pollWrite_bytes, ← List.append_assoc, h.bytes]
  | pollShutdown =>
    refine { h with bytes := ?_ }
    rw [step, pollShutdown_sendBuffer]
    exact h.bytes
  | drop => exact { h with }
  | iterate i => exact conserved_iterate smol h i

theorem run_append (c : Connection S R) (events events' : List (Event ι)) :
    c.run smol (events ++ events') = (c.run smol events).run smol events' := List.foldl_append

theorem conserved_run {c : Connection S R} (h : Conserved c) (events : List (Event ι)) :
    Conserved (c.run smol events) := by
  induction events generalizing c with
  | nil => exact h
  | cons e events ih => exact ih (conserved_step smol h e)

/-! ### Losing nothing -/

/-- The manager has closed the write half. -/
def WriteClosed (c : Connection S R) : Prop :=
  c.control.sendState = .closing ∨ c.control.sendState = .closed

/-- Unless the connection was reset, what was acknowledged was handed to the socket before the
    write half was closed. -/
def Lossless (c : Connection S R) : Prop :=
  c.reset = false → WriteClosed c → c.handed = c.acknowledged

/-- The same, of the buffer. -/
def Emptied (c : Connection S R) : Prop :=
  c.reset = false → WriteClosed c → contents c.control.sendBuffer = []

theorem lossless_iff_emptied {c : Connection S R} (h : Conserved c) : Lossless c ↔ Emptied c := by
  unfold Lossless Emptied
  rw [← h.bytes]
  refine imp_congr_right fun _ => imp_congr_right fun _ => ?_
  exact ⟨fun heq => List.append_cancel_left ((List.append_nil _).trans heq).symm,
    fun hempty => by rw [hempty, List.append_nil]⟩

theorem writeClosed_toClose {state : TcpSocketState}
    (h : TcpSocketControl.toClose state = .closing ∨ TcpSocketControl.toClose state = .closed) :
    state = .closing ∨ state = .closed := by
  cases state with
  | normal => exact h.elim (fun h => nomatch h) fun h => nomatch h
  | close => exact h
  | closing => exact .inl rfl
  | closed => exact .inr rfl

theorem emptied_iterate {c : Connection S R} {i : ι} (h : Emptied c)
    (hdrained : Closes smol c i → contents c.control.sendBuffer = []) :
    Emptied (c.iterate smol i) := by
  by_cases hmanaged : c.managed = true
  · by_cases hclosed : smol.state (smol.poll i c.socket) = .closed
    · rw [iterate_closed smol hmanaged hclosed]
      intro hreset _
      -- it was the manager that had closed the socket
      obtain ⟨hold, hclosing⟩ : c.reset = false ∧ c.control.sendState = .closing := by
        simpa [forget] using hreset
      exact h hold (.inl hclosing)
    · by_cases hclose : c.control.sendState = .close
      · have hcloses : Closes smol c i := ⟨hmanaged, hclosed, hclose⟩
        intro _ _
        rw [(iterate_closes smol hcloses).2.1]
        exact hdrained hcloses
      · obtain ⟨hmoved, hempty⟩ := iterate_open smol hmanaged hclosed hclose
        intro hreset hwrite
        rw [WriteClosed, hmoved.sendState] at hwrite
        exact hempty (h (hmoved.reset ▸ hreset) hwrite)
  · rw [iterate_unmanaged smol hmanaged]
    exact h

theorem emptied_step {c : Connection S R} {e : Event ι} (h : Emptied c)
    (hdrained : ∀ i, e = .iterate i → Closes smol c i → contents c.control.sendBuffer = []) :
    Emptied (c.step smol e) := by
  cases e with
  | pollRead size =>
    obtain ⟨hbuffer, hstate⟩ := pollRead_sendBuffer size c.control
    intro hreset hwrite
    rw [WriteClosed, step, hstate] at hwrite
    rw [step, hbuffer]
    exact h hreset hwrite
  | pollWrite buf =>
    intro hreset hwrite
    by_cases hnormal : c.control.sendState = .normal
    · -- a write leaves an open half open
      have hstate : (TcpSocketControl.pollWrite buf c.control).2.sendState = .normal := by
        rw [TcpSocketControl.pollWrite, if_neg (not_not.2 hnormal)]
        split
        · exact hnormal
        · exact hnormal
      rw [WriteClosed, step, hstate] at hwrite
      exact hwrite.elim (fun h => nomatch h) fun h => nomatch h
    · have hsame : (TcpSocketControl.pollWrite buf c.control).2 = c.control := by
        rw [TcpSocketControl.pollWrite, if_pos hnormal]
      rw [WriteClosed, step, hsame] at hwrite
      rw [step, hsame]
      exact h hreset hwrite
  | pollShutdown =>
    intro hreset hwrite
    rw [step, pollShutdown_sendBuffer]
    refine h hreset ?_
    by_cases hclosed : c.control.sendState = .closed
    · exact .inr hclosed
    · rw [WriteClosed, step, TcpSocketControl.pollShutdown, if_neg hclosed] at hwrite
      exact writeClosed_toClose hwrite
  | drop =>
    intro hreset hwrite
    exact h hreset (writeClosed_toClose hwrite)
  | iterate i => exact emptied_iterate smol h (hdrained i rfl)

/-- Whenever the manager closes the socket in a run, the send buffer is empty. -/
def DrainedFirst (c : Connection S R) (events : List (Event ι)) : Prop :=
  ∀ earlier i, earlier ++ [.iterate i] <+: events → Closes smol (c.run smol earlier) i →
    contents (c.run smol earlier).control.sendBuffer = []

theorem emptied_run {c : Connection S R} (h : Emptied c) {events : List (Event ι)}
    (hdrained : DrainedFirst smol c events) : Emptied (c.run smol events) := by
  induction events using List.reverseRecOn with
  | nil => exact h
  | append_singleton events e ih =>
    have hearlier : DrainedFirst smol c events := fun earlier i hle =>
      hdrained earlier i (hle.trans (List.prefix_append events [e]))
    rw [run_append]
    refine emptied_step smol (ih hearlier) fun i hiterate => ?_
    exact hdrained events i (hiterate ▸ List.prefix_rfl)

/-- An iteration that closes the socket before the buffer is empty loses what is in it. -/
theorem emptied_of_closes {c : Connection S R} {i : ι} (hconserved : Conserved c)
    (hcloses : Closes smol c i) (h : Emptied (c.iterate smol i)) :
    contents c.control.sendBuffer = [] := by
  obtain ⟨hclosing, hbuffer, -, -, -, hreset⟩ := iterate_closes smol hcloses
  have hempty := h (hreset.trans (hconserved.reset hcloses.1)) (.inl hclosing)
  rwa [hbuffer] at hempty

/-- **Shutting down.** In no state of a run has a connection that was not reset lost an
    acknowledged byte exactly when the send buffer was empty at every close of the socket. -/
theorem lossless_iff (socket : S) (sendBufferSize recvBufferSize : Nat) (events : List (Event ι)) :
    (∀ earlier, earlier <+: events →
      Lossless ((new socket sendBufferSize recvBufferSize : Connection S R).run smol earlier)) ↔
      DrainedFirst smol (new socket sendBufferSize recvBufferSize : Connection S R) events := by
  have hconserved := fun earlier : List (Event ι) =>
    conserved_run smol (@conserved_new _ R _ socket sendBufferSize recvBufferSize) earlier
  constructor
  · intro h earlier i hle hcloses
    have hlossless := (lossless_iff_emptied (hconserved _)).1 (h _ hle)
    rw [run_append] at hlossless
    exact emptied_of_closes smol (hconserved earlier) hcloses hlossless
  · intro h earlier hle
    have hnew : Emptied (new socket sendBufferSize recvBufferSize : Connection S R) :=
      fun _ _ => RingBuffer.contents_new sendBufferSize
    refine (lossless_iff_emptied (hconserved earlier)).2 (emptied_run smol hnew ?_)
    exact fun before i hbefore => h before i (hbefore.trans hle)

/-! ### A run that loses bytes -/

structure Buffers where
  state : TcpState
  sending : BoundedQueue UInt8
  receiving : BoundedQueue UInt8

/-- Sockets with buffers, to which the network may do anything. -/
def buffered : Smoltcp Buffers (Buffers → Buffers) where
  state socket := socket.state
  poll network socket := network socket
  close socket := { socket with state := socket.state.afterClose }
  abort socket := { socket with state := .closed }
  mayRecv socket :=
    socket.state ∈ [.established, .finWait1, .finWait2] || !socket.receiving.elements.isEmpty
  recvSlice socket := socket.receiving.elements
  consume socket n := { socket with receiving := socket.receiving.dequeue n }
  sendRoom socket := socket.sending.window
  enqueue socket bytes := { socket with sending := socket.sending.enqueue bytes }
  state_close _ := rfl
  state_consume _ _ := rfl

/-- A connection of such a socket. -/
def established : Connection Buffers (BoundedQueue UInt8) :=
  new ⟨.established, .empty 8, .empty 8⟩ 8 8

/-- Two bytes are written and the write half is shut down before the manager comes to it. -/
def hasty : List (Event (Buffers → Buffers)) := [.pollWrite [104, 105], .pollShutdown, .iterate id]

theorem hasty_loses_bytes :
    ¬∀ earlier, earlier <+: hasty →
      Lossless (established.run buffered earlier) := by
  intro h
  have hconserved := conserved_run buffered (c := established) (conserved_new ..)
  have hlossless := h _ List.prefix_rfl
  have hcloses : Closes buffered
      (established.run buffered [.pollWrite [104, 105], .pollShutdown]) id := by
    have hopen : TcpState.established ≠ .closed := by decide
    exact ⟨rfl, hopen, rfl⟩
  have hempty := emptied_of_closes buffered (hconserved _) hcloses
    ((lossless_iff_emptied (hconserved hasty)).1 hlossless)
  cases hempty

end Connection

end Shadowsocks.Local.Tun
