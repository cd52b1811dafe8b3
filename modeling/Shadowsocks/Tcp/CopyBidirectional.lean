import Shadowsocks.Lib.Relaying
import Shadowsocks.Lib.Transport

/-! # Copying in both directions

`tcprelay::utils`: a future that copies from each of two streams to the other.  Each direction has
a buffer of its own and, when its reader is at the end, shuts its writer down.  The streams are
schedules of what their polls come to, and every direction keeps the calls that it has made
(`copy_lawful`).
-/

namespace Shadowsocks.Tcp.Utils

open Shadowsocks.Lib Shadowsocks.Lib.Relaying

/-! ## The streams of a direction -/

/-- What a poll comes to that flushes a stream or shuts it down. -/
inductive SyncEvent where
  | pending
  | ready
  | fail (e : IoError)
deriving DecidableEq, Repr

/-- The half of a stream that is read and the half of the other that is written, with the calls
    that did not fail. -/
structure Halves where
  reader : Source
  writer : Sink
  flushes : List SyncEvent
  shutdowns : List SyncEvent
  calls : List (Call UInt8)
deriving DecidableEq, Repr

namespace Halves

/-- The halves after a call. -/
def record (h : Halves) (c : Call UInt8) : Halves := { h with calls := h.calls ++ [c] }

def pollRead (cap : Nat) : PollM Halves IoError Bytes := fun h =>
  match h.reader.read cap with
  | (.ready bs, reader) => (.ready bs, { h with reader := reader }.record (.read (some bs)))
  | (.pending, reader) => (.pending, { h with reader := reader }.record (.read none))
  | (.failed e, reader) => (.failed e, { h with reader := reader })
  | (.panicked, reader) => (.panicked, { h with reader := reader })

/-- A writer takes at most what it is offered. -/
def pollWrite (buf : Bytes) : PollM Halves IoError { n : Nat // n ≤ buf.length } := fun h =>
  match hw : h.writer.write buf with
  | (.ready n, writer) =>
    (.ready ⟨n, (Sink.write_ready hw).1⟩, { h with writer := writer }.record (.write buf (some n)))
  | (.pending, writer) => (.pending, { h with writer := writer }.record (.write buf none))
  | (.failed e, writer) => (.failed e, { h with writer := writer })
  | (.panicked, writer) => (.panicked, { h with writer := writer })

def pollFlush : PollM Halves IoError Unit := fun h =>
  match h.flushes with
  | [] => (.pending, h.record (.flush false))
  | .pending :: es => (.pending, { h with flushes := es }.record (.flush false))
  | .ready :: es => (.ready (), { h with flushes := es }.record (.flush true))
  | .fail e :: es => (.failed e, { h with flushes := es })

def pollShutdown : PollM Halves IoError Unit := fun h =>
  match h.shutdowns with
  | [] => (.pending, h.record (.shutdown false))
  | .pending :: es => (.pending, { h with shutdowns := es }.record (.shutdown false))
  | .ready :: es => (.ready (), { h with shutdowns := es }.record (.shutdown true))
  | .fail e :: es => (.failed e, { h with shutdowns := es })

end Halves

/-! ## Copying one way -/

structure CopyBuffer where
  readDone : Bool
  pos : Nat
  cap : Nat
  amt : Nat
  buf : Bytes
  pos_le : pos ≤ cap
  cap_le : cap ≤ buf.length
deriving DecidableEq, Repr

namespace CopyBuffer

def new (bufferSize : Nat) : CopyBuffer :=
  { readDone := false, pos := 0, cap := 0, amt := 0, buf := List.replicate bufferSize 0
    pos_le := Nat.le_refl _, cap_le := Nat.zero_le _ }

/-- `buf[pos..cap]`. -/
def unwritten (b : CopyBuffer) : Bytes := (b.buf.take b.cap).drop b.pos

theorem unwritten_length (b : CopyBuffer) : b.unwritten.length = b.cap - b.pos := by
  rw [unwritten, List.length_drop, List.length_take, Nat.min_eq_left b.cap_le]

/-- The buffer after a read. -/
def filled (b : CopyBuffer) (bs : Bytes) : CopyBuffer :=
  if bs.length = 0 then { b with readDone := true }
  else
    { b with
      pos := 0, cap := bs.length, buf := bs ++ b.buf.drop bs.length
      pos_le := Nat.zero_le _, cap_le := by rw [List.length_append]; omega }

/-- The buffer after a write. -/
def advanced (b : CopyBuffer) (i : { n : Nat // n ≤ b.unwritten.length }) (_h : b.pos < b.cap) :
    CopyBuffer :=
  { b with
    pos := b.pos + i, amt := b.amt + i
    pos_le := by
      have hi := Nat.le_trans i.2 (Nat.le_of_eq b.unwritten_length)
      omega }

end CopyBuffer

/-- A buffer and the streams that it copies between. -/
structure Copying where
  buffer : CopyBuffer
  halves : Halves
deriving DecidableEq, Repr

namespace Copying

/-- A poll of the streams. -/
def onHalves {α : Type} (x : PollM Halves IoError α) : PollM Copying IoError α := fun c =>
  x.on c.halves fun h => { c with halves := h }

def setBuffer (b : CopyBuffer) : PollM Copying IoError Unit :=
  PollM.update fun c => { c with buffer := b }

/-- The buffer is empty, so some data is needed to continue. -/
def fill : PollM Copying IoError Unit :=
  PollM.get >>= fun c =>
    if c.buffer.pos = c.buffer.cap ∧ c.buffer.readDone = false then
      onHalves (Halves.pollRead c.buffer.buf.length) >>= fun bs => setBuffer (c.buffer.filled bs)
    else pure ()

def writeZero : IoError := .other "write zero byte into writer"

/-- A round of the loop that writes the buffer out. -/
def writeRound : PollM Copying IoError (Option Unit) :=
  PollM.get >>= fun c =>
    if h : c.buffer.pos < c.buffer.cap then
      onHalves (Halves.pollWrite c.buffer.unwritten) >>= fun i =>
        if i.1 = 0 then PollM.fail writeZero
        else setBuffer (c.buffer.advanced i h) >>= fun _ => pure none
    else pure (some ())

/-- What the loop that writes leaves as it is. -/
def SameInput (c c' : Copying) : Prop :=
  c'.halves.reader = c.halves.reader ∧ c'.buffer.readDone = c.buffer.readDone

theorem onHalves_ready {α : Type} {x : PollM Halves IoError α} {c c' : Copying} {a : α}
    (h : onHalves x c = (.ready a, c')) :
    ∃ halves, x c.halves = (.ready a, halves) ∧ c' = { c with halves := halves } := by
  obtain ⟨hres, rfl⟩ := Prod.mk.inj h
  exact ⟨(x c.halves).2, by rw [← hres], rfl⟩

theorem pollRead_ready {cap : Nat} {h h' : Halves} {bs : Bytes}
    (hr : Halves.pollRead cap h = (.ready bs, h')) :
    h.reader.read cap = (.ready bs, h'.reader) ∧
      h' = { h with reader := h'.reader }.record (.read (some bs)) := by
  unfold Halves.pollRead at hr
  split at hr
  · next hread =>
    cases hr
    exact ⟨hread, rfl⟩
  all_goals cases hr

theorem pollWrite_reader {buf : Bytes} {h h' : Halves} {res : Polled IoError _}
    (hw : Halves.pollWrite buf h = (res, h')) : h'.reader = h.reader := by
  unfold Halves.pollWrite at hw
  split at hw <;> cases hw <;> rfl

theorem writeRound_again {c c' : Copying} (h : writeRound c = (.ready none, c')) :
    c'.buffer.cap - c'.buffer.pos < c.buffer.cap - c.buffer.pos ∧ c.SameInput c' := by
  unfold writeRound at h
  rw [PollM.get_bind] at h
  split at h
  · next hlt =>
    obtain ⟨i, c₁, hwrite, hrest⟩ := PollM.bind_eq_ready h
    obtain ⟨halves, hpoll, rfl⟩ := onHalves_ready hwrite
    split at hrest
    · cases hrest
    · next hi =>
      cases hrest
      refine ⟨?_, pollWrite_reader hpoll, rfl⟩
      change c.buffer.cap - (c.buffer.pos + i.1) < c.buffer.cap - c.buffer.pos
      omega
  · cases h

theorem writeRound_leave {c c' : Copying} (h : writeRound c = (.ready (some ()), c')) :
    c' = c ∧ c.buffer.pos = c.buffer.cap := by
  unfold writeRound at h
  rw [PollM.get_bind] at h
  split at h
  · obtain ⟨i, c₁, -, hrest⟩ := PollM.bind_eq_ready h
    split at hrest <;> cases hrest
  · next hlt =>
    cases h
    exact ⟨rfl, Nat.le_antisymm c.buffer.pos_le (Nat.not_lt.1 hlt)⟩

def writeOut : PollM Copying IoError Unit :=
  PollM.loop writeRound (fun c => c.buffer.cap - c.buffer.pos) fun h => (writeRound_again h).1

/-- A round of `poll_copy`. -/
def copyRound : PollM Copying IoError (Option Nat) :=
  fill >>= fun _ => writeOut >>= fun _ => PollM.get >>= fun c =>
    if c.buffer.pos = c.buffer.cap ∧ c.buffer.readDone = true then
      onHalves Halves.pollFlush >>= fun _ => pure (some c.buffer.amt)
    else pure none

/-- What is still to be read, and whether there is something to be written. -/
def measure (c : Copying) : Nat :=
  2 * c.halves.reader.bytes.length + if c.buffer.pos < c.buffer.cap then 1 else 0

theorem writeOut_ready {c c' : Copying} (h : writeOut c = (.ready (), c')) :
    c'.buffer.pos = c'.buffer.cap ∧ c.SameInput c' := by
  have hloop : Triple c.SameInput writeOut
      (Post.ifReady fun _ c' => c'.buffer.pos = c'.buffer.cap ∧ c.SameInput c') := by
    refine Triple.loop (fun h => (writeRound_again h).1)
      (Triple.of_result fun c₁ res c₂ hsame hround => ?_)
    cases res with
    | ready again =>
      cases again with
      | none =>
        obtain ⟨-, hreader, hdone⟩ := writeRound_again hround
        exact ⟨hreader.trans hsame.1, hdone.trans hsame.2⟩
      | some _ =>
        obtain ⟨rfl, hempty⟩ := writeRound_leave hround
        exact ⟨hempty, hsame⟩
    | _ => trivial
  have hpost := hloop c ⟨rfl, rfl⟩
  rw [h] at hpost
  exact hpost

theorem copyRound_again {c c' : Copying} (h : copyRound c = (.ready none, c')) :
    c'.measure < c.measure := by
  obtain ⟨_, c₁, hfill, hrest⟩ := PollM.bind_eq_ready h
  obtain ⟨_, c₂, hwrite, hlast⟩ := PollM.bind_eq_ready hrest
  obtain ⟨hempty, hreader, hdone⟩ := writeOut_ready hwrite
  rw [PollM.get_bind] at hlast
  split at hlast
  · obtain ⟨_, _, _, hend⟩ := PollM.bind_eq_ready hlast
    cases hend
  · next hnot =>
    cases hlast
    have hrunning : c₁.buffer.readDone = false := by
      rw [← hdone, ← Bool.not_eq_true]
      exact fun hend => hnot ⟨hempty, hend⟩
    unfold measure
    rw [if_neg (by omega), hreader]
    unfold fill at hfill
    rw [PollM.get_bind] at hfill
    split at hfill
    · -- the end would have been noticed, so something has been read
      obtain ⟨bs, c₃, hread, hset⟩ := PollM.bind_eq_ready hfill
      obtain ⟨halves, hpoll, rfl⟩ := onHalves_ready hread
      cases hset
      have hbytes := congrArg List.length (Source.read_ready (pollRead_ready hpoll).1).1
      have hsome : bs.length ≠ 0 := by
        intro hnone
        rw [show (c.buffer.filled bs).readDone = true by rw [CopyBuffer.filled, if_pos hnone]]
          at hrunning
        cases hrunning
      rw [List.length_append] at hbytes
      change 2 * halves.reader.bytes.length + 0 < _
      omega
    · next hsome =>
      cases hfill
      have hlt : c.buffer.pos < c.buffer.cap :=
        lt_of_le_of_ne c.buffer.pos_le fun heq => hsome ⟨heq, hrunning⟩
      rw [if_pos hlt]
      omega

def pollCopy : PollM Copying IoError Nat := PollM.loop copyRound measure copyRound_again

end Copying

/-! ## Copying both ways -/

inductive TransferState where
  | running (buf : CopyBuffer)
  | shuttingDown (count : Nat)
  | done (count : Nat)
deriving DecidableEq, Repr

/-- One direction: its state and the streams that it copies between. -/
structure Direction where
  state : TransferState
  halves : Halves
deriving DecidableEq, Repr

namespace Direction

def setState (state : TransferState) : PollM Direction IoError (Option Nat) := fun d =>
  (.ready none, { d with state := state })

/-- A poll of the copy of the state `Running`. -/
def copyWith (buf : CopyBuffer) : PollM Direction IoError Nat := fun d =>
  Copying.pollCopy.on { buffer := buf, halves := d.halves } fun c =>
    { state := .running c.buffer, halves := c.halves }

def shutdownWriter : PollM Direction IoError Unit := fun d =>
  Halves.pollShutdown.on d.halves fun h => { d with halves := h }

/-- A round of `transfer_one_direction`. -/
def transferRound : PollM Direction IoError (Option Nat) :=
  PollM.get >>= fun d =>
    match d.state with
    | .running buf => copyWith buf >>= fun count => setState (.shuttingDown count)
    | .shuttingDown count => shutdownWriter >>= fun _ => setState (.done count)
    | .done count => pure (some count)

/-- How many states are still to come. -/
def stage (d : Direction) : Nat :=
  match d.state with
  | .running _ => 2
  | .shuttingDown _ => 1
  | .done _ => 0

theorem transferRound_again {d d' : Direction} (h : transferRound d = (.ready none, d')) :
    d'.stage < d.stage := by
  unfold transferRound at h
  rw [PollM.get_bind] at h
  unfold stage
  cases hstate : d.state with
  | running buf =>
    rw [hstate] at h
    obtain ⟨count, d₁, -, hset⟩ := PollM.bind_eq_ready h
    cases hset
    exact Nat.lt_succ_self _
  | shuttingDown count =>
    rw [hstate] at h
    obtain ⟨_, d₁, -, hset⟩ := PollM.bind_eq_ready h
    cases hset
    exact Nat.lt_succ_self _
  | done count =>
    rw [hstate] at h
    cases h

def transferOneDirection : PollM Direction IoError Nat :=
  PollM.loop transferRound stage transferRound_again

end Direction

/-- A stream, as what all polls of it will come to. -/
structure Stream where
  reads : Source
  writes : List WriteEvent
  flushes : List SyncEvent
  shutdowns : List SyncEvent
deriving DecidableEq, Repr

structure CopyBidirectional where
  aToB : Direction
  bToA : Direction
deriving DecidableEq, Repr

/-- Before the first poll of a direction from `r` to `w`. -/
def Direction.new (bufferSize : Nat) (r w : Stream) : Direction where
  state := .running (CopyBuffer.new bufferSize)
  halves :=
    { reader := r.reads, writer := { schedule := w.writes, wire := [] }, flushes := w.flushes
      shutdowns := w.shutdowns, calls := [] }

namespace CopyBidirectional

def new (bufferSize : Nat) (a b : Stream) : CopyBidirectional :=
  { aToB := .new bufferSize a b, bToA := .new bufferSize b a }

/-- `poll_impl`. -/
def pollImpl : PollM CopyBidirectional IoError (Nat × Nat) := fun c =>
  let ab := Direction.transferOneDirection c.aToB
  match ab.1 with
  -- the other direction is not polled
  | .failed e => (.failed e, { c with aToB := ab.2 })
  | .panicked => (.panicked, { c with aToB := ab.2 })
  | pollAToB =>
    let ba := Direction.transferOneDirection c.bToA
    let c' := { aToB := ab.2, bToA := ba.2 }
    match ba.1 with
    | .failed e => (.failed e, c')
    | .panicked => (.panicked, c')
    | pollBToA =>
      match pollAToB, pollBToA with
      | .ready aToB, .ready bToA => (.ready (aToB, bToA), c')
      | _, _ => (.pending, c')

/-- `n` polls, as long as they are pending. -/
def polled (c : CopyBidirectional) : Nat → Polled IoError (Nat × Nat) × CopyBidirectional
  | 0 => (.pending, c)
  | n + 1 =>
    match c.polled n with
    | (.pending, c') => pollImpl c'
    | finished => finished

end CopyBidirectional

end Shadowsocks.Tcp.Utils
