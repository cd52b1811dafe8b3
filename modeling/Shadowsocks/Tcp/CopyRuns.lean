import Shadowsocks.Tcp.CopyBidirectional

/-! # Runs of the bidirectional copy

Between any two polls, and at every call within one, each direction has passed on a beginning of
what it has read, and what it has read but not passed on stands in its buffer (`Copying.Inv`).  A
direction does what it would do alone, and when both are done nothing is missing
(`CopyBidirectional.polled_stands`).
-/

namespace Shadowsocks.Tcp.Utils

open Shadowsocks.Lib Shadowsocks.Lib.Relaying

/-- What a poll leaves of a schedule that was pending or had run out. -/
def SyncEvent.Waited (before after : List SyncEvent) : Prop :=
  before = [] ∧ after = [] ∨ before = .pending :: after

namespace Halves

/-- What the calls so far have come to. -/
def ledger (h : Halves) : Tally UInt8 := Tally.of h.calls

@[simp] theorem ledger_record (h : Halves) (c : Call UInt8) :
    (h.record c).ledger = h.ledger.after c :=
  Tally.of_concat h.calls c

/-- The ledger agrees with the streams. -/
structure Kept (input : Bytes) (size : Nat) (h : Halves) : Prop where
  lawful : Lawful h.calls
  wire : h.writer.wire = h.ledger.written
  input : h.ledger.read ++ h.reader.bytes = input
  drained : h.ledger.ended = true → 0 < size → h.reader.bytes = []

end Halves

/-! ## One direction -/

section OneDirection

variable {input : Bytes} {size : Nat}

namespace Copying

/-- The buffer holds what has been read and not yet been passed on. -/
structure Inv (input : Bytes) (size : Nat) (c : Copying) : Prop where
  kept : c.halves.Kept input size
  size_eq : c.buffer.buf.length = size
  running : c.halves.ledger.shutdowns = 0
  buffered : c.halves.ledger.written ++ c.buffer.unwritten = c.halves.ledger.read
  amt : c.buffer.amt = c.halves.ledger.written.length
  ended : c.halves.ledger.ended = c.buffer.readDone

/-- The invariant, from what the ledger is. -/
theorem Inv.of_ledger {c : Copying} {l : Tally UInt8} (hl : c.halves.ledger = l)
    (lawful : Lawful c.halves.calls) (wire : c.halves.writer.wire = l.written)
    (input_eq : l.read ++ c.halves.reader.bytes = input)
    (drained : l.ended = true → 0 < size → c.halves.reader.bytes = [])
    (size_eq : c.buffer.buf.length = size) (running : l.shutdowns = 0)
    (buffered : l.written ++ c.buffer.unwritten = l.read) (amt : c.buffer.amt = l.written.length)
    (ended : l.ended = c.buffer.readDone) : c.Inv input size := by
  subst hl
  exact ⟨⟨lawful, wire, input_eq, drained⟩, size_eq, running, buffered, amt, ended⟩

theorem unwritten_empty {b : CopyBuffer} (h : b.pos = b.cap) : b.unwritten = [] := by
  rw [← List.length_eq_zero_iff, b.unwritten_length, h, Nat.sub_self]

theorem Inv.balanced {c : Copying} (h : c.Inv input size) (hempty : c.buffer.pos = c.buffer.cap) :
    c.halves.ledger.written = c.halves.ledger.read := by
  rw [← h.buffered, unwritten_empty hempty, List.append_nil]

theorem unwritten_filled (b : CopyBuffer) {bs : Bytes} (hempty : b.pos = b.cap) :
    (b.filled bs).unwritten = bs := by
  unfold CopyBuffer.filled
  split
  · next hnone =>
    rw [List.length_eq_zero_iff.1 hnone]
    exact unwritten_empty (b := { b with readDone := true }) hempty
  · simp [CopyBuffer.unwritten]

theorem readDone_filled (b : CopyBuffer) (bs : Bytes) :
    (b.filled bs).readDone = (b.readDone || bs.isEmpty) := by
  unfold CopyBuffer.filled
  cases bs <;> simp

theorem length_filled (b : CopyBuffer) {bs : Bytes} (h : bs.length ≤ b.buf.length) :
    (b.filled bs).buf.length = b.buf.length := by
  unfold CopyBuffer.filled
  split
  · rfl
  · simp only [List.length_append, List.length_drop]
    omega

theorem amt_filled (b : CopyBuffer) (bs : Bytes) : (b.filled bs).amt = b.amt := by
  unfold CopyBuffer.filled
  split <;> rfl

theorem unwritten_advanced (b : CopyBuffer) (i : { n : Nat // n ≤ b.unwritten.length })
    (hlt : b.pos < b.cap) : (b.advanced i hlt).unwritten = b.unwritten.drop i.1 := by
  simp only [CopyBuffer.advanced, CopyBuffer.unwritten, List.drop_drop]

/-- A read that is ready. -/
theorem Inv.filled {c : Copying} (h : c.Inv input size) (hempty : c.buffer.pos = c.buffer.cap)
    (hrunning : c.buffer.readDone = false) {bs : Bytes} {reader : Source}
    (hread : c.halves.reader.read c.buffer.buf.length = (.ready bs, reader)) :
    Inv input size
      { buffer := c.buffer.filled bs
        halves := { c.halves with reader := reader }.record (.read (some bs)) } := by
  obtain ⟨hbytes, hcap, -, -, hend⟩ := Source.read_ready hread
  have hbalanced := h.balanced hempty
  have hnotEnded := h.ended.trans hrunning
  refine Inv.of_ledger (Halves.ledger_record _ _)
    (h.kept.lawful.concat ⟨hbalanced, hnotEnded, h.running⟩) h.kept.wire ?_ ?_ ?_ h.running ?_ ?_ ?_
  · change c.halves.ledger.read ++ bs ++ reader.bytes = input
    rw [← h.kept.input, hbytes, List.append_assoc]
  · intro hended hsize
    -- nothing is read only at the end
    have hnone : bs = [] := by
      change (c.halves.ledger.ended || bs.isEmpty) = true at hended
      rw [hnotEnded, Bool.false_or] at hended
      exact List.isEmpty_iff.1 hended
    rw [← h.size_eq] at hsize
    change reader.bytes = []
    rw [(hend hsize hnone).2]
    rfl
  · rw [← h.size_eq]
    exact length_filled c.buffer hcap
  · change c.halves.ledger.written ++ (c.buffer.filled bs).unwritten = c.halves.ledger.read ++ bs
    rw [unwritten_filled _ hempty, hbalanced]
  · exact (amt_filled c.buffer bs).trans h.amt
  · change (c.halves.ledger.ended || bs.isEmpty) = (c.buffer.filled bs).readDone
    rw [readDone_filled, h.ended]

theorem Inv.read_pending {c : Copying} (h : c.Inv input size)
    (hempty : c.buffer.pos = c.buffer.cap) (hrunning : c.buffer.readDone = false) {reader : Source}
    (hread : c.halves.reader.read c.buffer.buf.length = (.pending, reader)) :
    Inv input size
      { c with halves := { c.halves with reader := reader }.record (.read none) } := by
  have hbytes := (Source.read_pending hread).1
  have hlawful := h.kept.lawful.concat (c := .read none)
    ⟨h.balanced hempty, h.ended.trans hrunning, h.running⟩
  refine Inv.of_ledger (Halves.ledger_record _ _) hlawful h.kept.wire ?_ ?_ h.size_eq h.running
    h.buffered h.amt h.ended
  · exact hbytes ▸ h.kept.input
  · exact hbytes ▸ h.kept.drained

/-- A write that is ready. -/
theorem Inv.advanced {c : Copying} (h : c.Inv input size) (hlt : c.buffer.pos < c.buffer.cap)
    (i : { n : Nat // n ≤ c.buffer.unwritten.length }) {writer : Sink}
    (hwrite : c.halves.writer.write c.buffer.unwritten = (.ready i.1, writer)) :
    Inv input size
      { buffer := c.buffer.advanced i hlt
        halves := { c.halves with writer := writer }.record
          (.write c.buffer.unwritten (some i.1)) } := by
  have htaken : (c.buffer.unwritten.take i.1).length = i.1 := by
    rw [List.length_take, Nat.min_eq_left i.2]
  refine Inv.of_ledger (Halves.ledger_record _ _) (h.kept.lawful.concat ⟨h.buffered, h.running⟩)
    ?_ h.kept.input h.kept.drained h.size_eq h.running ?_ ?_ h.ended
  · change writer.wire = c.halves.ledger.written ++ c.buffer.unwritten.take i.1
    rw [(Sink.write_ready hwrite).2.1, h.kept.wire]
  · change c.halves.ledger.written ++ c.buffer.unwritten.take i.1 ++
      (c.buffer.advanced i hlt).unwritten = c.halves.ledger.read
    rw [unwritten_advanced, List.append_assoc, List.take_append_drop, h.buffered]
  · change c.buffer.amt + i.1 =
      (c.halves.ledger.written ++ c.buffer.unwritten.take i.1).length
    rw [List.length_append, htaken, h.amt]

theorem Inv.write_pending {c : Copying} (h : c.Inv input size) {writer : Sink}
    (hwrite : c.halves.writer.write c.buffer.unwritten = (.pending, writer)) :
    Inv input size
      { c with
        halves := { c.halves with writer := writer }.record (.write c.buffer.unwritten none) } := by
  have hlawful := h.kept.lawful.concat (c := .write c.buffer.unwritten none)
    ⟨h.buffered, h.running⟩
  refine Inv.of_ledger (Halves.ledger_record _ _) hlawful ?_ h.kept.input h.kept.drained h.size_eq
    h.running h.buffered h.amt h.ended
  exact (Sink.write_pending hwrite).trans h.kept.wire

/-- What a poll leaves that is pending; a poll that fails may leave anything. -/
def copyPost {α : Type} (input : Bytes) (size : Nat) (ready : α → Copying → Prop) :
    Post Copying IoError α :=
  { ready := ready, pending := Inv input size, failed := fun _ _ => True }

theorem onHalves_eq {α : Type} {x : PollM Halves IoError α} {c : Copying}
    {res : Polled IoError α} {halves : Halves} (h : x c.halves = (res, halves)) :
    onHalves x c = (res, { c with halves := halves }) := by
  rw [onHalves, PollM.on, h]

theorem fill_spec : Triple (Inv input size) fill (copyPost input size fun _ => Inv input size) := by
  intro c h
  unfold fill
  rw [PollM.get_bind]
  split
  · next hempty =>
    rcases hread : c.halves.reader.read c.buffer.buf.length with ⟨res, reader⟩
    cases res with
    | ready bs =>
      rw [PollM.bind_ready (onHalves_eq (by rw [Halves.pollRead, hread]))]
      exact h.filled hempty.1 hempty.2 hread
    | pending =>
      rw [PollM.bind_pending (onHalves_eq (by rw [Halves.pollRead, hread]))]
      exact h.read_pending hempty.1 hempty.2 hread
    | failed e =>
      rw [PollM.bind_failed (onHalves_eq (by rw [Halves.pollRead, hread]))]
      trivial
    | panicked => exact absurd hread Source.read_ne_panicked
  · exact h

theorem pollWrite_cases (buf : Bytes) (h : Halves) :
    (∃ i writer, h.writer.write buf = (.ready i.1, writer) ∧ Halves.pollWrite buf h =
        (.ready i, { h with writer := writer }.record (.write buf (some i.1)))) ∨
      (∃ writer, h.writer.write buf = (.pending, writer) ∧ Halves.pollWrite buf h =
        (.pending, { h with writer := writer }.record (.write buf none))) ∨
      ∃ e h', Halves.pollWrite buf h = (.failed e, h') := by
  unfold Halves.pollWrite
  split
  · next n writer hw => exact .inl ⟨⟨n, (Sink.write_ready hw).1⟩, writer, hw, rfl⟩
  · next writer hw => exact .inr (.inl ⟨writer, hw, rfl⟩)
  · next e writer hw => exact .inr (.inr ⟨e, _, rfl⟩)
  · next writer hw => exact absurd hw Sink.write_ne_panicked

/-- The invariant with nothing in the buffer. -/
def Emptied (input : Bytes) (size : Nat) (c : Copying) : Prop :=
  c.Inv input size ∧ c.buffer.pos = c.buffer.cap

theorem writeRound_spec : Triple (Inv input size) writeRound
    (copyPost input size (Triple.roundClause (Inv input size) fun _ => Emptied input size)) := by
  intro c h
  unfold writeRound
  rw [PollM.get_bind]
  split
  · next hlt =>
    obtain ⟨i, writer, hwrite, hpoll⟩ | ⟨writer, hwrite, hpoll⟩ | ⟨e, halves, hpoll⟩ :=
      pollWrite_cases c.buffer.unwritten c.halves
    · rw [PollM.bind_ready (onHalves_eq hpoll)]
      split
      · trivial
      · exact h.advanced hlt i hwrite
    · rw [PollM.bind_pending (onHalves_eq hpoll)]
      exact h.write_pending hwrite
    · rw [PollM.bind_failed (onHalves_eq hpoll)]
      trivial
  · next hlt => exact ⟨h, Nat.le_antisymm c.buffer.pos_le (Nat.not_lt.1 hlt)⟩

theorem writeOut_spec :
    Triple (Inv input size) writeOut (copyPost input size fun _ => Emptied input size) :=
  Triple.loop (fun h => (writeRound_again h).1) writeRound_spec

end Copying

/-- All that has been read is passed on and flushed. -/
structure Halves.Settled (input : Bytes) (size count : Nat) (h : Halves) : Prop where
  kept : h.Kept input size
  all : h.ledger.written = h.ledger.read
  ended : h.ledger.ended = true
  flushed : h.ledger.flushed = true
  count : count = h.ledger.written.length

/-- Settled, and the writer is still open. -/
def Halves.Open (input : Bytes) (size count : Nat) (h : Halves) : Prop :=
  h.Settled input size count ∧ h.ledger.shutdowns = 0

theorem Halves.Settled.of_ledger {h : Halves} {count : Nat} {l : Tally UInt8} (hl : h.ledger = l)
    (lawful : Lawful h.calls) (wire : h.writer.wire = l.written)
    (input_eq : l.read ++ h.reader.bytes = input)
    (drained : l.ended = true → 0 < size → h.reader.bytes = []) (all : l.written = l.read)
    (ended : l.ended = true) (flushed : l.flushed = true) (count_eq : count = l.written.length) :
    h.Settled input size count := by
  subst hl
  exact ⟨⟨lawful, wire, input_eq, drained⟩, all, ended, flushed, count_eq⟩

namespace Copying

theorem pollFlush_cases (h : Halves) :
    (∃ flushes, h.flushes = .ready :: flushes ∧ Halves.pollFlush h =
        (.ready (), { h with flushes := flushes }.record (.flush true))) ∨
      (∃ flushes, SyncEvent.Waited h.flushes flushes ∧ Halves.pollFlush h =
        (.pending, { h with flushes := flushes }.record (.flush false))) ∨
      ∃ e h', Halves.pollFlush h = (.failed e, h') := by
  unfold Halves.pollFlush
  split
  · next hnone => exact .inr (.inl ⟨h.flushes, .inl ⟨hnone, hnone⟩, rfl⟩)
  · next hsome => exact .inr (.inl ⟨_, .inr hsome, rfl⟩)
  · next hsome => exact .inl ⟨_, hsome, rfl⟩
  · exact .inr (.inr ⟨_, _, rfl⟩)

theorem copyRound_spec : Triple (Inv input size) copyRound
    (copyPost input size (Triple.roundClause (Inv input size) fun count c =>
      c.halves.Open input size count)) := by
  refine Triple.seq fill_spec (fun _ => ?_) (fun _ h => h) (fun _ _ h => h) (fun _ h => h)
  refine Triple.seq writeOut_spec (fun _ => ?_) (fun _ h => h) (fun _ _ h => h) (fun _ h => h)
  intro c ⟨h, hempty⟩
  rw [PollM.get_bind]
  split
  · next hend =>
    have hallowed (done : Bool) : c.halves.ledger.Allowed (.flush done) :=
      ⟨h.balanced hempty, h.ended.trans hend.2, h.running⟩
    obtain ⟨flushes, -, hpoll⟩ | ⟨flushes, -, hpoll⟩ | ⟨e, halves, hpoll⟩ :=
      pollFlush_cases c.halves
    · rw [PollM.bind_ready (onHalves_eq hpoll)]
      have hledger : (c.halves.record (.flush true)).ledger = c.halves.ledger.after (.flush true) :=
        Halves.ledger_record _ _
      exact ⟨.of_ledger hledger (h.kept.lawful.concat (hallowed true)) h.kept.wire h.kept.input
        h.kept.drained (h.balanced hempty) (h.ended.trans hend.2) rfl h.amt,
        (congrArg Tally.shutdowns hledger).trans h.running⟩
    · rw [PollM.bind_pending (onHalves_eq hpoll)]
      exact Inv.of_ledger (Halves.ledger_record _ _) (h.kept.lawful.concat (hallowed false))
        h.kept.wire h.kept.input h.kept.drained h.size_eq h.running h.buffered h.amt h.ended
    · rw [PollM.bind_failed (onHalves_eq hpoll)]
      trivial
  · exact h

theorem pollCopy_spec : Triple (Inv input size) pollCopy
    (copyPost input size fun count c => c.halves.Open input size count) :=
  Triple.loop copyRound_again copyRound_spec

end Copying

namespace Direction

/-- What holds of a direction between polls. -/
def Inv (input : Bytes) (size : Nat) (d : Direction) : Prop :=
  match d.state with
  | .running buf => Copying.Inv input size { buffer := buf, halves := d.halves }
  | .shuttingDown count => d.halves.Open input size count
  | .done count => d.halves.Settled input size count ∧ d.halves.ledger.shutdowns = 1

/-- A direction that has come to its end. -/
def Finished (count : Nat) (d : Direction) : Prop := d.state = .done count

def transferPost {α : Type} (input : Bytes) (size : Nat) (ready : α → Direction → Prop) :
    Post Direction IoError α :=
  { ready := ready, pending := Inv input size, failed := fun _ _ => True }

theorem pollShutdown_cases (h : Halves) :
    (∃ shutdowns, h.shutdowns = .ready :: shutdowns ∧ Halves.pollShutdown h =
        (.ready (), { h with shutdowns := shutdowns }.record (.shutdown true))) ∨
      (∃ shutdowns, SyncEvent.Waited h.shutdowns shutdowns ∧ Halves.pollShutdown h =
        (.pending, { h with shutdowns := shutdowns }.record (.shutdown false))) ∨
      ∃ e h', Halves.pollShutdown h = (.failed e, h') := by
  unfold Halves.pollShutdown
  split
  · next hnone => exact .inr (.inl ⟨h.shutdowns, .inl ⟨hnone, hnone⟩, rfl⟩)
  · next hsome => exact .inr (.inl ⟨_, .inr hsome, rfl⟩)
  · next hsome => exact .inl ⟨_, hsome, rfl⟩
  · exact .inr (.inr ⟨_, _, rfl⟩)

theorem transferRound_spec : Triple (Inv input size) transferRound
    (transferPost input size (Triple.roundClause (Inv input size) fun count d =>
      d.Inv input size ∧ d.Finished count)) := by
  intro d h
  unfold transferRound
  rw [PollM.get_bind]
  unfold Inv at h
  cases hstate : d.state with
  | running buf =>
    rw [hstate] at h
    -- copying leaves a settled direction that has not shut down
    have hcopy := Copying.pollCopy_spec _ h
    rcases hpoll : Copying.pollCopy { buffer := buf, halves := d.halves } with ⟨res, c⟩
    rw [hpoll] at hcopy
    have hon : copyWith buf d = (res, { state := .running c.buffer, halves := c.halves }) := by
      rw [copyWith, PollM.on, hpoll]
    dsimp only
    cases res with
    | ready count =>
      rw [PollM.bind_ready hon]
      exact hcopy
    | pending =>
      rw [PollM.bind_pending hon]
      exact hcopy
    | failed e =>
      rw [PollM.bind_failed hon]
      trivial
    | panicked => exact absurd hcopy id
  | shuttingDown count =>
    rw [hstate] at h
    -- all is written and flushed, so a shutdown is allowed whether it is done at once or not
    have hallowed (done : Bool) : d.halves.ledger.Allowed (.shutdown done) :=
      ⟨h.1.all, h.1.ended, h.1.flushed, h.2⟩
    have hon {res halves} (hpoll : Halves.pollShutdown d.halves = (res, halves)) :
        shutdownWriter d = (res, { d with halves := halves }) := by
      rw [shutdownWriter, PollM.on, hpoll]
    have hsettled (done : Bool) {shutdowns : List SyncEvent} :
        ({ d.halves with shutdowns := shutdowns }.record (.shutdown done)).Settled input size count :=
      .of_ledger (Halves.ledger_record _ _) (h.1.kept.lawful.concat (hallowed done)) h.1.kept.wire
        h.1.kept.input h.1.kept.drained h.1.all h.1.ended h.1.flushed h.1.count
    dsimp only
    obtain ⟨shutdowns, -, hpoll⟩ | ⟨shutdowns, -, hpoll⟩ | ⟨e, halves, hpoll⟩ :=
      pollShutdown_cases d.halves
    · rw [PollM.bind_ready (hon hpoll)]
      have honce := congrArg Tally.shutdowns (Halves.ledger_record d.halves (.shutdown true))
      exact ⟨hsettled true, honce.trans (congrArg (· + 1) h.2)⟩
    · rw [PollM.bind_pending (hon hpoll)]
      have hnone := congrArg Tally.shutdowns (Halves.ledger_record d.halves (.shutdown false))
      change Inv input size { d with halves := { d.halves with shutdowns := shutdowns }.record _ }
      unfold Inv
      rw [hstate]
      exact ⟨hsettled false, hnone.trans h.2⟩
    · rw [PollM.bind_failed (hon hpoll)]
      trivial
  | done count =>
    have hinv : d.Inv input size := by
      unfold Inv
      exact h
    exact ⟨hinv, hstate⟩

theorem transferOneDirection_spec : Triple (Inv input size) transferOneDirection
    (transferPost input size fun count d => d.Inv input size ∧ d.Finished count) :=
  Triple.loop transferRound_again transferRound_spec

theorem inv_new (size : Nat) (r w : Stream) : (new size r w).Inv r.reads.bytes size := by
  refine Copying.Inv.of_ledger rfl Lawful.nil rfl rfl (fun h => nomatch h) ?_ rfl ?_ rfl rfl
  · exact List.length_replicate
  · rw [Copying.unwritten_empty rfl]
    rfl

/-- Further polls of a direction that is done change nothing. -/
theorem Finished.stays {d : Direction} {count : Nat} (h : d.Finished count) :
    transferOneDirection d = (.ready count, d) := by
  have hround : transferRound d = (.ready (some count), d) := by
    unfold transferRound
    rw [PollM.get_bind, h]
    rfl
  exact PollM.loop_ready transferRound_again hround

theorem Inv.kept {d : Direction} (h : d.Inv input size) : d.halves.Kept input size := by
  unfold Inv at h
  split at h
  · exact Copying.Inv.kept h
  · exact h.1.kept
  · exact h.1.kept

/-- What a direction has done at any moment: its calls were allowed, so that what it has written
    is always a beginning of what it has read, and its streams have seen these calls. -/
structure Relays (input : Bytes) (d : Direction) : Prop where
  lawful : Lawful d.halves.calls
  beginning : ∀ past, past <+: d.halves.calls → (Tally.of past).written <+: (Tally.of past).read
  once : d.halves.ledger.shutdowns ≤ 1
  wire : d.halves.writer.wire = d.halves.ledger.written
  input : d.halves.ledger.read ++ d.halves.reader.bytes = input

/-- What a direction has done when it is done. -/
structure Delivered (input : Bytes) (size count : Nat) (d : Direction) : Prop where
  all : d.halves.writer.wire = d.halves.ledger.read
  shutdown : d.halves.ledger.shutdowns = 1
  count : count = d.halves.writer.wire.length
  complete : 0 < size → d.halves.writer.wire = input

theorem Inv.relays {d : Direction} (h : d.Inv input size) : d.Relays input where
  lawful := h.kept.lawful
  beginning _ hpast := (h.kept.lawful.of_prefix hpast).balanced.1
  once := h.kept.lawful.balanced.2
  wire := h.kept.wire
  input := h.kept.input

theorem Inv.delivered {d : Direction} {count : Nat} (h : d.Inv input size)
    (hfinished : d.Finished count) : d.Delivered input size count := by
  unfold Inv at h
  rw [hfinished] at h
  obtain ⟨hsettled, honce⟩ := h
  have hall : d.halves.writer.wire = d.halves.ledger.read := hsettled.kept.wire.trans hsettled.all
  refine ⟨hall, honce, ?_, fun hsize => ?_⟩
  · rw [hsettled.kept.wire]
    exact hsettled.count
  · rw [hall, ← hsettled.kept.input, hsettled.kept.drained hsettled.ended hsize, List.append_nil]

/-- A direction polled by itself. -/
def alone (d : Direction) : Nat → Direction
  | 0 => d
  | n + 1 => (transferOneDirection (d.alone n)).2

end Direction

end OneDirection

/-! ## Both directions -/

namespace CopyBidirectional

/-- What a poll without an error does: each direction goes on as if it were alone. -/
structure Advances (size : Nat) (inputA inputB : Bytes) (c : CopyBidirectional)
    (polled : Polled IoError (Nat × Nat) × CopyBidirectional) : Prop where
  aToB : polled.2.aToB = (Direction.transferOneDirection c.aToB).2
  bToA : polled.2.bToA = (Direction.transferOneDirection c.bToA).2
  invA : polled.2.aToB.Inv inputA size
  invB : polled.2.bToA.Inv inputB size
  safe : polled.1 ≠ .panicked
  finished : ∀ x y, polled.1 = .ready (x, y) →
    polled.2.aToB.Finished x ∧ polled.2.bToA.Finished y

theorem pollImpl_advances {size : Nat} {inputA inputB : Bytes} {c : CopyBidirectional}
    (ha : c.aToB.Inv inputA size) (hb : c.bToA.Inv inputB size)
    (hok : ∀ e, (pollImpl c).1 ≠ .failed e) : Advances size inputA inputB c (pollImpl c) := by
  have hpollA := Direction.transferOneDirection_spec _ ha
  have hpollB := Direction.transferOneDirection_spec _ hb
  unfold pollImpl at hok ⊢
  rcases hresA : Direction.transferOneDirection c.aToB with ⟨resA, a⟩
  rcases hresB : Direction.transferOneDirection c.bToA with ⟨resB, b⟩
  rw [hresA] at hpollA hok
  rw [hresB] at hpollB hok
  have hadvances {res : Polled IoError (Nat × Nat)} (hinvA : a.Inv inputA size)
      (hinvB : b.Inv inputB size) (safe : res ≠ .panicked)
      (finished : ∀ x y, res = .ready (x, y) → a.Finished x ∧ b.Finished y) :
      Advances size inputA inputB c (res, { aToB := a, bToA := b }) :=
    ⟨by rw [hresA], by rw [hresB], hinvA, hinvB, safe, finished⟩
  -- both directions are polled, whatever comes of the first
  cases resA with
  | failed e => exact absurd rfl (hok e)
  | panicked => exact absurd hpollA id
  | pending =>
    cases resB with
    | failed e => exact absurd rfl (hok e)
    | panicked => exact absurd hpollB id
    | pending => exact hadvances hpollA hpollB (fun h => nomatch h) (fun _ _ h => nomatch h)
    | ready y => exact hadvances hpollA hpollB.1 (fun h => nomatch h) (fun _ _ h => nomatch h)
  | ready x =>
    cases resB with
    | failed e => exact absurd rfl (hok e)
    | panicked => exact absurd hpollB id
    | pending => exact hadvances hpollA.1 hpollB (fun h => nomatch h) (fun _ _ h => nomatch h)
    | ready y =>
      refine hadvances hpollA.1 hpollB.1 (fun h => nomatch h) fun x' y' h => ?_
      cases h
      exact ⟨hpollA.2, hpollB.2⟩

/-- What holds after `n` polls without an error. -/
structure Stands (size : Nat) (a b : Stream) (n : Nat)
    (polled : Polled IoError (Nat × Nat) × CopyBidirectional) : Prop where
  aToB : polled.2.aToB = (Direction.new size a b).alone n
  bToA : polled.2.bToA = (Direction.new size b a).alone n
  invA : polled.2.aToB.Inv a.reads.bytes size
  invB : polled.2.bToA.Inv b.reads.bytes size
  safe : polled.1 ≠ .panicked
  finished : ∀ x y, polled.1 = .ready (x, y) →
    polled.2.aToB.Finished x ∧ polled.2.bToA.Finished y

theorem polled_stands (size : Nat) (a b : Stream) (n : Nat)
    (hok : ∀ e, ((new size a b).polled n).1 ≠ .failed e) :
    Stands size a b n ((new size a b).polled n) := by
  induction n with
  | zero =>
    exact ⟨rfl, rfl, Direction.inv_new size a b, Direction.inv_new size b a, (fun h => nomatch h),
      (fun _ _ h => nomatch h)⟩
  | succ n ih =>
    rw [polled] at hok ⊢
    rcases hpolled : (new size a b).polled n with ⟨res, c⟩
    rw [hpolled] at hok ih
    cases res with
    | failed e => exact absurd rfl (hok e)
    | panicked => exact absurd rfl (ih fun e h => nomatch h).safe
    | pending =>
      have hstands := ih fun e h => nomatch h
      have hadvances := pollImpl_advances hstands.invA hstands.invB hok
      refine ⟨hadvances.aToB.trans ?_, hadvances.bToA.trans ?_, hadvances.invA, hadvances.invB,
        hadvances.safe, hadvances.finished⟩
      · rw [hstands.aToB]
        rfl
      · rw [hstands.bToA]
        rfl
    | ready counts =>
      -- the future is not polled again, and alone nothing would happen either
      have hstands := ih fun e h => nomatch h
      obtain ⟨hfinishedA, hfinishedB⟩ := hstands.finished counts.1 counts.2 rfl
      have haloneA := hstands.aToB ▸ hfinishedA
      have haloneB := hstands.bToA ▸ hfinishedB
      refine ⟨?_, ?_, hstands.invA, hstands.invB, hstands.safe, hstands.finished⟩
      · exact hstands.aToB.trans (congrArg Prod.snd haloneA.stays).symm
      · exact hstands.bToA.trans (congrArg Prod.snd haloneB.stays).symm

end CopyBidirectional

end Shadowsocks.Tcp.Utils
