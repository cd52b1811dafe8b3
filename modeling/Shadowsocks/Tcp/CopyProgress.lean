import Shadowsocks.Tcp.CopyRuns

/-! # Progress of the bidirectional copy

A poll is pending only where a stream was, its last call being one that was held up.  When the
streams take all that comes, each poll that is pending uses up one of the times that they are, and
so a copy that has been polled more often than that is done (`copy_relays`).
-/

namespace Shadowsocks.Tcp.Utils

open Shadowsocks.Lib Shadowsocks.Lib.Relaying

/-! ## What holds a poll up -/

namespace Halves

/-- A call of a stream that was pending. -/
def Waits : Call UInt8 → Prop
  | .read got => got = none
  | .write _ taken => taken = none
  | .flush done => done = false
  | .shutdown done => done = false

/-- The last call was pending. -/
def HeldUp (h : Halves) : Prop := ∃ c, h.calls.getLast? = some c ∧ Waits c

theorem heldUp_record (h : Halves) {c : Call UInt8} (hc : Waits c) : (h.record c).HeldUp :=
  ⟨c, List.getLast?_concat, hc⟩

/-- How often the streams will still be pending. -/
def waits (h : Halves) : Nat :=
  h.reader.pendings + h.writer.schedule.count .pending + h.flushes.count .pending +
    h.shutdowns.count .pending

end Halves

/-- How many of the polls of a writer will take something. -/
def accepts : List WriteEvent → Nat
  | [] => 0
  | .accept _ :: es => accepts es + 1
  | .pending :: es => accepts es
  | .fail _ :: es => accepts es

theorem accepts_of_ready {buf : Bytes} {s s' : Sink} {n : Nat}
    (h : s.write buf = (.ready n, s')) :
    accepts s.schedule = accepts s'.schedule + 1 ∧
      s'.schedule.count .pending = s.schedule.count .pending := by
  unfold Sink.write at h
  split at h <;> cases h
  next k es hs =>
    rw [hs]
    exact ⟨rfl, (List.count_cons_of_ne (by simp)).symm⟩

theorem accepts_of_pending {buf : Bytes} {s s' : Sink} (h : s.write buf = (.pending, s'))
    (hsome : 0 < accepts s.schedule) :
    accepts s'.schedule = accepts s.schedule ∧
      s.schedule.count .pending = s'.schedule.count .pending + 1 := by
  unfold Sink.write at h
  split at h <;> cases h
  · next hs =>
    rw [hs] at hsome
    exact absurd hsome (Nat.lt_irrefl 0)
  · next es hs =>
    rw [hs]
    exact ⟨rfl, List.count_cons_self⟩

theorem SyncEvent.Waited.ready {before after : List SyncEvent} (h : Waited before after)
    (hready : .ready ∈ before) :
    .ready ∈ after ∧ before.count .pending = after.count .pending + 1 := by
  obtain ⟨rfl, -⟩ | rfl := h
  · exact nomatch hready
  · exact ⟨(List.mem_cons.1 hready).resolve_left (fun h => nomatch h), List.count_cons_self⟩

/-! ## Copying one way -/

namespace Copying

/-- The writer takes all that is still to be written, and can be flushed and shut down. -/
structure Supplied (c : Copying) : Prop where
  accepts : c.buffer.unwritten.length + c.halves.reader.bytes.length ≤
    accepts c.halves.writer.schedule
  flush : .ready ∈ c.halves.flushes
  shutdown : .ready ∈ c.halves.shutdowns

/-- At most `w` polls are still to be pending, if all is supplied. -/
def Going (takes : Prop) (w : Nat) (c : Copying) : Prop :=
  takes → c.Supplied ∧ c.halves.waits ≤ w

/-- One of the polls was pending. -/
def Waiting (takes : Prop) (w : Nat) (c : Copying) : Prop :=
  c.halves.HeldUp ∧ (takes → c.Supplied ∧ c.halves.waits < w)

def goingPost {α : Type} (takes : Prop) (w : Nat) (ready : α → Copying → Prop) :
    Post Copying IoError α :=
  { ready := ready, pending := Waiting takes w, failed := fun _ _ => True
    panicked := fun _ => True }

variable {takes : Prop} {w : Nat}

theorem fill_going :
    Triple (Going takes w) fill (goingPost takes w fun _ => Going takes w) := by
  intro c h
  unfold fill
  rw [PollM.get_bind]
  split
  · next hempty =>
    rcases hread : c.halves.reader.read c.buffer.buf.length with ⟨res, reader⟩
    cases res with
    | ready bs =>
      rw [PollM.bind_ready (onHalves_eq (by rw [Halves.pollRead, hread]))]
      intro ht
      obtain ⟨hsupplied, hwaits⟩ := h ht
      obtain ⟨hbytes, -, hpendings, -, -⟩ := Source.read_ready hread
      refine ⟨⟨?_, hsupplied.flush, hsupplied.shutdown⟩, ?_⟩
      · have haccepts := hsupplied.accepts
        rw [hbytes, unwritten_empty hempty.1, List.length_append, List.length_nil,
          Nat.zero_add] at haccepts
        change (c.buffer.filled bs).unwritten.length + reader.bytes.length ≤ _
        rw [unwritten_filled _ hempty.1]
        exact haccepts
      · change reader.pendings + _ + _ + _ ≤ w
        rw [hpendings]
        exact hwaits
    | pending =>
      rw [PollM.bind_pending (onHalves_eq (by rw [Halves.pollRead, hread]))]
      refine ⟨Halves.heldUp_record _ rfl, fun ht => ?_⟩
      obtain ⟨hsupplied, hwaits⟩ := h ht
      -- the reader has used up a wait, and no bytes
      obtain ⟨hbytes, hpendings, -⟩ := Source.read_pending hread
      refine ⟨⟨?_, hsupplied.flush, hsupplied.shutdown⟩, ?_⟩
      · have haccepts := hsupplied.accepts
        rw [hbytes] at haccepts
        exact haccepts
      · unfold Halves.waits at hwaits
        change reader.pendings + _ + _ + _ < w
        rw [hpendings] at hwaits
        dsimp only [Halves.record]
        omega
    | failed e =>
      rw [PollM.bind_failed (onHalves_eq (by rw [Halves.pollRead, hread]))]
      trivial
    | panicked => exact absurd hread Source.read_ne_panicked
  · exact h

theorem writeRound_going : Triple (Going takes w) writeRound
    (goingPost takes w (Triple.roundClause (Going takes w) fun _ => Going takes w)) := by
  intro c h
  unfold writeRound
  rw [PollM.get_bind]
  split
  · next hlt =>
    obtain ⟨i, writer, hwrite, hpoll⟩ | ⟨writer, hwrite, hpoll⟩ | ⟨e, halves, hpoll⟩ :=
      pollWrite_cases c.buffer.unwritten c.halves
    · rw [PollM.bind_ready (onHalves_eq hpoll)]
      split
      · trivial
      · next hsome =>
        intro ht
        obtain ⟨hsupplied, hwaits⟩ := h ht
        obtain ⟨haccept, hcount⟩ := accepts_of_ready hwrite
        refine ⟨⟨?_, hsupplied.flush, hsupplied.shutdown⟩, ?_⟩
        · have haccepts := hsupplied.accepts
          rw [haccept] at haccepts
          change (c.buffer.advanced i hlt).unwritten.length + c.halves.reader.bytes.length ≤
            accepts writer.schedule
          rw [unwritten_advanced, List.length_drop]
          have hi := i.2
          omega
        · change c.halves.reader.pendings + writer.schedule.count .pending + _ + _ ≤ w
          rw [hcount]
          exact hwaits
    · rw [PollM.bind_pending (onHalves_eq hpoll)]
      refine ⟨Halves.heldUp_record _ rfl, fun ht => ?_⟩
      obtain ⟨hsupplied, hwaits⟩ := h ht
      have haccepts := hsupplied.accepts
      -- there is something to write, so the writer was asked and has used up a wait
      have hbuffered : 0 < c.buffer.unwritten.length := by
        rw [c.buffer.unwritten_length]
        omega
      obtain ⟨haccept, hcount⟩ := accepts_of_pending hwrite (by omega)
      refine ⟨⟨?_, hsupplied.flush, hsupplied.shutdown⟩, ?_⟩
      · rw [← haccept] at haccepts
        exact haccepts
      · unfold Halves.waits at hwaits
        change c.halves.reader.pendings + writer.schedule.count .pending + _ + _ < w
        dsimp only [Halves.record]
        omega
    · rw [PollM.bind_failed (onHalves_eq hpoll)]
      trivial
  · exact h

theorem writeOut_going :
    Triple (Going takes w) writeOut (goingPost takes w fun _ => Going takes w) :=
  Triple.loop (fun h => (writeRound_again h).1) writeRound_going

/-- All is copied, and the writer can be shut down. -/
def Copied (takes : Prop) (w : Nat) (h : Halves) : Prop :=
  takes → .ready ∈ h.shutdowns ∧ h.waits ≤ w

theorem copyRound_going : Triple (Going takes w) copyRound
    (goingPost takes w
      (Triple.roundClause (Going takes w) fun _ c => Copied takes w c.halves)) := by
  refine Triple.seq fill_going (fun _ => ?_) (fun _ h => h) (fun _ _ h => h) (fun _ h => h)
  refine Triple.seq writeOut_going (fun _ => ?_) (fun _ h => h) (fun _ _ h => h) (fun _ h => h)
  intro c h
  rw [PollM.get_bind]
  split
  · obtain ⟨flushes, hready, hpoll⟩ | ⟨flushes, hwaited, hpoll⟩ | ⟨e, halves, hpoll⟩ :=
      pollFlush_cases c.halves
    · rw [PollM.bind_ready (onHalves_eq hpoll)]
      intro ht
      obtain ⟨hsupplied, hwaits⟩ := h ht
      refine ⟨hsupplied.shutdown, ?_⟩
      unfold Halves.waits at hwaits
      rw [hready, List.count_cons_of_ne (by simp)] at hwaits
      exact hwaits
    · rw [PollM.bind_pending (onHalves_eq hpoll)]
      refine ⟨Halves.heldUp_record _ rfl, fun ht => ?_⟩
      obtain ⟨hsupplied, hwaits⟩ := h ht
      obtain ⟨hflush, hcount⟩ := hwaited.ready hsupplied.flush
      refine ⟨⟨hsupplied.accepts, hflush, hsupplied.shutdown⟩, ?_⟩
      unfold Halves.waits at hwaits ⊢
      dsimp only [Halves.record]
      omega
    · rw [PollM.bind_failed (onHalves_eq hpoll)]
      trivial
  · exact h

theorem pollCopy_going : Triple (Going takes w) pollCopy
    (goingPost takes w fun _ c => Copied takes w c.halves) :=
  Triple.loop copyRound_again copyRound_going

end Copying

/-! ## One direction -/

namespace Direction

/-- What a direction still needs of its writer is supplied. -/
def Supplied (d : Direction) : Prop :=
  match d.state with
  | .running buf => Copying.Supplied { buffer := buf, halves := d.halves }
  | .shuttingDown _ => .ready ∈ d.halves.shutdowns
  | .done _ => True

def Going (takes : Prop) (w : Nat) (d : Direction) : Prop :=
  takes → d.Supplied ∧ d.halves.waits ≤ w

def Waiting (takes : Prop) (w : Nat) (d : Direction) : Prop :=
  d.halves.HeldUp ∧ (takes → d.Supplied ∧ d.halves.waits < w)

def goingPost {α : Type} (takes : Prop) (w : Nat) (ready : α → Direction → Prop) :
    Post Direction IoError α :=
  { ready := ready, pending := Waiting takes w, failed := fun _ _ => True
    panicked := fun _ => True }

variable {takes : Prop} {w : Nat}

theorem transferRound_going : Triple (Going takes w) transferRound
    (goingPost takes w (Triple.roundClause (Going takes w) fun _ => Going takes w)) := by
  intro d h
  unfold transferRound
  rw [PollM.get_bind]
  unfold Going Supplied at h
  cases hstate : d.state with
  | running buf =>
    rw [hstate] at h
    have hcopy := Copying.pollCopy_going { buffer := buf, halves := d.halves } h
    rcases hpoll : Copying.pollCopy { buffer := buf, halves := d.halves } with ⟨res, c⟩
    rw [hpoll] at hcopy
    have hon : copyWith buf d = (res, { state := .running c.buffer, halves := c.halves }) := by
      rw [copyWith, PollM.on, hpoll]
    dsimp only
    cases res with
    | ready count =>
      rw [PollM.bind_ready hon]
      exact hcopy
    | pending =>
      rw [PollM.bind_pending hon]
      exact hcopy
    | failed e =>
      rw [PollM.bind_failed hon]
      trivial
    | panicked =>
      rw [PollM.bind_panicked hon]
      trivial
  | shuttingDown count =>
    rw [hstate] at h
    have hon {res halves} (hpoll : Halves.pollShutdown d.halves = (res, halves)) :
        shutdownWriter d = (res, { d with halves := halves }) := by
      rw [shutdownWriter, PollM.on, hpoll]
    dsimp only
    obtain ⟨shutdowns, hready, hpoll⟩ | ⟨shutdowns, hwaited, hpoll⟩ | ⟨e, halves, hpoll⟩ :=
      pollShutdown_cases d.halves
    · rw [PollM.bind_ready (hon hpoll)]
      intro ht
      have hwaits := (h ht).2
      refine ⟨trivial, ?_⟩
      unfold Halves.waits at hwaits
      rw [hready, List.count_cons_of_ne (by simp)] at hwaits
      exact hwaits
    · rw [PollM.bind_pending (hon hpoll)]
      refine ⟨Halves.heldUp_record _ rfl, fun ht => ?_⟩
      -- the writer has waited once more
      obtain ⟨hsupplied, hwaits⟩ := h ht
      obtain ⟨hshutdown, hcount⟩ := hwaited.ready hsupplied
      refine ⟨?_, ?_⟩
      · unfold Supplied
        dsimp only
        rw [hstate]
        exact hshutdown
      · unfold Halves.waits at hwaits ⊢
        dsimp only [Halves.record]
        omega
    · rw [PollM.bind_failed (hon hpoll)]
      trivial
  | done count =>
    exact fun ht => ⟨by unfold Supplied; rw [hstate]; trivial, (h ht).2⟩

/-- A poll of a direction that is pending ends with a call that was, and uses up one of the times
    that its streams are. -/
theorem transferOneDirection_going : Triple (Going takes w) transferOneDirection
    (goingPost takes w fun _ => Going takes w) :=
  Triple.loop transferRound_again transferRound_going

end Direction

/-! ## Both directions -/

/-- How often the polls of a stream are pending. -/
def Stream.waits (s : Stream) : Nat :=
  s.reads.pendings + s.writes.count .pending + s.flushes.count .pending +
    s.shutdowns.count .pending

/-- A stream that takes `n` bytes, and can be flushed and shut down. -/
structure Stream.Takes (n : Nat) (s : Stream) : Prop where
  accepts : n ≤ accepts s.writes
  flush : .ready ∈ s.flushes
  shutdown : .ready ∈ s.shutdowns

theorem Direction.supplied_new {r w : Stream} (size : Nat) (h : w.Takes r.reads.bytes.length) :
    (Direction.new size r w).Supplied := by
  refine ⟨?_, h.flush, h.shutdown⟩
  rw [Copying.unwritten_empty rfl, List.length_nil, Nat.zero_add]
  exact h.accepts

namespace CopyBidirectional

/-- How often the streams will still be pending. -/
def waits (c : CopyBidirectional) : Nat := c.aToB.halves.waits + c.bToA.halves.waits

def Supplied (c : CopyBidirectional) : Prop := c.aToB.Supplied ∧ c.bToA.Supplied

def HeldUp (c : CopyBidirectional) : Prop := c.aToB.halves.HeldUp ∨ c.bToA.halves.HeldUp

theorem waits_new (size : Nat) (a b : Stream) : (new size a b).waits = a.waits + b.waits := by
  unfold waits Halves.waits Stream.waits new Direction.new
  dsimp only
  omega

theorem pollImpl_pending {takes : Prop} {c c' : CopyBidirectional}
    (hsupplied : takes → c.Supplied) (h : pollImpl c = (.pending, c')) :
    c'.HeldUp ∧ (takes → c'.Supplied ∧ c'.waits < c.waits) := by
  have hpollA := @Direction.transferOneDirection_going takes _ c.aToB
    fun ht => ⟨(hsupplied ht).1, Nat.le_refl _⟩
  have hpollB := @Direction.transferOneDirection_going takes _ c.bToA
    fun ht => ⟨(hsupplied ht).2, Nat.le_refl _⟩
  unfold pollImpl at h
  rcases hresA : Direction.transferOneDirection c.aToB with ⟨resA, a⟩
  rcases hresB : Direction.transferOneDirection c.bToA with ⟨resB, b⟩
  rw [hresA] at hpollA h
  rw [hresB] at hpollB h
  unfold waits
  -- one of the directions is pending, and has used up a wait
  cases resA with
  | failed e => cases h
  | panicked => cases h
  | pending =>
    cases resB with
    | failed e => cases h
    | panicked => cases h
    | pending =>
      cases h
      refine ⟨.inl hpollA.1, fun ht => ⟨⟨(hpollA.2 ht).1, (hpollB.2 ht).1⟩, ?_⟩⟩
      exact Nat.add_lt_add (hpollA.2 ht).2 (hpollB.2 ht).2
    | ready y =>
      cases h
      refine ⟨.inl hpollA.1, fun ht => ⟨⟨(hpollA.2 ht).1, (hpollB ht).1⟩, ?_⟩⟩
      exact Nat.add_lt_add_of_lt_of_le (hpollA.2 ht).2 (hpollB ht).2
  | ready x =>
    cases resB with
    | failed e => cases h
    | panicked => cases h
    | pending =>
      cases h
      refine ⟨.inr hpollB.1, fun ht => ⟨⟨(hpollA ht).1, (hpollB.2 ht).1⟩, ?_⟩⟩
      exact Nat.add_lt_add_of_le_of_lt (hpollA ht).2 (hpollB.2 ht).2
    | ready y => cases h

/-- A copy that is still pending has been held up at its last poll, and, if all is supplied, no
    more often than its streams are pending. -/
theorem polled_pending (takes : Prop) {c c' : CopyBidirectional} {n : Nat}
    (hsupplied : takes → c.Supplied) (h : c.polled n = (.pending, c')) :
    (n ≠ 0 → c'.HeldUp) ∧ (takes → c'.Supplied ∧ c'.waits + n ≤ c.waits) := by
  induction n generalizing c' with
  | zero =>
    cases h
    exact ⟨fun hne => absurd rfl hne, fun ht => ⟨hsupplied ht, Nat.le_refl _⟩⟩
  | succ n ih =>
    rw [polled] at h
    rcases hpolled : c.polled n with ⟨res, c₁⟩
    rw [hpolled] at h
    cases res with
    | pending =>
      obtain ⟨-, hsofar⟩ := ih hpolled
      obtain ⟨hheld, hless⟩ := pollImpl_pending (fun ht => (hsofar ht).1) h
      refine ⟨fun _ => hheld, fun ht => ⟨(hless ht).1, ?_⟩⟩
      have hbefore := (hsofar ht).2
      have hafter := (hless ht).2
      omega
    | ready counts => cases h
    | failed e => cases h
    | panicked => cases h

end CopyBidirectional

/-- **The bidirectional copy.** As long as no poll has failed, each direction relays, as it would
    alone, and the counts that are returned are of all that was read.  It is pending only because
    one of the streams is; and when the streams take all that comes, it is done after more polls
    than they are pending. -/
theorem copy_relays (size : Nat) (a b : Stream) (n : Nat)
    (hok : ∀ e, ((CopyBidirectional.new size a b).polled n).1 ≠ .failed e) :
    let res := ((CopyBidirectional.new size a b).polled n).1
    let c := ((CopyBidirectional.new size a b).polled n).2
    c.aToB.Relays a.reads.bytes ∧ c.bToA.Relays b.reads.bytes ∧
      c.aToB = (Direction.new size a b).alone n ∧ c.bToA = (Direction.new size b a).alone n ∧
      res ≠ .panicked ∧
      (∀ x y, res = .ready (x, y) →
        c.aToB.Delivered a.reads.bytes size x ∧ c.bToA.Delivered b.reads.bytes size y) ∧
      (res = .pending → n ≠ 0 → c.HeldUp) ∧
      (a.Takes b.reads.bytes.length → b.Takes a.reads.bytes.length → a.waits + b.waits < n →
        ∃ x y, res = .ready (x, y)) := by
  have hstands := CopyBidirectional.polled_stands size a b n hok
  refine ⟨hstands.invA.relays, hstands.invB.relays, hstands.aToB, hstands.bToA, hstands.safe,
    fun x y h => ?_, fun h => ?_, fun hta htb hpolls => ?_⟩
  · obtain ⟨hfinishedA, hfinishedB⟩ := hstands.finished x y h
    exact ⟨hstands.invA.delivered hfinishedA, hstands.invB.delivered hfinishedB⟩
  · exact (CopyBidirectional.polled_pending False (fun h => nomatch h)
      (Prod.ext h rfl)).1
  · rcases hres : (CopyBidirectional.new size a b).polled n with ⟨res, c⟩
    rw [hres] at hok hstands
    cases res with
    | ready counts => exact ⟨counts.1, counts.2, rfl⟩
    | failed e => exact absurd rfl (hok e)
    | panicked => exact absurd rfl hstands.safe
    | pending =>
      -- every poll so far has used up one of the times that the streams are pending
      have hsupplied : (CopyBidirectional.new size a b).Supplied :=
        ⟨Direction.supplied_new size htb, Direction.supplied_new size hta⟩
      have hbound := ((CopyBidirectional.polled_pending True (fun _ => hsupplied)
        hres).2 trivial).2
      rw [CopyBidirectional.waits_new] at hbound
      omega

/-- A stream that stops now and then, and takes what it is given slowly. -/
def haltingStream : Stream :=
  { reads := [.data 1 [2, 3], .pending, .data 4 []], writes := [.accept 1]
    flushes := [.pending, .ready], shutdowns := [.ready] }

def slowStream : Stream :=
  { reads := [.data 9 []], writes := [.accept 2, .pending, .accept 5, .accept 5, .accept 5]
    flushes := [.ready], shutdowns := [.pending, .ready] }

/-- The streams are pending four times, so five polls are enough: all four bytes are there, and the
    one of the other direction. -/
theorem copy_relays_sample :
    let c := ((CopyBidirectional.new 4 haltingStream slowStream).polled 5).2
    c.aToB.Relays [1, 2, 3, 4] ∧ c.aToB.Delivered [1, 2, 3, 4] 4 4 ∧ c.bToA.Delivered [9] 4 1 ∧
      ∃ x y, ((CopyBidirectional.new 4 haltingStream slowStream).polled 5).1 = .ready (x, y) := by
  have hready : ((CopyBidirectional.new 4 haltingStream slowStream).polled 5).1 = .ready (4, 1) := by
    decide +kernel
  obtain ⟨hrelays, -, -, -, -, hdelivered, -, hdone⟩ :=
    copy_relays 4 haltingStream slowStream 5 fun e hfailed => nomatch hready.symm.trans hfailed
  obtain ⟨hfour, hone⟩ := hdelivered 4 1 hready
  exact ⟨hrelays, hfour, hone, hdone ⟨by decide, by decide, by decide⟩
    ⟨by decide, by decide, by decide⟩ (by decide)⟩

end Shadowsocks.Tcp.Utils
