import Shadowsocks.Tcp.ChunkReader

/-! # What a chunk reader keeps over all its polls

A `Frame` says what a protocol knows of its reader before the head has opened and what it knows
afterwards, of the session key, of its own fields and of how many data chunks have opened.  Any
poll keeps that, whatever the peer sends and however the poll ends (`Frame.pollRead_kept`).
-/

namespace Shadowsocks.Tcp

open Shadowsocks.Lib

variable {K H X B ε : Type}

/-- Whether a payload has just opened, or what is left of one is in the buffer. -/
def ReadWorld.buffered (w : ReadWorld K H X B) : Nat :=
  match w.reader.state with
  | .bufferedData _ => 1
  | .head _ => 0
  | .readLength => 0
  | .readData _ => 0

/-- How many data chunks a poll opens: a round leaves a payload in the buffer, for the next round
    to deliver, exactly when it has opened one. -/
def chunksOpened (P : ChunkProtocol K H X B ε) (call : ReadCall B) (w : ReadWorld K H X B) : Nat :=
  PollM.entered (readRound P call.now call.room) ReadWorld.measure (readRound_again P)
    ReadWorld.buffered { w with context := call.context }

/-- The head has not opened yet. -/
structure ReadWorld.AtHead (h : H) (Before : ReadWorld K H X B → Prop) (w : ReadWorld K H X B) :
    Prop where
  state : w.reader.state = .head h
  handshaked : w.reader.hasHandshaked = false
  before : Before w

structure Frame (P : ChunkProtocol K H X B ε) where
  Before : ReadWorld K H X B → Prop
  After : Nat → K → X → Prop
  before_context : ∀ {w} context, Before w → Before { w with context := context }
  readHead : ∀ now h, Triple (ReadWorld.AtHead h Before) (P.readHead now h)
    { ready := fun e w => match e with
        | none => w.AtHead h Before
        | some _ => ∃ c, w.reader.cipher = some c ∧ After 0 c.key w.reader.rest
      pending := ReadWorld.AtHead h Before
      failed := fun _ => ReadWorld.AtHead h Before
      panicked := ReadWorld.AtHead h Before }
  afterData : ∀ {now n k x context result x' context'}, After n k x →
    P.afterData now x context = (result, x', context') → After (if result.isOk then n + 1 else n) k x'

namespace Frame

variable {P : ChunkProtocol K H X B ε} (F : Frame P)

/-- The head has opened, and `n` data chunks so far. -/
structure Running (n : Nat) (state : DecryptReadState H) (w : ReadWorld K H X B) : Prop where
  state : w.reader.state = state
  handshaked : w.reader.hasHandshaked = true
  after : ∃ c, w.reader.cipher = some c ∧ F.After n c.key w.reader.rest

/-- What holds between two polls. -/
inductive Kept (n : Nat) (w : ReadWorld K H X B) : Prop where
  | head {h} (hn : n = 0) (hhead : w.AtHead h F.Before)
  | body {state} (hrunning : F.Running n state w) (hstate : ∀ h, state ≠ .head h)
      (hbuffered : ∀ pos, state = .bufferedData pos → 0 < n)

variable {F}

theorem Running.fill {n : Nat} {state : DecryptReadState H} {w : ReadWorld K H X B}
    (h : F.Running n state w) (buffer : Bytes) (source : Source) :
    F.Running n state (w.fill buffer source) :=
  ⟨h.state, h.handshaked, h.after⟩

theorem Running.enter {n : Nat} {state : DecryptReadState H} {w : ReadWorld K H X B}
    (h : F.Running n state w) (state' : DecryptReadState H) :
    F.Running n state' (w.enter state') :=
  ⟨rfl, h.handshaked, h.after⟩

theorem Running.setState {n : Nat} {state : DecryptReadState H} {w : ReadWorld K H X B}
    (h : F.Running n state w) (state' : DecryptReadState H) :
    F.Running n state' (w.setState state') :=
  ⟨rfl, h.handshaked, h.after⟩

section Body

variable {n : Nat} {state : DecryptReadState H}

theorem pollReadExact_running (size : Nat) :
    Triple (F.Running n state) (pollReadExact size) (Post.always (F.Running n state)) := by
  unfold pollReadExact
  split
  · exact Triple.crash fun _ h => h
  · apply Triple.loop readExactRound_again
    intro w hw
    change Post.holds _ (readExactRound size w)
    unfold readExactRound
    split
    · rcases w.source.read (size - w.reader.buffer.length) with ⟨res, s⟩
      cases res with
      | pending => exact hw.fill w.reader.buffer s
      | failed e => exact hw.fill w.reader.buffer s
      | panicked => exact hw.fill w.reader.buffer s
      | ready bs =>
        cases bs with
        | nil =>
          dsimp only
          split
          · exact hw.fill w.reader.buffer s
          · exact hw.fill w.reader.buffer s
        | cons b bs => exact hw.fill (w.reader.buffer ++ (b :: bs)) s
    · exact hw

theorem decryptPacket_key (S : AeadScheme K) (c : Cipher K) (m : Bytes) :
    (c.decryptPacket S m).2.2.key = c.key := by
  unfold Cipher.decryptPacket
  split <;> rfl

theorem decryptBuffer_running (size : Nat) :
    Triple (F.Running n state) (decryptBuffer (ε := ε) P.scheme size)
      (Post.always (F.Running n state)) := by
  apply Triple.get
  intro w hw
  obtain ⟨c, hc, hafter⟩ := hw.after
  rw [hc]
  refine ⟨hw.state, hw.handshaked, _, rfl, ?_⟩
  rw [decryptPacket_key]
  exact hafter

theorem pollReadLength_running :
    Triple (F.Running n state) (pollReadLength P) (Post.always (F.Running n state)) := by
  apply Triple.always_bind
  · exact Triple.mapErr (pollReadExact_running _)
  · intro size
    split
    · exact Triple.pure fun _ h => h
    · apply Triple.always_bind (decryptBuffer_running _)
      intro opened
      split
      · apply Triple.get
        intro w hw
        cases P.checkLength (fromBigEndian (w.reader.buffer.take 2)) with
        | error e => exact hw
        | ok _ => exact hw
      · exact Triple.fail fun _ h => h

/-- A data chunk that opens is counted. -/
theorem pollReadData_running (now : Time) (size : Nat) :
    Triple (F.Running n state) (pollReadData P now size)
      { ready := fun _ => F.Running (n + 1) state, pending := F.Running n state
        failed := fun _ => F.Running n state, panicked := F.Running n state } := by
  apply Triple.bind (M := fun _ => F.Running n state)
  · exact Triple.mapErr (pollReadExact_running _)
  · intro read
    split
    · exact Triple.fail fun _ h => h
    · refine Triple.seq (decryptBuffer_running _) (fun opened => ?_) (fun _ h => h)
        (fun _ _ h => h) fun _ h => h
      split
      · apply Triple.get
        intro w hw
        obtain ⟨c, hc, hafter⟩ := hw.after
        rcases hdata : P.afterData now w.reader.rest w.context with ⟨result, x, context⟩
        have hkept := F.afterData hafter hdata
        cases result with
        | error e => exact ⟨hw.state, hw.handshaked, c, hc, hkept⟩
        | ok _ => exact ⟨hw.state, hw.handshaked, c, hc, hkept⟩
      · exact Triple.fail fun _ h => h

end Body

/-- What a poll comes to after `n` data chunks: bytes are delivered out of a payload only. -/
def pollPost (F : Frame P) (n : Nat) : Post (ReadWorld K H X B) ε Bytes :=
  { ready := fun out w => F.Kept n w ∧ (out ≠ [] → 0 < w.buffered), pending := F.Kept n
    failed := fun _ => F.Kept n, panicked := F.Kept n }

theorem readRound_kept (now : Time) (remaining n : Nat) :
    Triple (F.Kept n) (readRound P now remaining)
      ((F.pollPost n).onReady
        (Triple.roundClause (fun w => F.Kept (n + w.buffered) w) (F.pollPost n).ready)) := by
  apply Triple.get
  intro w hw
  cases hw with
  | @head h hn hhead =>
    subst hn
    rw [hhead.state]
    apply Triple.apply hhead
    apply Triple.seq (F.readHead now h)
    · intro e
      cases e with
      | none => exact Triple.pure fun w h => ⟨.head rfl h, fun hout => absurd rfl hout⟩
      | some e =>
        intro w ⟨c, hc, hafter⟩
        -- no data chunk has been opened yet
        have hrunning : F.Running 0 (.reading e) ((w.enter (.reading e)).setHandshaked) :=
          ⟨rfl, rfl, c, hc, hafter⟩
        cases e with
        | length => exact .body hrunning nofun nofun
        | data length => exact .body hrunning nofun nofun
    · exact fun w h => .head rfl h
    · exact fun e w h => .head rfl h
    · exact fun w h => .head rfl h
  | @body state hrunning hstate hbuffered =>
    rw [hrunning.state]
    cases state with
    | head h => exact absurd rfl (hstate h)
    | readLength =>
      have hkept : ∀ w, F.Running n .readLength w → F.Kept n w := fun w h => .body h nofun nofun
      apply Triple.apply hrunning
      apply Triple.seq (pollReadLength_running)
      · intro length
        cases length with
        | none => exact Triple.pure fun w h => ⟨hkept w h, fun hout => absurd rfl hout⟩
        | some length => exact fun w h => .body (h.enter (.readData length)) nofun nofun
      · exact hkept
      · exact fun e => hkept
      · exact hkept
    | readData length =>
      have hkept : ∀ w, F.Running n (.readData length) w → F.Kept n w :=
        fun w h => .body h nofun nofun
      apply Triple.apply hrunning
      apply Triple.seq (pollReadData_running now length)
      · -- one more chunk is opened, and its payload is buffered
        exact fun _ w h => .body (h.setState (.bufferedData 0)) nofun fun _ _ => Nat.succ_pos n
      · exact hkept
      · exact fun e => hkept
      · exact hkept
    | bufferedData pos =>
      have hpos := hbuffered pos rfl
      dsimp only
      split
      · exact ⟨.body (hrunning.setState (.bufferedData _)) nofun fun _ _ => hpos,
          fun _ => Nat.zero_lt_one⟩
      · exact .body (hrunning.enter .readLength) nofun nofun

/-- **Any poll** keeps what is known of the reader, and the count of its data chunks. -/
theorem pollRead_kept (call : ReadCall B) {n : Nat} {w : ReadWorld K H X B} (h : F.Kept n w) :
    (F.pollPost (n + chunksOpened P call w)).holds (pollRead P call w) := by
  refine Triple.loop_counted (readRound_again P) ReadWorld.buffered (R := F.pollPost)
    (fun n => readRound_kept call.now call.room n) ?_
  cases h with
  | head hn hhead =>
    exact .head hn ⟨hhead.state, hhead.handshaked, F.before_context call.context hhead.before⟩
  | body hrunning hstate hbuffered =>
    exact .body ⟨hrunning.state, hrunning.handshaked, hrunning.after⟩ hstate hbuffered

end Frame

end Shadowsocks.Tcp
