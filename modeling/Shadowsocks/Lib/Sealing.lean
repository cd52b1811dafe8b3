import Shadowsocks.Lib.Transport

/-! # Writers that seal packets

A `SealingWriter` takes what fits of the buffer that it is polled with, seals it as one packet
and writes that out, over as many polls as the transport needs.  The poll in which the last
byte goes out acknowledges what fits of the buffer it was given, whichever buffer the packet
was sealed from.

`Ledger` keeps book of a run of such polls.  The acknowledged bytes are the sealed ones exactly
if each packet was finished with a buffer that fits to the same bytes as the one it was begun
with (`Ledger.acknowledges_iff`).
-/

namespace Shadowsocks.Lib

/-- A writer with what it does: `Idle` holds between two packets and `Busy` while the last one is
    being written out, with the payloads sealed so far.  A poll that fails leaves the packet
    where it is. -/
structure SealingWriter (ι σ ε : Type) where
  poll : ι → Bytes → PollM σ ε Nat
  fit : Bytes → Bytes
  fit_prefix : ∀ buf, buf.take (fit buf).length = fit buf
  Idle : List Bytes → σ → Prop
  Busy : List Bytes → σ → Prop
  begins : ∀ {i buf payloads s}, Idle payloads s → Post.holds
    { ready := fun n s' => n = (fit buf).length ∧ Idle (payloads ++ [fit buf]) s'
      pending := Busy (payloads ++ [fit buf])
      failed := fun _ => Busy (payloads ++ [fit buf]) } (poll i buf s)
  resumes : ∀ {i buf payloads s}, Busy payloads s → Post.holds
    { ready := fun n s' => n = (fit buf).length ∧ Idle payloads s'
      pending := Busy payloads
      failed := fun _ => Busy payloads } (poll i buf s)

namespace SealingWriter

variable {ι σ ε : Type} (writer : SealingWriter ι σ ε)

/-- Somewhere in a run: between two packets or while one is being written out. -/
def Sealing (s : σ) : Prop := ∃ payloads, writer.Idle payloads s ∨ writer.Busy payloads s

/-- Any poll goes on with the run. -/
theorem poll_sealing (i : ι) (buf : Bytes) :
    Triple writer.Sealing (writer.poll i buf) (Post.always writer.Sealing) := by
  rintro s ⟨payloads, hidle | hbusy⟩
  · refine Post.mono (writer.begins hidle) ⟨?_, ?_, ?_, fun _ h => h.elim⟩
    · exact fun n t h => ⟨_, .inl h.2⟩
    · exact fun t h => ⟨_, .inr h⟩
    · exact fun e t h => ⟨_, .inr h⟩
  · refine Post.mono (writer.resumes hbusy) ⟨?_, ?_, ?_, fun _ h => h.elim⟩
    · exact fun n t h => ⟨_, .inl h.2⟩
    · exact fun t h => ⟨_, .inr h⟩
    · exact fun e t h => ⟨_, .inr h⟩

end SealingWriter

/-- A packet that has gone out: the buffers of the polls that began and that finished it, and
    how much the latter acknowledged. -/
structure Finished where
  began : Bytes
  finished : Bytes
  acknowledged : Nat
deriving DecidableEq

/-- A run of polls so far: the packets that have gone out, and the buffer of the poll that began
    the packet on its way. -/
structure Ledger (σ : Type) where
  state : σ
  begun : Option Bytes
  packets : List Finished

namespace Ledger

variable {ι σ ε : Type}

def start (s : σ) : Ledger σ := { state := s, begun := none, packets := [] }

/-- One poll.  Whatever buffer a poll is given, it begins a packet only if none is on its way. -/
def call (poll : ι → Bytes → PollM σ ε Nat) (l : Ledger σ) (i : ι) (buf : Bytes) : Ledger σ :=
  let began := l.begun.getD buf
  match poll i buf l.state with
  | (.ready n, s) =>
    { state := s, begun := none
      packets := l.packets ++ [{ began := began, finished := buf, acknowledged := n }] }
  | (.pending, s) => { l with state := s, begun := some began }
  | (.failed _, s) => { l with state := s, begun := some began }
  | (.panicked, s) => { l with state := s, begun := some began }

def run (poll : ι → Bytes → PollM σ ε Nat) (l : Ledger σ) (calls : List (ι × Bytes)) : Ledger σ :=
  calls.foldl (fun l c => l.call poll c.1 c.2) l

/-- What the polls have acknowledged, packet by packet. -/
def acknowledged (l : Ledger σ) : List Bytes :=
  l.packets.map fun p => p.finished.take p.acknowledged

/-- What was sealed into the packets that have gone out. -/
def sealedPayloads (fit : Bytes → Bytes) (l : Ledger σ) : List Bytes :=
  l.packets.map fun p => fit p.began

/-- After each packet, the bytes acknowledged by then are the bytes sealed by then. -/
def Acknowledges (fit : Bytes → Bytes) (l : Ledger σ) : Prop :=
  ∀ k, (l.acknowledged.take k).flatten = ((l.sealedPayloads fit).take k).flatten

/-- Each packet was finished with a buffer of which the same bytes fit. -/
def Repeats (fit : Bytes → Bytes) (l : Ledger σ) : Prop :=
  ∀ p ∈ l.packets, fit p.finished = fit p.began

variable (writer : SealingWriter ι σ ε)

/-- The books are right: the state is where the writer stands, and what was acknowledged is what
    fits of the buffers that finished the packets. -/
structure Balanced (l : Ledger σ) : Prop where
  state : match l.begun with
    | none => writer.Idle (l.sealedPayloads writer.fit) l.state
    | some began => writer.Busy (l.sealedPayloads writer.fit ++ [writer.fit began]) l.state
  acknowledged : ∀ p ∈ l.packets, p.acknowledged = (writer.fit p.finished).length

variable {writer}

theorem balanced_start {s : σ} (h : writer.Idle [] s) : Balanced writer (start s) :=
  ⟨h, fun _ hp => nomatch hp⟩

/-- A poll keeps the books right, whatever buffer it is given. -/
theorem Balanced.call {l : Ledger σ} (h : Balanced writer l) (i : ι) (buf : Bytes) :
    Balanced writer (l.call writer.poll i buf) := by
  have hpost : Post.holds
      { ready := fun n s' => n = (writer.fit buf).length ∧
          writer.Idle (l.sealedPayloads writer.fit ++ [writer.fit (l.begun.getD buf)]) s'
        pending := writer.Busy (l.sealedPayloads writer.fit ++ [writer.fit (l.begun.getD buf)])
        failed := fun _ =>
          writer.Busy (l.sealedPayloads writer.fit ++ [writer.fit (l.begun.getD buf)]) }
      (writer.poll i buf l.state) := by
    have hstate := h.state
    -- a packet is begun, or the one that was begun is gone on with
    cases hbegun : l.begun with
    | none =>
      rw [hbegun] at hstate
      exact writer.begins hstate
    | some began =>
      rw [hbegun] at hstate
      exact writer.resumes hstate
  rcases hp : writer.poll i buf l.state with ⟨res, s⟩
  rw [hp] at hpost
  unfold Ledger.call
  rw [hp]
  cases res with
  | ready n =>
    obtain ⟨rfl, hidle⟩ := hpost
    constructor
    case state => simpa [sealedPayloads] using hidle
    case acknowledged =>
      intro p hmem
      obtain hold | hnew := List.mem_append.1 hmem
      · exact h.acknowledged p hold
      · obtain rfl := List.mem_singleton.1 hnew
        rfl
  | pending => exact ⟨hpost, h.acknowledged⟩
  | failed e => exact ⟨hpost, h.acknowledged⟩
  | panicked => exact absurd hpost id

theorem Balanced.run {l : Ledger σ} (h : Balanced writer l) (calls : List (ι × Bytes)) :
    Balanced writer (l.run writer.poll calls) := by
  induction calls generalizing l with
  | nil => exact h
  | cons c calls ih => exact ih (h.call c.1 c.2)

/-- Two lists agree in all their beginnings, flattened, exactly if they agree. -/
theorem flatten_take_eq_iff {α : Type} : ∀ {xs ys : List (List α)}, xs.length = ys.length →
    ((∀ k, (xs.take k).flatten = (ys.take k).flatten) ↔ xs = ys)
  | [], [], _ => by simp
  | x :: xs, y :: ys, hlen => by
    have ih := flatten_take_eq_iff (Nat.succ.inj hlen : xs.length = ys.length)
    constructor
    · intro h
      obtain rfl : x = y := by simpa using h 1
      rw [ih.1 fun k => by simpa using h (k + 1)]
    · rintro h k
      rw [h]

/-- **Acknowledged and sealed.** In a run of polls with any buffers, the acknowledged bytes are
    the sealed ones exactly if each packet was finished with a buffer of which the same bytes
    fit as of the one that it was begun with. -/
theorem Balanced.acknowledges_iff {l : Ledger σ} (h : Balanced writer l) :
    l.Acknowledges writer.fit ↔ l.Repeats writer.fit := by
  have hlen : l.acknowledged.length = (l.sealedPayloads writer.fit).length := by
    rw [Ledger.acknowledged, sealedPayloads, List.length_map, List.length_map]
  rw [Acknowledges, flatten_take_eq_iff hlen]
  unfold Ledger.acknowledged sealedPayloads Repeats
  rw [List.map_inj_left]
  refine forall₂_congr fun p hp => ?_
  rw [h.acknowledged p hp, writer.fit_prefix]

end Ledger

end Shadowsocks.Lib
