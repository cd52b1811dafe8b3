import Shadowsocks.Lib.Wire
import Shadowsocks.Lib.Poll

/-! # Polled byte streams

The two ends of a transport as a poll function sees them.  A `Source` is what
the peer's bytes look like from here: how they are cut into reads, where a poll
finds nothing yet, where the transport breaks; a source that has run out is at
end of file.  A `Sink` is a schedule of how much each write call takes, with the
bytes already taken; a sink whose schedule has run out stays pending.

`receive` polls a reader with one buffer after the other and `performs` polls a
writer with one buffer after the other, where a pending call must be repeated
with the same buffer.
-/

namespace Shadowsocks.Lib

/-! ## Reading side -/

/-- An error of the transport: an early end of file, or anything else. -/
inductive IoError where
  | unexpectedEof
  | other (text : String)
deriving DecidableEq, Repr

/-- What one poll of the transport finds. -/
inductive ReadEvent where
  | pending
  | data (b : UInt8) (bs : Bytes)
  | fail (e : IoError)
deriving DecidableEq, Repr

/-- What is still to come from the peer. -/
abbrev Source := List ReadEvent

namespace Source

/-- The bytes still to come. -/
def bytes : Source → Bytes
  | [] => []
  | .data b bs :: s => (b :: bs) ++ bytes s
  | .pending :: s => bytes s
  | .fail _ :: s => bytes s

/-- How many polls will still find nothing. -/
def pendings : Source → Nat
  | [] => 0
  | .pending :: s => pendings s + 1
  | .data _ _ :: s => pendings s
  | .fail _ :: s => pendings s

/-- How many polls will still find the transport broken. -/
def failures : Source → Nat
  | [] => 0
  | .fail _ :: s => failures s + 1
  | .data _ _ :: s => failures s
  | .pending :: s => failures s

/-- Puts bytes back in front. -/
def unread : Bytes → Source → Source
  | [], s => s
  | b :: bs, s => .data b bs :: s

/-- Reads at most `cap` bytes; no bytes mean end of file. -/
def read (cap : Nat) : Source → Polled IoError Bytes × Source
  | [] => (.ready [], [])
  | .pending :: s => (.pending, s)
  | .fail e :: s => (.failed e, s)
  | .data b bs :: s => (.ready ((b :: bs).take cap), unread ((b :: bs).drop cap) s)

@[simp] theorem bytes_unread (bs : Bytes) (s : Source) : (unread bs s).bytes = bs ++ s.bytes := by
  cases bs <;> rfl

@[simp] theorem pendings_unread (bs : Bytes) (s : Source) :
    (unread bs s).pendings = s.pendings := by
  cases bs <;> rfl

@[simp] theorem failures_unread (bs : Bytes) (s : Source) :
    (unread bs s).failures = s.failures := by
  cases bs <;> rfl

/-- What a read that is ready does: it takes the next bytes, at most `cap`, and
    takes none only at the end of the source. -/
theorem read_ready {cap : Nat} {s s' : Source} {bs : Bytes} (h : s.read cap = (.ready bs, s')) :
    s.bytes = bs ++ s'.bytes ∧ bs.length ≤ cap ∧ s'.pendings = s.pendings ∧
      s'.failures = s.failures ∧ (0 < cap → bs = [] → s = [] ∧ s' = []) := by
  cases s with
  | nil =>
    simp only [read, Prod.mk.injEq, Polled.ready.injEq] at h
    obtain ⟨rfl, rfl⟩ := h
    exact ⟨rfl, Nat.zero_le _, rfl, rfl, fun _ _ => ⟨rfl, rfl⟩⟩
  | cons ev s =>
    cases ev with
    | pending => simp [read] at h
    | fail e => simp [read] at h
    | data b rest =>
      simp only [read, Prod.mk.injEq, Polled.ready.injEq] at h
      obtain ⟨rfl, rfl⟩ := h
      refine ⟨?_, List.length_take_le _ _, by simp [pendings], by simp [failures], ?_⟩
      · rw [bytes_unread, ← List.append_assoc, List.take_append_drop]
        rfl
      · intro hcap hnil
        have hlen := congrArg List.length hnil
        simp only [List.length_take, List.length_cons, List.length_nil] at hlen
        omega

/-- What a read that is pending does: it uses up one pending poll. -/
theorem read_pending {cap : Nat} {s s' : Source} (h : s.read cap = (.pending, s')) :
    s.bytes = s'.bytes ∧ s.pendings = s'.pendings + 1 ∧ s.failures = s'.failures := by
  cases s with
  | nil => simp [read] at h
  | cons ev s =>
    cases ev <;> simp_all [read, bytes, pendings, failures]

/-- A read fails only where the transport is broken. -/
theorem read_failed {cap : Nat} {s s' : Source} {e : IoError}
    (h : s.read cap = (.failed e, s')) :
    s.bytes = s'.bytes ∧ s.pendings = s'.pendings ∧ s.failures = s'.failures + 1 := by
  cases s with
  | nil => simp [read] at h
  | cons ev s =>
    cases ev <;> simp_all [read, bytes, pendings, failures]

/-- The first bytes arrive at least `n` at once. -/
def OpensWith (n : Nat) : Source → Prop
  | .data _ bs :: _ => n ≤ bs.length + 1
  | .pending :: s => OpensWith n s
  | .fail _ :: _ => False
  | [] => False

/-- Which of the polls gets the first bytes. -/
def firstRead {ι : Type} : Source → List ι → Option ι
  | .pending :: s, _ :: is => firstRead s is
  | .pending :: _, [] => none
  | _, is => is.head?

theorem read_ne_panicked {cap : Nat} {s s' : Source} : s.read cap ≠ (.panicked, s') := by
  cases s with
  | nil => simp [read]
  | cons ev s => cases ev <;> simp [read]

end Source

/-! ## Writing side -/

/-- What one write call of the transport does. -/
inductive WriteEvent where
  | pending
  | accept (n : Nat)
  | fail (e : IoError)
deriving DecidableEq, Repr

/-- The transport as a writer sees it: what it will do, and what it has taken. -/
structure Sink where
  schedule : List WriteEvent
  wire : Bytes
deriving DecidableEq, Repr

namespace Sink

/-- Offers `buf` to the transport. -/
def write (buf : Bytes) (s : Sink) : Polled IoError Nat × Sink :=
  match s.schedule with
  | [] => (.pending, s)
  | .pending :: es => (.pending, { s with schedule := es })
  | .fail e :: es => (.failed e, { s with schedule := es })
  | .accept n :: es =>
    (.ready (min n buf.length), { schedule := es, wire := s.wire ++ buf.take n })

/-- How much the first write call takes that is neither pending nor fails. -/
def firstAccept : List WriteEvent → Option Nat
  | [] => none
  | .accept n :: _ => some n
  | .pending :: es => firstAccept es
  | .fail _ :: es => firstAccept es

/-- A write that is ready takes a prefix of what it is offered. -/
theorem write_ready {buf : Bytes} {s s' : Sink} {n : Nat} (h : s.write buf = (.ready n, s')) :
    n ≤ buf.length ∧ s'.wire = s.wire ++ buf.take n ∧
      s'.schedule.length < s.schedule.length := by
  unfold write at h
  split at h <;> cases h
  next k es hs =>
    refine ⟨Nat.min_le_right _ _, ?_, by simp [hs]⟩
    rcases Nat.le_total k buf.length with hk | hk
    · rw [Nat.min_eq_left hk]
    · rw [Nat.min_eq_right hk, List.take_of_length_le hk, List.take_length]

theorem write_pending {buf : Bytes} {s s' : Sink} (h : s.write buf = (.pending, s')) :
    s'.wire = s.wire := by
  unfold write at h
  split at h <;> cases h <;> rfl

theorem write_failed {buf : Bytes} {s s' : Sink} {e : IoError}
    (h : s.write buf = (.failed e, s')) : s'.wire = s.wire := by
  unfold write at h
  split at h <;> cases h
  rfl

theorem write_ne_panicked {buf : Bytes} {s s' : Sink} : s.write buf ≠ (.panicked, s') := by
  unfold write
  split <;> simp

end Sink

/-! ## Runs of polls -/

/-- How a run of reads stands: still going, at a clean end of the stream, or
    ended by an error or a panic. -/
inductive Ending (ε : Type) where
  | running
  | cleanEnd
  | failed (e : ε)
  | panicked
deriving DecidableEq, Repr

/-- What a caller has received after a run of polls. -/
structure Received (σ ε : Type) where
  bytes : Bytes
  ending : Ending ε
  state : σ

section Runs

variable {σ ε ι : Type}

/-- Polls a reader once for each input, up to the first error or to the first
    read that is ready with no bytes. -/
def receive (poll : ι → PollM σ ε Bytes) : List ι → σ → Received σ ε
  | [], s => { bytes := [], ending := .running, state := s }
  | i :: is, s =>
    match poll i s with
    | (.pending, s') => receive poll is s'
    | (.ready [], s') => { bytes := [], ending := .cleanEnd, state := s' }
    | (.ready (b :: bs), s') =>
      let r := receive poll is s'
      { r with bytes := (b :: bs) ++ r.bytes }
    | (.failed e, s') => { bytes := [], ending := .failed e, state := s' }
    | (.panicked, s') => { bytes := [], ending := .panicked, state := s' }

/-- Polls a writer once for each call, where a call that was pending is followed
    by a call with the same buffer.  The result lists the buffers of the calls
    that became ready with what each returned; there is none when a call fails,
    when a pending call is not repeated, or when it is repeated with another
    buffer. -/
def performs (poll : ι → Bytes → PollM σ ε Nat) :
    (retry : Option Bytes) → List (ι × Bytes) → σ → Option (List (Bytes × Nat) × σ)
  | retry, [], s => if retry.isNone then some ([], s) else none
  | retry, (i, buf) :: calls, s =>
    if retry.all (· = buf) then
      match poll i buf s with
      | (.ready n, s') => (performs poll none calls s').map fun r => ((buf, n) :: r.1, r.2)
      | (.pending, s') => performs poll (some buf) calls s'
      | (.failed _, _) => none
      | (.panicked, _) => none
    else none

/-- Polls until the first poll that is ready; one that is pending or fails is repeated. -/
def firstReady {α : Type} (poll : ι → PollM σ ε α) : List ι → σ → Option (α × σ)
  | [], _ => none
  | i :: is, s =>
    match poll i s with
    | (.ready a, s') => some (a, s')
    | (.pending, s') => firstReady poll is s'
    | (.failed _, s') => firstReady poll is s'
    | (.panicked, _) => none

theorem firstReady_congr {α : Type} {poll : ι → PollM σ ε α} {i : ι} {s t : σ}
    (h : poll i s = poll i t) (is : List ι) :
    firstReady poll (i :: is) s = firstReady poll (i :: is) t := by
  unfold firstReady
  rw [h]

theorem firstReady_panicked {α : Type} {poll : ι → PollM σ ε α} {i : ι} {s s' : σ}
    (h : poll i s = (.panicked, s')) (is : List ι) : firstReady poll (i :: is) s = none := by
  unfold firstReady
  rw [h]

/-- What `Inv` keeps until a poll is ready, the first poll that is ready turns into `Done`. -/
theorem firstReady_rule {α : Type} {poll : ι → PollM σ ε α} {Inv : σ → Prop}
    {Done : α → σ → Prop}
    (step : ∀ i, Triple Inv (poll i)
      { ready := Done, pending := Inv, failed := fun _ => Inv, panicked := fun _ => True })
    {is : List ι} {s s' : σ} {a : α} (hs : Inv s) (h : firstReady poll is s = some (a, s')) :
    Done a s' := by
  induction is generalizing s with
  | nil => exact nomatch h
  | cons i is ih =>
    have hpoll := step i s hs
    unfold firstReady at h
    split at h <;> rename_i heq <;> rw [heq] at hpoll
    · obtain ⟨rfl, rfl⟩ := Prod.mk.inj (Option.some.inj h)
      exact hpoll
    · exact ih hpoll h
    · exact ih hpoll h
    · exact nomatch h

/-- The run rule for a reader.  `Inv` holds between polls with the bytes
    delivered so far; a pending poll and a poll that delivers bytes each lower
    `fuel`, so a run of more than `fuel` polls reaches an end. -/
theorem receive_rule (poll : ι → PollM σ ε Bytes) (Ok : ι → Prop) (Inv : Bytes → σ → Prop)
    (End : Bytes → σ → Prop) (Broken : ε → Bytes → σ → Prop) (fuel : Bytes → σ → Nat)
    (step : ∀ i plain s, Ok i → Inv plain s → Post.holds
      { ready := fun out s' =>
          Inv (plain ++ out) s' ∧
            (out = [] → End plain s') ∧ (out ≠ [] → fuel (plain ++ out) s' < fuel plain s)
        pending := fun s' => Inv plain s' ∧ fuel plain s' < fuel plain s
        failed := fun e s' => Broken e plain s' } (poll i s)) :
    ∀ (is : List ι) (plain : Bytes) (s : σ), (∀ i ∈ is, Ok i) → Inv plain s →
      let r := receive poll is s
      (r.ending = .running → Inv (plain ++ r.bytes) r.state ∧ is.length ≤ fuel plain s) ∧
      (r.ending = .cleanEnd →
        End (plain ++ r.bytes) r.state ∧ Inv (plain ++ r.bytes) r.state) ∧
      (∀ e, r.ending = .failed e → Broken e (plain ++ r.bytes) r.state) ∧
      r.ending ≠ .panicked ∧
      (∃ s', Inv (plain ++ r.bytes) s')
  | [], plain, s, _, hinv => by
    simp only [receive, List.append_nil, reduceCtorEq, false_implies, implies_true, ne_eq,
      not_false_eq_true, true_and, List.length_nil, Nat.zero_le, and_true, forall_const]
    exact ⟨hinv, s, hinv⟩
  | i :: is, plain, s, hok, hinv => by
    have hi := step i plain s (hok i (List.mem_cons_self ..)) hinv
    have hok' : ∀ j ∈ is, Ok j := fun j hj => hok j (List.mem_cons_of_mem _ hj)
    rcases hp : poll i s with ⟨res, s'⟩
    rw [hp] at hi
    cases res with
    | pending =>
      obtain ⟨hinv', hfuel⟩ := hi
      -- fuel is used up, and the rest of the run goes on from the same bytes
      have ih := receive_rule poll Ok Inv End Broken fuel step is plain s' hok' hinv'
      simp only [receive, hp]
      obtain ⟨hrun, hrest⟩ := ih
      exact ⟨fun h => ⟨(hrun h).1, by have := (hrun h).2; simp only [List.length_cons]; omega⟩, hrest⟩
    | ready out =>
      obtain ⟨hinv', hend, hfuel⟩ := hi
      -- a poll that is ready with nothing ends the run
      cases out with
      | nil =>
        simp only [receive, hp, List.append_nil, reduceCtorEq, false_implies, implies_true,
          ne_eq, not_false_eq_true, true_and, forall_const]
        rw [List.append_nil] at hinv'
        exact ⟨⟨hend rfl, hinv'⟩, s', hinv'⟩
      | cons b bs =>
        have ih := receive_rule poll Ok Inv End Broken fuel step is (plain ++ (b :: bs)) s' hok' hinv'
        have hlt := hfuel (List.cons_ne_nil _ _)
        simp only [receive, hp]
        simp only [← List.append_assoc]
        obtain ⟨hrun, hrest⟩ := ih
        exact ⟨fun h => ⟨(hrun h).1, by have := (hrun h).2; simp only [List.length_cons]; omega⟩,
          hrest⟩
    | failed e =>
      simp only [receive, hp, List.append_nil, reduceCtorEq, false_implies, ne_eq,
        not_false_eq_true, true_and, Ending.failed.injEq]
      exact ⟨fun e' he => he ▸ hi, s, hinv⟩
    | panicked => exact absurd hi id

/-- The run rule for a writer.  `Idle` holds between calls with the calls
    already performed, `Busy` while the call for a buffer is pending. -/
theorem performs_rule (poll : ι → Bytes → PollM σ ε Nat) (Ok : ι × Bytes → Prop)
    (Idle : List (Bytes × Nat) → σ → Prop) (Busy : List (Bytes × Nat) → Bytes → σ → Prop)
    (fresh : ∀ i buf done s, Ok (i, buf) → Idle done s → Post.holds
      { ready := fun n s' => Idle (done ++ [(buf, n)]) s'
        pending := fun s' => Busy done buf s'
        failed := fun _ _ => True } (poll i buf s))
    (again : ∀ i buf done s, Ok (i, buf) → Busy done buf s → Post.holds
      { ready := fun n s' => Idle (done ++ [(buf, n)]) s'
        pending := fun s' => Busy done buf s'
        failed := fun _ _ => True } (poll i buf s)) :
    ∀ (calls : List (ι × Bytes)) (retry : Option Bytes) (done : List (Bytes × Nat)) (s : σ)
      (acked : List (Bytes × Nat)) (s' : σ), (∀ c ∈ calls, Ok c) →
      (match retry with | none => Idle done s | some buf => Busy done buf s) →
      performs poll retry calls s = some (acked, s') → Idle (done ++ acked) s'
  | [], retry, done, s, acked, s', _, hinv, h => by
    cases retry with
    | none =>
      simp only [performs, Option.isNone_none, ↓reduceIte, Option.some.injEq, Prod.mk.injEq] at h
      obtain ⟨rfl, rfl⟩ := h
      rwa [List.append_nil]
    | some b => simp [performs] at h
  | (i, buf) :: calls, retry, done, s, acked, s', hok, hinv, h => by
    have hpoll : Post.holds
        { ready := fun n s' => Idle (done ++ [(buf, n)]) s'
          pending := fun s' => Busy done buf s'
          failed := fun _ _ => True } (poll i buf s) := by
      have hi := hok (i, buf) (List.mem_cons_self ..)
      cases retry with
      | none => exact fresh i buf done s hi hinv
      | some b =>
        -- a pending call is repeated with its own buffer
        have hb : b = buf := by
          by_contra hne
          simp [performs, hne] at h
        exact again i buf done s hi (hb ▸ hinv)
    have hok' : ∀ c ∈ calls, Ok c := fun c hc => hok c (List.mem_cons_of_mem _ hc)
    unfold performs at h
    split at h
    · rcases hp : poll i buf s with ⟨res, t⟩
      rw [hp] at hpoll h
      cases res with
      | ready n =>
        obtain ⟨r, hr, hacked⟩ := Option.map_eq_some_iff.1 h
        obtain ⟨rest, t'⟩ := r
        cases hacked
        have := performs_rule poll Ok Idle Busy fresh again calls none _ t rest t' hok' hpoll hr
        rwa [List.append_assoc] at this
      | pending => exact performs_rule poll Ok Idle Busy fresh again calls (some buf) done t acked s' hok' hpoll h
      | failed e => cases h
      | panicked => cases h
    · cases h

end Runs

end Shadowsocks.Lib
