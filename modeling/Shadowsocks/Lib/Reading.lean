import Shadowsocks.Lib.Transport

/-! # Functions that read a stream

An asynchronous function that reads is what it does with the bytes of its next read: a `Reading`
asks for at most so many bytes and goes on with those that came, none meaning the end of the
stream.  `Yields` says what it returns for a message and that it reads no further, however the
message is cut into reads.  With the message at hand that is what it comes to (`Yields.onBytes`).
`drive` polls a stream for it; over a stream that delivers its bytes in order (`Delivers`) that comes
to what it yields (`Delivers.drive`).
-/

namespace Shadowsocks.Lib

/-! ## When bytes arrive -/

namespace Source

/-- How many polls find nothing before `n` bytes have come. -/
def waits : (n : Nat) → Source → Nat
  | _, [] => 0
  | n, .pending :: s => waits n s + 1
  | n, .fail _ :: s => waits n s
  | n, .data _ bs :: s => if n ≤ bs.length + 1 then 0 else waits (n - (bs.length + 1)) s

theorem waits_pending {n cap : Nat} {s s' : Source} (h : s.read cap = (.pending, s')) :
    s'.waits n + 1 = s.waits n := by
  cases s with
  | nil => cases h
  | cons event s =>
    cases event with
    | pending =>
      cases h
      rfl
    | fail e => cases h
    | data b bs => cases h

/-- What has been read is not waited for. -/
theorem waits_ready {n cap : Nat} {s s' : Source} {bs : Bytes} (h : s.read cap = (.ready bs, s'))
    (hlen : bs.length < n) : s'.waits (n - bs.length) = s.waits n := by
  cases s with
  | nil =>
    cases h
    rfl
  | cons event s =>
    cases event with
    | pending => cases h
    | fail e => cases h
    | data b rest =>
      cases h
      have hdrop : ((b :: rest).drop cap).length = rest.length + 1 - cap := List.length_drop
      rw [List.length_take, List.length_cons] at hlen ⊢
      cases hleft : (b :: rest).drop cap with
      | nil =>
        rw [hleft, List.length_nil] at hdrop
        rw [Nat.min_eq_right (by omega)]
        exact (if_neg (by omega)).symm
      | cons c cs =>
        rw [hleft, List.length_cons] at hdrop
        rw [Nat.min_eq_left (by omega)] at hlen ⊢
        simp only [unread, waits]
        by_cases hall : n ≤ rest.length + 1
        · rw [if_pos (by omega), if_pos hall]
        · rw [if_neg (by omega), if_neg hall]
          congr 1
          omega

theorem waits_reached {n cap : Nat} {s s' : Source} {bs : Bytes} (h : s.read cap = (.ready bs, s'))
    (hne : bs ≠ []) (hlen : n ≤ bs.length) : s.waits n = 0 := by
  cases s with
  | nil =>
    cases h
    exact absurd rfl hne
  | cons event s =>
    cases event with
    | pending => cases h
    | fail e => cases h
    | data b rest =>
      cases h
      rw [List.length_take, List.length_cons] at hlen
      exact if_pos (by omega)

/-- The packet `m` is being read into a buffer and `tail` comes behind it; of `n` bytes from the
    first one of `m` on, the last one is waited for `k` times. -/
structure Incoming (m tail : Bytes) (n k : Nat) (buffer : Bytes) (s : Source) : Prop where
  bytes : buffer ++ s.bytes = m ++ tail
  length_lt : buffer.length < m.length
  failures : s.failures = 0
  waits : s.waits (n - buffer.length) = k

/-- What is left of a source when a packet has been read. -/
structure Behind (tail : Bytes) (n k N : Nat) (s : Source) : Prop where
  bytes : s.bytes = tail
  failures : s.failures = 0
  pendings : s.pendings = N
  waits : 0 < n → s.waits n = k
  reached : n = 0 → k = 0

variable {m tail buffer : Bytes} {n k N : Nat} {s s' : Source}

/-- The next packet. -/
theorem Behind.incoming (h : Behind (m ++ tail) n k N s) (hpos : 0 < m.length) (hn : 0 < n) :
    Incoming m tail n k [] s where
  bytes := by rw [List.nil_append, h.bytes]
  length_lt := hpos
  failures := h.failures
  waits := h.waits hn

/-- A read of what the packet lacks finds nothing yet, or it brings more of the packet or all that
    was missing. -/
theorem Incoming.read (h : Incoming m tail n k buffer s) (hn : m.length ≤ n)
    {res : Polled IoError Bytes} (hr : s.read (m.length - buffer.length) = (res, s')) :
    (∃ j, res = .pending ∧ s'.pendings + 1 = s.pendings ∧ k = j + 1 ∧
      Incoming m tail n j buffer s') ∨
    ∃ b bs, res = .ready (b :: bs) ∧ s'.pendings = s.pendings ∧
      (Incoming m tail n k (buffer ++ b :: bs) s' ∨
        buffer ++ b :: bs = m ∧ Behind tail (n - m.length) k s.pendings s') := by
  have hshort := h.length_lt
  cases res with
  | pending =>
    obtain ⟨hbytes, hpend, hfail⟩ := read_pending hr
    refine .inl ⟨s'.waits (n - buffer.length), rfl, hpend.symm, ?_, ?_, hshort,
      hfail.symm.trans h.failures, rfl⟩
    · rw [waits_pending hr]
      exact h.waits.symm
    · rw [← hbytes]
      exact h.bytes
  | failed e =>
    obtain ⟨-, -, hfail⟩ := read_failed hr
    exact absurd (hfail.symm.trans h.failures) (Nat.succ_ne_zero _)
  | panicked => exact absurd hr read_ne_panicked
  | ready out =>
    obtain ⟨hbytes, hroom, hpend, hfail, hend⟩ := read_ready hr
    have hall := h.bytes
    cases out with
    | nil =>
      -- the end of the stream is not before the end of the packet
      obtain ⟨rfl, -⟩ := hend (by omega) rfl
      have hsize := congrArg List.length hall
      rw [List.length_append, List.length_append] at hsize
      simp only [Source.bytes, List.length_nil] at hsize
      omega
    | cons b bs =>
      rw [hbytes, ← List.append_assoc] at hall
      have hfilled : (buffer ++ b :: bs).length = buffer.length + (b :: bs).length :=
        List.length_append
      have hwaits : (b :: bs).length < n - buffer.length →
          s'.waits (n - (buffer ++ b :: bs).length) = k := by
        intro hmore
        rw [hfilled, Nat.sub_add_eq, waits_ready hr hmore]
        exact h.waits
      refine .inr ⟨b, bs, rfl, hpend, ?_⟩
      by_cases hmore : (buffer ++ b :: bs).length < m.length
      · exact .inl ⟨hall, hmore, hfail.trans h.failures, hwaits (by omega)⟩
      · obtain ⟨hwhole, htail⟩ := List.append_inj hall (by omega)
        refine .inr ⟨hwhole, htail, hfail.trans h.failures, hpend, fun hpos => ?_, fun hzero => ?_⟩
        · rw [← hwhole] at hpos ⊢
          exact hwaits (by omega)
        · rw [← h.waits]
          exact waits_reached hr (List.cons_ne_nil _ _) (by omega)

end Source

inductive Reading (ε α : Type) where
  | done (a : α)
  | failed (e : ε)
  | read (room : Nat) (next : Bytes → Reading ε α)

namespace Reading

variable {ε ε' α β : Type}

def bind : Reading ε α → (α → Reading ε β) → Reading ε β
  | .done a, f => f a
  | .failed e, _ => .failed e
  | .read room next, f => .read room fun bs => (next bs).bind f

def mapErr (g : ε → ε') : Reading ε α → Reading ε' α
  | .done a => .done a
  | .failed e => .failed (g e)
  | .read room next => .read room fun bs => (next bs).mapErr g

/-- Reads until `missing` more bytes have come behind `got`, in so many reads at most. -/
def fill : (reads missing : Nat) → (got : Bytes) → Reading IoError Bytes
  | 0, _, got => .done got
  | reads + 1, missing, got =>
    if missing = 0 then .done got
    else .read missing fun bs =>
      if bs = [] then .failed .unexpectedEof else fill reads (missing - bs.length) (got ++ bs)

/-- `read_exact`. Every read brings a byte at least. -/
def readExact (len : Nat) : Reading IoError Bytes := fill len len []

/-! ## What is read -/

/-- All that is to come being at hand, in pieces that are for `piece` to say. -/
def onBytes (piece : Bytes → Nat) : Reading ε α → PollM Bytes ε α
  | .done a => pure a
  | .failed e => PollM.fail e
  | .read room next => fun input =>
    let n := min room (piece input + 1)
    (next (input.take n)).onBytes piece (input.drop n)

section OnBytes

variable (piece : Bytes → Nat)

theorem onBytes_bind (f : α → Reading ε β) : ∀ x : Reading ε α,
    (x.bind f).onBytes piece = x.onBytes piece >>= fun a => (f a).onBytes piece
  | .done _ => rfl
  | .failed _ => rfl
  | .read room next => by
    funext input
    exact congrFun (onBytes_bind f (next (input.take (min room (piece input + 1))))) _

theorem onBytes_mapErr (g : ε → ε') : ∀ x : Reading ε α,
    (x.mapErr g).onBytes piece = PollM.mapErr g (x.onBytes piece)
  | .done _ => rfl
  | .failed _ => rfl
  | .read room next => by
    funext input
    exact congrFun (onBytes_mapErr g (next (input.take (min room (piece input + 1))))) _

theorem onBytes_read (room : Nat) (next : Bytes → Reading ε α) (input : Bytes) :
    (read room next).onBytes piece input =
      (next (input.take (min room (piece input + 1)))).onBytes piece
        (input.drop (min room (piece input + 1))) := rfl

theorem fill_onBytes : ∀ (reads missing : Nat) (got input : Bytes), missing ≤ reads →
    (fill reads missing got).onBytes piece input =
      if input.length < missing then (.failed .unexpectedEof, [])
      else (.ready (got ++ input.take missing), input.drop missing)
  | 0, missing, got, input, hreads => by
    obtain rfl := Nat.le_zero.1 hreads
    simp [fill, onBytes, pure]
  | reads + 1, missing, got, input, hreads => by
    unfold fill
    by_cases hzero : missing = 0
    · subst hzero
      simp [onBytes, pure]
    · obtain ⟨n, hn⟩ : ∃ n, n = min missing (piece input + 1) := ⟨_, rfl⟩
      rw [if_neg hzero, onBytes_read, ← hn]
      by_cases hnone : input = []
      · subst hnone
        simp [onBytes, PollM.fail, Nat.pos_of_ne_zero hzero]
      · have hpos := List.length_pos_iff.2 hnone
        have hsome : input.take n ≠ [] := by
          rw [← List.length_pos_iff, List.length_take]
          omega
        -- the read brings a byte at least, and no more than is missing
        rw [if_neg hsome, fill_onBytes reads _ _ _ (by rw [List.length_take]; omega),
          List.length_drop, List.length_take]
        by_cases hshort : input.length < missing
        · rw [if_pos (by omega), if_pos hshort]
        · have hle : min n input.length = n := by omega
          have hadd : n + (missing - n) = missing := by omega
          rw [if_neg (by omega), if_neg hshort, hle, List.append_assoc, List.drop_drop,
            ← List.take_add, hadd]

end OnBytes

/-- Of the message `used` the function reads all and nothing further, and returns `a`. -/
def Yields : Reading ε α → (used : Bytes) → α → Prop
  | .done b, used, a => used = [] ∧ b = a
  | .failed _, _, _ => False
  | .read room next, used, a => 0 < room ∧ room ≤ used.length ∧
    ∀ chunk rest, used = chunk ++ rest → chunk ≠ [] → chunk.length ≤ room → (next chunk).Yields rest a

theorem Yields.bind {f : α → Reading ε β} {a : α} {b : β} {used' : Bytes}
    (hf : (f a).Yields used' b) : ∀ {x : Reading ε α} {used : Bytes}, x.Yields used a →
    (x.bind f).Yields (used ++ used') b
  | .done _, _, ⟨hused, heq⟩ => by
    subst hused heq
    exact hf
  | .read room next, used, ⟨hpos, hroom, hnext⟩ => by
    refine ⟨hpos, ?_, fun chunk rest hcut hne hlen => ?_⟩
    · rw [List.length_append]
      omega
    · -- the read does not reach beyond the first message
      obtain ⟨tail, rfl, rfl⟩ : ∃ tail, used = chunk ++ tail ∧ rest = tail ++ used' := by
        rcases List.append_eq_append_iff.1 hcut with ⟨more, rfl, rfl⟩ | ⟨tail, rfl, rfl⟩
        · obtain rfl : more = [] := by
            rw [List.length_append] at hlen
            exact List.length_eq_zero_iff.1 (by omega)
          exact ⟨[], by simp, by simp⟩
        · exact ⟨tail, rfl, rfl⟩
      exact Yields.bind hf (hnext chunk tail rfl hne hlen)

theorem Yields.map (g : α → β) {a : α} {x : Reading ε α} {used : Bytes} (h : x.Yields used a) :
    (x.bind fun a => .done (g a)).Yields used (g a) := by
  rw [← List.append_nil used]
  refine Yields.bind ?_ h
  exact ⟨rfl, rfl⟩

/-- With the message at hand and `rest` behind it, that much is read of them. -/
theorem Yields.onBytes (piece : Bytes → Nat) {a : α} (rest : Bytes) : ∀ {x : Reading ε α}
    {used : Bytes}, x.Yields used a → x.onBytes piece (used ++ rest) = (.ready a, rest)
  | .done _, _, ⟨hused, heq⟩ => by
    subst hused heq
    rfl
  | .read room next, used, ⟨hpos, hroom, hnext⟩ => by
    obtain ⟨n, hn⟩ : ∃ n, n = min room (piece (used ++ rest) + 1) := ⟨_, rfl⟩
    have hle : n ≤ used.length := by omega
    have hread := hnext (used.take n) (used.drop n) (List.take_append_drop n used).symm
      (by rw [← List.length_pos_iff, List.length_take]; omega) (by rw [List.length_take]; omega)
    rw [onBytes_read, ← hn, List.take_append_of_le_length hle, List.drop_append_of_le_length hle]
    exact Yields.onBytes piece rest hread

theorem Yields.mapErr (g : ε → ε') {a : α} : ∀ {x : Reading ε α} {used : Bytes},
    x.Yields used a → (x.mapErr g).Yields used a
  | .done _, _, h => h
  | .read _ _, _, ⟨hpos, hroom, hnext⟩ =>
    ⟨hpos, hroom, fun chunk rest hcut hne hlen => (hnext chunk rest hcut hne hlen).mapErr g⟩

theorem fill_yields : ∀ (reads : Nat) (used got : Bytes), used.length ≤ reads →
    (fill reads used.length got).Yields used (got ++ used)
  | 0, used, got, hreads => by
    obtain rfl := List.length_eq_zero_iff.1 (Nat.le_zero.1 hreads)
    exact ⟨rfl, (List.append_nil got).symm⟩
  | reads + 1, used, got, hreads => by
    unfold fill
    split
    · next hzero =>
      obtain rfl := List.length_eq_zero_iff.1 hzero
      exact ⟨rfl, (List.append_nil got).symm⟩
    · next hpos =>
      refine ⟨Nat.pos_of_ne_zero hpos, le_rfl, ?_⟩
      rintro chunk rest rfl hne -
      have hchunk := List.length_pos_iff.2 hne
      rw [List.length_append] at hreads
      have hrest := fill_yields reads rest (got ++ chunk) (by omega)
      simpa only [if_neg hne, List.length_append, Nat.add_sub_cancel_left, List.append_assoc]
        using hrest

/-- Reading a message of known length first. -/
theorem readExact_bind_yields {len : Nat} {used used' : Bytes} (h : used.length = len)
    (toError : IoError → ε) {f : Bytes → Reading ε β} {b : β} (hf : (f used).Yields used' b) :
    (((readExact len).mapErr toError).bind f).Yields (used ++ used') b := by
  subst h
  exact Yields.bind hf ((fill_yields used.length used [] le_rfl).mapErr toError)

theorem readExact_yields {len : Nat} {used : Bytes} (h : used.length = len) :
    (readExact len).Yields used used := by
  subst h
  exact fill_yields used.length used [] le_rfl

/-! ## Reading a polled stream -/

section Drive

variable {σ ι δ : Type}

/-- How far a function has come. -/
inductive Driven (ι ε α : Type) where
  | waiting
  | done (a : α) (calls : List ι)
  | failed (e : ε)
  | panicked

/-- What has been returned, with the polls that are left. -/
def Driven.result? : Driven ι ε α → Option (α × List ι)
  | .done a calls => some (a, calls)
  | .waiting => none
  | .failed _ => none
  | .panicked => none

theorem Driven.eq_done : ∀ {r : Driven ι ε α × σ} (h : r.1.result?.isSome),
    r = (.done (r.1.result?.get h).1 (r.1.result?.get h).2, r.2)
  | (.done _ _, _), _ => rfl
  | (.waiting, _), h => by cases h
  | (.failed _, _), h => by cases h
  | (.panicked, _), h => by cases h

/-- Polls a stream for a function, which goes on with what a poll brings and repeats one that is
    pending. -/
def drive (poll : ι → Nat → PollM σ δ Bytes) (toError : δ → ε) :
    List ι → Reading ε α → σ → Driven ι ε α × σ
  | calls, .done a, s => (.done a calls, s)
  | _, .failed e, s => (.failed e, s)
  | [], .read _ _, s => (.waiting, s)
  | i :: calls, .read room next, s =>
    match poll i room s with
    | (.ready bs, s') => drive poll toError calls (next bs) s'
    | (.pending, s') => drive poll toError calls (.read room next) s'
    | (.failed e, s') => (.failed (toError e), s')
    | (.panicked, s') => (.panicked, s')

/-- A stream that delivers the bytes of `total` and ends behind them, polled with the rooms that
    `Room` allows behind the bytes delivered so far. `Inv` holds with the calls to come and these
    bytes, and `fuel` is how many polls may still find nothing. -/
structure Delivers (poll : ι → Nat → PollM σ δ Bytes) (total : Bytes) (Room : Bytes → Nat → Prop)
    (Inv : List ι → Bytes → σ → Prop) (fuel : σ → Nat) : Prop where
  step : ∀ {i calls room plain s}, Room plain room → Inv (i :: calls) plain s → Post.holds
      { ready := fun out s' => (out = [] → plain = total) ∧ out.length ≤ room ∧
          Inv calls (plain ++ out) s' ∧ fuel s' ≤ fuel s
        pending := fun s' => Inv calls plain s' ∧ fuel s' < fuel s
        failed := fun _ _ => False } (poll i room s)
  isPrefix : ∀ {calls plain s}, Inv calls plain s → plain <+: total

/-- Any room but none. -/
def anyRoom : Bytes → Nat → Prop := fun _ room => 0 < room

/-- No more room than there are bytes left. -/
def roomWithin (total : Bytes) : Bytes → Nat → Prop := fun plain room =>
  0 < room ∧ plain.length + room ≤ total.length

variable {poll : ι → Nat → PollM σ δ Bytes} {total : Bytes} {Inv : List ι → Bytes → σ → Prop}
  {fuel : σ → Nat}

/-- A part of a stream. -/
theorem Delivers.within (h : Delivers poll total anyRoom Inv fuel) {part : Bytes}
    (hpart : part <+: total) : Delivers poll part (roomWithin part)
      (fun calls plain s => plain <+: part ∧ Inv calls plain s) fuel where
  step {i calls room plain s} hroom hinv := by
    refine Post.mono (h.step hroom.1 hinv.2) ⟨?_, ?_, fun _ _ h => h, fun _ h => h⟩
    · rintro out s' ⟨hend, hlen, hinv', hfuel⟩
      have hle := hpart.length_le
      have hroom' := hroom.2
      refine ⟨fun hnone => ?_, hlen, ⟨?_, hinv'⟩, hfuel⟩
      · have hall := congrArg List.length (hend hnone)
        have hpos := hroom.1
        omega
      · refine List.prefix_of_prefix_length_le (h.isPrefix hinv') hpart ?_
        rw [List.length_append]
        omega
    · exact fun s' h => ⟨⟨hinv.1, h.1⟩, h.2⟩
  isPrefix hinv := hinv.1

/-- A stream inside another one. -/
theorem Delivers.on {Room : Bytes → Nat → Prop} (h : Delivers poll total Room Inv fuel)
    {τ δ' : Type} {poll' : ι → Nat → PollM τ δ' Bytes} {Inv' : List ι → Bytes → τ → Prop}
    {fuel' : τ → Nat}
    (hpoll : ∀ {i calls room plain t}, Inv' (i :: calls) plain t → ∃ s put, ∃ g : δ → δ',
      poll' i room t = (PollM.mapErr g (poll i room)).on s put ∧ Inv (i :: calls) plain s ∧
        fuel s = fuel' t ∧ ∀ {calls' plain' s'}, Inv calls' plain' s' →
          Inv' calls' plain' (put s') ∧ fuel' (put s') = fuel s')
    (hbeginning : ∀ {calls plain t}, Inv' calls plain t → plain <+: total) :
    Delivers poll' total Room Inv' fuel' where
  step {i calls room plain t} hroom hinv := by
    obtain ⟨s, put, g, heq, hinv, hfuel, hput⟩ := hpoll hinv
    rw [heq, ← hfuel]
    apply Post.holds_on
    apply Post.holds_mapErr
    refine Post.mono (h.step hroom hinv) ⟨?_, ?_, fun _ _ h => h, fun _ h => h⟩
    · rintro out s' ⟨hend, hlen, hinv', hfuel'⟩
      obtain ⟨hput', hsame⟩ := hput hinv'
      exact ⟨hend, hlen, hput', hsame.le.trans hfuel'⟩
    · rintro s' ⟨hinv', hfuel'⟩
      obtain ⟨hput', hsame⟩ := hput hinv'
      exact ⟨hput', hsame.trans_lt hfuel'⟩
  isPrefix := hbeginning

/-- What every poll keeps, beside what is known of the stream anyway. -/
theorem Delivers.keeping {Room : Bytes → Nat → Prop} (h : Delivers poll total Room Inv fuel)
    {I : Bytes → σ → Prop}
    (hkeep : ∀ {i calls room plain s}, Inv (i :: calls) plain s → I plain s → Post.holds
      { ready := fun out s' => Inv calls (plain ++ out) s' → I (plain ++ out) s'
        pending := I plain
        failed := fun _ _ => True, panicked := fun _ => True } (poll i room s)) :
    Delivers poll total Room (fun calls plain s => Inv calls plain s ∧ I plain s) fuel where
  step {i calls room plain s} hroom hinv := by
    have hstep := h.step hroom hinv.1
    have hkept : Post.holds _ (poll i room s) := hkeep hinv.1 hinv.2
    rcases hres : poll i room s with ⟨res, s'⟩
    rw [hres] at hstep hkept
    cases res with
    | ready out =>
      obtain ⟨hend, hlen, hinv', hfuel⟩ := hstep
      exact ⟨hend, hlen, ⟨hinv', hkept hinv'⟩, hfuel⟩
    | pending => exact ⟨⟨hstep.1, hkept⟩, hstep.2⟩
    | failed e => exact hstep
    | panicked => exact hstep
  isPrefix hinv := h.isPrefix hinv.1

/-- Something is done after each poll that is ready, which changes nothing of the stream. -/
theorem Delivers.bind {Room : Bytes → Nat → Prop} (h : Delivers poll total Room Inv fuel)
    {after : Bytes → PollM σ δ Bytes}
    (hafter : ∀ {calls plain s}, Inv calls plain s → ∀ out, ∃ t, after out s = (.ready out, t) ∧
      Inv calls plain t ∧ fuel t = fuel s) :
    Delivers (fun i room => poll i room >>= after) total Room Inv fuel where
  step {i calls room plain s} hroom hinv := by
    refine Triple.apply (P := fun t => t = s) rfl (Triple.bind (M := fun out t =>
      (out = [] → plain = total) ∧ out.length ≤ room ∧ Inv calls (plain ++ out) t ∧
        fuel t ≤ fuel s) ?_ fun out t ht => ?_)
    · rintro t rfl
      exact h.step hroom hinv
    · obtain ⟨hend, hlen, hinv', hfuel⟩ := ht
      obtain ⟨u, hready, hinv'', hsame⟩ := hafter hinv' out
      rw [hready]
      exact ⟨hend, hlen, hinv'', hsame.le.trans hfuel⟩
  isPrefix := h.isPrefix

/-! ### Streams that are checked once -/

/-- A stream that has delivered nothing before it is checked, or is behind its check. -/
inductive Checking (Before : List ι → σ → Prop) (After : List ι → Bytes → σ → Prop)
    (calls : List ι) (plain : Bytes) (s : σ) : Prop where
  | before (hplain : plain = []) (h : Before calls s)
  | after (h : After calls plain s)

/-- A stream that is checked in its `k`-th next poll, which is to be one that passes. -/
def Counting (Before : Nat → σ → Prop) (Passes : ι → Prop) (calls : List ι) (s : σ) : Prop :=
  ∃ k, Before k s ∧ ∀ i, calls[k]? = some i → Passes i

theorem Checking.imp {Before : List ι → σ → Prop} {After : List ι → Bytes → σ → Prop}
    {calls : List ι} {plain : Bytes} {s t : σ} (hbefore : Before calls s → Before calls t)
    (hafter : After calls plain s → After calls plain t) (h : Checking Before After calls plain s) :
    Checking Before After calls plain t := by
  cases h with
  | before hplain h => exact .before hplain (hbefore h)
  | after h => exact .after (hafter h)

theorem Delivers.checking {Room : Bytes → Nat → Prop} (h : Delivers poll total Room Inv fuel)
    {Before : List ι → σ → Prop}
    (hbefore : ∀ {i calls room s}, Room [] room → Before (i :: calls) s → Post.holds
      { ready := fun out s' => (out = [] → [] = total) ∧ out.length ≤ room ∧ Inv calls out s' ∧
          fuel s' ≤ fuel s
        pending := fun s' => (Before calls s' ∨ Inv calls [] s') ∧ fuel s' < fuel s
        failed := fun _ _ => False } (poll i room s)) :
    Delivers poll total Room (Checking Before Inv) fuel where
  step {i calls room plain s} hroom hinv := by
    cases hinv with
    | after hafter =>
      exact Post.mono (h.step hroom hafter)
        ⟨fun _ _ h => ⟨h.1, h.2.1, .after h.2.2.1, h.2.2.2⟩, fun _ h => ⟨.after h.1, h.2⟩,
          fun _ _ h => h, fun _ h => h⟩
    | before hplain hwaiting =>
      subst hplain
      refine Post.mono (hbefore hroom hwaiting)
        ⟨fun _ _ h => ⟨h.1, h.2.1, .after h.2.2.1, h.2.2.2⟩, ?_, fun _ _ h => h, fun _ h => h⟩
      rintro s' ⟨hwaiting' | hafter, hfuel⟩
      · exact ⟨.before rfl hwaiting', hfuel⟩
      · exact ⟨.after hafter, hfuel⟩
  isPrefix {calls plain s} hinv := by
    cases hinv with
    | before hplain => exact hplain ▸ List.nil_prefix
    | after hafter => exact h.isPrefix hafter

theorem Delivers.counting {Room : Bytes → Nat → Prop} (h : Delivers poll total Room Inv fuel)
    {Before : Nat → σ → Prop} {Passes : ι → Prop}
    (hbefore : ∀ {i calls room k s}, Room [] room → (k = 0 → Passes i) → Before k s → Post.holds
      { ready := fun out s' => (out = [] → [] = total) ∧ out.length ≤ room ∧ Inv calls out s' ∧
          fuel s' ≤ fuel s
        pending := fun s' => ((∃ j, k = j + 1 ∧ Before j s') ∨ Inv calls [] s') ∧ fuel s' < fuel s
        failed := fun _ _ => False } (poll i room s)) :
    Delivers poll total Room (Checking (Counting Before Passes) Inv) fuel := by
  refine h.checking ?_
  rintro i calls room s hroom ⟨k, hwaiting, hpasses⟩
  have hfirst : k = 0 → Passes i := fun hk => hpasses i (by rw [hk]; rfl)
  refine Post.mono (@hbefore i calls room k s hroom hfirst hwaiting)
    ⟨fun _ _ h => h, ?_, fun _ _ h => h, fun _ h => h⟩
  rintro s' ⟨⟨j, rfl, hwaiting'⟩ | hafter, hfuel⟩
  · exact ⟨.inl ⟨j, hwaiting', hpasses⟩, hfuel⟩
  · exact ⟨.inr hafter, hfuel⟩

/-! ### Streams with a first piece -/

/-- A stream of which the beginning `first` is delivered to polls that ask for no more, and
    everything to any polls. -/
structure Conveys (poll : ι → Nat → PollM σ δ Bytes) (first total : Bytes)
    (Opening Going : List ι → Bytes → σ → Prop) (fuel : σ → Nat) : Prop where
  opening : Delivers poll first (roomWithin first) Opening fuel
  goesOn : ∀ {calls plain s}, Opening calls plain s → Going calls plain s
  going : Delivers poll total anyRoom Going fuel

theorem Delivers.conveys (h : Delivers poll total anyRoom Inv fuel) {first : Bytes}
    (hfirst : first <+: total) :
    Conveys poll first total (fun calls plain s => plain <+: first ∧ Inv calls plain s) Inv fuel where
  opening := h.within hfirst
  goesOn hinv := hinv.2
  going := h

theorem Conveys.bind {first : Bytes} {Opening Going : List ι → Bytes → σ → Prop}
    (h : Conveys poll first total Opening Going fuel) (after : Bytes → PollM σ δ Bytes)
    (hopening : ∀ {calls plain s}, Opening calls plain s → ∀ out, ∃ t,
      after out s = (.ready out, t) ∧ Opening calls plain t ∧ fuel t = fuel s)
    (hgoing : ∀ {calls plain s}, Going calls plain s → ∀ out, ∃ t,
      after out s = (.ready out, t) ∧ Going calls plain t ∧ fuel t = fuel s) :
    Conveys (fun i room => poll i room >>= after) first total Opening Going fuel where
  opening := h.opening.bind hopening
  goesOn := h.goesOn
  going := h.going.bind hgoing

/-- A stream inside another one, of which nothing else changes. -/
theorem Conveys.on {first : Bytes} {Opening Going : List ι → Bytes → σ → Prop}
    (h : Conveys poll first total Opening Going fuel) {τ δ' : Type}
    (poll' : ι → Nat → PollM τ δ' Bytes) (put : σ → τ) {g : δ → δ'} {fuel' : τ → Nat}
    (hpoll : ∀ {i room s}, poll' i room (put s) = (PollM.mapErr g (poll i room)).on s put)
    (hfuel : ∀ s, fuel s = fuel' (put s)) :
    Conveys poll' first total (fun calls plain t => ∃ s, t = put s ∧ Opening calls plain s)
      (fun calls plain t => ∃ s, t = put s ∧ Going calls plain s) fuel' where
  opening := by
    refine h.opening.on ?_ fun ⟨s, _, hs⟩ => h.opening.isPrefix hs
    rintro i calls room plain _ ⟨s, rfl, hs⟩
    exact ⟨s, put, g, hpoll, hs, hfuel s, fun hs' => ⟨⟨_, rfl, hs'⟩, (hfuel _).symm⟩⟩
  goesOn := fun ⟨s, heq, hs⟩ => ⟨s, heq, h.goesOn hs⟩
  going := by
    refine h.going.on ?_ fun ⟨s, _, hs⟩ => h.going.isPrefix hs
    rintro i calls room plain _ ⟨s, rfl, hs⟩
    exact ⟨s, put, g, hpoll, hs, hfuel s, fun hs' => ⟨⟨_, rfl, hs'⟩, (hfuel _).symm⟩⟩

/-- What has come in `polls` polls of a function that is to return `a` within `budget` of them: it
    has returned it, with `plain` delivered and the rest of the polls left, or there were too
    few. -/
def Driven.Comes (a : α) (plain : Bytes) (Inv : List ι → Bytes → σ → Prop) (fuel : σ → Nat)
    (polls budget : Nat) : Driven ι ε α × σ → Prop
  | (.done b calls, s) => b = a ∧ Inv calls plain s ∧ polls + fuel s ≤ calls.length + budget
  | (.waiting, _) => polls < budget
  | (.failed _, _) => False
  | (.panicked, _) => False

theorem Driven.Comes.mono {a : α} {plain : Bytes} {Inv : List ι → Bytes → σ → Prop}
    {fuel : σ → Nat} {polls budget polls' budget' : Nat} {r : Driven ι ε α × σ}
    (h : Driven.Comes a plain Inv fuel polls' budget' r)
    (hle : polls + budget' ≤ polls' + budget) : Driven.Comes a plain Inv fuel polls budget r := by
  rcases r with ⟨result, s⟩
  cases result with
  | done b calls =>
    obtain ⟨rfl, hinv, hspare⟩ := h
    exact ⟨rfl, hinv, by omega⟩
  | waiting =>
    have hshort : polls' < budget' := h
    change polls < budget
    omega
  | failed e => exact h
  | panicked => exact h

theorem Delivers.drive (h : Delivers poll total (roomWithin total) Inv fuel) (toError : δ → ε)
    {a : α} : ∀ (calls : List ι) {x : Reading ε α} {used plain : Bytes} {s : σ},
    x.Yields used a → plain ++ used <+: total → Inv calls plain s →
    Driven.Comes a (plain ++ used) Inv fuel calls.length (fuel s + used.length)
      (Reading.drive poll toError calls x s)
  | calls, .done b, used, plain, s, ⟨hused, heq⟩, _, hinv => by
    subst hused heq
    rw [List.append_nil]
    cases calls <;> exact ⟨rfl, hinv, le_rfl⟩
  | [], .read room next, used, plain, s, ⟨hpos, hroom, _⟩, _, _ => by
    change 0 < _
    omega
  | i :: calls, .read room next, used, plain, s, hyields, htotal, hinv => by
    have hread := hyields
    obtain ⟨hpos, hroom, hnext⟩ := hread
    have hlength := htotal.length_le
    rw [List.length_append] at hlength
    have hstep := h.step ⟨hpos, by omega⟩ hinv
    unfold Reading.drive
    rcases hpoll : poll i room s with ⟨res, s'⟩
    rw [hpoll] at hstep
    cases res with
    | ready out =>
      obtain ⟨hend, hlen, hinv', hfuel⟩ := hstep
      have hne : out ≠ [] := fun hnone => by
        have hall := congrArg List.length (hend hnone)
        omega
      -- what came is the beginning of the message
      obtain ⟨rest, rfl⟩ : out <+: used :=
        (List.prefix_append_right_inj plain).1
          (List.prefix_of_prefix_length_le (h.isPrefix hinv') htotal (by
            rw [List.length_append, List.length_append]
            omega))
      have ih := h.drive toError calls (hnext out rest rfl hne hlen)
        (by rwa [List.append_assoc]) hinv'
      rw [List.append_assoc] at ih
      have hout := List.length_pos_iff.2 hne
      refine ih.mono ?_
      rw [List.length_append, List.length_cons]
      omega
    | pending =>
      obtain ⟨hinv', hfuel⟩ := hstep
      refine (h.drive toError calls hyields htotal hinv').mono ?_
      rw [List.length_cons]
      omega
    | failed e => exact hstep.elim
    | panicked => exact hstep.elim

/-! ## Reading to the end -/

/-- A poll with its room. -/
def pollOf (poll : ι → Nat → PollM σ δ Bytes) (call : ι × Nat) : PollM σ δ Bytes :=
  poll call.1 call.2

/-- A run of reads of any rooms delivers what is left, in order and nothing else; with enough
    polls it delivers everything and ends. -/
structure DeliveredRest (rest : Bytes) (enough : Prop) (r : Received σ δ) : Prop where
  bytes : r.bytes <+: rest
  ending : r.ending = .running ∨ r.ending = .cleanEnd
  complete : r.ending = .cleanEnd → r.bytes = rest
  ends : enough → r.ending = .cleanEnd

theorem Delivers.receive (h : Delivers poll total anyRoom Inv fuel) : ∀ (calls : List (ι × Nat))
    {plain rest : Bytes} {s : σ}, (∀ call ∈ calls, 0 < call.2) → plain ++ rest = total →
    Inv (calls.map Prod.fst) plain s →
    let r := Lib.receive (pollOf poll) calls s
    DeliveredRest rest (fuel s + rest.length < calls.length) r ∧
      ∃ calls', Inv calls' (plain ++ r.bytes) r.state
  | [], plain, rest, s, _, _, hinv => by
    refine ⟨?_, [], (List.append_nil plain).symm ▸ hinv⟩
    exact
      { bytes := List.nil_prefix
        ending := .inl rfl
        complete := fun h => by cases h
        ends := fun h => absurd h (Nat.not_lt_zero _) }
  | call :: calls, plain, rest, s, hroom, htotal, hinv => by
    have hstep := h.step (hroom call List.mem_cons_self) hinv
    have hroom' : ∀ c ∈ calls, 0 < c.2 := fun c hc => hroom c (List.mem_cons_of_mem _ hc)
    unfold Lib.receive pollOf
    rcases hpoll : poll call.1 call.2 s with ⟨res, s'⟩
    rw [hpoll] at hstep
    cases res with
    | ready out =>
      obtain ⟨hend, hlen, hinv', hfuel⟩ := hstep
      cases out with
      | nil =>
        -- an empty result is the end, so nothing is left
        have hrest : rest = [] := by
          have hall := hend rfl
          rw [← htotal] at hall
          exact List.self_eq_append_right.1 hall
        subst hrest
        exact ⟨⟨List.nil_prefix, .inr rfl, fun _ => rfl, fun _ => rfl⟩, _, hinv'⟩
      | cons b bs =>
        -- what is delivered is what comes first of what is left
        obtain ⟨rest, rfl⟩ : b :: bs <+: rest := by
          have hbeginning := h.isPrefix hinv'
          rw [← htotal] at hbeginning
          exact (List.prefix_append_right_inj plain).1 hbeginning
        obtain ⟨ih, calls', hinv''⟩ := h.receive calls hroom' (by rwa [List.append_assoc]) hinv'
        rw [List.append_assoc] at hinv''
        refine ⟨⟨(List.prefix_append_right_inj _).2 ih.bytes, ih.ending,
          fun he => congrArg ((b :: bs) ++ ·) (ih.complete he), fun henough => ih.ends ?_⟩, _, hinv''⟩
        rw [List.length_append, List.length_cons, List.length_cons] at henough
        omega
    | pending =>
      obtain ⟨hinv', hfuel⟩ := hstep
      obtain ⟨ih, hstate⟩ := h.receive calls hroom' htotal hinv'
      refine ⟨⟨ih.bytes, ih.ending, ih.complete, fun henough => ih.ends ?_⟩, hstate⟩
      rw [List.length_cons] at henough
      omega
    | failed e => exact hstep.elim
    | panicked => exact hstep.elim

end Drive

end Reading

end Shadowsocks.Lib
