import Shadowsocks.Tcp.ChunkReader

/-! # What a chunk reader delivers

A `ReaderSpec` fixes the bytes of one stream and says what the reader at hand
does around its chunks.  The invariant `Inv` ties the reader's state to the bytes
taken so far through the relation `Opens`; it does not mention how the stream is
cut into reads, so one poll of it (`pollReadDecrypted_spec`) covers every
segmentation and every pending point, and `receive_spec` covers every run.
-/

namespace Shadowsocks.Tcp

open Shadowsocks.Lib

variable {K H X B ε : Type}

/-- One stream, and what holds of a reader around its chunks.

    `Opened head c e` says that `head` opens the stream with cipher `c`, packet
    `e` coming first.  `HeadInv` is the invariant before that, `RestInv` the one
    of the reader's own fields.  `Admits` are the contexts the reader is polled
    in; `Fine` is what they guarantee while a poll runs.  The last three say what
    may happen besides: an end of file that counts as a clean end, a head that is
    refused, a payload that is refused after it has opened. -/
structure ReaderSpec (K H X B : Type) where
  total : Bytes
  allowed : Nat → Prop
  Opened : Bytes → Cipher K → Expect → Prop
  HeadInv : Bytes → ChunkReader K H X → Source → Prop
  RestInv : X → Prop
  Admits : Time → Context B → Prop
  Fine : Time → X → Context B → Prop
  HeadEnds : Prop
  HeadFails : Prop
  AfterFails : Prop

namespace ReaderSpec

variable (spec : ReaderSpec K H X B) (S : AeadScheme K)

/-- The reader has taken all of the stream but `rest`. -/
def Taken (plain : Bytes) (c : Cipher K) (e : Expect) (rest : Bytes) : Prop :=
  ∃ head c₀ e₀ body, spec.Opened head c₀ e₀ ∧ Opens S spec.allowed c₀ e₀ body plain c e ∧
    head ++ (body ++ rest) = spec.total

/-- The invariant.  `A` is what is known of the context before the head has
    opened, `G` what is known of the reader's own fields afterwards. -/
inductive Inv (A : Context B → Prop) (G : X → Context B → Prop) (plain : Bytes)
    (w : ReadWorld K H X B) : Prop where
  | head {h seen} (hstate : w.reader.state = .head h) (hplain : plain = [])
      (hinv : spec.HeadInv seen w.reader w.source) (htotal : seen ++ w.source.bytes = spec.total)
      (hctx : A w.context)
  | reading {e c} (hstate : w.reader.state = .reading e) (hcipher : w.reader.cipher = some c)
      (htaken : spec.Taken S plain c e (w.reader.buffer ++ w.source.bytes))
      (hlen : w.reader.buffer.length ≤ e.size S) (hrest : G w.reader.rest w.context)
  | buffered {pos c} (hstate : w.reader.state = .bufferedData pos)
      (hpos : pos ≤ w.reader.buffer.length) (hcipher : w.reader.cipher = some c)
      (htaken : spec.Taken S (plain ++ w.reader.buffer.drop pos) c .length w.source.bytes)
      (hrest : G w.reader.rest w.context)

/-- The invariant between polls, whatever the context is by then. -/
def Between (plain : Bytes) (w : ReadWorld K H X B) : Prop :=
  spec.Inv S (fun _ => True) (fun x _ => spec.RestInv x) plain w

/-- The invariant while a poll runs. -/
def Within (now : Time) (plain : Bytes) (w : ReadWorld K H X B) : Prop :=
  spec.Inv S (spec.Admits now) (spec.Fine now) plain w

/-- Why a poll fails: the transport broke, or the stream is not one that the
    reader can take to its end. -/
inductive Refused (failures : Nat) : Prop where
  | io (h : 0 < failures)
  | head (h : spec.HeadFails)
  | truncated {plain c e part} (htaken : spec.Taken S plain c e part)
      (hshort : part.length < e.size S) (hpart : e = .length → part ≠ [])
  | unopened {plain c e m rest} (htaken : spec.Taken S plain c e (m ++ rest))
      (hsize : m.length = e.size S) (hopen : S.decrypt? c.key c.nonce m = none)
  | disallowed {plain c m rest l} (htaken : spec.Taken S plain c .length (m ++ rest))
      (hsize : m.length = Expect.length.size S) (hopen : S.decrypt? c.key c.nonce m = some l)
      (hlength : ¬ spec.allowed (fromBigEndian l))
  | after (h : spec.AfterFails)

/-- A clean end of the stream: after a whole chunk, or, where the reader lets it
    pass, before the head. -/
def CleanEnd (plain : Bytes) (w : ReadWorld K H X B) : Prop :=
  (∃ c, spec.Taken S plain c .length [] ∧ spec.RestInv w.reader.rest) ∨
    (plain = [] ∧ spec.HeadEnds)

/-- The source is as it was, up to what has been read. -/
def Same (pendings failures : Nat) (w : ReadWorld K H X B) : Prop :=
  w.source.pendings = pendings ∧ w.source.failures = failures

/-- What the protocol around the chunks has to keep for a reader to keep to the
    specification. -/
structure Holds (P : ChunkProtocol K H X B ε) : Prop where
  checkLength_ok : ∀ {n}, P.checkLength n = .ok () → spec.allowed n
  checkLength_error : ∀ {n e}, P.checkLength n = .error e → ¬ spec.allowed n
  fine_of_admits : ∀ {now ctx x}, spec.Admits now ctx → spec.RestInv x → spec.Fine now x ctx
  rest_of_fine : ∀ {now ctx x}, spec.Fine now x ctx → spec.RestInv x
  afterData_ok : ∀ {now x ctx x' ctx'}, spec.Fine now x ctx →
    P.afterData now x ctx = (.ok (), x', ctx') → spec.Fine now x' ctx'
  afterData_error : ∀ {now x ctx e x' ctx'}, spec.Fine now x ctx →
    P.afterData now x ctx = (.error e, x', ctx') → spec.AfterFails
  readHead : ∀ now h N F,
    Triple
      (fun w => w.reader.state = .head h ∧ (∃ seen, spec.HeadInv seen w.reader w.source ∧
        seen ++ w.source.bytes = spec.total) ∧ spec.Admits now w.context ∧ Same N F w)
      (P.readHead now h)
      { ready := fun o w => Same N F w ∧ match o with
          | none => spec.HeadEnds ∧ w.reader.state = .head h ∧
              (∃ seen, spec.HeadInv seen w.reader w.source ∧
                seen ++ w.source.bytes = spec.total) ∧ spec.Admits now w.context
          | some e => ∃ head c, spec.Opened head c e ∧ head ++ w.source.bytes = spec.total ∧
              w.reader.cipher = some c ∧ spec.Fine now w.reader.rest w.context
        pending := fun w => w.source.pendings + 1 = N ∧ w.source.failures = F ∧
          w.reader.state = .head h ∧ ∃ seen, spec.HeadInv seen w.reader w.source ∧
            seen ++ w.source.bytes = spec.total
        failed := fun _ _ => spec.HeadFails ∨ 0 < F }

/-- What one poll does, from plaintext `plain` delivered so far. -/
def pollPost (S : AeadScheme K) (plain : Bytes) (N F : Nat) :
    Post (ReadWorld K H X B) ε Bytes :=
  { ready := fun out w => spec.Between S (plain ++ out) w ∧ Same N F w ∧
      (out = [] → spec.CleanEnd S plain w)
    pending := fun w => spec.Between S plain w ∧ w.source.pendings + 1 = N ∧ w.source.failures = F
    failed := fun _ _ => spec.Refused S F }

variable {spec S}

theorem Inv.mono {A A' : Context B → Prop} {G G' : X → Context B → Prop} {plain : Bytes}
    {w : ReadWorld K H X B} (hA : A w.context → A' w.context)
    (hG : G w.reader.rest w.context → G' w.reader.rest w.context) (h : spec.Inv S A G plain w) :
    spec.Inv S A' G' plain w := by
  cases h with
  | head hstate hplain hinv htotal hctx => exact .head hstate hplain hinv htotal (hA hctx)
  | reading hstate hcipher htaken hlen hrest => exact .reading hstate hcipher htaken hlen (hG hrest)
  | buffered hstate hpos hcipher htaken hrest => exact .buffered hstate hpos hcipher htaken (hG hrest)

theorem Taken.length {plain m rest l : Bytes} {c : Cipher K}
    (h : spec.Taken S plain c .length (m ++ rest)) (hsize : m.length = Expect.length.size S)
    (hopen : S.decrypt? c.key c.nonce m = some l) (hallowed : spec.allowed (fromBigEndian l)) :
    spec.Taken S plain (c.skip 1) (.data (fromBigEndian l)) rest := by
  obtain ⟨head, c₀, e₀, body, hopened, hopens, htotal⟩ := h
  exact ⟨head, c₀, e₀, body ++ m, hopened, hopens.length hopen hsize hallowed,
    by rw [List.append_assoc]; exact htotal⟩

theorem Taken.data {plain m rest p : Bytes} {c : Cipher K} {n : Nat}
    (h : spec.Taken S plain c (.data n) (m ++ rest)) (hsize : m.length = (Expect.data n).size S)
    (hopen : S.decrypt? c.key c.nonce m = some p) :
    spec.Taken S (plain ++ p) (c.skip 1) .length rest := by
  obtain ⟨head, c₀, e₀, body, hopened, hopens, htotal⟩ := h
  exact ⟨head, c₀, e₀, body ++ m, hopened, hopens.data hopen hsize,
    by rw [List.append_assoc]; exact htotal⟩

/-- Nothing is delivered that was not read. -/
theorem Taken.plain_le {plain rest : Bytes} {c : Cipher K} {e : Expect}
    (h : spec.Taken S plain c e rest) : plain.length ≤ spec.total.length := by
  obtain ⟨head, c₀, e₀, body, _, hopens, htotal⟩ := h
  have := hopens.plain_le
  rw [← htotal]
  simp only [List.length_append]
  omega

theorem Inv.plain_le {A : Context B → Prop} {G : X → Context B → Prop} {plain : Bytes}
    {w : ReadWorld K H X B} (h : spec.Inv S A G plain w) : plain.length ≤ spec.total.length := by
  cases h with
  | head _ hplain => simp [hplain]
  | reading _ _ htaken => exact htaken.plain_le
  | buffered _ _ _ htaken =>
    have := htaken.plain_le
    rw [List.length_append] at this
    omega

end ReaderSpec

/-! ## One function at a time -/

/-- What has happened to a world whose buffer is being filled. -/
structure Filled (w₀ : ReadWorld K H X B) (size : Nat) (b : Bytes) (s : Source) : Prop where
  bytes : b ++ s.bytes = w₀.reader.buffer ++ w₀.source.bytes
  length_le : b.length ≤ size
  failures : s.failures = w₀.source.failures

/-- What `poll_read_exact` does from the world `w₀`. -/
def exactPost (w₀ : ReadWorld K H X B) (size : Nat) : Post (ReadWorld K H X B) IoError Nat :=
  { ready := fun n w => ∃ b s, w = w₀.fill b s ∧ Filled w₀ size b s ∧
      s.pendings = w₀.source.pendings ∧
      (n = size ∧ b.length = size ∨ n = 0 ∧ b = [] ∧ s.bytes = [])
    pending := fun w => ∃ b s, w = w₀.fill b s ∧ Filled w₀ size b s ∧
      s.pendings + 1 = w₀.source.pendings
    failed := fun _ _ => 0 < w₀.source.failures ∨
      ∃ b, b = w₀.reader.buffer ++ w₀.source.bytes ∧ b ≠ [] ∧ b.length < size }

theorem pollReadExact_spec {size : Nat} (hsize : 0 < size) (w₀ : ReadWorld K H X B)
    (hlen : w₀.reader.buffer.length ≤ size) :
    Triple (fun w => w = w₀) (pollReadExact size) (exactPost w₀ size) := by
  unfold pollReadExact
  rw [if_neg (by omega)]
  -- every round keeps what the buffer and the source have together
  refine Triple.weaken (P := fun w => ∃ b s, w = w₀.fill b s ∧ Filled w₀ size b s ∧
    s.pendings = w₀.source.pendings) (Triple.loop readExactRound_again ?_)
    (fun w hw => ⟨_, _, hw, ⟨rfl, hlen, rfl⟩, rfl⟩)
  refine Triple.of_result fun w r w' hw h => ?_
  obtain ⟨b, s, rfl, hfill, hpend⟩ := hw
  by_cases hshort : b.length < size
  · simp only [readExactRound, ReadWorld.fill, hshort, if_true] at h
    rcases hr : s.read (size - b.length) with ⟨res, s'⟩
    rw [hr] at h
    cases res with
    | pending =>
      cases h
      obtain ⟨hbytes, hpend', hfail⟩ := Source.read_pending hr
      exact ⟨b, s', rfl, ⟨by rw [← hbytes]; exact hfill.bytes, hfill.length_le,
        hfail ▸ hfill.failures⟩, by omega⟩
    | failed e =>
      cases h
      obtain ⟨_, _, hfail⟩ := Source.read_failed hr
      have := hfill.failures
      exact .inl (by omega)
    | panicked => exact absurd hr Source.read_ne_panicked
    | ready bs =>
      obtain ⟨hbytes, hcap, hpend', hfail, hnone⟩ := Source.read_ready hr
      cases bs with
      | nil =>
        obtain ⟨hs, rfl⟩ := hnone (by omega) rfl
        -- an empty read is the end of the source
        have hall : b = w₀.reader.buffer ++ w₀.source.bytes := by
          rw [← hfill.bytes, hs]
          exact (List.append_nil b).symm
        by_cases hb : b = []
        · simp only [hb, ne_eq, not_true_eq_false, if_false] at h
          cases h
          refine ⟨b, [], hb ▸ rfl, ⟨by rw [← hfill.bytes, hs], hfill.length_le, ?_⟩, ?_,
            .inr ⟨rfl, hb, rfl⟩⟩
          · rw [hfail]; exact hfill.failures
          · rw [hpend']; exact hpend
        · simp only [ne_eq, hb, not_false_eq_true, if_true] at h
          cases h
          exact .inr ⟨b, hall, hb, hshort⟩
      | cons x bs =>
        cases h
        refine ⟨b ++ (x :: bs), s', rfl, ⟨?_, ?_, ?_⟩, ?_⟩
        · rw [List.append_assoc, ← hbytes]; exact hfill.bytes
        · rw [List.length_append]; omega
        · rw [hfail]; exact hfill.failures
        · rw [hpend']; exact hpend
  · simp only [readExactRound, ReadWorld.fill, hshort, if_false] at h
    cases h
    have := hfill.length_le
    exact ⟨b, s, rfl, hfill, hpend, .inl ⟨rfl, by omega⟩⟩

/-- What opening the whole buffer does. -/
theorem decryptBuffer_spec (S : AeadScheme K) {size : Nat} {c : Cipher K}
    (w₁ : ReadWorld K H X B) (hcipher : w₁.reader.cipher = some c)
    (hsize : w₁.reader.buffer.length = size) :
    Triple (fun w => w = w₁) (decryptBuffer (ε := ε) S size)
      { ready := fun opened w => match S.decrypt? c.key c.nonce w₁.reader.buffer with
          | some p => opened = true ∧
              w = w₁.setCipher (c.skip 1) (p ++ w₁.reader.buffer.drop p.length)
          | none => opened = false
        pending := fun _ => False
        failed := fun _ _ => False } := by
  refine Triple.get fun w hw => ?_
  subst hw
  have htake : w.reader.buffer.take size = w.reader.buffer := List.take_of_length_le (by omega)
  have hdrop : w.reader.buffer.drop size = [] := List.drop_eq_nil_of_le (by omega)
  simp only [hcipher, htake, hdrop, List.append_nil, Cipher.decryptPacket]
  cases hopen : S.decrypt? c.key c.nonce w.reader.buffer with
  | none => rfl
  | some p => exact ⟨rfl, rfl⟩

namespace ReaderSpec

variable {spec : ReaderSpec K H X B} {P : ChunkProtocol K H X B ε}

/-- Where a packet is being read: the reader's cipher and what is left of the
    stream, everything else being as in `w₀`. -/
structure AtPacket (spec : ReaderSpec K H X B) (S : AeadScheme K) (w₀ : ReadWorld K H X B)
    (plain : Bytes) (c : Cipher K) (e : Expect) (N F : Nat) : Prop where
  cipher : w₀.reader.cipher = some c
  taken : spec.Taken S plain c e (w₀.reader.buffer ++ w₀.source.bytes)
  length_le : w₀.reader.buffer.length ≤ e.size S
  same : Same N F w₀

/-- Reading a packet's bytes: they are all there, or nothing is, or the poll is
    pending somewhere in between. -/
theorem readPacket_spec {S : AeadScheme K} {w₀ : ReadWorld K H X B} {plain : Bytes}
    {c : Cipher K} {e : Expect} {N F : Nat} (h : AtPacket spec S w₀ plain c e N F)
    (ioError : IoError → ε) :
    Triple (fun w => w = w₀) (PollM.mapErr ioError (pollReadExact (e.size S)))
      { ready := fun n w => ∃ b s, w = w₀.fill b s ∧ Same N F w ∧
          (n ≠ 0 ∧ b.length = e.size S ∧ spec.Taken S plain c e (b ++ s.bytes) ∨
            n = 0 ∧ b = [] ∧ s.bytes = [] ∧ spec.Taken S plain c e [])
        pending := fun w => ∃ b s, w = w₀.fill b s ∧ b.length ≤ e.size S ∧
          spec.Taken S plain c e (b ++ s.bytes) ∧ s.pendings + 1 = N ∧ s.failures = F
        failed := fun _ _ => spec.Refused S F } := by
  obtain ⟨hN, hF⟩ := h.same
  have htaken : ∀ {b s}, Filled w₀ (e.size S) b s → spec.Taken S plain c e (b ++ s.bytes) :=
    fun hfill => hfill.bytes ▸ h.taken
  refine Triple.mapErr
    ((pollReadExact_spec (e.size_pos S) w₀ h.length_le).strengthen ⟨?_, ?_, ?_, fun _ h => h⟩)
  · rintro n w ⟨b, s, rfl, hfill, hpend, hn⟩
    refine ⟨b, s, rfl, ⟨hpend.trans hN, hfill.failures.trans hF⟩, ?_⟩
    rcases hn with ⟨rfl, hlen⟩ | ⟨rfl, rfl, hs⟩
    · exact .inl ⟨(e.size_pos S).ne', hlen, htaken hfill⟩
    · exact .inr ⟨rfl, rfl, hs, by simpa [hs] using htaken hfill⟩
  · rintro w ⟨b, s, rfl, hfill, hpend⟩
    exact ⟨b, s, rfl, hfill.length_le, htaken hfill, hpend.trans hN, hfill.failures.trans hF⟩
  · rintro _ w (hio | ⟨b, rfl, hb, hshort⟩)
    · exact .io (hF ▸ hio)
    · exact .truncated h.taken hshort fun _ => hb

/-- What `poll_read_length` does. -/
theorem pollReadLength_spec (hspec : spec.Holds P) {w₀ : ReadWorld K H X B}
    {plain : Bytes} {c : Cipher K} {N F : Nat} (h : AtPacket spec P.scheme w₀ plain c .length N F) :
    Triple (fun w => w = w₀) (pollReadLength P)
      { ready := fun o w => Same N F w ∧ match o with
          | none => ∃ s, w = w₀.fill [] s ∧ s.bytes = [] ∧ spec.Taken P.scheme plain c .length []
          | some n => ∃ b s, w = (w₀.fill [] s).setCipher (c.skip 1) b ∧
              spec.Taken P.scheme plain (c.skip 1) (.data n) s.bytes
        pending := fun w => ∃ b s, w = w₀.fill b s ∧ b.length ≤ Expect.length.size P.scheme ∧
          spec.Taken P.scheme plain c .length (b ++ s.bytes) ∧ s.pendings + 1 = N ∧ s.failures = F
        failed := fun _ _ => spec.Refused P.scheme F } := by
  unfold pollReadLength
  refine Triple.bind (readPacket_spec h P.ioError) fun n => ?_
  -- here the stream may end
  by_cases hn : n = 0
  · rw [if_pos hn]
    refine Triple.pure fun w hw => ?_
    obtain ⟨b, s, rfl, hsame, ⟨hn', _⟩ | ⟨_, rfl, hs, htaken⟩⟩ := hw
    · exact absurd hn hn'
    · exact ⟨hsame, s, rfl, hs, htaken⟩
  · rw [if_neg hn]
    refine Triple.of_state fun w₁ hw₁ => ?_
    obtain ⟨b, s, rfl, hsame, ⟨_, hlen, htaken⟩ | ⟨hn', _⟩⟩ := hw₁
    · refine Triple.bind ((decryptBuffer_spec P.scheme (w₀.fill b s) h.cipher hlen).strengthen
        ⟨fun _ _ h => h, fun _ h => h.elim, fun _ _ h => h.elim, fun _ h => h⟩) fun opened => ?_
      refine Triple.of_result fun w r w' hw hr => ?_
      rw [show (w₀.fill b s).reader.buffer = b from rfl] at hw
      cases hopen : P.scheme.decrypt? c.key c.nonce b with
      | none =>
        rw [hopen] at hw
        obtain rfl : opened = false := hw
        cases hr
        exact .unopened htaken hlen hopen
      | some l =>
        rw [hopen] at hw
        obtain ⟨rfl, rfl⟩ := hw
        have hl : l.length = 2 := by
          have := P.scheme.decrypt_length hopen
          simp only [Expect.size] at hlen
          omega
        -- the tag is still in the buffer, behind the two bytes
        have hplen : (l ++ b.drop l.length).take 2 = l := by
          rw [← hl, List.take_left']
          rfl
        rw [if_pos rfl, PollM.get_bind] at hr
        dsimp only [ReadWorld.setCipher] at hr
        rw [hplen] at hr
        cases hc : P.checkLength (fromBigEndian l) with
        | error e =>
          rw [hc] at hr
          cases hr
          exact .disallowed htaken hlen hopen (hspec.checkLength_error hc)
        | ok _ =>
          rw [hc] at hr
          cases hr
          exact ⟨hsame, _, s, rfl, htaken.length hlen hopen (hspec.checkLength_ok hc)⟩
    · exact absurd hn' hn

/-- What `poll_read_data` does. -/
theorem pollReadData_spec (hspec : spec.Holds P) {now : Time} {w₀ : ReadWorld K H X B}
    {plain : Bytes} {c : Cipher K} {n N F : Nat}
    (h : AtPacket spec P.scheme w₀ plain c (.data n) N F)
    (hfine : spec.Fine now w₀.reader.rest w₀.context) :
    Triple (fun w => w = w₀) (pollReadData P now n)
      { ready := fun _ w => Same N F w ∧ w.reader.cipher = some (c.skip 1) ∧
          spec.Taken P.scheme (plain ++ w.reader.buffer) (c.skip 1) .length w.source.bytes ∧
          spec.Fine now w.reader.rest w.context
        pending := fun w => ∃ b s, w = w₀.fill b s ∧ b.length ≤ (Expect.data n).size P.scheme ∧
          spec.Taken P.scheme plain c (.data n) (b ++ s.bytes) ∧
          s.pendings + 1 = N ∧ s.failures = F
        failed := fun _ _ => spec.Refused P.scheme F } := by
  unfold pollReadData
  refine Triple.bind (readPacket_spec h P.ioError) fun k => ?_
  -- nothing is read only where the stream ends inside the packet
  by_cases hk : k = 0
  · rw [if_pos hk]
    refine Triple.fail fun w hw => ?_
    obtain ⟨b, s, _, _, ⟨hk', _⟩ | ⟨_, _, _, htaken⟩⟩ := hw
    · exact absurd hk hk'
    · exact .truncated htaken (Expect.size_pos _ _) (fun he => by cases he)
  · rw [if_neg hk]
    refine Triple.of_state fun w₁ hw₁ => ?_
    obtain ⟨b, s, rfl, hsame, ⟨_, hlen, htaken⟩ | ⟨hk', _⟩⟩ := hw₁
    · refine Triple.bind ((decryptBuffer_spec P.scheme (w₀.fill b s) h.cipher hlen).strengthen
        ⟨fun _ _ h => h, fun _ h => h.elim, fun _ _ h => h.elim, fun _ h => h⟩) fun opened => ?_
      refine Triple.of_result fun w r w' hw hr => ?_
      rw [show (w₀.fill b s).reader.buffer = b from rfl] at hw
      cases hopen : P.scheme.decrypt? c.key c.nonce b with
      | none =>
        rw [hopen] at hw
        obtain rfl : opened = false := hw
        cases hr
        exact .unopened htaken hlen hopen
      | some p =>
        rw [hopen] at hw
        obtain ⟨rfl, rfl⟩ := hw
        have hp : p.length = n := by
          have := P.scheme.decrypt_length hopen
          simp only [Expect.size] at hlen
          omega
        -- the text counts only if the protocol has nothing against it
        rcases ha : P.afterData now w₀.reader.rest w₀.context with ⟨result, x, ctx⟩
        rw [if_pos rfl, PollM.get_bind, PollM.update_bind] at hr
        dsimp only [ReadWorld.setCipher, ReadWorld.fill] at hr
        rw [ha] at hr
        cases result with
        | error e =>
          cases hr
          exact .after (hspec.afterData_error hfine ha)
        | ok _ =>
          cases hr
          refine ⟨hsame, rfl, ?_, hspec.afterData_ok hfine ha⟩
          have htrunc : (p ++ b.drop p.length).take n = p := by
            rw [← hp, List.take_left']
            rfl
          change spec.Taken _ (plain ++ (p ++ b.drop p.length).take n) _ _ _
          rw [htrunc]
          exact htaken.data hlen hopen
    · exact absurd hk' hk

/-! ## One poll -/

theorem Within.between (hspec : spec.Holds P) {now : Time} {plain : Bytes} {w : ReadWorld K H X B}
    (h : spec.Within P.scheme now plain w) : spec.Between P.scheme plain w :=
  h.mono (fun _ => trivial) hspec.rest_of_fine

/-- What one round does: the invariant is kept, or the poll ends as `pollPost` says. -/
def roundPost (spec : ReaderSpec K H X B) (S : AeadScheme K) (now : Time) (plain : Bytes)
    (N F : Nat) : Post (ReadWorld K H X B) ε (Option Bytes) :=
  (spec.pollPost S plain N F).onReady
    (Triple.roundClause (fun w => spec.Within S now plain w ∧ Same N F w)
      (spec.pollPost (ε := ε) S plain N F).ready)

section Rounds

variable {now : Time} {remaining : Nat} {plain : Bytes} {N F : Nat} {w : ReadWorld K H X B}

theorem readRound_head (hspec : spec.Holds P) {h : H} {seen : Bytes}
    (hstate : w.reader.state = .head h) (hplain : plain = [])
    (hhead : spec.HeadInv seen w.reader w.source) (htotal : seen ++ w.source.bytes = spec.total)
    (hctx : spec.Admits now w.context) (hsame : Same N F w) :
    (spec.roundPost P.scheme now plain N F).holds (readRound P now remaining w) := by
  rw [readRound, PollM.get_bind, hstate]
  refine Triple.apply ⟨hstate, ⟨seen, hhead, htotal⟩, hctx, hsame⟩
    (Triple.seq (hspec.readHead now h N F) (fun o => ?_) ?_ ?_ fun _ h => h)
  · cases o with
    | none =>
      refine Triple.pure fun w' hw' => ?_
      obtain ⟨hsame', hends, hstate', ⟨seen', hhead', htotal'⟩, _⟩ := hw'
      refine ⟨?_, hsame', fun _ => .inr ⟨hplain, hends⟩⟩
      rw [List.append_nil]
      exact .head hstate' hplain hhead' htotal' trivial
    | some e =>
      refine Triple.update (M := fun w => spec.Within P.scheme now plain w ∧ Same N F w) ?_
        (Triple.pure fun _ h => h)
      rintro w' ⟨hsame', head, c, hopened, htotal', hcipher, hfine⟩
      refine ⟨.reading (e := e) (c := c) rfl hcipher ?_ (Nat.zero_le _) hfine, hsame'⟩
      subst hplain
      exact ⟨head, c, e, [], hopened, .start, htotal'⟩
  · rintro w' ⟨hN, hF, hstate', seen', hhead', htotal'⟩
    exact ⟨.head hstate' hplain hhead' htotal' trivial, hN, hF⟩
  · rintro _ _ (hfail | hio)
    · exact .head hfail
    · exact .io hio

theorem readRound_length (hspec : spec.Holds P) {c : Cipher K}
    (hstate : w.reader.state = .readLength)
    (hat : AtPacket spec P.scheme w plain c .length N F) (hrest : spec.Fine now w.reader.rest w.context) :
    (spec.roundPost P.scheme now plain N F).holds (readRound P now remaining w) := by
  rw [readRound, PollM.get_bind, hstate]
  refine Triple.apply (P := fun w' => w' = w) rfl
    (Triple.seq (pollReadLength_spec hspec hat) (fun o => ?_) ?_ (fun _ _ h => h) fun _ h => h)
  · cases o with
    | none =>
      refine Triple.pure fun w' hw' => ?_
      obtain ⟨hsame', s, rfl, hs, htaken'⟩ := hw'
      refine ⟨?_, hsame', fun _ => .inl ⟨c, htaken', hspec.rest_of_fine hrest⟩⟩
      rw [List.append_nil]
      refine Within.between hspec (.reading (e := .length) hstate hat.cipher ?_ (Nat.zero_le _) hrest)
      change spec.Taken _ _ _ _ ([] ++ s.bytes)
      rw [hs]
      exact htaken'
    | some n =>
      refine Triple.update (M := fun w => spec.Within P.scheme now plain w ∧ Same N F w) ?_
        (Triple.pure fun _ h => h)
      rintro w' ⟨hsame', b, s, rfl, htaken'⟩
      exact ⟨.reading (e := .data n) rfl rfl htaken' (Nat.zero_le _) hrest, hsame'⟩
  · rintro w' ⟨b, s, rfl, hb, htaken', hN, hF⟩
    exact ⟨Within.between hspec (.reading (e := .length) hstate hat.cipher htaken' hb hrest), hN, hF⟩

theorem readRound_data (hspec : spec.Holds P) {c : Cipher K} {n : Nat}
    (hstate : w.reader.state = .readData n)
    (hat : AtPacket spec P.scheme w plain c (.data n) N F)
    (hrest : spec.Fine now w.reader.rest w.context) :
    (spec.roundPost P.scheme now plain N F).holds (readRound P now remaining w) := by
  rw [readRound, PollM.get_bind, hstate]
  refine Triple.apply (P := fun w' => w' = w) rfl
    (Triple.seq (pollReadData_spec hspec hat hrest) (fun _ => ?_) ?_ (fun _ _ h => h) fun _ h => h)
  · refine Triple.update (M := fun w => spec.Within P.scheme now plain w ∧ Same N F w) ?_
      (Triple.pure fun _ h => h)
    rintro w' ⟨hsame', hcipher', htaken', hfine⟩
    exact ⟨.buffered (rfl : _ = DecryptReadState.bufferedData 0) (Nat.zero_le _) hcipher' htaken' hfine,
      hsame'⟩
  · rintro w' ⟨b, s, rfl, hb, htaken', hN, hF⟩
    exact ⟨Within.between hspec (.reading (e := .data n) hstate hat.cipher htaken' hb hrest), hN, hF⟩

theorem readRound_buffered (hspec : spec.Holds P) (hroom : 0 < remaining) {pos : Nat} {c : Cipher K}
    (hstate : w.reader.state = .bufferedData pos) (hcipher : w.reader.cipher = some c)
    (htaken : spec.Taken P.scheme (plain ++ w.reader.buffer.drop pos) c .length w.source.bytes)
    (hrest : spec.Fine now w.reader.rest w.context) (hsame : Same N F w) :
    (spec.roundPost P.scheme now plain N F).holds (readRound P now remaining w) := by
  rw [readRound, PollM.get_bind, hstate]
  by_cases hlt : pos < w.reader.buffer.length
  · simp only [hlt, if_true]
    have hleft : (w.reader.buffer.drop pos).length = w.reader.buffer.length - pos :=
      List.length_drop
    refine ⟨?_, hsame, ?_⟩
    · refine Within.between hspec (.buffered
        (rfl : _ = DecryptReadState.bufferedData (pos + min (w.reader.buffer.length - pos) remaining))
        ?_ hcipher ?_ hrest)
      · change _ ≤ w.reader.buffer.length
        omega
      · change spec.Taken _ (plain ++ _ ++ w.reader.buffer.drop _) _ _ _
        rw [List.append_assoc, ← List.drop_drop, List.take_append_drop]
        exact htaken
    · -- there is room and something to deliver, so the poll does not come back empty
      intro hout
      have hlen := congrArg List.length hout
      rw [List.length_take, hleft, List.length_nil] at hlen
      omega
  · simp only [hlt, if_false]
    have hdrop : w.reader.buffer.drop pos = [] := List.drop_eq_nil_of_le (by omega)
    rw [hdrop, List.append_nil] at htaken
    exact ⟨.reading (e := .length) rfl hcipher htaken (Nat.zero_le _) hrest, hsame⟩

theorem readRound_spec (hspec : spec.Holds P) (hroom : 0 < remaining) :
    Triple (fun w => spec.Within P.scheme now plain w ∧ Same N F w) (readRound P now remaining)
      (spec.roundPost P.scheme now plain N F) := by
  rintro w ⟨hinv, hsame⟩
  cases hinv with
  | head hstate hplain hhead htotal hctx =>
    exact readRound_head hspec hstate hplain hhead htotal hctx hsame
  | @reading e c hstate hcipher htaken hlen hrest =>
    cases e with
    | length => exact readRound_length hspec hstate ⟨hcipher, htaken, hlen, hsame⟩ hrest
    | data n => exact readRound_data hspec hstate ⟨hcipher, htaken, hlen, hsame⟩ hrest
  | buffered hstate _ hcipher htaken hrest =>
    exact readRound_buffered hspec hroom hstate hcipher htaken hrest hsame

end Rounds

/-- **One poll of a chunk reader**, from any state that the invariant allows and
    in any context that the specification admits. -/
theorem pollReadDecrypted_spec (hspec : spec.Holds P) {now : Time} {remaining : Nat}
    (hroom : 0 < remaining) {plain : Bytes} {w : ReadWorld K H X B}
    (hinv : spec.Between P.scheme plain w) (hctx : spec.Admits now w.context) :
    (spec.pollPost P.scheme plain w.source.pendings w.source.failures).holds
      (pollReadDecrypted P now remaining w) :=
  Triple.loop (readRound_again P) (readRound_spec hspec hroom) w
    ⟨hinv.mono (fun _ => hctx) (hspec.fine_of_admits hctx), rfl, rfl⟩

/-! ## Runs of polls -/

/-- What a run of polls has come to. -/
structure RunPost (spec : ReaderSpec K H X B) (S : AeadScheme K) (w : ReadWorld K H X B)
    (polls : Nat) (r : Received (ReadWorld K H X B) ε) : Prop where
  delivered : ∃ w', spec.Between S r.bytes w'
  running : r.ending = .running → spec.Between S r.bytes r.state ∧
    polls ≤ w.source.pendings + spec.total.length
  cleanEnd : r.ending = .cleanEnd → spec.CleanEnd S r.bytes r.state
  failed : ∀ e, r.ending = .failed e → spec.Refused S w.source.failures
  not_panicked : r.ending ≠ .panicked

variable {spec : ReaderSpec K H X B} {P : ChunkProtocol K H X B ε}

/-- **Any run of polls** of a reader that keeps to the specification.  The number
    of polls that find the run still going is bounded. -/
theorem receive_spec (hspec : spec.Holds P) {calls : List (ReadCall B)}
    (hcalls : ∀ call ∈ calls, 0 < call.room ∧ spec.Admits call.now call.context)
    {w : ReadWorld K H X B} (hinv : spec.Between P.scheme [] w) :
    RunPost spec P.scheme w calls.length (receive (pollRead P) calls w) := by
  have hrun := receive_rule (pollRead P)
    (fun call => 0 < call.room ∧ spec.Admits call.now call.context)
    (fun plain w' => spec.Between P.scheme plain w' ∧ w'.source.failures = w.source.failures)
    (fun plain w' => spec.CleanEnd P.scheme plain w')
    (fun _ _ _ => spec.Refused P.scheme w.source.failures)
    (fun plain w' => w'.source.pendings + (spec.total.length - plain.length))
    ?step calls [] w hcalls ⟨hinv, rfl⟩
  case step =>
    rintro call plain t ⟨hroom, hctx⟩ ⟨ht, hfail⟩
    -- the context is the call's own, and nothing but the head depends on it
    have ht' : spec.Between P.scheme plain { t with context := call.context } := by
      cases ht with
      | head hstate hplain hinv htotal hctx => exact .head hstate hplain hinv htotal trivial
      | reading hstate hcipher htaken hlen hrest =>
        exact .reading hstate hcipher htaken hlen hrest
      | buffered hstate hpos hcipher htaken hrest =>
        exact .buffered hstate hpos hcipher htaken hrest
    refine Post.Implies.holds
      (Q := spec.pollPost P.scheme plain t.source.pendings t.source.failures)
      ⟨?_, ?_, ?_, fun _ h => h.elim⟩ (pollRead P call t)
      (pollReadDecrypted_spec hspec hroom ht' hctx)
    · rintro out t' ⟨hinv', ⟨hpend, hfail'⟩, hend⟩
      refine ⟨⟨hinv', hfail'.trans hfail⟩, hend, fun hout => ?_⟩
      have hle := hinv'.plain_le
      have hpos := List.length_pos_iff.2 hout
      change t'.source.pendings = t.source.pendings at hpend
      rw [List.length_append] at hle ⊢
      omega
    · rintro t' ⟨hinv', hpend, hfail'⟩
      change t'.source.pendings + 1 = t.source.pendings at hpend
      exact ⟨⟨hinv', hfail'.trans hfail⟩, by omega⟩
    · intro _ _ hrefused
      exact hfail ▸ hrefused
  obtain ⟨hrunning, hclean, hfailed, hpanic, w', hw', _⟩ := hrun
  refine ⟨⟨w', hw'⟩, fun h => ?_, fun h => ?_, hfailed, hpanic⟩
  · obtain ⟨⟨hinv', _⟩, hfuel⟩ := hrunning h
    exact ⟨hinv', by simpa using hfuel⟩
  · exact (hclean h).1

/-! ## Honest streams -/

/-- The stream is one that a sender sealed: after the head come the chunks of
    `sent`, all of allowed length, and nothing around them is refused. -/
structure Honest (spec : ReaderSpec K H X B) (S : AeadScheme K) (sent : List Bytes) : Prop where
  correct : S.Correct
  small : ∀ p ∈ sent, p.length < 65536 ∧ spec.allowed p.length
  opened : ∀ {head c e rest}, spec.Opened head c e → head ++ rest = spec.total →
    e.Fits sent ∧ rest = remaining S c e sent
  not_headEnds : ¬ spec.HeadEnds
  not_headFails : ¬ spec.HeadFails
  not_afterFails : ¬ spec.AfterFails

variable {S : AeadScheme K} {sent : List Bytes}

theorem Honest.taken (h : spec.Honest S sent) {plain rest : Bytes} {c : Cipher K} {e : Expect}
    (htaken : spec.Taken S plain c e rest) :
    ∃ left, left <:+ sent ∧ plain ++ left.flatten = sent.flatten ∧ e.Fits left ∧
      rest = remaining S c e left := by
  obtain ⟨head, c₀, e₀, body, hopened, hopens, htotal⟩ := htaken
  obtain ⟨hfits, hrest⟩ := h.opened hopened htotal
  exact hopens.honest h.correct (fun p hp => (h.small p hp).1) hfits hrest

/-- What has been delivered of an honest stream is a prefix of what was sent. -/
theorem Honest.delivered (h : spec.Honest S sent) {plain : Bytes} {w : ReadWorld K H X B}
    (hinv : spec.Between S plain w) : plain <+: sent.flatten := by
  cases hinv with
  | head _ hplain => exact hplain ▸ List.nil_prefix
  | reading _ _ htaken =>
    obtain ⟨left, _, hplain, _⟩ := h.taken htaken
    exact ⟨_, hplain⟩
  | buffered _ _ _ htaken =>
    obtain ⟨left, _, hplain, _⟩ := h.taken htaken
    rw [List.append_assoc] at hplain
    exact ⟨_, hplain⟩

/-- An honest stream is never refused while the transport holds. -/
theorem Honest.not_refused (h : spec.Honest S sent) : ¬ spec.Refused S 0 := by
  intro hr
  cases hr with
  | io hio => exact absurd hio (Nat.lt_irrefl 0)
  | head hfail => exact h.not_headFails hfail
  | after hfail => exact h.not_afterFails hfail
  | @truncated plain c e part htaken hshort hpart =>
    obtain ⟨left, _, _, hfits, rfl⟩ := h.taken htaken
    rcases remaining_size (S := S) (c := c) hfits with hsize | ⟨rfl, rfl⟩
    · omega
    · exact hpart rfl rfl
  | @unopened plain c e m rest htaken hsize hopen =>
    obtain ⟨left, _, _, hfits, hrest⟩ := h.taken htaken
    cases e with
    | length =>
      obtain ⟨p, ps, _, hp, _⟩ := remaining_length h.correct hrest hsize
      rw [hopen] at hp
      cases hp
    | data n =>
      obtain ⟨p, ps, _, hp, _⟩ := remaining_data h.correct hrest hfits hsize
      rw [hopen] at hp
      cases hp
  | @disallowed plain c m rest l htaken hsize hopen hlength =>
    obtain ⟨left, hsuffix, _, _, hrest⟩ := h.taken htaken
    obtain ⟨p, ps, rfl, hp, _⟩ := remaining_length h.correct hrest hsize
    obtain rfl : bigEndian 2 p.length = l := Option.some.inj (hp.symm.trans hopen)
    obtain ⟨hsmall, hallowed⟩ := h.small p (hsuffix.subset (List.mem_cons_self ..))
    exact hlength (by rwa [fromBigEndian_bigEndian_of_lt hsmall])

/-- A clean end of an honest stream comes when everything has been delivered. -/
theorem Honest.cleanEnd (h : spec.Honest S sent) {plain : Bytes} {w : ReadWorld K H X B}
    (hend : spec.CleanEnd S plain w) : plain = sent.flatten ∧ spec.RestInv w.reader.rest := by
  rcases hend with ⟨c, htaken, hrest⟩ | ⟨_, hends⟩
  · obtain ⟨left, _, hplain, hfits, hempty⟩ := h.taken htaken
    rcases remaining_size (S := S) (c := c) hfits with hsize | ⟨_, rfl⟩
    · rw [← hempty] at hsize
      have := Expect.size_pos S .length
      simp only [List.length_nil] at hsize
      omega
    · exact ⟨by rw [← hplain, List.flatten_nil, List.append_nil], hrest⟩
  · exact absurd hends h.not_headEnds

/-- What a run of polls has come to on an honest stream; `Reports` is what the
    reader's own fields say at its end. -/
structure Delivery (sent : List Bytes) (Reports : X → Prop) (enough : Prop)
    (r : Received (ReadWorld K H X B) ε) : Prop where
  bytes : r.bytes <+: sent.flatten
  ending : r.ending = .running ∨ r.ending = .cleanEnd
  complete : r.ending = .cleanEnd → r.bytes = sent.flatten ∧ Reports r.state.reader.rest
  ends : enough → r.ending = .cleanEnd

/-- **A run of polls over an honest stream** delivers what was sent, in order,
    and nothing else; with enough polls it delivers everything and ends cleanly. -/
theorem receive_honest (hspec : spec.Holds P) (h : spec.Honest P.scheme sent)
    {calls : List (ReadCall B)}
    (hcalls : ∀ call ∈ calls, 0 < call.room ∧ spec.Admits call.now call.context)
    {w : ReadWorld K H X B} (hinv : spec.Between P.scheme [] w) (hio : w.source.failures = 0) :
    Delivery sent spec.RestInv (w.source.pendings + spec.total.length < calls.length)
      (receive (pollRead P) calls w) := by
  have hrun := receive_spec hspec hcalls hinv
  obtain ⟨w', hw'⟩ := hrun.delivered
  have hending : (receive (pollRead P) calls w).ending = .running ∨
      (receive (pollRead P) calls w).ending = .cleanEnd := by
    cases he : (receive (pollRead P) calls w).ending with
    | running => exact .inl rfl
    | cleanEnd => exact .inr rfl
    | failed e => exact absurd (hio ▸ hrun.failed e he) h.not_refused
    | panicked => exact absurd he hrun.not_panicked
  refine ⟨h.delivered hw', hending, fun he => h.cleanEnd (hrun.cleanEnd he), fun henough => ?_⟩
  rcases hending with he | he
  · have := (hrun.running he).2
    omega
  · exact he

end ReaderSpec

end Shadowsocks.Tcp
