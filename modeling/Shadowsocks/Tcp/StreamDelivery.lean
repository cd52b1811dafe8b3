import Shadowsocks.Tcp.ReaderDelivery

/-! # The stream reader delivers

A stream reader makes its replay check in the poll in which the IV is complete.  What is encrypted
behind it is decrypted in the pieces in which it comes (`Progress.delivers`), since a stream cipher
does not see where a payload ends.
-/

namespace Shadowsocks.Tcp.Stream

open Shadowsocks.Lib Reading

variable {S B : Type} [BloomFilter B]

/-- Decryption undoes encryption, and pieces of a text may be treated one after the other. -/
structure StreamSuite.Correct (suite : StreamSuite S) : Prop where
  decrypt : ∀ s p, suite.decryptPacket s (suite.encryptPacket s p).1 =
    (true, p, (suite.encryptPacket s p).2)
  append : ∀ s p q, suite.encryptPacket s (p ++ q) =
    ((suite.encryptPacket s p).1 ++ (suite.encryptPacket (suite.encryptPacket s p).2 q).1,
      (suite.encryptPacket (suite.encryptPacket s p).2 q).2)
  empty : ∀ s, suite.encryptPacket s [] = ([], s)

namespace StreamSuite

variable {suite : StreamSuite S}

theorem Correct.encryptAll_eq (correct : suite.Correct) : ∀ (s : S) (payloads : List Bytes),
    suite.encryptAll s payloads = suite.encryptPacket s payloads.flatten
  | s, [] => (correct.empty s).symm
  | s, p :: ps => by
    rw [encryptAll, correct.encryptAll_eq, List.flatten_cons, correct.append]

theorem transparent_correct : transparent.Correct where
  decrypt _ _ := rfl
  append _ _ _ := rfl
  empty _ := rfl

end StreamSuite

variable {suite : StreamSuite S} {method : CipherKind} {key iv total : Bytes}

/-! ## The IV -/

/-- The IV is being read, and `k` more polls find too little of it. -/
abbrev Incoming (iv tail : Bytes) (k : Nat) (w : ReadState S B) : Prop :=
  Source.Incoming iv tail iv.length k w.reader.buffer w.source

/-- The state with another buffer and another rest of the source. -/
def ReadState.fill (buffer : Bytes) (source : Source) (w : ReadState S B) : ReadState S B :=
  { w with reader := { w.reader with buffer := buffer }, source := source }

omit [BloomFilter B] in
theorem pollReadExact_whole {tail : Bytes} {k : Nat} {w₀ : ReadState S B}
    (h : Incoming iv tail k w₀) :
    Triple (fun w => w = w₀) (pollReadExact iv.length)
      { ready := fun got w => got = iv.length ∧ ∃ s, w = w₀.fill iv s ∧
          Source.Behind tail 0 k w₀.source.pendings s
        pending := fun w => ∃ b s j, w = w₀.fill b s ∧ s.pendings + 1 = w₀.source.pendings ∧
          k = j + 1 ∧ Incoming iv tail j w
        failed := fun _ _ => False } := by
  have hsize : 0 < iv.length := Nat.zero_lt_of_lt h.length_lt
  unfold pollReadExact
  rw [if_neg (by omega)]
  refine Triple.weaken (P := fun w => ∃ b s, w = w₀.fill b s ∧ s.pendings = w₀.source.pendings ∧
      (Source.Incoming iv tail iv.length k b s ∨
        b = iv ∧ Source.Behind tail (iv.length - iv.length) k w₀.source.pendings s))
    (Triple.loop readExactRound_again (Triple.of_result fun w res w' hw hround => ?_))
    fun w hw => ⟨w₀.reader.buffer, w₀.source, hw, rfl, .inl h⟩
  obtain ⟨b, s, rfl, hpend, hin | ⟨rfl, hbehind⟩⟩ := hw
  · have hshort : (w₀.fill b s).reader.buffer.length < iv.length := hin.length_lt
    unfold readExactRound at hround
    rw [if_pos hshort] at hround
    rcases hr : (w₀.fill b s).source.read (iv.length - (w₀.fill b s).reader.buffer.length) with
      ⟨out, s'⟩
    rw [hr] at hround
    obtain ⟨j, rfl, hpend', hj, hin'⟩ | ⟨c, cs, rfl, hpend', hmore⟩ := hin.read le_rfl hr
    · cases hround
      exact ⟨b, s', j, rfl, hpend'.trans hpend, hj, hin'⟩
    · cases hround
      exact ⟨b ++ c :: cs, s', rfl, hpend'.trans hpend, hpend ▸ hmore⟩
  · have hfull : ¬(w₀.fill b s).reader.buffer.length < b.length := Nat.lt_irrefl _
    unfold readExactRound at hround
    rw [if_neg hfull] at hround
    cases hround
    exact ⟨rfl, s, rfl, Nat.sub_self b.length ▸ hbehind⟩

/-- The IV has come, and has passed. -/
theorem pollReadIv_accepts (key : Bytes) {tail : Bytes} {k : Nat} {now : Time} {w₀ : ReadState S B}
    (hiv : iv.length = suite.ivLen method) (h : Incoming iv tail k w₀)
    (haccepts : k = 0 → Context.Accepts method iv now w₀.context) :
    Triple (fun w => w = w₀) (pollReadIv suite method now key)
      { ready := fun _ w => w.reader.cipher = some (suite.cipher method key iv) ∧
          w.source.bytes = tail ∧ w.source.failures = 0 ∧
          w.source.pendings = w₀.source.pendings
        pending := fun w => ∃ b s j, w = w₀.fill b s ∧ s.pendings + 1 = w₀.source.pendings ∧
          k = j + 1 ∧ Incoming iv tail j w
        failed := fun _ _ => False } := by
  unfold pollReadIv
  rw [← hiv]
  refine Triple.bind (Triple.mapErr ((pollReadExact_whole h).strengthen
    ⟨fun _ _ h => h, fun _ h => h, fun _ _ h => h, fun _ h => h⟩)) fun got => ?_
  rintro w ⟨rfl, s, rfl, hbehind⟩
  have hok : (w₀.context.checkNonceReplay now method iv).1 = .ok () :=
    haccepts (hbehind.reached rfl)
  rw [if_neg (Nat.lt_irrefl _), PollM.get_bind, PollM.update_bind]
  simp only [ReadState.fill, List.take_length, hok]
  exact ⟨rfl, hbehind.bytes, hbehind.failures, hbehind.pendings⟩

/-! ## What is encrypted -/

/-- `rest` is still to be decrypted. -/
structure Decrypting (suite : StreamSuite S) (rest : Bytes) (w : ReadState S B) : Prop where
  state : w.reader.state = .read
  cipher : ∃ c, w.reader.cipher = some c ∧ w.source.bytes = (suite.encryptPacket c rest).1
  failures : w.source.failures = 0

omit [BloomFilter B] in
/-- Of what is still to be decrypted, a read gets what has come. -/
theorem readPacket_spec (correct : suite.Correct) {rest : Bytes} {room N : Nat} (hroom : 0 < room) :
    Triple (fun w : ReadState S B => Decrypting suite rest w ∧ w.source.pendings = N)
      (readPacket suite room)
      { ready := fun out w => out.length ≤ room ∧ (out = [] → rest = []) ∧
          (∃ rest', rest = out ++ rest' ∧ Decrypting suite rest' w) ∧ w.source.pendings = N
        pending := fun w => Decrypting suite rest w ∧ w.source.pendings + 1 = N
        failed := fun _ _ => False } := by
  rintro w ⟨⟨hstate, ⟨c, hcipher, hbytes⟩, hio⟩, rfl⟩
  unfold readPacket
  rcases hr : w.source.read room with ⟨out, s⟩
  cases out with
  | pending =>
    obtain ⟨hbytes', hpend, hfail⟩ := Source.read_pending hr
    exact ⟨⟨hstate, ⟨c, hcipher, hbytes'.symm.trans hbytes⟩, hfail.symm.trans hio⟩, hpend.symm⟩
  | failed e =>
    obtain ⟨-, -, hfail⟩ := Source.read_failed hr
    exact absurd (hfail.symm.trans hio) (Nat.succ_ne_zero _)
  | panicked => exact absurd hr Source.read_ne_panicked
  | ready bs =>
    obtain ⟨hread, hlen, hpend, hfail, hend⟩ := Source.read_ready hr
    have hsize := congrArg List.length hbytes
    rw [suite.encryptPacket_length] at hsize
    cases bs with
    | nil =>
      obtain ⟨hnone, rfl⟩ := hend hroom rfl
      obtain rfl : rest = [] := by
        rw [hnone] at hsize
        exact List.length_eq_zero_iff.1 hsize.symm
      exact ⟨Nat.zero_le _, fun _ => rfl, ⟨[], rfl, hstate, ⟨c, hcipher, (correct.empty c ▸ rfl)⟩, rfl⟩,
        hpend⟩
    | cons b bs =>
      -- the text that these bytes are of
      obtain ⟨text, rest', rfl, htext⟩ : ∃ text rest', rest = text ++ rest' ∧
          text.length = (b :: bs).length := by
        refine ⟨rest.take (b :: bs).length, rest.drop (b :: bs).length,
          (List.take_append_drop _ _).symm, ?_⟩
        rw [hread, List.length_append] at hsize
        rw [List.length_take]
        omega
      rw [hread, correct.append] at hbytes
      obtain ⟨hpacket, hrest⟩ := List.append_inj hbytes
        (htext.symm.trans (suite.encryptPacket_length c text).symm)
      dsimp only
      rw [hcipher]
      dsimp only
      rw [hpacket, correct.decrypt]
      refine ⟨htext.trans_le hlen, fun hnone => ?_, ⟨rest', rfl, hstate, ⟨_, rfl, hrest⟩,
        hfail.trans hio⟩, hpend⟩
      have hsome : text = [] := hnone
      rw [hsome] at htext
      cases htext

/-! ## Delivery -/

/-- `plain` of `total` has been decrypted. -/
def Decrypted (suite : StreamSuite S) (total : Bytes) (_ : List (Moment B)) (plain : Bytes)
    (w : ReadState S B) : Prop :=
  ∃ rest, plain ++ rest = total ∧ Decrypting suite rest w

/-- A reader of `total` before its replay check, or behind it. -/
abbrev Progress (suite : StreamSuite S) (method : CipherKind) (key iv total : Bytes) :
    List (Moment B) → Bytes → ReadState S B → Prop :=
  Checking (Counting
      (fun k w => w.reader.state = .waitIv key ∧
        Incoming iv (suite.encryptPacket (suite.cipher method key iv) total).1 k w)
      fun moment => Context.Accepts method iv moment.now moment.context)
    (Decrypted suite total)

/-- A poll of the reader in its context. -/
def pollAt (suite : StreamSuite S) (method : CipherKind) (moment : Moment B) (room : Nat) :
    PollM (ReadState S B) ProtocolError Bytes := fun w =>
  pollReadDecrypted suite method moment.now room { w with context := moment.context }

omit [BloomFilter B] in
/-- A read of what is still to be decrypted. -/
theorem readPacket_decrypted (correct : suite.Correct) {calls : List (Moment B)} {plain : Bytes}
    {room : Nat} (hroom : 0 < room) {w : ReadState S B}
    (h : Decrypted suite total calls plain w) : Post.holds
      { ready := fun out t => (out = [] → plain = total) ∧ out.length ≤ room ∧
          Decrypted suite total calls (plain ++ out) t ∧ t.source.pendings ≤ w.source.pendings
        pending := fun t => Decrypted suite total calls plain t ∧
          t.source.pendings < w.source.pendings
        failed := fun _ _ => False } (readPacket suite room w) := by
  obtain ⟨rest, hplain, hdecrypting⟩ := h
  refine Post.mono (readPacket_spec correct hroom w ⟨hdecrypting, rfl⟩)
    ⟨?_, ?_, fun _ _ h => h, fun _ h => h⟩
  · rintro out t ⟨hlen, hend, ⟨rest', rfl, hdecrypting'⟩, hpend⟩
    refine ⟨fun hnone => ?_, hlen, ⟨rest', by rwa [List.append_assoc], hdecrypting'⟩, hpend.le⟩
    rw [← hplain, hend hnone, List.append_nil]
  · rintro t ⟨hdecrypting', hpend⟩
    exact ⟨⟨rest, hplain, hdecrypting'⟩, by omega⟩

/-- Behind the IV what is encrypted is delivered. -/
theorem Decrypted.delivers (correct : suite.Correct) :
    Delivers (pollAt (B := B) suite method) total anyRoom (Decrypted suite total)
      (·.source.pendings) where
  step {moment calls room plain w} hroom h := by
    obtain ⟨rest, hplain, hdecrypting⟩ := h
    unfold pollAt pollReadDecrypted
    rw [PollM.get_bind, hdecrypting.state]
    exact readPacket_decrypted correct hroom ⟨rest, hplain, hdecrypting.state, hdecrypting.cipher,
      hdecrypting.failures⟩
  isPrefix := fun ⟨_, hplain, _⟩ => ⟨_, hplain⟩

theorem Progress.delivers (correct : suite.Correct) (hiv : iv.length = suite.ivLen method) :
    Delivers (pollAt (B := B) suite method) total anyRoom (Progress suite method key iv total)
      (·.source.pendings) := by
  refine (Decrypted.delivers correct).counting ?_
  rintro moment calls room k w hroom hmoment ⟨hstate, hin⟩
  have hin' : Incoming iv (suite.encryptPacket (suite.cipher method key iv) total).1 k
      { w with context := moment.context } := hin
  have hcheck := pollReadIv_accepts key hiv hin' hmoment
  unfold pollAt pollReadDecrypted
  rw [PollM.get_bind, hstate]
  refine Triple.apply (P := fun t => t = { w with context := moment.context }) rfl
    (Triple.seq hcheck (fun _ => ?_) ?_ (fun _ _ h => h) fun _ h => h)
  · refine Triple.of_state ?_
    rintro t ⟨hcipher, hbytes, hio, hpend⟩
    refine Triple.update (M := fun u => Decrypted suite total calls [] u ∧
      u.source.pendings = w.source.pendings) (fun u hu => ?_) fun u hu => ?_
    · subst hu
      exact ⟨⟨total, List.nil_append total, rfl, ⟨_, hcipher, hbytes⟩, hio⟩, hpend⟩
    · have hread := readPacket_decrypted correct hroom hu.1
      rw [hu.2] at hread
      exact Post.mono hread ⟨fun _ _ h => h, fun _ h => ⟨.inr h.1, h.2⟩, fun _ _ h => h, fun _ h => h⟩
  · rintro t ⟨b, s, j, rfl, hpend, hj, hin'⟩
    refine ⟨.inl ⟨j, hj, hstate, hin'⟩, ?_⟩
    change s.pendings < w.source.pendings
    change s.pendings + 1 = w.source.pendings at hpend
    omega

/-- A new reader on an honest stream. A cipher without an IV begins behind it. -/
theorem Progress.start (correct : suite.Correct) (hiv : iv.length = suite.ivLen method)
    {payloads : List Bytes} {calls : List (Moment B)} {w : ReadState S B}
    (hreader : w.reader = DecryptedReader.new suite method key)
    (hbytes : w.source.bytes = streamOf suite method key iv payloads)
    (hio : w.source.failures = 0)
    (haccepts : ∀ moment, calls[w.source.waits (suite.ivLen method)]? = some moment →
      Context.Accepts method iv moment.now moment.context) :
    Progress suite method key iv payloads.flatten calls [] w := by
  rw [streamOf, correct.encryptAll_eq] at hbytes
  by_cases hpos : suite.ivLen method > 0
  · simp only [DecryptedReader.new, if_pos hpos] at hreader
    refine .before rfl ⟨_, ⟨by rw [hreader], ?_, ?_, hio, rfl⟩, ?_⟩
    · rw [hreader]
      exact hbytes
    · rw [hreader, hiv]
      exact hpos
    · rw [hreader, hiv]
      exact haccepts
  · simp only [DecryptedReader.new, if_neg hpos] at hreader
    obtain rfl : iv = [] := List.length_eq_zero_iff.1 (by omega)
    refine .after ⟨_, List.nil_append _, by rw [hreader], ⟨_, by rw [hreader], ?_⟩, hio⟩
    rw [hbytes, List.nil_append]

end Shadowsocks.Tcp.Stream
