import Shadowsocks.Tcp.Aead
import Shadowsocks.Tcp.ChunkReaderSpec

/-! # What an AEAD (v1) stream delivers

The specification of the v1 reader over one byte stream.  A stream that the
writer of the same session made is honest for it (`stream_honest`), and of any
stream at all only what was sealed under its session key is delivered, with a
clean end only after a whole chunk (`stream_integrity`).
-/

namespace Shadowsocks.Tcp.Aead

open Shadowsocks.Lib

variable {K B : Type} [BloomFilter B]

/-! ## The specification of the reader -/

/-- The session key of a byte stream: its salt is what it starts with. -/
def streamCipher (crypto : CryptoSuite K) (method : CipherKind) (key stream : Bytes) : Cipher K :=
  crypto.cipher method key (stream.take (crypto.saltLen method))

/-- The v1 reader over `stream`, polled in contexts that `admits` allows. -/
def readerSpec (crypto : CryptoSuite K) (method : CipherKind) (key stream : Bytes)
    (admits : Time → Context B → Prop) : ReaderSpec K WaitSalt ReaderFields B :=
  let salt := stream.take (crypto.saltLen method)
  { total := stream
    allowed := fun n => n ≤ maxPacketSize
    Opened := fun head c e => head.length = crypto.saltLen method ∧
      c = streamCipher crypto method key stream ∧ e = .length
    HeadInv := fun seen reader _ => reader.state = .head { key := key } ∧ seen = reader.buffer ∧
      seen.length ≤ crypto.saltLen method ∧ 0 < crypto.saltLen method
    RestInv := fun fields => fields.salt = none ∨ fields.salt = some salt
    Admits := admits
    Fine := fun now fields context =>
      fields.salt = none ∨ fields.salt = some salt ∧ admits now context
    HeadEnds := False
    HeadFails := stream.length < crypto.saltLen method
    AfterFails := ∃ now context, admits now context ∧ ¬ Context.Accepts method salt now context }

section Spec

variable (crypto : CryptoSuite K) (method : CipherKind) (key stream : Bytes)
  (admits : Time → Context B → Prop)

/-- The salt check fails only on a salt that the context's replay check refuses,
    and it is made once. -/
theorem checkSalt_spec {now : Time} {fields fields' : ReaderFields} {context context' : Context B}
    {result : Except ProtocolError Unit}
    (h : (readerSpec crypto method key stream admits).Fine now fields context)
    (hcheck : checkSalt method now fields context = (result, fields', context')) :
    (∃ e, result = .error e ∧ (readerSpec crypto method key stream admits).AfterFails) ∨
      result = .ok () ∧ (readerSpec crypto method key stream admits).Fine now fields' context' := by
  rcases h with h | ⟨h, hadmits⟩
  · simp only [checkSalt, h] at hcheck
    cases hcheck
    exact .inr ⟨rfl, .inl h⟩
  · simp only [checkSalt, h] at hcheck
    cases hr : (context.checkNonceReplay now method (stream.take (crypto.saltLen method))).1 with
    | error e =>
      simp only [hr, Except.mapError] at hcheck
      cases hcheck
      exact .inl ⟨_, rfl, now, context, hadmits, by rw [Context.Accepts, hr]; simp⟩
    | ok _ =>
      simp only [hr, Except.mapError] at hcheck
      cases hcheck
      exact .inr ⟨rfl, .inl rfl⟩

omit [BloomFilter B] in
/-- What `poll_read_salt` does. -/
theorem pollReadSalt_spec (now : Time) (N F : Nat) :
    Triple
      (fun w => w.reader.state = .head { key := key } ∧
        w.reader.buffer.length ≤ crypto.saltLen method ∧ 0 < crypto.saltLen method ∧
        w.reader.buffer ++ w.source.bytes = stream ∧ admits now w.context ∧ ReaderSpec.Same N F w)
      (pollReadSalt (B := B) crypto method key)
      { ready := fun _ w => ReaderSpec.Same N F w ∧ ∃ head,
          head.length = crypto.saltLen method ∧ head ++ w.source.bytes = stream ∧
          w.reader.cipher = some (streamCipher crypto method key stream) ∧
          w.reader.rest.salt = some (stream.take (crypto.saltLen method)) ∧ admits now w.context
        pending := fun w => w.source.pendings + 1 = N ∧ w.source.failures = F ∧
          w.reader.state = .head { key := key } ∧
          w.reader.buffer.length ≤ crypto.saltLen method ∧ w.reader.buffer ++ w.source.bytes = stream
        failed := fun _ _ => stream.length < crypto.saltLen method ∨ 0 < F } := by
  refine Triple.of_state fun w₀ ⟨hstate, hlen, hpos, htotal, hctx, hN, hF⟩ => ?_
  refine Triple.bind
    (M := fun n w => ∃ b s, w = w₀.fill b s ∧ Filled w₀ (crypto.saltLen method) b s ∧
      s.pendings = w₀.source.pendings ∧
      (n = crypto.saltLen method ∧ b.length = crypto.saltLen method ∨ n = 0 ∧ b = [] ∧ s.bytes = []))
    (Triple.mapErr ((pollReadExact_spec hpos w₀ hlen).strengthen
      ⟨fun _ _ h => h, ?_, ?_, fun _ h => h.elim⟩)) fun n => ?_
  · rintro w ⟨b, s, rfl, hfill, hpend⟩
    exact ⟨hpend.trans hN, hfill.failures.trans hF, hstate, hfill.length_le,
      hfill.bytes.trans htotal⟩
  · rintro _ w (hio | ⟨b, rfl, _, hshort⟩)
    · exact .inr (hF ▸ hio)
    · exact .inl (by rwa [htotal] at hshort)
  · split
    · next hn =>
      refine Triple.fail fun w hw => ?_
      obtain ⟨b, s, _, hfill, _, ⟨rfl, _⟩ | ⟨_, rfl, hs⟩⟩ := hw
      · omega
      · -- nothing has come before the end
        refine .inl ?_
        have hbytes := hfill.bytes.trans htotal
        rw [hs, List.append_nil] at hbytes
        rw [← hbytes]
        exact hpos
    · next hn =>
      rintro w ⟨b, s, rfl, hfill, hpend, ⟨_, hb⟩ | ⟨rfl, _⟩⟩
      · have hbytes := hfill.bytes.trans htotal
        have hsalt : b.take (crypto.saltLen method) = stream.take (crypto.saltLen method) := by
          rw [← hbytes, List.take_append_of_le_length (by omega)]
        refine ⟨⟨hpend.trans hN, hfill.failures.trans hF⟩, b, hb, hbytes, ?_, ?_, hctx⟩
        · exact congrArg (fun salt => some (crypto.cipher method key salt)) hsalt
        · exact congrArg some hsalt
      · omega

/-- The v1 reader keeps to its specification. -/
theorem readerSpec_holds :
    (readerSpec crypto method key stream admits).Holds (readProtocol crypto method) where
  checkLength_ok {n} h := by
    change checkLength n = _ at h
    change n ≤ maxPacketSize
    unfold checkLength at h
    split at h
    · cases h
    · omega
  checkLength_error {n e} h := by
    change checkLength n = _ at h
    change ¬ n ≤ maxPacketSize
    unfold checkLength at h
    split at h
    · omega
    · cases h
  fine_of_admits hctx h := h.imp id fun hs => ⟨hs, hctx⟩
  rest_of_fine h := h.imp id And.left
  afterData_ok h hcheck := by
    rcases checkSalt_spec crypto method key stream admits h hcheck with ⟨e, he, _⟩ | ⟨_, hfine⟩
    · cases he
    · exact hfine
  afterData_error h hcheck := by
    rcases checkSalt_spec crypto method key stream admits h hcheck with ⟨_, _, hfails⟩ | ⟨he, _⟩
    · exact hfails
    · cases he
  readHead now h N F := by
    refine Triple.of_state fun w₀ hw₀ => ?_
    obtain ⟨hstate, ⟨seen, ⟨hstate', rfl, hlen, hpos⟩, htotal⟩, hctx, hsame⟩ := hw₀
    obtain rfl : h = { key := key } := by
      rw [hstate'] at hstate
      cases hstate
      rfl
    refine Triple.weaken (Triple.seq (pollReadSalt_spec crypto method key stream admits now N F)
      (fun _ => Triple.pure ?_) ?_ (fun _ _ h => h) fun _ h => h.elim) ?_
    · rintro w ⟨hsame', head, hhead, htotal', hcipher, hsalt, hctx'⟩
      exact ⟨hsame', head, _, ⟨hhead, rfl, rfl⟩, htotal', hcipher, .inr ⟨hsalt, hctx'⟩⟩
    · rintro w ⟨hN, hF, hst, hle, htot⟩
      exact ⟨hN, hF, hst, _, ⟨hst, rfl, hle, hpos⟩, htot⟩
    · rintro w rfl
      exact ⟨hstate', hlen, hpos, htotal, hctx, hsame⟩

/-- A new reader satisfies the invariant. -/
theorem new_between {w : ReadState K B} (hreader : w.reader = DecryptedReader.new crypto method key)
    (hsource : w.source.bytes = stream) :
    (readerSpec crypto method key stream admits).Between (crypto.scheme method) [] w := by
  by_cases hpos : crypto.saltLen method > 0
  · simp only [DecryptedReader.new, hpos, if_true] at hreader
    refine .head (by rw [hreader]) rfl ?_ (show [] ++ w.source.bytes = stream from hsource) trivial
    exact ⟨by rw [hreader], by rw [hreader], Nat.zero_le _, hpos⟩
  · simp only [DecryptedReader.new, hpos, if_false] at hreader
    have hzero : crypto.saltLen method = 0 := by omega
    have hcipher : crypto.cipher method key [] = streamCipher crypto method key stream := by
      simp [streamCipher, hzero]
    refine .reading (e := .length) (c := streamCipher crypto method key stream)
      (by rw [hreader]; rfl) (by rw [hreader, hcipher]) ?_ (by rw [hreader]; exact Nat.zero_le _)
      (.inl (by rw [hreader]))
    refine ⟨[], _, .length, [], ⟨hzero.symm, rfl, rfl⟩, .start, ?_⟩
    rw [hreader]
    exact hsource

end Spec

/-! ## What the writer puts on the wire -/

/-- The chunks of payloads, behind the salt. -/
def streamOf (crypto : CryptoSuite K) (method : CipherKind) (key salt : Bytes)
    (payloads : List Bytes) : Bytes :=
  salt ++ sealChunks (crypto.scheme method) (crypto.cipher method key salt) payloads

/-- A new writer on a transport that has taken nothing. -/
def writeStart (crypto : CryptoSuite K) (method : CipherKind) (key salt : Bytes)
    (schedule : List WriteEvent) : WriteWorld K Empty WriterFields :=
  { writer := EncryptedWriter.new crypto method key salt
    sink := { schedule := schedule, wire := [] } }

section Writes

variable (crypto : CryptoSuite K) (method : CipherKind) (key salt : Bytes)

theorem streamOf_framing : Framing (writeProtocol crypto method) (crypto.cipher method key salt)
    (streamOf crypto method key salt) where
  concat p ps q := by
    simp [streamOf, sealChunks_append, sealChunks, writeProtocol, Nat.mul_add, Nat.add_comm]

/-- What a sequence of write calls puts on the wire. -/
theorem wire_eq_streamOf {schedule : List WriteEvent} {writes : List (Time × Bytes)}
    {acked : List (Bytes × Nat)} {w : WriteWorld K Empty WriterFields}
    (h : performs (pollWriteEncrypted crypto method) none writes
      (writeStart crypto method key salt schedule) = some (acked, w)) (hsome : acked ≠ []) :
    Acked (writeProtocol crypto method) acked ∧
      w.sink.wire = streamOf crypto method key salt (acknowledged acked) := by
  cases writes with
  | nil =>
    cases h
    exact absurd rfl hsome
  | cons call writes =>
    have hfirst := pollWriteEncrypted_packet (writeProtocol crypto method) call.1 call.2
      (w := writeStart crypto method key salt schedule) (c := crypto.cipher method key salt) rfl
      (List.nil_append salt) rfl
    obtain ⟨hacked, _, hwire⟩ := writes_spec (streamOf_framing crypto method key salt)
      (by simpa [streamOf, sealChunks, writeProtocol] using hfirst) h
    exact ⟨hacked, hwire⟩

end Writes

/-! ## Honest streams -/

/-- A stream that the writer made is honest for the reader. -/
theorem stream_honest (crypto : CryptoSuite K) {method : CipherKind}
    (correct : (crypto.scheme method).Correct) (key : Bytes) {salt : Bytes}
    (hsalt : salt.length = crypto.saltLen method) {payloads : List Bytes}
    (hpayloads : ∀ p ∈ payloads, p.length ≤ maxPacketSize) :
    (readerSpec (B := B) crypto method key (streamOf crypto method key salt payloads)
      (Context.Accepts method salt)).Honest (crypto.scheme method) payloads := by
  have htake : (streamOf crypto method key salt payloads).take (crypto.saltLen method) = salt := by
    rw [streamOf, List.take_left' hsalt]
  refine ⟨correct, fun p hp => ⟨?_, hpayloads p hp⟩, ?_, id, ?_, ?_⟩
  · exact Nat.lt_of_le_of_lt (hpayloads p hp) (by decide)
  · rintro head c e rest ⟨hhead, rfl, rfl⟩ htotal
    obtain ⟨rfl, rfl⟩ := List.append_inj htotal (hhead.trans hsalt.symm)
    refine ⟨trivial, ?_⟩
    rw [streamCipher, htake]
    rfl
  · change ¬ (streamOf crypto method key salt payloads).length < _
    rw [streamOf, List.length_append]
    omega
  · rintro ⟨now, context, hadmits, hrefused⟩
    rw [htake] at hrefused
    exact hrefused hadmits

/-! ### A sample stream -/

def sampleSalt : Bytes := List.replicate 16 1

/-- Two payloads; the call for the first one is pending once and repeated. -/
def sampleWrites : List (Time × Bytes) := [(0, [1, 2, 3]), (0, [1, 2, 3]), (0, [4])]

def sampleSchedule : List WriteEvent := [.accept 5, .pending, .accept 100, .accept 9, .accept 100]

def sampleStream : Bytes := streamOf .transparent (.aead 0) [] sampleSalt [[1, 2, 3], [4]]

/-- A reader before it has read anything. -/
def sampleRead (source : Source) : ReadState (Bytes × Bytes) ExactFilter :=
  { reader := DecryptedReader.new .transparent (.aead 0) []
    context := .new true .server .reject
    source := source }

/-- The sample stream in two reads, with nothing to read in between. -/
def sampleSource : Source :=
  Source.unread (sampleStream.take 7) (.pending :: Source.unread (sampleStream.drop 7) [])

def sampleCalls (context : Context ExactFilter) (n : Nat) : List (ReadCall ExactFilter) :=
  List.replicate n { now := 0, context := context, room := 2 }

/-! ## Integrity -/

/-- The byte stream is its salt and so many whole chunks of those in `sent`. -/
def WholeChunks (crypto : CryptoSuite K) (method : CipherKind) (key stream : Bytes)
    (sent : List Bytes) (i : Nat) : Prop :=
  crypto.saltLen method ≤ stream.length ∧ i ≤ sent.length ∧
    stream = streamOf crypto method key (stream.take (crypto.saltLen method)) (sent.take i)

section Integrity

variable {crypto : CryptoSuite K} {method : CipherKind} {key stream : Bytes}
  {admits : Time → Context B → Prop} {sent : List Bytes}

/-- What has been taken of any stream was sealed under its session key. -/
theorem taken_sealed
    (ideal : (crypto.scheme method).Ideal (streamCipher crypto method key stream).key (frameLog sent))
    (small : ∀ p ∈ sent, p.length ≤ maxPacketSize) {plain rest : Bytes} {c : Cipher K} {e : Expect}
    (h : (readerSpec crypto method key stream admits).Taken (crypto.scheme method) plain c e rest) :
    ∃ head body, head.length = crypto.saltLen method ∧ head ++ (body ++ rest) = stream ∧
      SealedUpTo (crypto.scheme method) (streamCipher crypto method key stream).key sent body plain
        c e := by
  obtain ⟨head, c₀, e₀, body, ⟨hhead, rfl, rfl⟩, hopens, htotal⟩ := h
  refine ⟨head, body, hhead, htotal, Opens.ideal (fun p hp => ?_) ideal hopens⟩
  exact Nat.lt_of_le_of_lt (small p hp) (by decide)

theorem sealedUpTo_plain {S : AeadScheme K} {k : K} {body plain : Bytes} {c : Cipher K}
    {e : Expect} (h : SealedUpTo S k sent body plain c e) : plain <+: sent.flatten := by
  obtain ⟨i, rfl, _⟩ := h
  refine ⟨(sent.drop i).flatten, ?_⟩
  rw [← List.flatten_append, List.take_append_drop]

/-- **Integrity.** Let `sent` be the payloads that were sealed under the session
    key of the byte stream, none of which anybody else can make.  Whatever the
    bytes, their segmentation and the replay check, the reader delivers a prefix
    of `sent` and never panics; it reports a clean end only if the stream is its
    salt and whole chunks, all of them delivered, and enough polls always come to
    an end, so any other stream ends in an error. -/
theorem stream_integrity (crypto : CryptoSuite K) (method : CipherKind) (key stream : Bytes)
    {sent : List Bytes}
    (ideal : (crypto.scheme method).Ideal (streamCipher crypto method key stream).key (frameLog sent))
    (small : ∀ p ∈ sent, p.length ≤ maxPacketSize) {w : ReadState K B}
    (hreader : w.reader = DecryptedReader.new crypto method key) (hsource : w.source.bytes = stream)
    {calls : List (ReadCall B)} (hroom : ∀ call ∈ calls, 0 < call.room) :
    let r := receive (pollReadDecrypted crypto method) calls w
    r.bytes <+: sent.flatten ∧
    (r.ending = .cleanEnd → ∃ i, WholeChunks crypto method key stream sent i ∧
      r.bytes = (sent.take i).flatten) ∧
    r.ending ≠ .panicked ∧
    (w.source.pendings + stream.length < calls.length →
      (¬ ∃ i, WholeChunks crypto method key stream sent i) → ∃ e, r.ending = .failed e) := by
  intro r
  have hrun := ReaderSpec.receive_spec (readerSpec_holds crypto method key stream fun _ _ => True)
    (fun call hcall => ⟨hroom call hcall, trivial⟩)
    (new_between crypto method key stream _ hreader hsource)
  -- what is taken at a clean end is the salt and chunks that were sealed
  have hclean : r.ending = .cleanEnd → ∃ i, WholeChunks crypto method key stream sent i ∧
      r.bytes = (sent.take i).flatten := by
    intro hend
    obtain ⟨c, htaken, _⟩ | ⟨_, hends⟩ := hrun.cleanEnd hend
    · obtain ⟨head, body, hhead, htotal, i, hplain, _, hi, hbody⟩ := taken_sealed ideal small htaken
      rw [List.append_nil] at htotal
      have htake : stream.take (crypto.saltLen method) = head := by
        rw [← htotal, List.take_left' hhead]
      refine ⟨i, ⟨?_, hi, ?_⟩, hplain⟩
      · rw [← htotal, List.length_append]
        omega
      · conv_lhs => rw [← htotal, hbody]
        rw [streamOf, htake]
        simp only [streamCipher, htake, CryptoSuite.cipher]
    · exact hends.elim
  refine ⟨?_, hclean, hrun.not_panicked, fun henough hbroken => ?_⟩
  · obtain ⟨w', hw'⟩ := hrun.delivered
    -- what is buffered was sealed as well, and is not delivered yet
    cases hw' with
    | head _ hplain => exact hplain ▸ List.nil_prefix
    | reading _ _ htaken =>
      obtain ⟨_, _, _, _, hsealed⟩ := taken_sealed ideal small htaken
      exact sealedUpTo_plain hsealed
    | buffered _ _ _ htaken =>
      obtain ⟨_, _, _, _, hsealed⟩ := taken_sealed ideal small htaken
      exact (List.prefix_append _ _).trans (sealedUpTo_plain hsealed)
  · -- more polls than that cannot all be pending or deliver something
    cases he : r.ending with
    | running =>
      have hle : calls.length ≤ w.source.pendings + stream.length := (hrun.running he).2
      omega
    | cleanEnd =>
      obtain ⟨i, hi, _⟩ := hclean he
      exact absurd ⟨i, hi⟩ hbroken
    | failed e => exact ⟨e, rfl⟩
    | panicked => exact absurd he hrun.not_panicked

end Integrity

/-- A suite that opens only the packets of the sample stream, a forgery of the
    sample's last byte, and the error it ends in. -/
def sampleIdeal : CryptoSuite (Bytes × Bytes) :=
  { CryptoSuite.transparent with
    scheme := fun method => (CryptoSuite.transparent.scheme method).sealedOnly fun k =>
      if k = ([], sampleSalt) then frameLog [[1, 2, 3], [4]] else [] }

def sampleForgery : Bytes := sampleStream.dropLast ++ [99]

theorem stream_integrity_sample :
    let r := receive (pollReadDecrypted sampleIdeal (.aead 0))
      (sampleCalls (.new true .server .reject) 100) (sampleRead (Source.unread sampleForgery []))
    r.bytes <+: [[1, 2, 3], [4]].flatten ∧
    (r.ending = .cleanEnd → ∃ i, WholeChunks sampleIdeal (.aead 0) [] sampleForgery [[1, 2, 3], [4]] i ∧
      r.bytes = ([[1, 2, 3], [4]].take i).flatten) ∧
    r.ending ≠ .panicked ∧
    ((sampleRead (Source.unread sampleForgery [])).source.pendings + sampleForgery.length < 100 →
      (¬ ∃ i, WholeChunks sampleIdeal (.aead 0) [] sampleForgery [[1, 2, 3], [4]] i) →
        ∃ e, r.ending = .failed e) :=
  stream_integrity sampleIdeal (.aead 0) [] sampleForgery
    (AeadScheme.sealedOnly_ideal _ _ (([], sampleSalt) : Bytes × Bytes))
    (by decide) (w := sampleRead (Source.unread sampleForgery [])) rfl rfl
    fun call hcall => by
      obtain rfl := List.eq_of_mem_replicate hcall
      decide

end Shadowsocks.Tcp.Aead
