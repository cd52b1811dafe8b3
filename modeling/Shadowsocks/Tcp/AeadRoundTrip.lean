import Shadowsocks.Tcp.AeadDelivery

/-! # Round trip of the AEAD (v1) streams

What the writer has acknowledged is delivered by the reader of the same session
(`stream_roundTrip`).  The context of the poll that checks the salt must let it
pass; under `reject` the contexts of the later polls all know the salt, and that
changes nothing.
-/

namespace Shadowsocks.Tcp.Aead

open Shadowsocks.Lib

variable {K B : Type} [BloomFilter B]

/-- Chunks are no shorter than their payloads. -/
theorem flatten_length_le (S : AeadScheme K) (c : Cipher K) (ps : List Bytes) :
    ps.flatten.length ≤ (sealChunks S c ps).length := by
  induction ps generalizing c with
  | nil => exact Nat.le_refl 0
  | cons p ps ih =>
    have hrest := ih (c.skip 2)
    simp only [sealChunks, sealChunk, List.flatten_cons, List.length_append,
      AeadScheme.encrypt_length]
    omega

/-- A cipher without a salt has nothing to check. -/
theorem accepts_nil (method : CipherKind) (now : Time) (context : Context B) :
    Context.Accepts method [] now context := rfl

/-- The moment of a poll. -/
def momentOf (call : ReadCall B) : Moment B := { now := call.now, context := call.context }

/-- A run of polls, each with its moment and its room. -/
theorem receive_moments (crypto : CryptoSuite K) (method : CipherKind) (calls : List (ReadCall B))
    (w : ReadState K B) :
    receive (Reading.pollOf fun (moment : Moment B) room =>
        pollReadDecrypted crypto method (moment.call room))
      (calls.map fun call => (momentOf call, call.room)) w =
    receive (pollReadDecrypted crypto method) calls w := by
  induction calls generalizing w with
  | nil => rfl
  | cons call calls ih =>
    have hpoll : Reading.pollOf (fun (moment : Moment B) room =>
        pollReadDecrypted crypto method (moment.call room)) (momentOf call, call.room) w =
          pollReadDecrypted crypto method call w := rfl
    rw [List.map_cons, receive, receive, hpoll]
    rcases pollReadDecrypted crypto method call w with ⟨res, w'⟩
    cases res with
    | ready out => cases out <;> simp only [ih]
    | pending => exact ih w'
    | failed e => rfl
    | panicked => rfl

/-- **Round trip.** Once a write has completed, the reader of the same session
    delivers the acknowledged bytes, in order and nothing else, and then a clean
    end of stream, whatever the transport's schedule on either side, as long as
    the replay check lets the salt pass in the poll that gets the last byte of
    the first chunk. -/
theorem stream_roundTrip (crypto : CryptoSuite K) (method : CipherKind)
    (correct : (crypto.scheme method).Correct) (key : Bytes) {salt : Bytes}
    (hsalt : salt.length = crypto.saltLen method) {schedule : List WriteEvent}
    {writes : List (Time × Bytes)} {acked : List (Bytes × Nat)}
    {w' : WriteWorld K Empty WriterFields}
    (hwrites : performs (pollWriteEncrypted crypto method) none writes
      (writeStart crypto method key salt schedule) = some (acked, w'))
    (hsome : acked ≠ []) {w : ReadState K B}
    (hreader : w.reader = DecryptedReader.new crypto method key)
    (hsource : w.source.bytes = w'.sink.wire) (hio : w.source.failures = 0)
    {calls : List (ReadCall B)} (hroom : ∀ call ∈ calls, 0 < call.room)
    (hcheck : ∀ p ∈ (acknowledged acked).head?,
      ∀ call ∈ calls[w.source.waits (checkedAfter crypto method p)]?,
        Context.Accepts method salt call.now call.context) :
    Acked (writeProtocol crypto method) acked ∧
      ReaderSpec.Delivery (acknowledged acked) (fun _ => True)
        (w.source.pendings + w'.sink.wire.length < calls.length)
        (receive (pollReadDecrypted crypto method) calls w) := by
  obtain ⟨hacked, hwire⟩ := wire_eq_streamOf crypto method key salt hwrites hsome
  refine ⟨hacked, ?_⟩
  rw [hwire] at hsource ⊢
  -- without a salt there is nothing to check
  by_cases hpos : 0 < crypto.saltLen method
  · obtain ⟨p, ps, hps⟩ : ∃ p ps, acknowledged acked = p :: ps :=
      List.exists_cons_of_ne_nil fun hnone => hsome (List.map_eq_nil_iff.1 hnone)
    rw [hps] at hsource hcheck ⊢
    have small : ∀ q ∈ p :: ps, q.length ≤ maxPacketSize := hps ▸ hacked.length_le
    have hstart : Progress crypto method key salt p ps (calls.map momentOf) [] w := by
      refine Progress.start hpos hsalt hreader hsource hio fun moment hmoment => ?_
      obtain ⟨call, hcall, rfl⟩ := Option.map_eq_some_iff.1 (List.getElem?_map.symm.trans hmoment)
      exact hcheck p rfl call hcall
    have hrooms : ∀ call ∈ calls.map fun call => (momentOf call, call.room), 0 < call.2 := by
      intro call hcall
      obtain ⟨call, hmem, rfl⟩ := List.mem_map.1 hcall
      exact hroom call hmem
    have hmoments : (calls.map fun call => (momentOf call, call.room)).map Prod.fst =
        calls.map momentOf := List.map_map
    obtain ⟨hdelivered, -⟩ := (Progress.delivers correct hsalt small).receive
      (calls.map fun call => (momentOf call, call.room)) hrooms (List.nil_append _)
      (hmoments ▸ hstart)
    rw [receive_moments] at hdelivered
    refine ⟨hdelivered.bytes, hdelivered.ending, fun he => ⟨hdelivered.complete he, trivial⟩,
      fun henough => hdelivered.ends ?_⟩
    -- what is delivered is shorter than the wire, so there are polls enough
    have hshorter := flatten_length_le (crypto.scheme method) (crypto.cipher method key salt)
      (p :: ps)
    rw [streamOf, List.length_append] at henough
    rw [List.length_map]
    omega
  · have hzero : crypto.saltLen method = 0 := Nat.eq_zero_of_not_pos hpos
    obtain rfl : salt = [] := List.length_eq_zero_iff.1 (hsalt.trans hzero)
    have hdelivery := ReaderSpec.receive_honest (readerSpec_holds crypto method key _ _)
      (stream_honest crypto correct key hsalt hacked.length_le)
      (fun call hcall => ⟨hroom call hcall, accepts_nil method call.now call.context⟩)
      (new_between crypto method key _ _ hreader hsource) hio
    exact ⟨hdelivery.bytes, hdelivery.ending, fun he => ⟨(hdelivery.complete he).1, trivial⟩,
      hdelivery.ends⟩

/-- The context that the two polls up to the check are made in. -/
def freshContext : Context ExactFilter := .new true .server .reject

/-- The context that the check leaves, which knows the salt. -/
def checkedContext : Context ExactFilter :=
  (freshContext.checkNonceReplay 0 (.aead 0) sampleSalt).2

/-- The second poll gets all of the first chunk and makes the check; the later ones are made in the
    context that it leaves. -/
theorem stream_roundTrip_sample :
    Acked (writeProtocol .transparent (.aead 0)) [([1, 2, 3], 3), ([4], 1)] ∧
      ReaderSpec.Delivery (acknowledged [([1, 2, 3], 3), ([4], 1)]) (fun _ => True)
        (sampleSource.pendings + sampleStream.length <
          (sampleCalls freshContext 2 ++ sampleCalls checkedContext 98).length)
        (receive (pollReadDecrypted .transparent (.aead 0))
          (sampleCalls freshContext 2 ++ sampleCalls checkedContext 98)
          (sampleRead sampleSource)) := by
  have hwrites : performs (pollWriteEncrypted .transparent (.aead 0)) none sampleWrites
      (writeStart .transparent (.aead 0) [] sampleSalt sampleSchedule) =
      some ([([1, 2, 3], 3), ([4], 1)],
        { writer := { state := .assemblePacket, cipher := { key := ([], sampleSalt), nonce := 4 }
                      buffer := [], rest := { salt := sampleSalt } }
          sink := { schedule := [], wire := sampleStream } }) := by rfl
  refine stream_roundTrip .transparent (.aead 0) (CryptoSuite.transparent_correct _) [] rfl hwrites
    (by simp) (w := sampleRead sampleSource) rfl rfl rfl (fun call hcall => ?_) fun p hp => ?_
  · obtain hfresh | hchecked := List.mem_append.1 hcall
    · obtain rfl := List.eq_of_mem_replicate hfresh
      decide
    · obtain rfl := List.eq_of_mem_replicate hchecked
      decide
  · obtain rfl : [1, 2, 3] = p := Option.some.inj hp
    have hwaits : (sampleRead sampleSource).source.waits
        (checkedAfter .transparent (.aead 0) [1, 2, 3]) = 1 := rfl
    rw [hwaits]
    rintro call hcall
    obtain rfl : { now := 0, context := freshContext, room := 2 } = call := Option.some.inj hcall
    rfl

/-- Where the round trip ends otherwise.  Without a write the salt is never sent,
    and the reader reports an early end of file instead of a clean end; and a
    context that has seen the salt refuses the stream. -/
theorem stream_roundTrip_refused :
    (performs (pollWriteEncrypted .transparent (.aead 0)) none []
        (writeStart .transparent (.aead 0) [] sampleSalt []) =
          some ([], writeStart .transparent (.aead 0) [] sampleSalt []) ∧
      (receive (pollReadDecrypted .transparent (.aead 0))
        (sampleCalls (.new true .server .default) 1) (sampleRead [])).ending =
          .failed (.ioError .unexpectedEof)) ∧
    (receive (pollReadDecrypted .transparent (.aead 0)) (sampleCalls checkedContext 1)
      (sampleRead (Source.unread sampleStream []))).ending =
        .failed (.ioError Context.repeatedNonce) :=
  ⟨⟨rfl, by decide +kernel⟩, by decide +kernel⟩

end Shadowsocks.Tcp.Aead
