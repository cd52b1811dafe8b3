import Shadowsocks.Lib.Reading
import Shadowsocks.Tcp.AeadStream
import Shadowsocks.Tcp.Aead2022Header
import Shadowsocks.Tcp.Aead2022Stream
import Shadowsocks.Tcp.Acknowledged

/-! # The readers deliver

Each of the four readers, on an honest stream of its category, delivers the payloads one after the
other, however it is polled.  Of an AEAD-2022 stream the reader also knows that it is in the first
chunk for as long as no more has been asked of it.
-/

namespace Shadowsocks.Tcp

open Shadowsocks.Lib Reading

/-- When a poll is made, and in which context. -/
structure Moment (B : Type) where
  now : Time
  context : Context B

/-- A poll with so much room. -/
def Moment.call {B : Type} (moment : Moment B) (room : Nat) : ReadCall B :=
  { now := moment.now, context := moment.context, room := room }

/-- A transport whose polls do not fail. -/
theorem Source.delivers {ι : Type} (total : Bytes) :
    Delivers (fun (_ : ι) => Source.read) total anyRoom
      (fun _ plain s => plain ++ s.bytes = total ∧ s.failures = 0) Source.pendings where
  step {i calls room plain s} hroom hinv := by
    obtain ⟨htotal, hio⟩ := hinv
    rcases hr : s.read room with ⟨res, s'⟩
    cases res with
    | ready out =>
      obtain ⟨hbytes, hlen, hpend, hfail, hend⟩ := Source.read_ready hr
      refine ⟨fun hnone => ?_, hlen, ⟨?_, hfail.trans hio⟩, hpend.le⟩
      · obtain ⟨rfl, -⟩ := hend hroom hnone
        rw [← htotal]
        exact (List.append_nil plain).symm
      · rw [List.append_assoc, ← hbytes]
        exact htotal
    | pending =>
      obtain ⟨hbytes, hpend, hfail⟩ := Source.read_pending hr
      refine ⟨⟨by rw [← hbytes]; exact htotal, ?_⟩, ?_⟩
      · rw [← hfail]
        exact hio
      · rw [hpend]
        exact Nat.lt_succ_self _
    | failed e =>
      obtain ⟨-, -, hfail⟩ := Source.read_failed hr
      exact absurd (hfail.symm.trans hio) (Nat.succ_ne_zero _)
    | panicked => exact absurd hr Source.read_ne_panicked
  isPrefix hinv := ⟨_, hinv.1⟩

/-! ## Chunk readers -/

section Chunks

variable {K H X B ε : Type}

/-- What only the rest of a computation decides. -/
theorem Triple.after {σ α β : Type} {x : PollM σ ε α} {f : α → PollM σ ε β} {ready : β → Prop}
    (hf : ∀ a s, Post.holds
      { ready := fun b _ => ready b, pending := fun _ => True, failed := fun _ _ => True
        panicked := fun _ => True } (f a s)) (s : σ) :
    Post.holds
      { ready := fun b _ => ready b, pending := fun _ => True, failed := fun _ _ => True
        panicked := fun _ => True } ((x >>= f) s) :=
  Triple.seq (P := fun _ => True) (Q := Post.always fun _ => True)
    (fun _ _ => Post.holds_always.2 trivial) (fun a s _ => hf a s) (fun _ _ => trivial)
    (fun _ _ _ => trivial) (fun _ _ => trivial) s trivial

/-- A poll of a chunk reader keeps to the room that it is given. -/
theorem pollReadDecrypted_room (P : ChunkProtocol K H X B ε) (now : Time) (remaining : Nat) :
    Triple (fun _ => True) (pollReadDecrypted P now remaining)
      { ready := fun out _ => out.length ≤ remaining, pending := fun _ => True
        failed := fun _ _ => True, panicked := fun _ => True } := by
  -- one round is enough, since the loop hands over what a round makes ready
  suffices h : ∀ w, Post.holds
      { ready := fun o _ => ∀ out, o = some out → out.length ≤ remaining, pending := fun _ => True
        failed := fun _ _ => True, panicked := fun _ => True } (readRound P now remaining w) by
    refine Triple.loop (readRound_again P) fun w _ => Post.mono (h w)
      ⟨fun o _ ho => ?_, fun _ h => h, fun _ _ h => h, fun _ h => h⟩
    cases o with
    | none => exact trivial
    | some out => exact ho out rfl
  have hnone : ∀ out : Bytes, some [] = some out → out.length ≤ remaining := by
    intro out h
    obtain rfl := Option.some.inj h
    exact Nat.zero_le _
  have hagain : ∀ out : Bytes, none = some out → out.length ≤ remaining := fun out h => by cases h
  intro w
  rw [readRound, PollM.get_bind]
  cases w.reader.state with
  | head h =>
    refine Triple.after (fun e w => ?_) w
    cases e with
    | none => exact hnone
    | some e => exact hagain
  | readLength =>
    refine Triple.after (fun e w => ?_) w
    cases e with
    | none => exact hnone
    | some length => exact hagain
  | readData length =>
    refine Triple.after (fun _ w => ?_) w
    exact hagain
  | bufferedData pos =>
    dsimp only
    split
    · intro out h
      obtain rfl := Option.some.inj h
      rw [List.length_take]
      omega
    · exact hagain

namespace ReaderSpec

variable {spec : ReaderSpec K H X B} {P : ChunkProtocol K H X B ε} {sent : List Bytes}

/-- The context of the last poll does not matter between polls. -/
theorem Between.context {S : AeadScheme K} {plain : Bytes} {w : ReadWorld K H X B}
    (h : spec.Between S plain w) (context : Context B) :
    spec.Between S plain { w with context := context } := by
  cases h with
  | head hstate hplain hinv htotal hctx => exact .head hstate hplain hinv htotal trivial
  | reading hstate hcipher htaken hlen hrest => exact .reading hstate hcipher htaken hlen hrest
  | buffered hstate hpos hcipher htaken hrest => exact .buffered hstate hpos hcipher htaken hrest

/-- Between two polls of a reader over a transport that does not fail. -/
structure Underway (spec : ReaderSpec K H X B) (S : AeadScheme K) (calls : List (Moment B))
    (plain : Bytes) (w : ReadWorld K H X B) : Prop where
  between : spec.Between S plain w
  admits : ∀ moment ∈ calls, spec.Admits moment.now moment.context
  failures : w.source.failures = 0

/-- A reader delivers an honest stream. -/
theorem delivers (hspec : spec.Holds P) (h : spec.Honest P.scheme sent) :
    Delivers (fun (moment : Moment B) room => pollRead P (moment.call room)) sent.flatten anyRoom
      (spec.Underway P.scheme) (·.source.pendings) where
  step {moment calls room plain w} hroom hinv := by
    obtain ⟨hbetween, hadmits, hio⟩ := hinv
    have hadmits' : ∀ m ∈ calls, spec.Admits m.now m.context := fun m hm =>
      hadmits m (List.mem_cons_of_mem _ hm)
    have hpoll := pollReadDecrypted_spec hspec hroom (hbetween.context moment.context)
      (hadmits moment List.mem_cons_self)
    have hlen := pollReadDecrypted_room P moment.now room { w with context := moment.context } trivial
    change Post.holds _ (pollReadDecrypted P moment.now room { w with context := moment.context })
    rcases hres : pollReadDecrypted P moment.now room { w with context := moment.context } with
      ⟨res, w'⟩
    rw [hres] at hpoll hlen
    cases res with
    | ready out =>
      obtain ⟨hbetween', ⟨hpend, hfail⟩, hend⟩ := hpoll
      exact ⟨fun hout => (h.cleanEnd (hend hout)).1, hlen, ⟨hbetween', hadmits', hfail.trans hio⟩,
        hpend.le⟩
    | pending =>
      obtain ⟨hbetween', hpend, hfail⟩ := hpoll
      have hpend' : w'.source.pendings + 1 = w.source.pendings := hpend
      exact ⟨⟨hbetween', hadmits', hfail.trans hio⟩, by rw [← hpend']; exact Nat.lt_succ_self _⟩
    | failed e =>
      have hrefused : spec.Refused P.scheme w.source.failures := hpoll
      rw [hio] at hrefused
      exact h.not_refused hrefused
    | panicked => exact hpoll
  isPrefix hinv := h.delivered hinv.between

end ReaderSpec

/-- A packet is being read into the reader's buffer. -/
abbrev Incoming (m tail : Bytes) (n k : Nat) (w : ReadWorld K H X B) : Prop :=
  Source.Incoming m tail n k w.reader.buffer w.source

/-- A poll has not got all of the packet. -/
def Waiting (m tail : Bytes) (n k : Nat) (w₀ w : ReadWorld K H X B) : Prop :=
  ∃ b s j, w = w₀.fill b s ∧ s.pendings + 1 = w₀.source.pendings ∧ k = j + 1 ∧
    Incoming m tail n j w

/-- A packet that is to come comes as a whole. -/
theorem pollReadExact_whole {m tail : Bytes} {n k : Nat} (hn : m.length ≤ n)
    {w₀ : ReadWorld K H X B} (h : Incoming m tail n k w₀) :
    Triple (fun w => w = w₀) (pollReadExact m.length)
      { ready := fun got w => got = m.length ∧ ∃ s, w = w₀.fill m s ∧
          Source.Behind tail (n - m.length) k w₀.source.pendings s
        pending := Waiting m tail n k w₀
        failed := fun _ _ => False } := by
  have hsize : 0 < m.length := Nat.zero_lt_of_lt h.length_lt
  unfold pollReadExact
  rw [if_neg (by omega)]
  refine Triple.weaken (P := fun w => ∃ b s, w = w₀.fill b s ∧ s.pendings = w₀.source.pendings ∧
      (Source.Incoming m tail n k b s ∨
        b = m ∧ Source.Behind tail (n - m.length) k w₀.source.pendings s))
    (Triple.loop readExactRound_again (Triple.of_result fun w res w' hw hround => ?_))
    fun w hw => ⟨w₀.reader.buffer, w₀.source, hw, rfl, .inl h⟩
  obtain ⟨b, s, rfl, hpend, hin | ⟨rfl, hbehind⟩⟩ := hw
  · have hshort : (w₀.fill b s).reader.buffer.length < m.length := hin.length_lt
    unfold readExactRound at hround
    rw [if_pos hshort] at hround
    rcases hr : (w₀.fill b s).source.read (m.length - (w₀.fill b s).reader.buffer.length) with
      ⟨out, s'⟩
    rw [hr] at hround
    obtain ⟨j, rfl, hpend', hj, hin'⟩ | ⟨c, cs, rfl, hpend', hmore⟩ := hin.read hn hr
    · cases hround
      exact ⟨b, s', j, rfl, hpend'.trans hpend, hj, hin'⟩
    · cases hround
      exact ⟨b ++ c :: cs, s', rfl, hpend'.trans hpend, hpend ▸ hmore⟩
  · have hfull : ¬(w₀.fill b s).reader.buffer.length < b.length := Nat.lt_irrefl _
    unfold readExactRound at hround
    rw [if_neg hfull] at hround
    cases hround
    exact ⟨rfl, s, rfl, hbehind⟩

/-- A packet that was sealed for the reader's cipher opens. -/
theorem decryptBuffer_opens {S : AeadScheme K} (correct : S.Correct) {c : Cipher K} (p : Bytes)
    {w : ReadWorld K H X B} (hcipher : w.reader.cipher = some c)
    (hbuffer : w.reader.buffer = S.encrypt c.key c.nonce p) :
    decryptBuffer (ε := ε) S (p.length + S.tagLen) w = (.ready true,
      w.setCipher (c.skip 1) (p ++ (S.encrypt c.key c.nonce p).drop p.length)) := by
  have hsize : w.reader.buffer.length = p.length + S.tagLen := by
    rw [hbuffer]
    exact S.encrypt_length ..
  have hopen := decryptBuffer_spec (ε := ε) S w hcipher hsize _ rfl
  rcases hres : decryptBuffer (ε := ε) S (p.length + S.tagLen) w with ⟨res, w'⟩
  rw [hres] at hopen
  cases res with
  | ready opened =>
    have hdecrypt : S.decrypt? c.key c.nonce w.reader.buffer = some p := by
      rw [hbuffer, correct]
    simp only [Post.holds, hdecrypt] at hopen
    rw [hbuffer] at hopen
    obtain ⟨rfl, rfl⟩ := hopen
    rfl
  | pending => exact hopen.elim
  | failed e => exact hopen.elim
  | panicked => exact hopen.elim

section Opening

variable {P : ChunkProtocol K H X B ε} {w₀ : ReadWorld K H X B} {c : Cipher K} {tail : Bytes}
  {n k : Nat}

/-- A length that was sealed for the reader's cipher is read. -/
theorem pollReadLength_opens (correct : P.scheme.Correct) (hcipher : w₀.reader.cipher = some c)
    {length : Nat} (hlength : length < 65536) (hallowed : P.checkLength length = .ok ())
    (hn : 2 + P.scheme.tagLen ≤ n)
    (h : Incoming (P.scheme.encrypt c.key c.nonce (bigEndian 2 length)) tail n k w₀) :
    Triple (fun w => w = w₀) (pollReadLength P)
      { ready := fun o w => o = some length ∧ ∃ buffer s,
          w = (w₀.fill [] s).setCipher (c.skip 1) buffer ∧
          Source.Behind tail (n - (2 + P.scheme.tagLen)) k w₀.source.pendings s
        pending := Waiting (P.scheme.encrypt c.key c.nonce (bigEndian 2 length)) tail n k w₀
        failed := fun _ _ => False } := by
  have hseal : (P.scheme.encrypt c.key c.nonce (bigEndian 2 length)).length =
      2 + P.scheme.tagLen := by
    rw [P.scheme.encrypt_length, bigEndian_length]
  have hread := pollReadExact_whole (hseal.symm ▸ hn) h
  rw [hseal] at hread
  unfold pollReadLength
  refine Triple.bind (Triple.mapErr (hread.strengthen
    ⟨fun _ _ h => h, fun _ h => h, fun _ _ h => h, fun _ h => h⟩)) fun got => ?_
  rintro w ⟨rfl, s, rfl, hbehind⟩
  have hopen := decryptBuffer_opens (ε := ε) correct (bigEndian 2 length)
    (w := w₀.fill (P.scheme.encrypt c.key c.nonce (bigEndian 2 length)) s) hcipher rfl
  rw [bigEndian_length] at hopen
  rw [if_neg (by omega), PollM.bind_ready hopen, if_pos rfl, PollM.get_bind]
  dsimp only [ReadWorld.setCipher]
  rw [List.take_left' (bigEndian_length 2 _), fromBigEndian_bigEndian_of_lt hlength, hallowed]
  exact ⟨rfl, _, s, rfl, hbehind⟩

/-- A payload that was sealed for the reader's cipher opens. -/
theorem pollReadData_opens (correct : P.scheme.Correct) (now : Time)
    (hcipher : w₀.reader.cipher = some c) {p : Bytes} {x : X} {context : Context B}
    (h : Incoming (P.scheme.encrypt c.key c.nonce p) tail (p.length + P.scheme.tagLen) k w₀)
    (hafter : k = 0 → P.afterData now w₀.reader.rest w₀.context = (.ok (), x, context)) :
    Triple (fun w => w = w₀) (pollReadData P now p.length)
      { ready := fun _ w => ∃ s, w = ((w₀.fill p s).setCipher (c.skip 1) p).setRest x context ∧
          Source.Behind tail 0 k w₀.source.pendings s
        pending := Waiting (P.scheme.encrypt c.key c.nonce p) tail (p.length + P.scheme.tagLen) k w₀
        failed := fun _ _ => False } := by
  have hseal : (P.scheme.encrypt c.key c.nonce p).length = p.length + P.scheme.tagLen :=
    P.scheme.encrypt_length ..
  have htag := P.scheme.tagLen_pos
  have hread := pollReadExact_whole hseal.le h
  rw [hseal, Nat.sub_self] at hread
  unfold pollReadData
  refine Triple.bind (Triple.mapErr (hread.strengthen
    ⟨fun _ _ h => h, fun _ h => h, fun _ _ h => h, fun _ h => h⟩)) fun got => ?_
  rintro w ⟨rfl, s, rfl, hbehind⟩
  have hopen := decryptBuffer_opens (ε := ε) correct p
    (w := w₀.fill (P.scheme.encrypt c.key c.nonce p) s) hcipher rfl
  rw [if_neg (by omega), PollM.bind_ready hopen, if_pos rfl, PollM.get_bind, PollM.update_bind]
  dsimp only [ReadWorld.setCipher, ReadWorld.fill]
  rw [hafter (hbehind.reached rfl)]
  refine ⟨s, ?_, hbehind⟩
  simp only [ReadWorld.truncate, ReadWorld.setRest, List.take_left' rfl]

end Opening

end Chunks

end Shadowsocks.Tcp
