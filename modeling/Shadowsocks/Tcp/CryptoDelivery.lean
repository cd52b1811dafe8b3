import Shadowsocks.Tcp.AeadDelivery
import Shadowsocks.Tcp.CryptoIo
import Shadowsocks.Tcp.StreamDelivery

/-! # Encrypted streams deliver

A `CryptoStream` of any method delivers what an honest peer has sent, in order and as a whole.
-/

namespace Shadowsocks.Tcp

open Shadowsocks.Lib Reading

variable {K H X S B : Type} [BloomFilter B]

/-! ## The context of the last poll does not matter -/

omit [BloomFilter B] in
theorem ReaderSpec.Underway.context {spec : ReaderSpec K H X B} {scheme : AeadScheme K}
    {calls : List (Moment B)} {plain : Bytes} {w : ReadWorld K H X B}
    (h : spec.Underway scheme calls plain w) (context : Context B) :
    spec.Underway scheme calls plain { w with context := context } :=
  ⟨h.between.context context, h.admits, h.failures⟩

theorem Aead.Progress.context {crypto : CryptoSuite K} {method : CipherKind}
    {key salt p : Bytes} {ps : List Bytes} {calls : List (Moment B)} {plain : Bytes}
    {w : Aead.ReadState K B} (h : Aead.Progress crypto method key salt p ps calls plain w)
    (context : Context B) :
    Aead.Progress crypto method key salt p ps calls plain { w with context := context } := by
  refine h.imp ?_ fun h => h.context context
  rintro ⟨k, h, haccepts⟩
  exact ⟨k, h.context context, haccepts⟩

section Contexts

variable {crypto : CryptoSuite K} {cfg : Aead2022.ReaderConfig crypto} {sender : Aead2022.Sender}
  {readerKey : Bytes} {userKey : Option Bytes} {salt : Bytes} {sentAt : Time} {p : Bytes}
  {ps : List Bytes} {calls : List (Moment B)} {plain : Bytes} {w : Aead2022.ReadState K B}

theorem Aead2022.FirstChunk.context
    (h : Aead2022.FirstChunk cfg sender readerKey userKey salt sentAt p ps calls plain w)
    (context : Context B) : Aead2022.FirstChunk cfg sender readerKey userKey salt sentAt p ps calls
      plain { w with context := context } := by
  exact h.imp (fun h => h.context context) fun h => h.context context

theorem Aead2022.Progress.context
    (h : Aead2022.Progress cfg sender readerKey userKey salt sentAt p ps calls plain w)
    (context : Context B) : Aead2022.Progress cfg sender readerKey userKey salt sentAt p ps calls
      plain { w with context := context } := by
  exact h.imp (fun h => h.context context) fun h => h.context context

end Contexts

theorem Stream.Progress.context {suite : Stream.StreamSuite S} {method : CipherKind}
    {key iv total : Bytes} {calls : List (Moment B)} {plain : Bytes} {w : Stream.ReadState S B}
    (h : Stream.Progress suite method key iv total calls plain w) (context : Context B) :
    Stream.Progress suite method key iv total calls plain { w with context := context } := by
  refine h.imp ?_ ?_
  · exact fun hwaiting => hwaiting
  · rintro ⟨rest, hplain, h⟩
    exact ⟨rest, hplain, h.state, h.cipher, h.failures⟩

namespace CryptoIo.CryptoStream

/-! ## Polls of the reader -/

section Readers

variable {crypto : CryptoSuite K} (cfg : Aead2022.ReaderConfig crypto)
  (suite : Stream.StreamSuite S) {total : Bytes} {Room : Bytes → Nat → Prop}

/-- The stream's reader is an AEAD reader of which `Inv` holds. -/
def OfAead (Inv : List (Moment B) → Bytes → Aead.ReadState K B → Prop) (calls : List (Moment B))
    (plain : Bytes) (s : CryptoStream K S B) : Prop :=
  ∃ reader, s.dec = .aead reader ∧
    Inv calls plain { reader := reader, context := s.context, source := s.source }

def OfAead2022 (Inv : List (Moment B) → Bytes → Aead2022.ReadState K B → Prop)
    (calls : List (Moment B)) (plain : Bytes) (s : CryptoStream K S B) : Prop :=
  (∃ writer, s.enc = .aead2022 writer) ∧ ∃ reader, s.dec = .aead2022 reader ∧
    Inv calls plain { reader := reader, context := s.context, source := s.source }

def OfStream (Inv : List (Moment B) → Bytes → Stream.ReadState S B → Prop)
    (calls : List (Moment B)) (plain : Bytes) (s : CryptoStream K S B) : Prop :=
  ∃ reader, s.dec = .stream reader ∧
    Inv calls plain { reader := reader, context := s.context, source := s.source }

/-- There is no cipher. -/
def Plain (total : Bytes) (_ : List (Moment B)) (plain : Bytes) (s : CryptoStream K S B) : Prop :=
  s.dec = .none ∧ plain ++ s.source.bytes = total ∧ s.source.failures = 0

/-- A poll of the reader. -/
def decAt (moment : Moment B) (room : Nat) : PollM (CryptoStream K S B) ProtocolError Bytes :=
  pollDec cfg suite (moment.call room)

variable {cfg suite}

theorem OfAead.delivers {Inv : List (Moment B) → Bytes → Aead.ReadState K B → Prop}
    (h : Delivers (fun (moment : Moment B) room =>
      Aead.pollReadDecrypted crypto cfg.method (moment.call room)) total Room Inv (·.source.pendings))
    (hcontext : ∀ {calls plain w}, Inv calls plain w → ∀ context,
      Inv calls plain { w with context := context }) :
    Delivers (decAt cfg suite) total Room (OfAead Inv) (·.source.pendings) := by
  refine h.on ?_ ?_
  · rintro moment calls room plain s ⟨reader, hdec, hinv⟩
    refine ⟨{ reader := reader, context := moment.context, source := s.source },
      fun w => { s with dec := .aead w.reader, source := w.source, context := w.context },
      .aeadError, ?_, hcontext hinv moment.context, rfl, fun hw => ⟨⟨_, rfl, hw⟩, rfl⟩⟩
    unfold decAt pollDec
    rw [hdec]
    rfl
  · rintro calls plain s ⟨reader, hdec, hinv⟩
    exact h.isPrefix hinv

theorem OfAead2022.delivers {Inv : List (Moment B) → Bytes → Aead2022.ReadState K B → Prop}
    (h : Delivers (fun (moment : Moment B) room =>
      Aead2022.pollReadDecrypted cfg (moment.call room)) total Room Inv (·.source.pendings))
    (hcontext : ∀ {calls plain w}, Inv calls plain w → ∀ context,
      Inv calls plain { w with context := context }) :
    Delivers (decAt cfg suite) total Room (OfAead2022 Inv) (·.source.pendings) := by
  refine h.on ?_ ?_
  · rintro moment calls room plain s ⟨henc, reader, hdec, hinv⟩
    refine ⟨{ reader := reader, context := moment.context, source := s.source },
      fun w => { s with dec := .aead2022 w.reader, source := w.source, context := w.context },
      .aead2022Error, ?_, hcontext hinv moment.context, rfl, fun hw => ⟨⟨henc, _, rfl, hw⟩, rfl⟩⟩
    unfold decAt pollDec
    rw [hdec]
    rfl
  · rintro calls plain s ⟨-, reader, hdec, hinv⟩
    exact h.isPrefix hinv

theorem OfStream.delivers {Inv : List (Moment B) → Bytes → Stream.ReadState S B → Prop}
    (h : Delivers (Stream.pollAt suite cfg.method) total Room Inv (·.source.pendings))
    (hcontext : ∀ {calls plain w}, Inv calls plain w → ∀ context,
      Inv calls plain { w with context := context }) :
    Delivers (decAt cfg suite) total Room (OfStream Inv) (·.source.pendings) := by
  refine h.on ?_ ?_
  · rintro moment calls room plain s ⟨reader, hdec, hinv⟩
    refine ⟨{ reader := reader, context := moment.context, source := s.source },
      fun w => { s with dec := .stream w.reader, source := w.source, context := w.context },
      .streamError, ?_, hcontext hinv moment.context, rfl, fun hw => ⟨⟨_, rfl, hw⟩, rfl⟩⟩
    unfold decAt pollDec
    rw [hdec]
    rfl
  · rintro calls plain s ⟨reader, hdec, hinv⟩
    exact h.isPrefix hinv

theorem Plain.delivers :
    Delivers (decAt (B := B) cfg suite) total anyRoom (Plain total) (·.source.pendings) := by
  refine (Source.delivers (ι := Moment B) total).on ?_ ?_
  · rintro moment calls room plain s ⟨hdec, hinv⟩
    refine ⟨s.source, fun source => { s with source := source, context := moment.context },
      .ioError, ?_, hinv, rfl, fun hw => ⟨⟨hdec, hw⟩, rfl⟩⟩
    unfold decAt pollDec
    rw [hdec]
    rfl
  · rintro calls plain s ⟨-, hbytes, -⟩
    exact ⟨_, hbytes⟩

/-! ## The handshake is noted -/

/-- The stream as a poll has left it, but for its writer. -/
structure ReaderKept (s t : CryptoStream K S B) : Prop where
  dec : t.dec = s.dec
  source : t.source = s.source
  context : t.context = s.context
  enc : (∃ writer, s.enc = .aead2022 writer) → ∃ writer, t.enc = .aead2022 writer

/-- What a poll that is ready does once more. -/
def afterRead (cfg : Aead2022.ReaderConfig crypto) (out : Bytes) :
    PollM (CryptoStream K S B) ProtocolError Bytes :=
  noteHandshake cfg >>= fun _ => pure out

omit [BloomFilter B] in
theorem afterRead_ready (cfg : Aead2022.ReaderConfig crypto) {s : CryptoStream K S B}
    (h : s.dec.userKey = none ∨ ∃ writer, s.enc = .aead2022 writer) (out : Bytes) :
    ∃ t, afterRead cfg out s = (.ready out, t) ∧ ReaderKept s t := by
  suffices hnote : ∃ t, noteHandshake cfg s = (.ready (), t) ∧ ReaderKept s t by
    obtain ⟨t, hnote, hkept⟩ := hnote
    exact ⟨t, PollM.bind_ready hnote _, hkept⟩
  unfold noteHandshake
  split
  · cases hkey : s.dec.userKey with
    | none => exact ⟨_, rfl, rfl, rfl, rfl, id⟩
    | some key =>
      obtain hnone | ⟨writer, henc⟩ := h
      · cases hkey.symm.trans hnone
      · dsimp only
        rw [henc]
        exact ⟨_, rfl, rfl, rfl, rfl, fun _ => ⟨_, rfl⟩⟩
  · exact ⟨s, rfl, rfl, rfl, rfl, id⟩

section Kept

variable (cfg : Aead2022.ReaderConfig crypto) {calls : List (Moment B)} {plain : Bytes} {s t : CryptoStream K S B}

omit [BloomFilter B] in
theorem OfAead.after {Inv : List (Moment B) → Bytes → Aead.ReadState K B → Prop}
    (h : OfAead Inv calls plain s) (out : Bytes) : ∃ t, afterRead cfg out s = (.ready out, t) ∧
      OfAead Inv calls plain t ∧ t.source.pendings = s.source.pendings := by
  obtain ⟨reader, hdec, hinv⟩ := h
  obtain ⟨t, hready, hkept⟩ := afterRead_ready cfg (s := s) (.inl (by rw [hdec]; rfl)) out
  refine ⟨t, hready, ⟨reader, hkept.dec.trans hdec, ?_⟩, congrArg Source.pendings hkept.source⟩
  rw [hkept.context, hkept.source]
  exact hinv

omit [BloomFilter B] in
theorem OfAead2022.after {Inv : List (Moment B) → Bytes → Aead2022.ReadState K B → Prop}
    (h : OfAead2022 Inv calls plain s) (out : Bytes) : ∃ t, afterRead cfg out s = (.ready out, t) ∧
      OfAead2022 Inv calls plain t ∧ t.source.pendings = s.source.pendings := by
  obtain ⟨henc, reader, hdec, hinv⟩ := h
  obtain ⟨t, hready, hkept⟩ := afterRead_ready cfg (.inr henc) out
  refine ⟨t, hready, ⟨hkept.enc henc, reader, hkept.dec.trans hdec, ?_⟩,
    congrArg Source.pendings hkept.source⟩
  rw [hkept.context, hkept.source]
  exact hinv

omit [BloomFilter B] in
theorem OfStream.after {Inv : List (Moment B) → Bytes → Stream.ReadState S B → Prop}
    (h : OfStream Inv calls plain s) (out : Bytes) : ∃ t, afterRead cfg out s = (.ready out, t) ∧
      OfStream Inv calls plain t ∧ t.source.pendings = s.source.pendings := by
  obtain ⟨reader, hdec, hinv⟩ := h
  obtain ⟨t, hready, hkept⟩ := afterRead_ready cfg (s := s) (.inl (by rw [hdec]; rfl)) out
  refine ⟨t, hready, ⟨reader, hkept.dec.trans hdec, ?_⟩, congrArg Source.pendings hkept.source⟩
  rw [hkept.context, hkept.source]
  exact hinv

omit [BloomFilter B] in
theorem Plain.after (h : Plain total calls plain s) (out : Bytes) :
    ∃ t, afterRead cfg out s = (.ready out, t) ∧ Plain total calls plain t ∧
      t.source.pendings = s.source.pendings := by
  obtain ⟨hdec, hinv⟩ := h
  obtain ⟨t, hready, hkept⟩ := afterRead_ready cfg (s := s) (.inl (by rw [hdec]; rfl)) out
  refine ⟨t, hready, ⟨hkept.dec.trans hdec, ?_⟩, congrArg Source.pendings hkept.source⟩
  rw [hkept.source]
  exact hinv

end Kept

end Readers

end CryptoIo.CryptoStream

end Shadowsocks.Tcp
