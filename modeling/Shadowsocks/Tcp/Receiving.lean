import Shadowsocks.Tcp.CryptoDelivery
import Shadowsocks.Tcp.Handshake
import Shadowsocks.Tcp.Sending

/-! # What the streams receive

Between a writer and a reader that belong together (`Link`), a stream of any method delivers the
payloads that the wire carries, however they arrive (`CryptoStream.conveys`): to a client, which
finds that the response answers its request, and to a server behind the request header, of which
its handshake reads no byte too many.
-/

namespace Shadowsocks.Tcp

open Shadowsocks.Lib Shadowsocks.Net Reading CryptoIo

variable {K S B : Type} [BloomFilter B]

/-- How long the IV or the salt of a method is. -/
def nonceLen (crypto : CryptoSuite K) (suite : Stream.StreamSuite S) (method : CipherKind) : Nat :=
  match method.category with
  | .stream => suite.ivLen method
  | .aead => crypto.saltLen method
  | .none => 0
  | .aead2022 => crypto.saltLen method

/-- A writer and a reader that belong together, over ciphers that are correct. -/
structure Link {crypto : CryptoSuite K} (cfg : Aead2022.ReaderConfig crypto)
    (suite : Stream.StreamSuite S) (sender : Aead2022.Sender) (readerKey : Bytes)
    (userKey : Option Bytes) (nonce : Bytes) (sentAt : Time) : Prop where
  schemeCorrect : (crypto.scheme cfg.method).Correct
  suiteCorrect : suite.Correct
  blockCorrect : crypto.BlockCorrect
  nonce_length : nonce.length = nonceLen crypto suite cfg.method
  nonce_pos : cfg.method.category = .aead ∨ cfg.method.category = .aead2022 → 0 < nonce.length
  timestamp : sentAt.unixSecs < 2 ^ 64
  session : cfg.method.category = .aead2022 → Aead2022.Session cfg sender readerKey userKey
  key : cfg.method.category ≠ .aead2022 → readerKey = sender.key

/-- With how many bytes the stream is checked for a replay, and for its age. -/
def checkedAfter {crypto : CryptoSuite K} (cfg : Aead2022.ReaderConfig crypto)
    (suite : Stream.StreamSuite S) (first : Bytes) : Nat :=
  match cfg.method.category with
  | .none => 0
  | .stream => suite.ivLen cfg.method
  | .aead => Aead.checkedAfter crypto cfg.method first
  | .aead2022 => cfg.headerLen

/-- A poll at that moment lets the stream pass. -/
def Admits {crypto : CryptoSuite K} (cfg : Aead2022.ReaderConfig crypto) (nonce : Bytes)
    (sentAt : Time) (moment : Moment B) : Prop :=
  match cfg.method.category with
  | .none => True
  | .stream => Context.Accepts cfg.method nonce moment.now moment.context
  | .aead => Context.Accepts cfg.method nonce moment.now moment.context
  | .aead2022 => Aead2022.Timely cfg sentAt nonce (moment.call 0)

/-- The bytes arrive in any pieces, an AEAD-2022 header in one, and the poll that has got enough of
    them to check the stream lets it pass. -/
structure Arrives {crypto : CryptoSuite K} (cfg : Aead2022.ReaderConfig crypto)
    (suite : Stream.StreamSuite S) (nonce : Bytes) (sentAt : Time) (first wire : Bytes)
    (calls : List (Moment B)) (source : Source) : Prop where
  bytes : source.bytes = wire
  failures : source.failures = 0
  once : cfg.method.category = .aead2022 → source.OpensWith cfg.headerLen
  admitted : ∀ moment, calls[source.waits (checkedAfter cfg suite first)]? = some moment →
    Admits cfg nonce sentAt moment

namespace CryptoIo.CryptoStream

variable {crypto : CryptoSuite K} {cfg : Aead2022.ReaderConfig crypto}
  {suite : Stream.StreamSuite S} {sender : Aead2022.Sender} {readerKey : Bytes}
  {userKey : Option Bytes} {nonce : Bytes} {sentAt : Time} {p : Bytes} {ps : List Bytes}

/-- `poll_read_decrypted`, with so much room. -/
def readAt (cfg : Aead2022.ReaderConfig crypto) (suite : Stream.StreamSuite S) (moment : Moment B)
    (room : Nat) : PollM (CryptoStream K S B) ProtocolError Bytes :=
  pollReadDecrypted cfg suite (moment.call room)

/-- What is left of an AEAD-2022 stream's first chunk, once some of it has been delivered. -/
def LeftOfFirst (cfg : Aead2022.ReaderConfig crypto) (p plain : Bytes) (s : CryptoStream K S B) :
    Prop :=
  cfg.method.category = .aead2022 → plain ≠ [] →
    currentDataChunkRemaining s = (.ready (1, p.length - plain.length), s)

/-- What the stream reports is of the writer, if it has opened a chunk. -/
def ReportsOf (cfg : Aead2022.ReaderConfig crypto) (sender : Aead2022.Sender)
    (userKey : Option Bytes) (nonce plain : Bytes) (s : CryptoStream K S B) : Prop :=
  cfg.method.category = .aead2022 → ∃ reader, s.dec = .aead2022 reader ∧
    ((plain = [] ∧ reader.rest.dataChunkCount = 0) ∨
      Aead2022.Reports sender nonce userKey reader.rest)

/-- What a stream delivers, first within the first payload and then all of it. -/
structure Conveying (cfg : Aead2022.ReaderConfig crypto) (suite : Stream.StreamSuite S)
    (sender : Aead2022.Sender) (userKey : Option Bytes) (nonce p : Bytes) (ps : List Bytes)
    (Opening Going : List (Moment B) → Bytes → CryptoStream K S B → Prop) : Prop where
  conveys : Conveys (readAt cfg suite) p (p :: ps).flatten Opening Going (·.source.pendings)
  left : ∀ {calls plain s}, Opening calls plain s → LeftOfFirst cfg p plain s
  reports : ∀ {calls plain s}, Going calls plain s → ReportsOf cfg sender userKey nonce plain s

theorem isPrefix_flatten (p : Bytes) (ps : List Bytes) : p <+: (p :: ps).flatten :=
  ⟨ps.flatten, List.flatten_cons.symm⟩

section Categories

variable {calls : List (Moment B)} {s₀ : CryptoStream K S B}

theorem conveys_plain (hcat : cfg.method.category = .none) (hdec : s₀.dec = .none)
    (h : Arrives cfg suite nonce sentAt p (p :: ps).flatten calls s₀.source) :
    ∃ Opening Going, Conveying cfg suite sender userKey nonce p ps Opening Going ∧
      Opening calls [] s₀ := by
  have hdelivers : Delivers (decAt (B := B) cfg suite) (p :: ps).flatten anyRoom (Plain _) _ :=
    Plain.delivers
  refine ⟨_, _, ⟨(hdelivers.conveys (isPrefix_flatten p ps)).bind (afterRead cfg) ?_ ?_, ?_, ?_⟩,
    List.nil_prefix, hdec, h.bytes, h.failures⟩
  · rintro calls plain s ⟨hplain, hs⟩ out
    obtain ⟨t, ht, hs', hpend⟩ := hs.after cfg out
    exact ⟨t, ht, ⟨hplain, hs'⟩, hpend⟩
  · exact fun hs out => hs.after cfg out
  · exact fun _ hcat' => absurd (hcat.symm.trans hcat') (by decide)
  · exact fun _ hcat' => absurd (hcat.symm.trans hcat') (by decide)

theorem conveys_stream (hlink : Link cfg suite sender readerKey userKey nonce sentAt)
    (hcat : cfg.method.category = .stream)
    (hdec : s₀.dec = .stream (.new suite cfg.method readerKey))
    (h : Arrives cfg suite nonce sentAt p
      (Stream.streamOf suite cfg.method sender.key nonce (p :: ps)) calls s₀.source) :
    ∃ Opening Going, Conveying cfg suite sender userKey nonce p ps Opening Going ∧
      Opening calls [] s₀ := by
  have hiv : nonce.length = suite.ivLen cfg.method := by
    rw [hlink.nonce_length, nonceLen, hcat]
  have hkey : readerKey = sender.key := hlink.key (by rw [hcat]; decide)
  have hadmitted := h.admitted
  simp only [checkedAfter, Admits, hcat] at hadmitted
  have hreader : Delivers (Stream.pollAt (B := B) suite cfg.method) (p :: ps).flatten anyRoom
      (Stream.Progress suite cfg.method readerKey nonce (p :: ps).flatten) _ :=
    Stream.Progress.delivers hlink.suiteCorrect hiv
  have hdelivers : Delivers (decAt cfg suite) _ anyRoom _ _ :=
    OfStream.delivers hreader fun hs context => hs.context context
  refine ⟨_, _, ⟨(hdelivers.conveys (isPrefix_flatten p ps)).bind (afterRead cfg) ?_ ?_, ?_, ?_⟩,
    List.nil_prefix, _, hdec, ?_⟩
  · rintro calls plain s ⟨hplain, hs⟩ out
    obtain ⟨t, ht, hs', hpend⟩ := hs.after cfg out
    exact ⟨t, ht, ⟨hplain, hs'⟩, hpend⟩
  · exact fun hs out => hs.after cfg out
  · exact fun _ hcat' => absurd (hcat.symm.trans hcat') (by decide)
  · exact fun _ hcat' => absurd (hcat.symm.trans hcat') (by decide)
  · exact Stream.Progress.start hlink.suiteCorrect hiv rfl (hkey ▸ h.bytes) h.failures hadmitted

theorem conveys_aead (hlink : Link cfg suite sender readerKey userKey nonce sentAt)
    (hcat : cfg.method.category = .aead) (small : ∀ q ∈ p :: ps, FitsChunk cfg.method q)
    (hdec : s₀.dec = .aead (.new crypto cfg.method readerKey))
    (h : Arrives cfg suite nonce sentAt p
      (Aead.streamOf crypto cfg.method sender.key nonce (p :: ps)) calls s₀.source) :
    ∃ Opening Going, Conveying cfg suite sender userKey nonce p ps Opening Going ∧
      Opening calls [] s₀ := by
  have hsalt : nonce.length = crypto.saltLen cfg.method := by
    rw [hlink.nonce_length, nonceLen, hcat]
  have hpos : 0 < crypto.saltLen cfg.method := hsalt ▸ hlink.nonce_pos (.inl hcat)
  have hkey : readerKey = sender.key := hlink.key (by rw [hcat]; decide)
  have hadmitted := h.admitted
  simp only [checkedAfter, Admits, hcat] at hadmitted
  simp only [FitsChunk, hcat] at small
  have hreader : Delivers (fun (moment : Moment B) room =>
      Aead.pollReadDecrypted crypto cfg.method (moment.call room)) (p :: ps).flatten anyRoom
      (Aead.Progress crypto cfg.method readerKey nonce p ps) _ :=
    Aead.Progress.delivers hlink.schemeCorrect hsalt small
  have hdelivers : Delivers (decAt cfg suite) _ anyRoom _ _ :=
    OfAead.delivers hreader fun hs context => hs.context context
  refine ⟨_, _, ⟨(hdelivers.conveys (isPrefix_flatten p ps)).bind (afterRead cfg) ?_ ?_, ?_, ?_⟩,
    List.nil_prefix, _, hdec, ?_⟩
  · rintro calls plain s ⟨hplain, hs⟩ out
    obtain ⟨t, ht, hs', hpend⟩ := hs.after cfg out
    exact ⟨t, ht, ⟨hplain, hs'⟩, hpend⟩
  · exact fun hs out => hs.after cfg out
  · exact fun _ hcat' => absurd (hcat.symm.trans hcat') (by decide)
  · exact fun _ hcat' => absurd (hcat.symm.trans hcat') (by decide)
  · exact Aead.Progress.start hpos hsalt rfl (hkey ▸ h.bytes) h.failures hadmitted

theorem conveys_aead2022 (hlink : Link cfg suite sender readerKey userKey nonce sentAt)
    (hcat : cfg.method.category = .aead2022) (small : ∀ q ∈ p :: ps, FitsChunk cfg.method q)
    (hdec : s₀.dec = .aead2022 (.new crypto cfg.method readerKey))
    (henc : ∃ writer, s₀.enc = .aead2022 writer)
    (h : Arrives cfg suite nonce sentAt p
      (Aead2022.streamOf crypto cfg.method sender nonce sentAt (p :: ps)) calls s₀.source) :
    ∃ Opening Going, Conveying cfg suite sender userKey nonce p ps Opening Going ∧
      Opening calls [] s₀ := by
  have hsalt : nonce.length = crypto.saltLen cfg.method := by
    rw [hlink.nonce_length, nonceLen, hcat]
  have hpos : 0 < crypto.saltLen cfg.method := hsalt ▸ hlink.nonce_pos (.inr hcat)
  have hgenuine : Aead2022.Genuine cfg sender readerKey userKey nonce sentAt :=
    ⟨hlink.session hcat, hlink.schemeCorrect, hlink.blockCorrect, hpos, hsalt, hlink.timestamp⟩
  have hadmitted := h.admitted
  simp only [checkedAfter, Admits, hcat] at hadmitted
  have hsmall : ∀ q ∈ p :: ps, q.length < 65536 := by
    intro q hq
    have hfits := small q hq
    simp only [FitsChunk, hcat] at hfits
    exact Nat.lt_of_le_of_lt hfits (by decide)
  -- within the first chunk, and then over all of them
  have hfirst : Delivers (fun (moment : Moment B) room =>
      Aead2022.pollReadDecrypted cfg (moment.call room)) p (roomWithin p)
      (Aead2022.FirstChunk cfg sender readerKey userKey nonce sentAt p ps) _ :=
    Aead2022.FirstChunk.delivers hgenuine (hsmall p List.mem_cons_self)
  have hall : Delivers (fun (moment : Moment B) room =>
      Aead2022.pollReadDecrypted cfg (moment.call room)) (p :: ps).flatten anyRoom
      (Aead2022.Progress cfg sender readerKey userKey nonce sentAt p ps) _ :=
    Aead2022.Progress.delivers hgenuine hsmall
  have hconveys : Conveys (decAt cfg suite) p (p :: ps).flatten _ _ _ :=
    { opening := OfAead2022.delivers hfirst fun hs context => hs.context context
      goesOn := by
        rintro calls plain s ⟨henc, reader, hdec, hs⟩
        exact ⟨henc, reader, hdec, hs.progress hgenuine⟩
      going := OfAead2022.delivers hall fun hs context => hs.context context }
  refine ⟨_, _, ⟨hconveys.bind (afterRead cfg) (fun hs out => hs.after cfg out)
    (fun hs out => hs.after cfg out), ?_, ?_⟩, henc, _, hdec, ?_⟩
  · rintro calls plain s ⟨-, reader, hdec, hs⟩ - hne
    obtain ⟨hcount, pos, hstate, hleft⟩ := (hs.begun_of_delivered hne).remaining hne
    simp only [currentDataChunkRemaining, hdec]
    change reader.rest.dataChunkCount = 1 at hcount
    change reader.state = .bufferedData pos at hstate
    rw [hcount, hstate, ← hleft]
  · rintro calls plain s ⟨-, reader, hdec, hs⟩ -
    exact ⟨reader, hdec, hs.reports⟩
  · exact Aead2022.FirstChunk.start hpos rfl h.bytes h.failures (h.once hcat) hadmitted

/-- **A stream delivers.** Of any method, between a writer and a reader that belong together. -/
theorem conveys (hlink : Link cfg suite sender readerKey userKey nonce sentAt)
    (small : ∀ q ∈ p :: ps, FitsChunk cfg.method q)
    (hdec : s₀.dec = .withUserManager cfg suite readerKey)
    (henc : cfg.method.category = .aead2022 → ∃ writer, s₀.enc = .aead2022 writer)
    (h : Arrives cfg suite nonce sentAt p
      (carried crypto cfg.method suite sender nonce sentAt (p :: ps)) calls s₀.source) :
    ∃ Opening Going, Conveying cfg suite sender userKey nonce p ps Opening Going ∧
      Opening calls [] s₀ := by
  unfold DecryptedReader.withUserManager at hdec
  unfold carried at h
  cases hcat : cfg.method.category with
  | none =>
    rw [hcat] at hdec h
    exact conveys_plain hcat hdec h
  | stream =>
    rw [hcat] at hdec h
    exact conveys_stream hlink hcat hdec h
  | aead =>
    rw [hcat] at hdec h
    exact conveys_aead hlink hcat small hdec h
  | aead2022 =>
    rw [hcat] at hdec h
    exact conveys_aead2022 hlink hcat small hdec (henc hcat) h

end Categories

end CryptoIo.CryptoStream

/-! ## A server's side -/

namespace ProxyServerStream

variable {crypto : CryptoSuite K} {cfg : Aead2022.ReaderConfig crypto}
  {suite : Stream.StreamSuite S} {sender : Aead2022.Sender} {userKey : Option Bytes}
  {nonce header buf : Bytes} {ps : List Bytes} {s₀ : ProxyServerStream K S B}

/-- The stream once the handshake has begun. -/
def begun (s₀ : ProxyServerStream K S B) (stream : CryptoStream K S B) : ProxyServerStream K S B :=
  { s₀ with stream := stream, hasHandshaked := true }

theorem readAt_conveys {p : Bytes}
    {Opening Going : List (Moment B) → Bytes → CryptoStream K S B → Prop}
    (h : CryptoStream.Conveying cfg suite sender userKey nonce p ps Opening Going)
    (s₀ : ProxyServerStream K S B) :
    Conveys (readAt cfg suite) p (p :: ps).flatten
      (fun calls plain t => ∃ s, t = begun s₀ s ∧ Opening calls plain s)
      (fun calls plain t => ∃ s, t = begun s₀ s ∧ Going calls plain s)
      (·.stream.source.pendings) :=
  h.conveys.on (readAt cfg suite) (begun s₀) (g := ProtocolError.toFailure) rfl fun _ => rfl

/-- A first chunk with neither payload nor padding, which the handshake refuses. -/
def EmptyRequest (method : CipherKind) (padding buf : Bytes) : Prop :=
  method.isAead2022 ∧ padding = [] ∧ buf = []

instance (method : CipherKind) (padding buf : Bytes) : Decidable (EmptyRequest method padding buf) :=
  inferInstanceAs (Decidable (_ ∧ _ ∧ _))

/-- What a handshake may come to with so many polls, of which `budget` are enough. -/
inductive HandshakePost (refused : Prop) (addr : Address)
    (Inv : List (Moment B) → ProxyServerStream K S B → Prop) (polls budget : Nat) :
    Driven (Moment B) Failure Address × ProxyServerStream K S B → Prop
  | done {calls s} (accepted : ¬refused) (state : Inv calls s)
      (spare : polls + s.stream.source.pendings ≤ calls.length + budget) :
      HandshakePost refused addr Inv polls budget (.done addr calls, s)
  | waiting {s} (short : polls < budget) : HandshakePost refused addr Inv polls budget (.waiting, s)
  | failed {s} (refusal : refused) : HandshakePost refused addr Inv polls budget
      (.failed (.io (.other "no payload in first data chunk, and padding is 0")), s)

omit [BloomFilter B] in
theorem HandshakePost.imp {refused refused' : Prop} {addr : Address}
    {Inv Inv' : List (Moment B) → ProxyServerStream K S B → Prop} {polls budget : Nat}
    {r : Driven (Moment B) Failure Address × ProxyServerStream K S B}
    (h : HandshakePost refused addr Inv polls budget r) (hrefused : refused ↔ refused')
    (hinv : ∀ calls s, Inv calls s → Inv' calls s) :
    HandshakePost refused' addr Inv' polls budget r := by
  cases h with
  | done accepted state spare => exact .done (mt hrefused.2 accepted) (hinv _ _ state) spare
  | waiting short => exact .waiting short
  | failed refusal => exact .failed (hrefused.1 refusal)

omit [BloomFilter B] in
theorem HandshakePost.of_done {refused : Prop} {addr a : Address}
    {Inv : List (Moment B) → ProxyServerStream K S B → Prop} {polls budget : Nat}
    {calls : List (Moment B)} {s : ProxyServerStream K S B}
    (h : HandshakePost refused addr Inv polls budget (.done a calls, s)) :
    a = addr ∧ Inv calls s := by
  cases h with
  | done accepted state spare => exact ⟨rfl, state⟩

/-- A header has an address at least. -/
theorem requestHeader_ne {method : CipherKind} {padding : Bytes} {addr : Address}
    (h : ProxyClientStream.requestHeader method padding addr = some header) : header ≠ [] := by
  obtain ⟨address, hw, hbs⟩ := Option.map_eq_some_iff.1 h
  have hlen := Address.writeToBuf_length hw
  have hpos := Protocol.getAddrLen_pos addr
  rintro rfl
  split at hbs <;> have hall := congrArg List.length hbs <;>
    simp only [List.length_append, List.length_nil] at hall <;> omega

omit [BloomFilter B] in
/-- What the handshake checks of the header that a client has sent. -/
theorem checkHeader_spec {addr : Address} {padding : Bytes} {s : ProxyServerStream K S B}
    (hne : header ≠ []) (hleft : CryptoStream.LeftOfFirst cfg (header ++ buf) header s.stream) :
    checkHeader (Protocol.headerOf cfg.method padding.length addr) s =
      (if EmptyRequest cfg.method padding buf
        then .failed (.io (.other "no payload in first data chunk, and padding is 0"))
        else .ready addr, s) := by
  unfold Protocol.headerOf
  by_cases hmethod : cfg.method.isAead2022 = true
  · have hcat : cfg.method.category = .aead2022 := of_decide_eq_true hmethod
    have hinner : inner CryptoStream.currentDataChunkRemaining s =
        (.ready (1, (header ++ buf).length - header.length), s) := by
      unfold inner PollM.on
      rw [hleft hcat hne]
    rw [if_pos hmethod]
    -- a request without padding must have a payload in its first chunk
    by_cases hpadding : padding = []
    · subst hpadding
      have hempty : (header ++ buf).length - header.length = 0 ↔
          EmptyRequest cfg.method [] buf := by
        rw [List.length_append, Nat.add_sub_cancel_left, List.length_eq_zero_iff]
        exact ⟨fun h => ⟨hmethod, rfl, h⟩, fun h => h.2.2⟩
      change (inner CryptoStream.currentDataChunkRemaining >>= _) s = _
      rw [PollM.bind_ready hinner]
      dsimp only
      by_cases hrefused : EmptyRequest cfg.method [] buf
      · rw [if_pos ⟨rfl, hempty.2 hrefused⟩, if_pos hrefused]
        rfl
      · rw [if_neg fun h => hrefused (hempty.1 h.2), if_neg hrefused]
        rfl
    · have hlen : padding.length ≠ 0 := fun h => hpadding (List.length_eq_zero_iff.1 h)
      have hrefused : ¬EmptyRequest cfg.method padding buf := fun h => hpadding h.2.1
      rw [if_neg hrefused]
      unfold checkHeader
      dsimp only
      rw [if_neg hlen]
      rfl
  · have hrefused : ¬EmptyRequest cfg.method padding buf := fun h => hmethod h.1
    rw [if_neg hmethod, if_neg hrefused]
    rfl

/-- **The handshake** returns the address and has read the header and nothing behind it. -/
theorem handshake_spec {addr : Address} {padding : Bytes} {calls : List (Moment B)}
    {Opening Going : List (Moment B) → Bytes → CryptoStream K S B → Prop}
    (h : CryptoStream.Conveying cfg suite sender userKey nonce (header ++ buf) ps Opening Going)
    (haddr : addr.IsPortable) (hsize : padding.length < 2 ^ 16)
    (hheader : ProxyClientStream.requestHeader cfg.method padding addr = some header)
    (hbegin : s₀.hasHandshaked = false) (hopening : Opening calls [] s₀.stream) :
    HandshakePost (EmptyRequest cfg.method padding buf) addr
      (fun calls s => ∃ t, s = begun s₀ t ∧ Opening calls header t) calls.length
      (s₀.stream.source.pendings + header.length) (handshake cfg suite calls s₀) := by
  have hyields := (Protocol.reading_yields haddr hsize hheader).mapErr Failure.io
  have hbeginning : [] ++ header <+: header ++ buf := List.prefix_append header buf
  have hdrive := (readAt_conveys h s₀).opening.drive id calls hyields hbeginning
    ⟨s₀.stream, rfl, hopening⟩
  have hbegun : beginHandshake s₀ = (.ready (), begun s₀ s₀.stream) := by
    unfold beginHandshake
    rw [PollM.get_bind, hbegin]
    rfl
  have hne := requestHeader_ne hheader
  unfold handshake
  rw [hbegun]
  dsimp only
  -- the header is read, and nothing behind it
  rcases hres : drive (readAt cfg suite) id calls
    ((Protocol.TcpRequestHeader.reading cfg.method).mapErr Failure.io) (begun s₀ s₀.stream) with
    ⟨result, s⟩
  rw [hres] at hdrive
  cases result with
  | waiting => exact .waiting hdrive
  | failed e => exact hdrive.elim
  | panicked => exact hdrive.elim
  | done value calls' =>
    obtain ⟨rfl, ⟨t, rfl, hopening'⟩, hbudget⟩ := hdrive
    dsimp only
    rw [checkHeader_spec hne (h.left hopening')]
    by_cases hempty : EmptyRequest cfg.method padding buf
    · rw [if_pos hempty]
      exact .failed hempty
    · rw [if_neg hempty]
      exact .done hempty ⟨t, rfl, hopening'⟩ hbudget

end ProxyServerStream

/-! ## A client's side -/

omit [BloomFilter B] in
theorem CryptoIo.CryptoStream.noteHandshake_sentNonce {crypto : CryptoSuite K}
    (cfg : Aead2022.ReaderConfig crypto) (s : CryptoStream K S B) :
    (noteHandshake cfg s).2.sentNonce = s.sentNonce := by
  unfold noteHandshake
  split
  · cases s.dec.userKey with
    | none => rfl
    | some key =>
      cases henc : s.enc with
      | none => simp only [sentNonce, henc, EncryptedWriter.resetCipherWithKey]
      | aead writer => simp only [sentNonce, henc, EncryptedWriter.resetCipherWithKey]
      | stream writer => simp only [sentNonce, henc, EncryptedWriter.resetCipherWithKey]
      | aead2022 writer => simp only [sentNonce, henc, EncryptedWriter.resetCipherWithKey]; rfl
  · rfl

/-- A read leaves the salt alone that the writer sends. -/
theorem CryptoIo.CryptoStream.readAt_sentNonce {crypto : CryptoSuite K}
    (cfg : Aead2022.ReaderConfig crypto) (suite : Stream.StreamSuite S) (moment : Moment B)
    (room : Nat) (s : CryptoStream K S B) :
    (readAt cfg suite moment room s).2.sentNonce = s.sentNonce := by
  have hpoll : Triple (fun t : CryptoStream K S B => t.sentNonce = s.sentNonce)
      (pollDec cfg suite (moment.call room)) (Post.always fun t => t.sentNonce = s.sentNonce) := by
    intro t ht
    refine Post.holds_always.2 (Eq.trans ?_ ht)
    unfold pollDec
    split <;> rfl
  have hread : Triple (fun t : CryptoStream K S B => t.sentNonce = s.sentNonce)
      (readAt cfg suite moment room) (Post.always fun t => t.sentNonce = s.sentNonce) := by
    refine Triple.always_bind hpoll fun out => Triple.always_bind (fun t ht => ?_) fun _ => ?_
    · exact Post.holds_always.2 ((noteHandshake_sentNonce cfg t).trans ht)
    · exact fun t ht => ht
  exact Post.holds_always.1 (hread s rfl)

namespace ProxyClientStream

variable {crypto : CryptoSuite K} {method : CipherKind} {suite : Stream.StreamSuite S}
  {sender : Aead2022.Sender} {userKey : Option Bytes} {nonce salt p : Bytes} {ps : List Bytes}

/-- `poll_read`, with so much room. -/
def readAt (crypto : CryptoSuite K) (method : CipherKind) (suite : Stream.StreamSuite S)
    (moment : Moment B) (room : Nat) : PollM (ProxyClientStream K S B) Failure Bytes :=
  pollRead crypto method suite (moment.call room)

omit [BloomFilter B] in
/-- A response to the request passes the check. -/
theorem checkRequestNonce_passes {plain : Bytes} {s : ProxyClientStream K S B}
    (hcat : method.category = .aead2022) (hrequest : sender.requestSalt = some salt)
    (hreports : CryptoStream.ReportsOf (config crypto method) sender userKey nonce plain s.stream)
    (hsent : s.stream.sentNonce = salt) :
    ∃ state, checkRequestNonce s = (.ready (), s.setReaderState state) := by
  obtain ⟨reader, hdec, hreports⟩ := hreports hcat
  have hcount : inner CryptoStream.dataChunkCount s = (.ready reader.rest.dataChunkCount, s) := by
    unfold inner PollM.on CryptoStream.dataChunkCount
    rw [hdec]
  unfold checkRequestNonce
  rw [PollM.bind_ready hcount]
  by_cases hsome : reader.rest.dataChunkCount > 0
  · obtain ⟨-, hnone⟩ | ⟨-, hsalt, -⟩ := hreports
    · omega
    · have hreceived : (if s.stream.sentNonce = [] then none else some s.stream.sentNonce) =
          s.stream.receivedRequestNonce := by
        rw [CryptoStream.receivedRequestNonce, hdec, hsent]
        change _ = Option.filter _ reader.rest.requestSalt
        rw [hsalt, hrequest]
        by_cases hempty : salt = [] <;> simp [Option.filter, hempty]
      refine ⟨.established, ?_⟩
      rw [if_pos hsome, PollM.get_bind, if_neg (not_not.2 hreceived)]
      rfl
  · refine ⟨s.readerState, ?_⟩
    rw [if_neg hsome]
    rfl

/-- A client on its way through a response. -/
structure Receives (method : CipherKind) (salt : Bytes)
    (Going : List (Moment B) → Bytes → CryptoStream K S B → Prop) (calls : List (Moment B))
    (plain : Bytes) (c : ProxyClientStream K S B) : Prop where
  stream : Going calls plain c.stream
  sentNonce : c.stream.sentNonce = salt
  checks : c.readerState = .checkRequestNonce → method.category = .aead2022

/-- **A client delivers a response** to its own request. -/
theorem delivers {Opening Going : List (Moment B) → Bytes → CryptoStream K S B → Prop}
    (h : CryptoStream.Conveying (config crypto method) suite sender userKey nonce p ps Opening Going)
    (hrequest : method.category = .aead2022 → sender.requestSalt = some salt) :
    Delivers (readAt crypto method suite) (p :: ps).flatten anyRoom (Receives method salt Going)
      (·.stream.source.pendings) where
  step {moment calls room plain c} hroom hinv := by
    have hinner := (h.conveys.going.keeping (I := fun _ s => s.sentNonce = salt)
      fun _ hs => Post.mono (Post.holds_always.2
        ((CryptoStream.readAt_sentNonce _ suite _ _ _).trans hs))
        ⟨fun _ _ h _ => h, fun _ h => h, fun _ _ _ => trivial, fun _ _ => trivial⟩).step hroom
      ⟨hinv.stream, hinv.sentNonce⟩
    have hread : Post.holds
        { ready := fun out t => (out = [] → plain = (p :: ps).flatten) ∧ out.length ≤ room ∧
            Receives method salt Going calls (plain ++ out) t ∧
            t.stream.source.pendings ≤ c.stream.source.pendings
          pending := fun t => Receives method salt Going calls plain t ∧
            t.stream.source.pendings < c.stream.source.pendings
          failed := fun _ _ => False } (readInner crypto method suite (moment.call room) c) := by
      unfold readInner inner
      apply Post.holds_on
      apply Post.holds_mapErr
      exact Post.mono hinner ⟨fun out s hs => ⟨hs.1, hs.2.1, ⟨hs.2.2.1.1, hs.2.2.1.2, hinv.checks⟩,
        hs.2.2.2⟩, fun s hs => ⟨⟨hs.1.1, hs.1.2, hinv.checks⟩, hs.2⟩, fun _ _ h => h, fun _ h => h⟩
    unfold readAt pollRead
    rw [PollM.get_bind]
    -- until the request's salt has been compared, what is ready passes the check first
    cases hstate : c.readerState with
    | established => exact hread
    | checkRequestNonce =>
      have hcat := hinv.checks hstate
      rcases hres : readInner crypto method suite (moment.call room) c with ⟨res, t⟩
      rw [hres] at hread
      dsimp only
      cases res with
      | ready out =>
        obtain ⟨hend, hlen, hreceives, hpend⟩ := hread
        obtain ⟨state, hpasses⟩ := checkRequestNonce_passes hcat (hrequest hcat)
          (h.reports hreceives.stream) hreceives.sentNonce
        rw [PollM.bind_ready hres, PollM.bind_ready hpasses]
        exact ⟨hend, hlen, ⟨hreceives.stream, hreceives.sentNonce, fun _ => hcat⟩, hpend⟩
      | pending =>
        rw [PollM.bind_pending hres]
        exact hread
      | failed e => exact hread.elim
      | panicked => exact hread.elim
  isPrefix hinv := h.conveys.going.isPrefix hinv.stream

end ProxyClientStream

end Shadowsocks.Tcp
