import Mathlib.Data.List.Basic
import Shadowsocks.Lib.Wire

/-! # Chunk streams under an AEAD

An `AeadScheme` seals and opens one packet under a key and a nonce counter.  A
chunk is a sealed two-byte length followed by the sealed payload, and the nonce
counter runs on through every packet of a stream.

`Opens` is what a receiver may take from a byte stream: it relates the bytes
taken to the plaintext, the cipher and the packet expected next.  Two theorems
say what it takes: of an honestly sealed stream exactly the payloads sent
(`Opens.honest`, for a scheme that opens what it sealed), and of any stream at
all only payloads that were sealed, in order (`Opens.ideal`, for a scheme that
opens nothing else).
-/

namespace Shadowsocks.Lib

/-- An authenticated cipher under a nonce counter.  `garbled` is what a failed
    in-place opening leaves of the packet. -/
structure AeadScheme (K : Type) where
  tagLen : Nat
  tagLen_pos : 0 < tagLen
  encrypt : K → Nat → Bytes → Bytes
  encrypt_length : ∀ k n p, (encrypt k n p).length = p.length + tagLen
  decrypt? : K → Nat → Bytes → Option Bytes
  decrypt_length : ∀ {k n m p}, decrypt? k n m = some p → m.length = p.length + tagLen
  garbled : K → Nat → Bytes → Bytes
  garbled_length : ∀ k n m, (garbled k n m).length = m.length

variable {K : Type}

namespace AeadScheme

attribute [simp] encrypt_length garbled_length

/-- Opening inverts sealing at the same key and nonce. -/
def Correct (S : AeadScheme K) : Prop :=
  ∀ k n p, S.decrypt? k n (S.encrypt k n p) = some p

/-- Under the key `k` a packet opens at nonce `n` only if it is the packet
    sealed there, `log` being the plaintexts sealed, in nonce order. -/
def Ideal (S : AeadScheme K) (k : K) (log : List Bytes) : Prop :=
  ∀ n m p, S.decrypt? k n m = some p → log[n]? = some p ∧ m = S.encrypt k n p

/-- The scheme that only appends a tag: it hides nothing, and is here to evaluate
    definitions with. -/
def transparent (tag : K → Nat → Bytes) (tagLen : Nat) (tagLen_pos : 0 < tagLen)
    (tag_length : ∀ k n, (tag k n).length = tagLen) : AeadScheme K where
  tagLen := tagLen
  tagLen_pos := tagLen_pos
  encrypt k n p := p ++ tag k n
  encrypt_length k n p := by rw [List.length_append, tag_length]
  decrypt? k n m :=
    if m.take (m.length - tagLen) ++ tag k n = m then some (m.take (m.length - tagLen)) else none
  decrypt_length {k n m p} h := by
    split at h
    · next heq =>
      cases h
      have := congrArg List.length heq
      rw [List.length_append, tag_length] at this
      exact this.symm
    · cases h
  garbled _ _ m := m
  garbled_length _ _ _ := rfl

theorem transparent_correct {tag : K → Nat → Bytes} {tagLen : Nat} (h : 0 < tagLen)
    (tag_length : ∀ k n, (tag k n).length = tagLen) :
    (transparent tag tagLen h tag_length).Correct := by
  intro k n p
  simp [transparent, tag_length]

/-- A scheme that opens under every key only what `log` lists for it. -/
def sealedOnly (S : AeadScheme K) (log : K → List Bytes) : AeadScheme K where
  tagLen := S.tagLen
  tagLen_pos := S.tagLen_pos
  encrypt := S.encrypt
  encrypt_length := S.encrypt_length
  decrypt? k n m := ((log k)[n]?).filter fun p => m = S.encrypt k n p
  decrypt_length h := by
    obtain ⟨_, hm⟩ := Option.filter_eq_some_iff.1 h
    rw [of_decide_eq_true hm, S.encrypt_length]
  garbled := S.garbled
  garbled_length := S.garbled_length

theorem sealedOnly_ideal (S : AeadScheme K) (log : K → List Bytes) (k : K) :
    (S.sealedOnly log).Ideal k (log k) := by
  intro n m p h
  obtain ⟨hlog, hm⟩ := Option.filter_eq_some_iff.1 h
  exact ⟨hlog, of_decide_eq_true hm⟩

end AeadScheme

/-- A session key with the nonce of the next packet. -/
structure Cipher (K : Type) where
  key : K
  nonce : Nat
deriving DecidableEq, Repr

namespace Cipher

/-- The cipher after `n` packets. -/
def skip (c : Cipher K) (n : Nat) : Cipher K := { c with nonce := c.nonce + n }

@[simp] theorem skip_key (c : Cipher K) (n : Nat) : (c.skip n).key = c.key := rfl

@[simp] theorem skip_nonce (c : Cipher K) (n : Nat) : (c.skip n).nonce = c.nonce + n := rfl

@[simp] theorem skip_skip (c : Cipher K) (n m : Nat) : (c.skip n).skip m = c.skip (n + m) := by
  simp [skip, Nat.add_assoc]

/-- Seals a packet and advances the nonce. -/
def encryptPacket (S : AeadScheme K) (c : Cipher K) (p : Bytes) : Bytes × Cipher K :=
  (S.encrypt c.key c.nonce p, c.skip 1)

/-- Opens a packet in place and advances the nonce, whether it opens or not.
    The plaintext is left in front of the tag. -/
def decryptPacket (S : AeadScheme K) (c : Cipher K) (m : Bytes) : Bool × Bytes × Cipher K :=
  match S.decrypt? c.key c.nonce m with
  | some p => (true, p ++ m.drop p.length, c.skip 1)
  | none => (false, S.garbled c.key c.nonce m, c.skip 1)

/-- An honest packet opens. -/
theorem decryptPacket_encrypt {S : AeadScheme K} (correct : S.Correct) (c : Cipher K) (p : Bytes) :
    c.decryptPacket S (S.encrypt c.key c.nonce p) =
      (true, p ++ (S.encrypt c.key c.nonce p).drop p.length, c.skip 1) := by
  simp only [decryptPacket, correct c.key c.nonce p]

end Cipher

/-! ## Chunks -/

/-- What the next packet of a chunk stream holds. -/
inductive Expect where
  | length
  | data (n : Nat)
deriving DecidableEq, Repr

/-- The sealed size of the next packet. -/
def Expect.size (S : AeadScheme K) : Expect → Nat
  | .length => 2 + S.tagLen
  | .data n => n + S.tagLen

theorem Expect.size_pos (S : AeadScheme K) (e : Expect) : 0 < e.size S := by
  have := S.tagLen_pos
  cases e <;> simp only [Expect.size] <;> omega

variable (S : AeadScheme K)

/-- One payload as a chunk. -/
def sealChunk (c : Cipher K) (p : Bytes) : Bytes :=
  S.encrypt c.key c.nonce (bigEndian 2 p.length) ++ S.encrypt c.key (c.nonce + 1) p

/-- Payloads as a chunk stream. -/
def sealChunks : Cipher K → List Bytes → Bytes
  | _, [] => []
  | c, p :: ps => sealChunk S c p ++ sealChunks (c.skip 2) ps

/-- The chunk stream of `ps` from where the packet `e` comes next. -/
def remaining (c : Cipher K) : Expect → List Bytes → Bytes
  | .length, ps => sealChunks S c ps
  | .data _, [] => []
  | .data _, p :: ps => S.encrypt c.key c.nonce p ++ sealChunks S (c.skip 1) ps

/-- The payloads left agree with the packet that comes next. -/
def Expect.Fits : Expect → List Bytes → Prop
  | .length, _ => True
  | .data n, ps => ∃ p, ps.head? = some p ∧ p.length = n

theorem sealChunks_append (c : Cipher K) (ps qs : List Bytes) :
    sealChunks S c (ps ++ qs) = sealChunks S c ps ++ sealChunks S (c.skip (2 * ps.length)) qs := by
  induction ps generalizing c with
  | nil => simp [sealChunks, Cipher.skip]
  | cons p ps ih =>
    simp only [List.cons_append, sealChunks, ih, List.append_assoc, Cipher.skip_skip,
      List.length_cons]
    rw [Nat.mul_add, Nat.mul_one, Nat.add_comm 2]

/-- The plaintexts of a chunk stream's packets, in nonce order. -/
def frameLog (ps : List Bytes) : List Bytes :=
  ps.flatMap fun p => [bigEndian 2 p.length, p]

theorem frameLog_length (ps : List Bytes) (i : Nat) :
    (frameLog ps)[2 * i]? = ps[i]?.map fun p => bigEndian 2 p.length := by
  induction ps generalizing i with
  | nil => simp [frameLog]
  | cons p ps ih =>
    cases i with
    | zero => simp [frameLog]
    | succ i =>
      have := ih i
      simp only [frameLog, List.flatMap_cons, Nat.mul_add, Nat.mul_one] at this ⊢
      simpa using this

theorem frameLog_data (ps : List Bytes) (i : Nat) : (frameLog ps)[2 * i + 1]? = ps[i]? := by
  induction ps generalizing i with
  | nil => simp [frameLog]
  | cons p ps ih =>
    cases i with
    | zero => simp [frameLog]
    | succ i =>
      have := ih i
      simp only [frameLog, List.flatMap_cons, Nat.mul_add, Nat.mul_one] at this ⊢
      simpa using this

/-! ## What a receiver takes -/

/-- Bytes taken from a stream that starts at cipher `c₀` with packet `e₀`, the
    plaintext they hold, and the cipher and packet that come next.  `allowed`
    are the lengths the receiver lets through. -/
inductive Opens (allowed : Nat → Prop) (c₀ : Cipher K) (e₀ : Expect) :
    Bytes → Bytes → Cipher K → Expect → Prop where
  | start : Opens allowed c₀ e₀ [] [] c₀ e₀
  | length {body plain c m l} (h : Opens allowed c₀ e₀ body plain c .length)
      (hopen : S.decrypt? c.key c.nonce m = some l) (hsize : m.length = Expect.length.size S)
      (hallowed : allowed (fromBigEndian l)) :
      Opens allowed c₀ e₀ (body ++ m) plain (c.skip 1) (.data (fromBigEndian l))
  | data {body plain c n m p} (h : Opens allowed c₀ e₀ body plain c (.data n))
      (hopen : S.decrypt? c.key c.nonce m = some p) (hsize : m.length = (Expect.data n).size S) :
      Opens allowed c₀ e₀ (body ++ m) (plain ++ p) (c.skip 1) .length

variable {S} {allowed : Nat → Prop} {c₀ c : Cipher K} {e₀ e : Expect} {body plain : Bytes}

theorem Opens.key_eq (h : Opens S allowed c₀ e₀ body plain c e) : c.key = c₀.key := by
  induction h with
  | start => rfl
  | length _ _ _ _ ih => exact ih
  | data _ _ _ ih => exact ih

/-- What has been taken never exceeds what has been read. -/
theorem Opens.plain_le (h : Opens S allowed c₀ e₀ body plain c e) : plain.length ≤ body.length := by
  induction h with
  | start => exact Nat.le_refl _
  | length _ _ _ _ ih => simp only [List.length_append]; omega
  | data _ hopen _ ih =>
    have := S.decrypt_length hopen
    simp only [List.length_append]
    omega

/-- The next packet of an honest stream: a length packet opens to the size of
    the next payload, and is followed by that payload. -/
theorem remaining_length (correct : S.Correct) {m rest : Bytes} {left : List Bytes}
    (h : m ++ rest = remaining S c .length left) (hsize : m.length = Expect.length.size S) :
    ∃ p ps, left = p :: ps ∧ S.decrypt? c.key c.nonce m = some (bigEndian 2 p.length) ∧
      rest = remaining S (c.skip 1) (.data p.length) left := by
  cases left with
  | nil =>
    have hpos := Expect.size_pos S .length
    have := congrArg List.length h
    simp only [remaining, sealChunks, List.length_append, List.length_nil] at this
    omega
  | cons p ps =>
    simp only [remaining, sealChunks, sealChunk, List.append_assoc] at h
    obtain ⟨rfl, rfl⟩ := List.append_inj h (by simp [hsize, Expect.size])
    exact ⟨p, ps, rfl, correct _ _ _, by simp [remaining]⟩

/-- A payload packet of an honest stream opens to the payload. -/
theorem remaining_data (correct : S.Correct) {m rest : Bytes} {left : List Bytes} {n : Nat}
    (h : m ++ rest = remaining S c (.data n) left) (hfits : (Expect.data n).Fits left)
    (hsize : m.length = (Expect.data n).size S) :
    ∃ p ps, left = p :: ps ∧ S.decrypt? c.key c.nonce m = some p ∧
      rest = remaining S (c.skip 1) .length ps := by
  obtain ⟨p, hhead, rfl⟩ := hfits
  cases left with
  | nil => cases hhead
  | cons q ps =>
    obtain rfl : q = p := by simpa using hhead
    simp only [remaining] at h
    obtain ⟨rfl, rfl⟩ := List.append_inj h (by simp [hsize, Expect.size])
    exact ⟨q, ps, rfl, correct _ _ _, rfl⟩

/-- What is left of an honest stream holds at least the packet that comes next,
    unless it is empty and a length would come next. -/
theorem remaining_size {left : List Bytes} (hfits : e.Fits left) :
    e.size S ≤ (remaining S c e left).length ∨ (e = .length ∧ left = []) := by
  cases e with
  | length =>
    cases left with
    | nil => exact .inr ⟨rfl, rfl⟩
    | cons p ps =>
      refine .inl ?_
      simp only [remaining, sealChunks, sealChunk, Expect.size, List.length_append,
        AeadScheme.encrypt_length, bigEndian_length]
      omega
  | data n =>
    obtain ⟨p, hhead, rfl⟩ := hfits
    cases left with
    | nil => cases hhead
    | cons q ps =>
      obtain rfl : q = p := by simpa using hhead
      refine .inl ?_
      simp only [remaining, Expect.size, List.length_append, AeadScheme.encrypt_length]
      omega

/-- **An honest stream.** Whatever a receiver has taken from the chunk stream of
    `sent`, its plaintext is the payloads up to here and the rest of the stream
    is the chunk stream of the payloads left. -/
theorem Opens.honest (correct : S.Correct) {sent : List Bytes}
    (small : ∀ p ∈ sent, p.length < 65536) (hfits₀ : e₀.Fits sent)
    (h : Opens S allowed c₀ e₀ body plain c e) {rest : Bytes}
    (hstream : body ++ rest = remaining S c₀ e₀ sent) :
    ∃ left, left <:+ sent ∧ plain ++ left.flatten = sent.flatten ∧ e.Fits left ∧
      rest = remaining S c e left := by
  induction h generalizing rest with
  | start => exact ⟨sent, List.suffix_refl _, rfl, hfits₀, hstream⟩
  | @length body plain c m l h hopen hsize _ ih =>
    rw [List.append_assoc] at hstream
    obtain ⟨left, hsuffix, hplain, _, hrest⟩ := ih hstream
    obtain ⟨p, ps, rfl, hlen, hafter⟩ := remaining_length correct hrest hsize
    obtain rfl : bigEndian 2 p.length = l := Option.some.inj (hlen.symm.trans hopen)
    have hp : fromBigEndian (bigEndian 2 p.length) = p.length :=
      fromBigEndian_bigEndian_of_lt (small p (hsuffix.subset (List.mem_cons_self ..)))
    exact ⟨p :: ps, hsuffix, hplain, ⟨p, rfl, hp.symm⟩, hp ▸ hafter⟩
  | @data body plain c n m p h hopen hsize ih =>
    rw [List.append_assoc] at hstream
    obtain ⟨left, hsuffix, hplain, hfits, hrest⟩ := ih hstream
    obtain ⟨q, ps, rfl, hq, hafter⟩ := remaining_data correct hrest hfits hsize
    obtain rfl : q = p := Option.some.inj (hq.symm.trans hopen)
    refine ⟨ps, (List.suffix_cons _ _).trans hsuffix, ?_, trivial, hafter⟩
    rw [List.append_assoc, ← hplain, List.flatten_cons]

/-- Where a receiver of a stream from nonce zero stands when only `sent` was
    sealed under its key: after so many whole chunks, or after the length packet
    that follows them. -/
def SealedUpTo (S : AeadScheme K) (k : K) (sent : List Bytes) (body plain : Bytes)
    (c : Cipher K) (e : Expect) : Prop :=
  ∃ i, plain = (sent.take i).flatten ∧
    match e with
    | .length => c.nonce = 2 * i ∧ i ≤ sent.length ∧
        body = sealChunks S { key := k, nonce := 0 } (sent.take i)
    | .data n => c.nonce = 2 * i + 1 ∧ ∃ p, sent[i]? = some p ∧ n = p.length ∧
        body = sealChunks S { key := k, nonce := 0 } (sent.take i) ++
          S.encrypt k (2 * i) (bigEndian 2 p.length)

/-- **Any stream.** Under a scheme that opens nothing but what was sealed, a
    receiver takes only payloads that were sealed, in their order. -/
theorem Opens.ideal {k : K} {sent : List Bytes} (small : ∀ p ∈ sent, p.length < 65536)
    (ideal : S.Ideal k (frameLog sent))
    (h : Opens S allowed { key := k, nonce := 0 } .length body plain c e) :
    SealedUpTo S k sent body plain c e := by
  induction h with
  | start => exact ⟨0, by simp, rfl, Nat.zero_le _, rfl⟩
  | @length body plain c m l h hopen _ _ ih =>
    obtain ⟨i, hplain, hnonce, _, hbody⟩ := ih
    have hkey : c.key = k := h.key_eq
    rw [hkey, hnonce] at hopen
    obtain ⟨hlog, hm⟩ := ideal _ _ _ hopen
    rw [frameLog_length] at hlog
    obtain ⟨p, hp, rfl⟩ := Option.map_eq_some_iff.1 hlog
    refine ⟨i, hplain, by simp [hnonce], p, hp, ?_, by rw [hbody, hm]⟩
    exact fromBigEndian_bigEndian_of_lt (small p (List.mem_of_getElem? hp))
  | @data body plain c n m p h hopen _ ih =>
    obtain ⟨i, hplain, hnonce, q, hq, _, hbody⟩ := ih
    have hkey : c.key = k := h.key_eq
    rw [hkey, hnonce] at hopen
    obtain ⟨hlog, hm⟩ := ideal _ _ _ hopen
    obtain rfl : q = p := by
      rw [frameLog_data, hq] at hlog
      exact Option.some.inj hlog
    obtain ⟨hi, rfl⟩ := List.getElem?_eq_some_iff.1 hq
    have htake : sent.take (i + 1) = sent.take i ++ [sent[i]] := List.take_succ_eq_append_getElem hi
    refine ⟨i + 1, ?_, by simp [hnonce]; omega, hi, ?_⟩
    · rw [htake, List.flatten_append, ← hplain]
      simp
    · rw [htake, sealChunks_append, hbody, hm]
      simp [sealChunks, sealChunk, Cipher.skip, Nat.min_eq_left (Nat.le_of_lt hi)]

end Shadowsocks.Lib
