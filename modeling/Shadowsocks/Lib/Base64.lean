import Mathlib.Data.List.GetD
import Mathlib.Data.List.Nodup
import Shadowsocks.Lib.Text

/-! # Base64

An engine writes bytes in an alphabet of 64 symbols and reads them back.  `Base64Alphabet.engine`
is one for any alphabet: three bytes make four sextets, a last group of one or two bytes makes two
or three of them, and the padding after these may be left out.
-/

namespace Shadowsocks.Lib

/-- What is relied on of an engine whose texts are made of some symbols. -/
structure Base64Engine (isSymbol : Char → Bool) where
  encode : Bytes → Text
  decode : Text → Option Bytes
  encode_nil : encode [] = []
  encode_symbols : ∀ bs, ∀ c ∈ encode bs, isSymbol c = true
  decode_encode : ∀ bs, decode (encode bs) = some bs

namespace Base64Engine

variable {isSymbol : Char → Bool} (engine : Base64Engine isSymbol)

theorem decode_nil : engine.decode [] = some [] := by
  have hdecode := engine.decode_encode []
  rwa [engine.encode_nil] at hdecode

theorem encode_ne_nil {bs : Bytes} (h : bs ≠ []) : engine.encode bs ≠ [] := by
  intro hnil
  have hdecode := engine.decode_encode bs
  rw [hnil, engine.decode_nil] at hdecode
  exact h (Option.some.inj hdecode).symm

end Base64Engine

/-! ### Sextets -/

def sextets : Bytes → List Nat
  | a :: b :: c :: rest =>
    a.toNat / 4 :: (a.toNat % 4 * 16 + b.toNat / 16) :: (b.toNat % 16 * 4 + c.toNat / 64) ::
      c.toNat % 64 :: sextets rest
  | [a, b] => [a.toNat / 4, a.toNat % 4 * 16 + b.toNat / 16, b.toNat % 16 * 4]
  | [a] => [a.toNat / 4, a.toNat % 4 * 16]
  | [] => []

/-- The bits that make no whole byte have to be zero. -/
def ofSextets : List Nat → Option Bytes
  | a :: b :: c :: d :: rest =>
    (ofSextets rest).map fun bs =>
      UInt8.ofNat (a * 4 + b / 16) :: UInt8.ofNat (b % 16 * 16 + c / 4) ::
        UInt8.ofNat (c % 4 * 64 + d) :: bs
  | [a, b, c] =>
    if c % 4 = 0 then some [UInt8.ofNat (a * 4 + b / 16), UInt8.ofNat (b % 16 * 16 + c / 4)]
    else none
  | [a, b] => if b % 16 = 0 then some [UInt8.ofNat (a * 4 + b / 16)] else none
  | [_] => none
  | [] => some []

theorem lt_of_mem_sextets {bs : Bytes} {n : Nat} (h : n ∈ sextets bs) : n < 64 := by
  induction bs using sextets.induct with
  | case1 a b c rest ih =>
    have ha := a.toNat_lt
    have hb := b.toNat_lt
    have hc := c.toNat_lt
    simp only [sextets, List.mem_cons] at h
    obtain rfl | rfl | rfl | rfl | hrest := h
    · omega
    · omega
    · omega
    · omega
    · exact ih hrest
  | case2 a b =>
    have ha := a.toNat_lt
    have hb := b.toNat_lt
    simp only [sextets, List.mem_cons, List.not_mem_nil, or_false] at h
    omega
  | case3 a =>
    have ha := a.toNat_lt
    simp only [sextets, List.mem_cons, List.not_mem_nil, or_false] at h
    omega
  | case4 => cases h

theorem uint8_eq_ofNat {b : UInt8} {n : Nat} (h : n = b.toNat) : UInt8.ofNat n = b := by
  rw [h, UInt8.ofNat_toNat]

theorem ofSextets_sextets (bs : Bytes) : ofSextets (sextets bs) = some bs := by
  induction bs using sextets.induct with
  | case1 a b c rest ih =>
    have ha := a.toNat_lt
    have hb := b.toNat_lt
    have hc := c.toNat_lt
    rw [sextets, ofSextets, ih, Option.map_some, uint8_eq_ofNat (b := a) (by omega),
      uint8_eq_ofNat (b := b) (by omega), uint8_eq_ofNat (b := c) (by omega)]
  | case2 a b =>
    have ha := a.toNat_lt
    have hb := b.toNat_lt
    rw [sextets, ofSextets, if_pos (Nat.mul_mod_left _ _), uint8_eq_ofNat (b := a) (by omega),
      uint8_eq_ofNat (b := b) (by omega)]
  | case3 a =>
    have ha := a.toNat_lt
    rw [sextets, ofSextets, if_pos (Nat.mul_mod_left _ _), uint8_eq_ofNat (b := a) (by omega)]
  | case4 => rfl

/-- Bytes have more bits than sextets. -/
theorem ofSextets_length {ns : List Nat} {bs : Bytes} (h : ofSextets ns = some bs) :
    4 * bs.length ≤ 3 * ns.length := by
  induction ns using ofSextets.induct generalizing bs with
  | case1 a b c d rest ih =>
    obtain ⟨bs', hrest, rfl⟩ := Option.map_eq_some_iff.1 h
    have hle := ih hrest
    simp only [List.length_cons]
    omega
  | case2 a b c hc =>
    rw [ofSextets, if_pos hc] at h
    cases h
    simp
  | case3 a b c hc =>
    rw [ofSextets, if_neg hc] at h
    cases h
  | case4 a b hb =>
    rw [ofSextets, if_pos hb] at h
    cases h
    simp
  | case5 a b hb =>
    rw [ofSextets, if_neg hb] at h
    cases h
  | case6 a => cases h
  | case7 =>
    cases h
    exact Nat.le_refl 0

/-! ### Alphabets -/

/-- 64 symbols, none of which is the padding. -/
structure Base64Alphabet where
  symbols : Text
  length : symbols.length = 64
  nodup : symbols.Nodup
  padding : '=' ∉ symbols

namespace Base64Alphabet

variable (alphabet : Base64Alphabet)

def symbol (n : Nat) : Char := alphabet.symbols.getD n '='

def value (c : Char) : Option Nat := alphabet.symbols.idxOf? c

/-- The padding that completes a last group. -/
def padTo (padded : Bool) (len : Nat) : Text :=
  if padded then List.replicate ((4 - len % 4) % 4) '=' else []

def encode (padded : Bool) (bs : Bytes) : Text :=
  (sextets bs).map alphabet.symbol ++ padTo padded (sextets bs).length

/-- Nothing but padding may follow the symbols. -/
def decode (s : Text) : Option Bytes :=
  let padding := s.dropWhile (· != '=')
  if padding.length ≤ 2 ∧ padding.all (· == '=') then
    ((s.takeWhile (· != '=')).mapM alphabet.value).bind ofSextets
  else none

theorem symbol_mem {n : Nat} (h : n < 64) : alphabet.symbol n ∈ alphabet.symbols := by
  have hlen : n < alphabet.symbols.length := by
    rw [alphabet.length]
    exact h
  rw [symbol, List.getD_eq_getElem _ _ hlen]
  exact List.getElem_mem hlen

theorem value_symbol {n : Nat} (h : n < 64) : alphabet.value (alphabet.symbol n) = some n := by
  have hlen : n < alphabet.symbols.length := by
    rw [alphabet.length]
    exact h
  rw [value, symbol, List.getD_eq_getElem _ _ hlen, List.idxOf?_eq_some_iff]
  refine ⟨hlen, rfl, fun j hj heq => ?_⟩
  have hsame := alphabet.nodup.getElem_inj_iff.1 heq
  omega

theorem mapM_value {ns : List Nat} (h : ∀ n ∈ ns, n < 64) :
    (ns.map alphabet.symbol).mapM alphabet.value = some ns := by
  rw [mapM_eq_some_iff, List.forall₂_map_left_iff, List.forall₂_same]
  exact fun n hn => alphabet.value_symbol (h n hn)

theorem padTo_all (padded : Bool) (len : Nat) : ∀ c ∈ padTo padded len, c = '=' := by
  intro c hc
  unfold padTo at hc
  split at hc
  · exact List.eq_of_mem_replicate hc
  · cases hc

/-- No group of sextets has only one. -/
theorem sextets_length (bs : Bytes) : (sextets bs).length % 4 ≠ 1 := by
  induction bs using sextets.induct with
  | case1 a b c rest ih =>
    simp only [sextets, List.length_cons]
    omega
  | case2 a b => simp [sextets]
  | case3 a => simp [sextets]
  | case4 => decide

theorem padTo_length (padded : Bool) (bs : Bytes) :
    (padTo padded (sextets bs).length).length ≤ 2 := by
  have hgroups := sextets_length bs
  unfold padTo
  split
  · rw [List.length_replicate]
    omega
  · exact Nat.zero_le 2

theorem decode_encode (padded : Bool) (bs : Bytes) :
    alphabet.decode (alphabet.encode padded bs) = some bs := by
  have hlt : ∀ n ∈ sextets bs, n < 64 := fun n => lt_of_mem_sextets
  -- no symbol is the padding, so the two come apart again
  have hsymbols : ∀ c ∈ (sextets bs).map alphabet.symbol, (c != '=') = true := by
    intro c hc
    obtain ⟨n, hn, rfl⟩ := List.mem_map.1 hc
    exact bne_iff_ne.2 fun heq => alphabet.padding (heq ▸ alphabet.symbol_mem (hlt n hn))
  have hpad := padTo_all padded (sextets bs).length
  have hdropPad : (padTo padded (sextets bs).length).dropWhile (· != '=') =
      padTo padded (sextets bs).length := by
    cases hp : padTo padded (sextets bs).length with
    | nil => rfl
    | cons c rest =>
      rw [hpad c (hp ▸ List.mem_cons_self)]
      exact List.dropWhile_cons_of_neg (by decide)
  have htakePad : (padTo padded (sextets bs).length).takeWhile (· != '=') = [] := by
    cases hp : padTo padded (sextets bs).length with
    | nil => rfl
    | cons c rest =>
      rw [hpad c (hp ▸ List.mem_cons_self)]
      exact List.takeWhile_cons_of_neg (by decide)
  have hdrop : (alphabet.encode padded bs).dropWhile (· != '=') =
      padTo padded (sextets bs).length := by
    rw [encode, List.dropWhile_append_of_pos hsymbols, hdropPad]
  have htake : (alphabet.encode padded bs).takeWhile (· != '=') =
      (sextets bs).map alphabet.symbol := by
    rw [encode, List.takeWhile_append_of_pos hsymbols, htakePad, List.append_nil]
  have hall : (padTo padded (sextets bs).length).all (· == '=') = true :=
    List.all_eq_true.2 fun c hc => beq_iff_eq.2 (hpad c hc)
  rw [decode, hdrop, htake, if_pos ⟨padTo_length padded bs, hall⟩, alphabet.mapM_value hlt,
    Option.bind_some, ofSextets_sextets]

theorem mem_of_value {c : Char} {n : Nat} (h : alphabet.value c = some n) : c ∈ alphabet.symbols := by
  obtain ⟨hn, hc, -⟩ := List.idxOf?_eq_some_iff.1 h
  exact hc ▸ List.getElem_mem hn

/-- What can be decoded is made of symbols and padding, and longer than what it stands for. -/
theorem decode_some {s : Text} {bs : Bytes} (h : alphabet.decode s = some bs) :
    (∀ c ∈ s, c ∈ alphabet.symbols ∨ c = '=') ∧ 4 * bs.length ≤ 3 * s.length := by
  unfold decode at h
  dsimp only at h
  split at h
  · next hpad =>
    obtain ⟨ns, hns, hbs⟩ := Option.bind_eq_some_iff.1 h
    have hvalues := mapM_eq_some_iff.1 hns
    constructor
    · intro c hc
      rw [← List.takeWhile_append_dropWhile (p := (· != '=')) (l := s)] at hc
      obtain hc | hc := List.mem_append.1 hc
      · obtain ⟨n, hn⟩ := exists_forall₂_iff.1 ⟨ns, hvalues⟩ c hc
        exact .inl (alphabet.mem_of_value hn)
      · exact .inr (beq_iff_eq.1 (List.all_eq_true.1 hpad.2 c hc))
    · have hlen := ofSextets_length hbs
      rw [← hvalues.length_eq] at hlen
      have htake := (List.takeWhile_sublist (l := s) (· != '=')).length_le
      omega
  · cases h

def engine (padded : Bool) {isSymbol : Char → Bool}
    (hsymbols : ∀ c ∈ alphabet.symbols, isSymbol c = true)
    (hpadding : padded = true → isSymbol '=' = true) : Base64Engine isSymbol where
  encode := alphabet.encode padded
  decode := alphabet.decode
  encode_nil := by cases padded <;> rfl
  encode_symbols bs c hc := by
    obtain hc | hc := List.mem_append.1 hc
    · obtain ⟨n, hn, rfl⟩ := List.mem_map.1 hc
      exact hsymbols _ (alphabet.symbol_mem (lt_of_mem_sextets hn))
    · cases padded with
      | true => exact padTo_all true _ c hc ▸ hpadding rfl
      | false => cases hc
  decode_encode := alphabet.decode_encode padded

/-- `base64::alphabet::STANDARD`. -/
def standard : Base64Alphabet where
  symbols := "ABCDEFGHIJKLMNOPQRSTUVWXYZabcdefghijklmnopqrstuvwxyz0123456789+/".toList
  length := by decide
  nodup := by decide +kernel
  padding := by decide +kernel

/-- `base64::alphabet::URL_SAFE`. -/
def urlSafe : Base64Alphabet where
  symbols := "ABCDEFGHIJKLMNOPQRSTUVWXYZabcdefghijklmnopqrstuvwxyz0123456789-_".toList
  length := by decide
  nodup := by decide +kernel
  padding := by decide +kernel

example : String.ofList (standard.encode true [0x4d, 0x61]) = "TWE=" := by decide +kernel

end Base64Alphabet

end Shadowsocks.Lib
