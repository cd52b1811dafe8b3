import Shadowsocks.Lib.Text

/-! # Percent encoding

A codec writes a text in ASCII letters, digits and percent signs.  `percentCodec` is the one of the
URL standard for the set of all that is not alphanumeric: a byte of such a character becomes a
percent sign and two digits.
-/

namespace Shadowsocks.Lib

/-- A text of ASCII letters and digits. -/
def Alphanumeric (s : Text) : Prop := ∀ c ∈ s, c.isAlphanum = true

instance (s : Text) : Decidable (Alphanumeric s) :=
  decidable_of_iff (s.all Char.isAlphanum = true) List.all_eq_true

def isEncoded (c : Char) : Bool := c.isAlphanum || c == '%'

/-- What is relied on of `utf8_percent_encode` with `NON_ALPHANUMERIC` and of
    `percent_decode_str` with `decode_utf8`. -/
structure PercentCodec where
  encode : Text → Text
  decode : Text → Option Text
  encode_encoded : ∀ s, ∀ c ∈ encode s, isEncoded c = true
  encode_eq_self_iff : ∀ s, encode s = s ↔ Alphanumeric s
  decode_encode : ∀ s, decode (encode s) = some s
  decode_ascii : ∀ s, (∀ c ∈ s, c.toNat < 128 ∧ c ≠ '%') → decode s = some s

/-! ### Bytes -/

def isAlphanumByte (b : UInt8) : Bool := (Char.ofNat b.toNat).isAlphanum

/-- A digit in upper case. -/
def hexDigit (n : Nat) : Char := "0123456789ABCDEF".toList.getD n '0'

def percentByte (b : UInt8) : Text :=
  if isAlphanumByte b then [Char.ofNat b.toNat]
  else ['%', hexDigit (b.toNat / 16), hexDigit (b.toNat % 16)]

/-- The value of a digit in either case. -/
def hexValue (b : UInt8) : Option Nat := digitOf 16 (Char.ofNat b.toNat)

/-- A percent sign that is followed by no two digits stands for itself. -/
def percentDecode : Bytes → Bytes
  | [] => []
  | [a] => [a]
  | [a, b] => [a, b]
  | a :: b :: c :: rest =>
    if a = 0x25 then
      match hexValue b, hexValue c with
      | some high, some low => UInt8.ofNat (high * 16 + low) :: percentDecode rest
      | _, _ => a :: percentDecode (b :: c :: rest)
    else a :: percentDecode (b :: c :: rest)

theorem percentDecode_cons {a : UInt8} (h : a ≠ 0x25) (rest : Bytes) :
    percentDecode (a :: rest) = a :: percentDecode rest := by
  cases rest with
  | nil => rfl
  | cons b rest =>
    cases rest with
    | nil => rfl
    | cons c rest => rw [percentDecode, if_neg h]

theorem hexValue_hexDigit : ∀ n < 16, hexValue (UInt8.ofNat (hexDigit n).toNat) = some n := by
  decide

theorem hexDigit_ascii : ∀ n < 16, (hexDigit n).toNat < 128 := by decide

theorem toNat_ofNat_of_lt {n : Nat} (h : n < 128) : (Char.ofNat n).toNat = n := by
  have hvalid : n.isValidChar := .inl (Nat.lt_of_lt_of_le h (by decide))
  rw [Char.ofNat, dif_pos hvalid]
  rfl

theorem byte_ascii_of_isAlphanumByte {b : UInt8} (h : isAlphanumByte b = true) : b.toNat < 128 := by
  have hlt := ascii_of_isAlphanum h
  have hb := b.toNat_lt
  have hvalid : b.toNat.isValidChar := .inl (Nat.lt_trans hb (by decide))
  have hval : (Char.ofNat b.toNat).toNat = b.toNat := by
    rw [Char.ofNat, dif_pos hvalid]
    rfl
  omega

/-- The encoding of a byte stands for it, whatever follows. -/
theorem percentDecode_percentByte (b : UInt8) (rest : Bytes) :
    percentDecode (utf8 (percentByte b) ++ rest) = b :: percentDecode rest := by
  unfold percentByte
  by_cases hb : isAlphanumByte b = true
  · have hlt := byte_ascii_of_isAlphanumByte hb
    have hpercent : b ≠ 0x25 := fun heq => by
      rw [heq] at hb
      exact absurd hb (by decide)
    have hnat := toNat_ofNat_of_lt hlt
    have hascii : (Char.ofNat b.toNat).toNat < 128 := by rwa [hnat]
    rw [if_pos hb, utf8_cons, utf8_nil, List.append_nil, utf8EncodeChar_ascii hascii, hnat,
      UInt8.ofNat_toNat]
    exact percentDecode_cons hpercent rest
  · have hlt := b.toNat_lt
    have hhigh : b.toNat / 16 < 16 := by omega
    have hlow : b.toNat % 16 < 16 := by omega
    have hsum : b.toNat / 16 * 16 + b.toNat % 16 = b.toNat := by omega
    have hsign : ('%' : Char).toNat < 128 := by decide
    rw [if_neg hb, utf8_cons, utf8_cons, utf8_cons, utf8_nil, List.append_nil,
      utf8EncodeChar_ascii hsign, utf8EncodeChar_ascii (hexDigit_ascii _ hhigh),
      utf8EncodeChar_ascii (hexDigit_ascii _ hlow)]
    simp only [List.cons_append, List.nil_append]
    rw [percentDecode, if_pos (by decide), hexValue_hexDigit _ hhigh, hexValue_hexDigit _ hlow]
    dsimp only
    rw [hsum, UInt8.ofNat_toNat]

/-! ### Texts -/

def percentEncode (s : Text) : Text := (utf8 s).flatMap percentByte

theorem percentDecode_flatMap (bs : Bytes) :
    percentDecode (utf8 (bs.flatMap percentByte)) = bs := by
  induction bs with
  | nil => rfl
  | cons b bs ih => rw [List.flatMap_cons, utf8_append, percentDecode_percentByte, ih]

theorem percentDecode_of_notMem {bs : Bytes} (h : 0x25 ∉ bs) : percentDecode bs = bs := by
  induction bs with
  | nil => rfl
  | cons b bs ih =>
    rw [percentDecode_cons (fun heq => h (heq ▸ List.mem_cons_self)),
      ih fun hmem => h (List.mem_cons_of_mem _ hmem)]

theorem percentByte_encoded (b : UInt8) : ∀ c ∈ percentByte b, isEncoded c = true := by
  have hdigit : ∀ n < 16, isEncoded (hexDigit n) = true := by decide
  have hlt := b.toNat_lt
  intro c hc
  unfold percentByte at hc
  split at hc
  · next hb =>
    rw [List.mem_singleton.1 hc, isEncoded]
    exact Bool.or_eq_true_iff.2 (.inl hb)
  · simp only [List.mem_cons, List.not_mem_nil, or_false] at hc
    obtain rfl | rfl | rfl := hc
    · decide
    · exact hdigit _ (by omega)
    · exact hdigit _ (by omega)

theorem percentByte_length (b : UInt8) : 1 ≤ (percentByte b).length := by
  unfold percentByte
  split
  · exact Nat.le_refl 1
  · exact Nat.le_add_left 1 2

/-- A character that has to be encoded takes more room than it had. -/
theorem percentEncode_char {c : Char} (h : c.isAlphanum = false) :
    1 < ((String.utf8EncodeChar c).flatMap percentByte).length := by
  by_cases hascii : c.toNat < 128
  · have hnot : isAlphanumByte (UInt8.ofNat c.toNat) = false := by
      have hnat : (UInt8.ofNat c.toNat).toNat = c.toNat := by
        rw [UInt8.toNat_ofNat', Nat.mod_eq_of_lt (by omega)]
      rw [isAlphanumByte, hnat, Char.ofNat_toNat, h]
    rw [utf8EncodeChar_ascii hascii, List.flatMap_cons, percentByte,
      if_neg (Bool.eq_false_iff.1 hnot), List.length_append]
    exact Nat.lt_add_right _ (Nat.lt_add_left 1 (Nat.lt_succ_self 1))
  · -- two bytes or more, each of which takes some room
    have htwo : 2 ≤ (String.utf8EncodeChar c).length := by
      rw [String.length_utf8EncodeChar, Char.utf8Size]
      have hval : ¬c.val ≤ 0x7f := fun hle => hascii (by
        have := UInt32.le_iff_toNat_le.1 hle
        exact Nat.lt_succ_of_le this)
      split
      · next hle => exact absurd hle hval
      · split
        · decide
        · split
          · decide
          · decide
    have hroom : ∀ bs : Bytes, bs.length ≤ (bs.flatMap percentByte).length := by
      intro bs
      induction bs with
      | nil => exact Nat.le_refl 0
      | cons b bs ih =>
        have hb := percentByte_length b
        rw [List.flatMap_cons, List.length_append, List.length_cons]
        omega
    exact Nat.lt_of_lt_of_le htwo (hroom _)

theorem percentEncode_cons (c : Char) (s : Text) :
    percentEncode (c :: s) = (String.utf8EncodeChar c).flatMap percentByte ++ percentEncode s := by
  rw [percentEncode, utf8_cons, List.flatMap_append]
  rfl

theorem percentEncode_alphanum {c : Char} (h : c.isAlphanum = true) :
    (String.utf8EncodeChar c).flatMap percentByte = [c] := by
  have hascii := ascii_of_isAlphanum h
  have hnat : (UInt8.ofNat c.toNat).toNat = c.toNat := by
    rw [UInt8.toNat_ofNat', Nat.mod_eq_of_lt (by omega)]
  have hbyte : isAlphanumByte (UInt8.ofNat c.toNat) = true := by
    rw [isAlphanumByte, hnat, Char.ofNat_toNat, h]
  rw [utf8EncodeChar_ascii hascii, List.flatMap_cons, percentByte, if_pos hbyte, hnat,
    Char.ofNat_toNat]
  rfl

theorem percentEncode_length (s : Text) : s.length ≤ (percentEncode s).length ∧
    ((percentEncode s).length = s.length → Alphanumeric s) := by
  induction s with
  | nil => exact ⟨Nat.le_refl 0, fun _ c hc => nomatch hc⟩
  | cons c s ih =>
    rw [percentEncode_cons, List.length_append, List.length_cons]
    by_cases hc : c.isAlphanum = true
    · rw [percentEncode_alphanum hc, List.length_singleton]
      refine ⟨by omega, fun heq d hd => ?_⟩
      obtain rfl | hd := List.mem_cons.1 hd
      · exact hc
      · exact ih.2 (by omega) d hd
    · have hroom := percentEncode_char (Bool.eq_false_iff.2 hc)
      exact ⟨by omega, fun heq => by omega⟩

theorem percentEncode_eq_self {s : Text} (h : Alphanumeric s) : percentEncode s = s := by
  induction s with
  | nil => rfl
  | cons c s ih =>
    rw [percentEncode_cons, percentEncode_alphanum (h c List.mem_cons_self),
      ih fun c hc => h c (List.mem_cons_of_mem _ hc)]
    rfl

def percentCodec : PercentCodec where
  encode := percentEncode
  decode s := decodeUtf8 (percentDecode (utf8 s))
  encode_encoded s c hc := by
    obtain ⟨b, -, hb⟩ := List.mem_flatMap.1 hc
    exact percentByte_encoded b c hb
  encode_eq_self_iff s :=
    ⟨fun heq => (percentEncode_length s).2 (congrArg List.length heq), percentEncode_eq_self⟩
  decode_encode s := by rw [percentEncode, percentDecode_flatMap, decodeUtf8_utf8]
  decode_ascii s h := by
    have hbytes := utf8_ascii fun c hc => (h c hc).1
    have hsign : 0x25 ∉ utf8 s := by
      rw [hbytes]
      intro hmem
      obtain ⟨c, hc, heq⟩ := List.mem_map.1 hmem
      have hnat := congrArg UInt8.toNat heq
      have hascii := (h c hc).1
      rw [UInt8.toNat_ofNat', Nat.mod_eq_of_lt (by omega)] at hnat
      refine (h c hc).2 ?_
      rw [← Char.ofNat_toNat c, hnat]
      rfl
    rw [percentDecode_of_notMem hsign, decodeUtf8_utf8]

end Shadowsocks.Lib
