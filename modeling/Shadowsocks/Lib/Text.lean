import Mathlib.Data.List.Forall2
import Mathlib.Data.List.TakeWhile
import Shadowsocks.Lib.Wire

/-! # Texts

A text is the list of its characters.  Here are its UTF-8 form, the cuts at a separator that
`str::split` and `str::splitn` make, and numbers written in digits: `digits` of a number are read
back by `readDigits`, up to the first character that is no digit.
-/

namespace Shadowsocks.Lib

abbrev Text := List Char

/-- `make_ascii_lowercase`. -/
def lower (s : Text) : Text := s.map Char.toLower

def isAscii (s : Text) : Bool := s.all fun c => c.toNat < 128

theorem isAscii_append (s t : Text) : isAscii (s ++ t) = (isAscii s && isAscii t) := List.all_append

/-! ### White space -/

/-- `char::is_whitespace`, the characters with the property `White_Space`. -/
def isWhitespace (c : Char) : Bool :=
  let n := c.toNat
  (9 ≤ n && n ≤ 13) || n == 0x20 || n == 0x85 || n == 0xA0 || n == 0x1680 ||
    (0x2000 ≤ n && n ≤ 0x200A) || n == 0x2028 || n == 0x2029 || n == 0x202F || n == 0x205F ||
    n == 0x3000

def trimStart (s : Text) : Text := s.dropWhile isWhitespace

def trimEnd (s : Text) : Text := (s.reverse.dropWhile isWhitespace).reverse

def trim (s : Text) : Text := trimEnd (trimStart s)

theorem trimStart_append {blanks : Text} (h : blanks.all isWhitespace = true) (s : Text) :
    trimStart (blanks ++ s) = trimStart s :=
  List.dropWhile_append_of_pos (List.all_eq_true.1 h)

theorem trimEnd_append {blanks : Text} (h : blanks.all isWhitespace = true) (s : Text) :
    trimEnd (s ++ blanks) = trimEnd s := by
  have hblanks : blanks.reverse.all isWhitespace = true := by rw [List.all_reverse, h]
  unfold trimEnd
  rw [List.reverse_append, List.dropWhile_append_of_pos (List.all_eq_true.1 hblanks)]

theorem trimStart_blanks {blanks : Text} (h : blanks.all isWhitespace = true) :
    trimStart blanks = [] :=
  List.dropWhile_eq_nil_iff.2 (List.all_eq_true.1 h)

theorem trim_blanks {blanks : Text} (h : blanks.all isWhitespace = true) : trim blanks = [] := by
  rw [trim, trimStart_blanks h]
  rfl

/-- Blanks around a text make no difference to what is left of it. -/
theorem trim_pad {before after : Text} (hbefore : before.all isWhitespace = true)
    (hafter : after.all isWhitespace = true) (s : Text) :
    trim (before ++ s ++ after) = trim s := by
  rw [trim, trim, List.append_assoc, trimStart_append hbefore, trimStart, List.dropWhile_append]
  split
  · next hempty =>
    have hs : trimStart s = [] := List.isEmpty_iff.1 hempty
    have hblanks := trimStart_blanks hafter
    rw [hs, ← trimStart, hblanks]
  · exact trimEnd_append hafter _

/-- `strip_prefix`. -/
def stripPrefix (lead s : Text) : Option Text :=
  if lead <+: s then some (s.drop lead.length) else none

/-! ### UTF-8 -/

def utf8 (s : Text) : Bytes := s.flatMap String.utf8EncodeChar

/-- `String::from_utf8`. -/
def decodeUtf8 (bs : Bytes) : Option Text := bs.toByteArray.utf8Decode?.map Array.toList

@[simp] theorem decodeUtf8_utf8 (s : Text) : decodeUtf8 (utf8 s) = some s := by
  have hdecode : (utf8 s).toByteArray.utf8Decode? = some s.toArray := List.utf8Decode?_utf8Encode
  rw [decodeUtf8, hdecode]
  rfl

@[simp] theorem utf8_nil : utf8 [] = [] := rfl

@[simp] theorem utf8_cons (c : Char) (s : Text) :
    utf8 (c :: s) = String.utf8EncodeChar c ++ utf8 s := rfl

@[simp] theorem utf8_append (s t : Text) : utf8 (s ++ t) = utf8 s ++ utf8 t :=
  List.flatMap_append

theorem utf8_inj {s t : Text} : utf8 s = utf8 t ↔ s = t := by
  constructor
  · intro h
    have hdecode := congrArg decodeUtf8 h
    rw [decodeUtf8_utf8, decodeUtf8_utf8] at hdecode
    exact Option.some.inj hdecode
  · exact congrArg utf8

/-- An ASCII character is the byte of its code. -/
theorem utf8EncodeChar_ascii {c : Char} (h : c.toNat < 128) :
    String.utf8EncodeChar c = [UInt8.ofNat c.toNat] :=
  if_pos (Nat.le_of_lt_succ h)

/-- The bytes of an ASCII text are the codes of its characters. -/
theorem utf8_ascii {s : Text} (h : ∀ c ∈ s, c.toNat < 128) :
    utf8 s = s.map fun c => UInt8.ofNat c.toNat := by
  induction s with
  | nil => rfl
  | cons c s ih =>
    rw [utf8_cons, utf8EncodeChar_ascii (h c List.mem_cons_self),
      ih fun c hc => h c (List.mem_cons_of_mem _ hc)]
    rfl

/-- Only the bytes of a text are decoded to it. -/
theorem utf8_of_decodeUtf8 {bs : Bytes} {t : Text} (h : decodeUtf8 bs = some t) : utf8 t = bs := by
  unfold decodeUtf8 at h
  obtain ⟨chars, hchars, rfl⟩ := Option.map_eq_some_iff.1 h
  have hsome : bs.toByteArray.utf8Decode?.isSome = true := by
    rw [hchars]
    rfl
  have hencode : (bs.toByteArray.utf8Decode?.get hsome).toList.utf8Encode = bs.toByteArray :=
    ByteArray.utf8Encode_get_utf8Decode?
  simp only [hchars, Option.get_some] at hencode
  exact List.toByteArray_inj.1 hencode

/-- A character takes a byte at least. -/
theorem length_le_length_utf8 (s : Text) : s.length ≤ (utf8 s).length := by
  induction s with
  | nil => exact Nat.le_refl 0
  | cons c s ih =>
    have hpos : 0 < (String.utf8EncodeChar c).length := by
      rw [String.length_utf8EncodeChar]
      exact Char.utf8Size_pos c
    rw [utf8_cons, List.length_append, List.length_cons]
    omega

/-! ### Cuts -/

/-- `splitn(2, sep)`: what stands before the first separator, and what after it if there is one. -/
def splitOnce (sep : Char) (s : Text) : Text × Option Text :=
  match s.dropWhile (· != sep) with
  | [] => (s, none)
  | _ :: rest => (s.takeWhile (· != sep), some rest)

theorem dropWhile_ne_of_notMem {sep : Char} {s : Text} (h : sep ∉ s) :
    s.dropWhile (· != sep) = [] := by
  rw [List.dropWhile_eq_nil_iff]
  intro c hc
  exact bne_iff_ne.2 fun heq => h (heq ▸ hc)

theorem splitOnce_of_notMem {sep : Char} {s : Text} (h : sep ∉ s) : splitOnce sep s = (s, none) := by
  rw [splitOnce, dropWhile_ne_of_notMem h]

@[simp] theorem splitOnce_append {sep : Char} {s : Text} (h : sep ∉ s) (t : Text) :
    splitOnce sep (s ++ sep :: t) = (s, some t) := by
  have hall : ∀ c ∈ s, (c != sep) = true := fun c hc => bne_iff_ne.2 fun heq => h (heq ▸ hc)
  have hsep : ¬(sep != sep) = true := by simp
  have hdrop : (s ++ sep :: t).dropWhile (· != sep) = sep :: t := by
    rw [List.dropWhile_append_of_pos hall]
    exact List.dropWhile_cons_of_neg hsep
  have htake : (s ++ sep :: t).takeWhile (· != sep) = s := by
    have hnone : (sep :: t).takeWhile (· != sep) = [] := List.takeWhile_cons_of_neg hsep
    rw [List.takeWhile_append_of_pos hall, hnone, List.append_nil]
  rw [splitOnce, hdrop, htake]

theorem splitOnce_fst_length (sep : Char) (s : Text) : (splitOnce sep s).1.length ≤ s.length := by
  unfold splitOnce
  split
  · exact Nat.le_refl _
  · exact (List.takeWhile_sublist _).length_le

theorem splitOnce_length {sep : Char} {s first rest : Text}
    (h : splitOnce sep s = (first, some rest)) : first.length + 1 + rest.length = s.length := by
  unfold splitOnce at h
  split at h
  · cases h
  · next c tail hdrop =>
    cases h
    have hparts := congrArg List.length (List.takeWhile_append_dropWhile (p := (· != sep)) (l := s))
    rw [hdrop, List.length_append, List.length_cons] at hparts
    omega

/-- Every piece is turned into what it stands for. -/
theorem mapM_eq_some_iff {α β : Type} {f : α → Option β} {l : List α} {bs : List β} :
    l.mapM f = some bs ↔ List.Forall₂ (fun a b => f a = some b) l bs := by
  induction l generalizing bs with
  | nil =>
    rw [List.mapM_nil, List.forall₂_nil_left_iff]
    exact ⟨fun h => (Option.some.inj h).symm, fun h => congrArg some h.symm⟩
  | cons a l ih =>
    rw [List.mapM_cons, List.forall₂_cons_left_iff]
    constructor
    · intro h
      obtain ⟨b, hb, h⟩ := Option.bind_eq_some_iff.1 h
      obtain ⟨rest, hrest, h⟩ := Option.bind_eq_some_iff.1 h
      exact ⟨b, rest, hb, ih.1 hrest, (Option.some.inj h).symm⟩
    · rintro ⟨b, rest, hb, hrest, rfl⟩
      rw [hb, ih.2 hrest]
      rfl

theorem exists_forall₂_iff {α β : Type} {R : α → β → Prop} {l : List α} :
    (∃ bs, List.Forall₂ R l bs) ↔ ∀ a ∈ l, ∃ b, R a b := by
  induction l with
  | nil => exact ⟨fun _ a ha => (nomatch ha), fun _ => ⟨[], .nil⟩⟩
  | cons a l ih =>
    rw [List.forall_mem_cons, ← ih]
    constructor
    · rintro ⟨bs, h⟩
      obtain ⟨b, rest, hb, hrest, -⟩ := List.forall₂_cons_left_iff.1 h
      exact ⟨⟨b, hb⟩, rest, hrest⟩
    · rintro ⟨⟨b, hb⟩, rest, hrest⟩
      exact ⟨b :: rest, .cons hb hrest⟩

/-- No piece of a text has the separator in it. -/
theorem notMem_of_mem_splitOn {sep : Char} {s piece : Text} (h : piece ∈ s.splitOn sep) :
    sep ∉ piece := by
  induction s generalizing piece with
  | nil =>
    rw [List.splitOn_nil, List.mem_singleton] at h
    exact h ▸ List.not_mem_nil
  | cons c s ih =>
    by_cases hc : c = sep
    · have hcut : (c :: s).splitOn sep = [] :: s.splitOn sep :=
        hc ▸ List.splitOn_append_cons_self_of_not_mem List.not_mem_nil s
      rw [hcut] at h
      obtain rfl | h := List.mem_cons.1 h
      · exact List.not_mem_nil
      · exact ih h
    · rw [List.splitOn_cons_eq_if_modifyHead, if_neg (by simpa using hc)] at h
      obtain ⟨first, rest, hpieces⟩ := List.exists_cons_of_ne_nil (List.splitOn_ne_nil sep s)
      rw [hpieces, List.modifyHead_cons] at h
      obtain rfl | h := List.mem_cons.1 h
      · have hfirst : sep ∉ first := ih (hpieces ▸ List.mem_cons_self)
        exact fun hmem => (List.mem_cons.1 hmem).elim (fun heq => hc heq.symm) hfirst
      · exact ih (hpieces ▸ List.mem_cons_of_mem _ h)

theorem intercalate_suffix (sep : Char) {ps qs : List Text} (hps : ps ≠ []) (hqs : qs ≠ []) :
    sep :: [sep].intercalate qs <:+ [sep].intercalate (ps ++ qs) := by
  induction ps with
  | nil => exact absurd rfl hps
  | cons p ps ih =>
    have hrest : ps ++ qs ≠ [] := List.append_ne_nil_of_right_ne_nil ps hqs
    rw [List.cons_append, List.intercalate_cons_of_ne_nil hrest]
    by_cases hnil : ps = []
    · rw [hnil, List.nil_append]
      exact ⟨p, by simp⟩
    · exact (ih hnil).trans (List.suffix_append _ _)

/-- The pieces of a text are the last ones of another one if the text itself comes last in it, behind
    a separator or alone. -/
theorem splitOn_suffix_iff {sep : Char} {s t : Text} :
    s.splitOn sep <:+ t.splitOn sep ↔ s = t ∨ sep :: s <:+ t := by
  constructor
  · rintro ⟨pieces, hpieces⟩
    have ht : [sep].intercalate (t.splitOn sep) = t := List.intercalate_splitOn sep
    rw [← hpieces] at ht
    by_cases hnil : pieces = []
    · rw [hnil, List.nil_append, List.intercalate_splitOn] at ht
      exact .inl ht
    · right
      have hsuffix := intercalate_suffix sep hnil (List.splitOn_ne_nil sep s)
      rwa [ht, List.intercalate_splitOn] at hsuffix
  · rintro (rfl | ⟨before, rfl⟩)
    · exact List.suffix_rfl
    · rw [List.splitOn_append_cons_self]
      exact List.suffix_append _ _

/-- An optional part, after the text that introduces it. -/
def after (lead : Text) : Option Text → Text
  | none => []
  | some s => lead ++ s

@[simp] theorem splitOnce_after {sep : Char} {s : Text} (h : sep ∉ s) (t : Option Text) :
    splitOnce sep (s ++ after [sep] t) = (s, t) := by
  cases t with
  | none => rw [after, List.append_nil, splitOnce_of_notMem h]
  | some t => exact splitOnce_append h t

theorem notMem_after {c : Char} {lead : Text} {t : Option Text} (hlead : c ∉ lead)
    (ht : ∀ s, t = some s → c ∉ s) : c ∉ after lead t := by
  cases t with
  | none => exact List.not_mem_nil
  | some s => exact fun hc => (List.mem_append.1 hc).elim hlead (ht s rfl)

/-! ### Numbers -/

/-- `char::to_digit`. -/
def digitOf (radix : Nat) (c : Char) : Option Nat :=
  let d :=
    if '0' ≤ c ∧ c ≤ '9' then some (c.toNat - '0'.toNat)
    else if 'a' ≤ c ∧ c ≤ 'z' then some (c.toNat - 'a'.toNat + 10)
    else if 'A' ≤ c ∧ c ≤ 'Z' then some (c.toNat - 'A'.toNat + 10)
    else none
  d.filter (· < radix)

def isDigit (radix : Nat) (c : Char) : Bool := (digitOf radix c).isSome

/-- The number that digits spell, most significant digit first. -/
def digitsValue (radix : Nat) (s : Text) : Nat :=
  s.foldl (fun n c => n * radix + (digitOf radix c).getD 0) 0

/-- A number in lower-case digits, without leading zeros. -/
def digits (radix n : Nat) : Text := Nat.toDigits radix n

theorem digitOf_digitChar {radix d : Nat} (hradix : radix ≤ 16) (hd : d < radix) :
    digitOf radix d.digitChar = some d := by
  have hall : ∀ d < 16, digitOf 16 d.digitChar = some d := by decide
  have hsome := hall d (by omega)
  unfold digitOf at hsome ⊢
  rw [Option.filter_eq_some_iff] at hsome ⊢
  exact ⟨hsome.1, decide_eq_true hd⟩

theorem isDigit_of_mem_digits {radix : Nat} (h1 : 1 < radix) (hradix : radix ≤ 16) (n : Nat) :
    ∀ c ∈ digits radix n, isDigit radix c = true := by
  induction n using Nat.strongRecOn with
  | ind n ih =>
    intro c hc
    unfold digits at hc
    rw [Nat.toDigits_eq_if h1] at hc
    by_cases hlt : n < radix
    · rw [if_pos hlt, List.mem_singleton] at hc
      rw [hc, isDigit, digitOf_digitChar hradix hlt]
      rfl
    · rw [if_neg hlt, List.mem_append, List.mem_singleton] at hc
      cases hc with
      | inl hc => exact ih (n / radix) (Nat.div_lt_self (by omega) h1) c hc
      | inr hc =>
        rw [hc, isDigit, digitOf_digitChar hradix (Nat.mod_lt n (by omega))]
        rfl

/-- Digits spell the number they were made of. -/
theorem digitsValue_digits {radix : Nat} (h1 : 1 < radix) (hradix : radix ≤ 16) (n : Nat) :
    digitsValue radix (digits radix n) = n := by
  induction n using Nat.strongRecOn with
  | ind n ih =>
    unfold digits digitsValue at *
    rw [Nat.toDigits_eq_if h1]
    by_cases hlt : n < radix
    · rw [if_pos hlt, List.foldl_cons, List.foldl_nil, digitOf_digitChar hradix hlt]
      simp
    · rw [if_neg hlt, List.foldl_append, ih (n / radix) (Nat.div_lt_self (by omega) h1),
        List.foldl_cons, List.foldl_nil, digitOf_digitChar hradix (Nat.mod_lt n (by omega)),
        Option.getD_some]
      exact Nat.div_add_mod' n radix

theorem isAlphanum_of_isDigit {radix : Nat} {c : Char} (h : isDigit radix c = true) :
    c.isAlphanum = true := by
  unfold isDigit digitOf at h
  unfold Char.isAlphanum Char.isAlpha Char.isUpper Char.isLower Char.isDigit
  dsimp only at h
  split at h
  · next hdigit =>
    have hrange : 48 ≤ c.val ∧ c.val ≤ 57 := hdigit
    simp [hrange]
  · split at h
    · next hlower =>
      have hrange : 97 ≤ c.val ∧ c.val ≤ 122 := hlower
      simp [hrange]
    · split at h
      · next hupper =>
        have hrange : 65 ≤ c.val ∧ c.val ≤ 90 := hupper
        simp [hrange]
      · cases h

theorem ascii_of_isAlphanum {c : Char} (h : c.isAlphanum = true) : c.toNat < 128 := by
  have hle : c.val ≤ 122 := by
    unfold Char.isAlphanum Char.isAlpha Char.isUpper Char.isLower Char.isDigit at h
    simp only [Bool.or_eq_true, Bool.and_eq_true, decide_eq_true_eq] at h
    obtain (⟨-, h⟩ | ⟨-, h⟩) | ⟨-, h⟩ := h
    · exact UInt32.le_trans h (by decide)
    · exact h
    · exact UInt32.le_trans h (by decide)
  have hnat : c.toNat ≤ 122 := UInt32.le_iff_toNat_le.1 hle
  omega

theorem digits_ne_nil (radix n : Nat) : digits radix n ≠ [] := Nat.toDigits_ne_nil

theorem digits_length_le {radix n k : Nat} (h1 : 1 < radix) (hk : 0 < k) (h : n < radix ^ k) :
    (digits radix n).length ≤ k :=
  (Nat.length_toDigits_le_iff h1 hk).2 h

/-- A number of several digits does not begin with a zero. -/
theorem digits_head {radix n : Nat} (h1 : 1 < radix) (hradix : radix ≤ 16)
    (hzero : (digits radix n).head? = some '0') : (digits radix n).length = 1 := by
  induction n using Nat.strongRecOn with
  | ind n ih =>
    unfold digits at *
    rw [Nat.toDigits_eq_if h1] at hzero ⊢
    by_cases hlt : n < radix
    · rw [if_pos hlt]
      rfl
    · rw [if_neg hlt, List.head?_append_of_ne_nil _ Nat.toDigits_ne_nil] at hzero
      have hshort := ih (n / radix) (Nat.div_lt_self (by omega) h1) hzero
      -- the leading digit alone is the number divided by the radix, which is not zero
      have hsmall : n / radix < radix := by
        by_contra hge
        have htwo : ¬(Nat.toDigits radix (n / radix)).length ≤ 1 := by
          rw [Nat.length_toDigits_le_iff h1 (by decide), Nat.pow_one]
          exact hge
        omega
      rw [Nat.toDigits_of_lt_base hsmall, List.head?_cons, Option.some.injEq] at hzero
      have hval := digitOf_digitChar hradix hsmall
      rw [hzero] at hval
      have hdiv : 0 < n / radix := Nat.div_pos (by omega) (by omega)
      have hnil : digitOf radix '0' = some 0 := by
        simp [digitOf, show 0 < radix by omega]
      rw [hnil] at hval
      have := Option.some.inj hval
      omega

/-- An unsigned integer's `from_str`: digits, perhaps after a plus sign. -/
def parseUnsigned (bound : Nat) (s : Text) : Option Nat :=
  let ds := if s.head? = some '+' then s.tail else s
  if ds ≠ [] ∧ ds.all (isDigit 10) ∧ digitsValue 10 ds < bound then some (digitsValue 10 ds)
  else none

theorem parseUnsigned_digits {bound n : Nat} (h : n < bound) :
    parseUnsigned bound (digits 10 n) = some n := by
  have hdigits : ∀ c ∈ digits 10 n, isDigit 10 c = true :=
    isDigit_of_mem_digits (by decide) (by decide) n
  have hplus : (digits 10 n).head? ≠ some '+' := by
    intro heq
    have hsign := hdigits '+' (List.mem_of_mem_head? heq)
    exact absurd hsign (by decide)
  have hvalue : digitsValue 10 (digits 10 n) = n := digitsValue_digits (by decide) (by decide) n
  rw [parseUnsigned, if_neg hplus,
    if_pos ⟨digits_ne_nil 10 n, List.all_eq_true.2 hdigits, by rwa [hvalue]⟩, hvalue]

end Shadowsocks.Lib
