import Mathlib
import Shadowsocks.Lib.Text

/-! # Letters

What becomes of characters and texts that are put in lower case: only ASCII capital letters change,
and digits of any radix stand for what they stood for.
-/

namespace Shadowsocks.Lib

/-! ## Characters -/

theorem toLower_eq_iff {c x : Char} (hx : x.isAlpha = false) : c.toLower = x ↔ c = x := by
  by_cases hc : c.isUpper = true
  · have hlower : c.toLower.isAlpha = true := by
      rw [Char.isAlpha_toLower_eq_isAlpha]
      simp [Char.isAlpha, hc]
    have hupper : c.isAlpha = true := by simp [Char.isAlpha, hc]
    constructor
    · intro h
      rw [h, hx] at hlower
      cases hlower
    · intro h
      rw [h, hx] at hupper
      cases hupper
  · rw [Char.toLower_eq_of_not_isUpper hc]

theorem isUpper_iff {c : Char} : c.isUpper = true ↔ 65 ≤ c.toNat ∧ c.toNat ≤ 90 := by
  unfold Char.isUpper Char.toNat
  rw [decide_eq_true_eq, ge_iff_le, UInt32.le_iff_toNat_le, UInt32.le_iff_toNat_le]
  rfl

theorem toNat_toLower_of_isUpper {c : Char} (h : c.isUpper = true) :
    c.toLower.toNat = c.toNat + 32 := by
  have hrange := isUpper_iff.1 h
  have hvalid : (c.toNat + 32).isValidChar := by left; omega
  rw [Char.toLower_eq_of_isUpper h, Char.toNat_ofNat, if_pos hvalid]

theorem le_iff_toNat {a b : Char} : a ≤ b ↔ a.toNat ≤ b.toNat := by
  rw [Char.le_def, UInt32.le_iff_toNat_le]
  rfl

theorem digitOf_of_isLower {c : Char} (radix : Nat) (h : 97 ≤ c.toNat ∧ c.toNat ≤ 122) :
    digitOf radix c = (some (c.toNat - 87)).filter (· < radix) := by
  have hdigit : ¬('0' ≤ c ∧ c ≤ '9') := fun hrange => by
    have hnine : c.toNat ≤ 57 := le_iff_toNat.1 hrange.2
    omega
  have hletter : 'a' ≤ c ∧ c ≤ 'z' := ⟨le_iff_toNat.2 h.1, le_iff_toNat.2 h.2⟩
  have hvalue : c.toNat - 'a'.toNat + 10 = c.toNat - 87 := by
    have ha : 'a'.toNat = 97 := rfl
    omega
  unfold digitOf
  rw [if_neg hdigit, if_pos hletter, hvalue]

theorem digitOf_of_isUpper {c : Char} (radix : Nat) (h : 65 ≤ c.toNat ∧ c.toNat ≤ 90) :
    digitOf radix c = (some (c.toNat - 55)).filter (· < radix) := by
  have hdigit : ¬('0' ≤ c ∧ c ≤ '9') := fun hrange => by
    have hnine : c.toNat ≤ 57 := le_iff_toNat.1 hrange.2
    omega
  have hsmall : ¬('a' ≤ c ∧ c ≤ 'z') := fun hrange => by
    have ha : 97 ≤ c.toNat := le_iff_toNat.1 hrange.1
    omega
  have hletter : 'A' ≤ c ∧ c ≤ 'Z' := ⟨le_iff_toNat.2 h.1, le_iff_toNat.2 h.2⟩
  have hvalue : c.toNat - 'A'.toNat + 10 = c.toNat - 55 := by
    have hA : 'A'.toNat = 65 := rfl
    omega
  unfold digitOf
  rw [if_neg hdigit, if_neg hsmall, if_pos hletter, hvalue]

theorem digitOf_toLower (radix : Nat) (c : Char) : digitOf radix c.toLower = digitOf radix c := by
  by_cases hc : c.isUpper = true
  · have hrange := isUpper_iff.1 hc
    have hlower := toNat_toLower_of_isUpper hc
    rw [digitOf_of_isUpper radix hrange, digitOf_of_isLower radix (by omega), hlower]
    rfl
  · rw [Char.toLower_eq_of_not_isUpper hc]

/-! ## Texts -/

@[simp] theorem lower_nil : lower [] = [] := rfl

@[simp] theorem lower_cons (c : Char) (t : Text) : lower (c :: t) = c.toLower :: lower t := rfl

@[simp] theorem lower_length (t : Text) : (lower t).length = t.length := List.length_map _

theorem lower_ne_nil {t : Text} : lower t ≠ [] ↔ t ≠ [] := not_congr List.map_eq_nil_iff

@[simp] theorem lower_tail (t : Text) : (lower t).tail = lower t.tail := by cases t <;> rfl

theorem lower_take (n : Nat) (t : Text) : (lower t).take n = lower (t.take n) := (List.map_take ..).symm

theorem lower_drop (n : Nat) (t : Text) : (lower t).drop n = lower (t.drop n) := (List.map_drop ..).symm

theorem lower_head?_iff {x : Char} (hx : x.isAlpha = false) (t : Text) :
    (lower t).head? = some x ↔ t.head? = some x := by
  cases t with
  | nil => simp
  | cons c t => simp [toLower_eq_iff hx]

/-- A text without letters is found in another one as it is. -/
theorem lower_eq_iff {t s : Text} (hs : s.any Char.isAlpha = false) : lower t = s ↔ t = s := by
  induction t generalizing s with
  | nil => cases s <;> simp
  | cons c t ih =>
    cases s with
    | nil => simp
    | cons x s =>
      rw [List.any_cons, Bool.or_eq_false_iff] at hs
      rw [lower_cons, List.cons.injEq, List.cons.injEq, toLower_eq_iff hs.1, ih hs.2]

theorem lower_takeWhile {p : Char → Bool} (hp : ∀ c, p c.toLower = p c) (t : Text) :
    (lower t).takeWhile p = lower (t.takeWhile p) := by
  rw [lower, List.takeWhile_map, funext (f := p ∘ Char.toLower) (g := p) hp]
  rfl

theorem lower_dropWhile {p : Char → Bool} (hp : ∀ c, p c.toLower = p c) (t : Text) :
    (lower t).dropWhile p = lower (t.dropWhile p) := by
  rw [lower, List.dropWhile_map, funext (f := p ∘ Char.toLower) (g := p) hp]
  rfl

theorem lower_append (s t : Text) : lower (s ++ t) = lower s ++ lower t := List.map_append

theorem isDigit_toLower (radix : Nat) (c : Char) : isDigit radix c.toLower = isDigit radix c := by
  rw [isDigit, digitOf_toLower, isDigit]

theorem digitsValue_lower (radix : Nat) (t : Text) :
    digitsValue radix (lower t) = digitsValue radix t := by
  unfold digitsValue lower
  rw [List.foldl_map]
  simp only [digitOf_toLower]

theorem splitOn_lower {sep : Char} (hsep : sep.isAlpha = false) (s : Text) :
    (lower s).splitOn sep = (s.splitOn sep).map lower := by
  induction s with
  | nil => simp
  | cons c s ih =>
    rw [lower_cons, List.splitOn_cons_eq_if_modifyHead, List.splitOn_cons_eq_if_modifyHead, ih]
    simp only [beq_iff_eq, toLower_eq_iff hsep]
    split
    · rfl
    · cases s.splitOn sep <;> rfl

/-- A text is not changed where it has no capital letters. -/
theorem lower_eq_self {t : Text} (h : ∀ c ∈ t, c.isUpper = false) : lower t = t := by
  refine (List.map_congr_left fun c hc => ?_).trans (List.map_id _)
  exact Char.toLower_eq_of_not_isUpper (by rw [h c hc]; exact Bool.false_ne_true)

theorem isAscii_lower (t : Text) : isAscii (lower t) = isAscii t := by
  unfold isAscii lower
  rw [List.all_map]
  refine List.all_congr rfl fun c => ?_
  by_cases hc : c.isUpper = true
  · have hrange := isUpper_iff.1 hc
    have hlower := toNat_toLower_of_isUpper hc
    simp only [Function.comp_apply, decide_eq_decide]
    omega
  · rw [Function.comp_apply, Char.toLower_eq_of_not_isUpper hc]

end Shadowsocks.Lib
