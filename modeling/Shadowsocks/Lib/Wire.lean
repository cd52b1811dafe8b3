import Mathlib.Data.List.Basic
import Mathlib.Algebra.Order.Ring.Nat

/-! # Byte strings and big-endian integers

Byte strings are lists of bytes.  `bigEndian w n` is the `w`-byte big-endian
form of `n` (higher bytes are dropped, as an `as u16` cast does) and
`fromBigEndian` reads such a form back.
-/

namespace Shadowsocks.Lib

abbrev Bytes := List UInt8

/-- The low `w` bytes of `n`, most significant byte first. -/
def bigEndian : Nat → Nat → Bytes
  | 0, _ => []
  | w + 1, n => UInt8.ofNat (n / 256 ^ w) :: bigEndian w n

/-- The number that a big-endian byte string spells. -/
def fromBigEndian : Bytes → Nat
  | [] => 0
  | b :: bs => b.toNat * 256 ^ bs.length + fromBigEndian bs

@[simp] theorem bigEndian_length (w n : Nat) : (bigEndian w n).length = w := by
  induction w with
  | zero => rfl
  | succ w ih => simp [bigEndian, ih]

/-- Reading back keeps what fits into the width. -/
theorem fromBigEndian_bigEndian (w n : Nat) : fromBigEndian (bigEndian w n) = n % 256 ^ w := by
  induction w with
  | zero => simp [bigEndian, fromBigEndian, Nat.mod_one]
  | succ w ih =>
    have digit : (UInt8.ofNat (n / 256 ^ w)).toNat = n / 256 ^ w % 256 := by simp
    simp only [bigEndian, fromBigEndian, bigEndian_length, ih, digit]
    rw [Nat.mod_pow_succ, Nat.mul_comm, Nat.add_comm]

theorem fromBigEndian_bigEndian_of_lt {w n : Nat} (h : n < 256 ^ w) :
    fromBigEndian (bigEndian w n) = n := by
  rw [fromBigEndian_bigEndian, Nat.mod_eq_of_lt h]

theorem fromBigEndian_lt (bs : Bytes) : fromBigEndian bs < 256 ^ bs.length := by
  induction bs with
  | nil => simp [fromBigEndian]
  | cons b bs ih =>
    have hb : b.toNat < 256 := b.toNat_lt
    have hmul : b.toNat * 256 ^ bs.length ≤ 255 * 256 ^ bs.length :=
      Nat.mul_le_mul_right _ (by omega)
    simp only [fromBigEndian, List.length_cons, Nat.pow_succ]
    omega

end Shadowsocks.Lib
