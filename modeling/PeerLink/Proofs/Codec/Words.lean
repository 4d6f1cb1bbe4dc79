import Mathlib.Tactic.Ring
import PeerLink.Codec.Integer
import PeerLink.Codec.Length
import PeerLink.Proofs.Bytes.BigEndian

/-! # Words in the codec

An integer is read by shifting its bytes into a register of 64 bits, and a long length is written
from a word of 32 bits whose leading zeros say where its digits begin. Both in numbers:

* `Integer.toInt_foldl_shiftIn`: the register after any bytes, up to a multiple of `2 ^ 64`.
* `Length.drop_zeroBytes`: all zero bytes at the front of a word are left out, and nothing else.
-/

namespace PeerLink
set_option autoImplicit false

/-! ## Registers -/

namespace Integer

/-- What is shifted out leaves room for exactly one byte, so the two parts are added without a
carry. -/
theorem toNat_shiftIn (register : Int64) (b : UInt8) :
    (shiftIn register b).toBitVec.toNat = (register.toBitVec.toNat * 256 + b.toNat) % 2 ^ 64 := by
  have hbyte := b.toNat_lt
  have hwidth : ((8 : Int64).toBitVec.smod 64).toNat = 8 := by decide
  have hkept : register.toBitVec.toNat * 256 % 2 ^ 64 =
      (register.toBitVec.toNat % 2 ^ 56) <<< 8 := by
    rw [Nat.shiftLeft_eq]
    omega
  have hlow : b.toUInt64.toInt64.toBitVec.toNat = b.toNat := UInt8.toNat_toUInt64 b
  rw [shiftIn, Int64.toBitVec_or, Int64.toBitVec_shiftLeft, BitVec.toNat_or, BitVec.shiftLeft_eq',
    BitVec.toNat_shiftLeft, hwidth, Nat.shiftLeft_eq, hkept, hlow,
    ← Nat.shiftLeft_add_eq_or_of_lt hbyte, Nat.shiftLeft_eq]
  omega

theorem toInt_shiftIn (register : Int64) (b : UInt8) :
    (shiftIn register b).toInt = Int.bmod (register.toInt * 256 + b.toNat) (2 ^ 64) := by
  have hword : ∀ v : Int64, v.toInt = Int.bmod v.toBitVec.toNat (2 ^ 64) := fun v =>
    BitVec.toInt_eq_toNat_bmod v.toBitVec
  rw [hword, hword, toNat_shiftIn]
  push_cast
  rw [← Int.bmod_add_bmod, Int.bmod_mul_bmod, Int.bmod_add_bmod]
  exact Int.emod_bmod _ _

theorem toInt_foldl_shiftIn (bs : Bytes) (register : Int64) :
    (bs.foldl shiftIn register).toInt =
      Int.bmod (register.toInt * 256 ^ bs.length + Bytes.toNat bs) (2 ^ 64) := by
  induction bs generalizing register with
  | nil =>
    rw [List.foldl_nil, List.length_nil, pow_zero, mul_one, Bytes.toNat_nil, Nat.cast_zero,
      add_zero]
    exact (Int64.toInt_bmod register).symm
  | cons b bs ih =>
    have hnumber : (register.toInt * 256 + b.toNat) * 256 ^ bs.length + (Bytes.toNat bs : Int) =
        register.toInt * 256 ^ (bs.length + 1) + Bytes.toNat (b :: bs) := by
      rw [Bytes.toNat_cons]
      push_cast
      ring
    rw [List.foldl_cons, ih, toInt_shiftIn, ← Int.bmod_add_bmod, Int.bmod_mul_bmod,
      Int.bmod_add_bmod, hnumber, List.length_cons]

end Integer

/-! ## Leading zeros -/

namespace Length

theorem drop_zeroBytes (w : UInt32) :
    (Bytes.bigEndian32 w).drop (zeroBytes w) = (Bytes.bigEndian32 w).dropWhile (· == 0) := by
  have hall : w.toBitVec.clz.toNat ≤ 32 := BitVec.le_def.mp (BitVec.clz_le (x := w.toBitVec))
  have hhigh : w.toNat < 2 ^ (32 - w.toBitVec.clz.toNat) := BitVec.toNat_lt_two_pow_sub_clz
  have hlow : w.toBitVec.clz.toNat < 32 → 2 ^ (31 - w.toBitVec.clz.toNat) ≤ w.toNat := by
    intro hfew
    have hne : w.toBitVec ≠ 0#32 := BitVec.clz_lt_iff_ne_zero.mp (BitVec.lt_def.mpr hfew)
    exact BitVec.two_pow_sub_clz_le_toNat_of_ne_zero (by decide) hne
  rw [zeroBytes]
  generalize w.toBitVec.clz.toNat = zeros at hall hhigh hlow ⊢
  -- the leading bit stands in the byte behind the zero bytes
  refine (Bytes.dropWhile_zero_eq_drop ?_ ?_ ?_).symm
  · rw [Bytes.length_bigEndian32]
    omega
  · rw [Bytes.length_bigEndian32, Bytes.toNat_bigEndian32]
    intro hsome
    calc 256 ^ (4 - zeros / 8 - 1) = 2 ^ (8 * (4 - zeros / 8 - 1)) := by rw [Nat.pow_mul]
      _ ≤ 2 ^ (31 - zeros) := Nat.pow_le_pow_right (by decide) (by omega)
      _ ≤ w.toNat := hlow (by omega)
  · rw [Bytes.length_bigEndian32, Bytes.toNat_bigEndian32]
    calc w.toNat < 2 ^ (32 - zeros) := hhigh
      _ ≤ 2 ^ (8 * (4 - zeros / 8)) := Nat.pow_le_pow_right (by decide) (by omega)
      _ = 256 ^ (4 - zeros / 8) := by rw [Nat.pow_mul]

end Length

end PeerLink
