import Mathlib.Tactic.Ring
import PeerLink.Bytes.Basic

/-! # Numbers in bytes

What `Bytes.toNat` says of concatenations and of the fixed-width words, and the two bits that
lengths and integers look at: the high bit of a byte and the seven below it.
-/

namespace PeerLink.Bytes
set_option autoImplicit false

/-! ## Positional notation -/

theorem foldl_eq_add (bs : Bytes) (n : Nat) :
    bs.foldl (fun n b => n * 256 + b.toNat) n = n * 256 ^ bs.length + toNat bs := by
  induction bs generalizing n with
  | nil => simp [toNat]
  | cons b bs ih =>
    rw [toNat, List.foldl_cons, List.foldl_cons, ih, ih (0 * 256 + b.toNat), List.length_cons,
      Nat.pow_succ]
    ring

@[simp] theorem toNat_nil : toNat [] = 0 := rfl

theorem toNat_cons (b : UInt8) (bs : Bytes) :
    toNat (b :: bs) = b.toNat * 256 ^ bs.length + toNat bs := by
  rw [toNat, List.foldl_cons, foldl_eq_add, Nat.zero_mul, Nat.zero_add]

theorem toNat_lt (bs : Bytes) : toNat bs < 256 ^ bs.length := by
  induction bs with
  | nil => simp
  | cons b bs ih =>
    have hb : b.toNat ≤ 255 := Nat.le_of_lt_succ b.toNat_lt
    have hmul : b.toNat * 256 ^ bs.length ≤ 255 * 256 ^ bs.length := Nat.mul_le_mul_right _ hb
    rw [toNat_cons, List.length_cons, Nat.pow_succ]
    omega

theorem toNat_dropWhile_zero (bs : Bytes) : toNat (bs.dropWhile (· == 0)) = toNat bs := by
  induction bs with
  | nil => rfl
  | cons b bs ih =>
    rw [List.dropWhile_cons]
    split
    · next hb =>
      have hb0 : b = 0 := by simpa using hb
      rw [ih, toNat_cons, hb0, UInt8.toNat_zero, Nat.zero_mul, Nat.zero_add]
    · rfl

/-- The number tells how many zeros stand in front. -/
theorem dropWhile_zero_eq_drop {bs : Bytes} {k : Nat} (hk : k ≤ bs.length)
    (hlow : k < bs.length → 256 ^ (bs.length - k - 1) ≤ toNat bs)
    (hhigh : toNat bs < 256 ^ (bs.length - k)) : bs.dropWhile (· == 0) = bs.drop k := by
  induction bs generalizing k with
  | nil => rw [List.dropWhile_nil, List.drop_nil]
  | cons b bs ih =>
    have hbs := toNat_lt bs
    rw [List.length_cons] at hk
    rw [toNat_cons, List.length_cons] at hlow hhigh
    cases k with
    | zero =>
      have hfirst : b ≠ 0 := by
        rintro rfl
        have hle := hlow (Nat.succ_pos _)
        rw [UInt8.toNat_zero, Nat.zero_mul, Nat.zero_add] at hle
        exact absurd hbs (Nat.not_lt.mpr hle)
      rw [List.dropWhile_cons, if_neg (by simpa using hfirst), List.drop_zero]
    | succ k =>
      have hspan : 256 ^ (bs.length - k) ≤ 256 ^ bs.length :=
        Nat.pow_le_pow_right (by decide) (Nat.sub_le _ _)
      rw [Nat.add_sub_add_right] at hlow hhigh
      have hfirst : b = 0 := by
        by_contra hne
        have hone : 1 ≤ b.toNat :=
          Nat.one_le_iff_ne_zero.mpr fun hzero => hne (UInt8.toNat_inj.mp hzero)
        have hmul := Nat.mul_le_mul_right (256 ^ bs.length) hone
        omega
      rw [hfirst, UInt8.toNat_zero, Nat.zero_mul, Nat.zero_add] at hlow hhigh
      rw [List.dropWhile_cons, if_pos (by simpa using hfirst), List.drop_succ_cons]
      exact ih (Nat.le_of_succ_le_succ hk) (fun h => hlow (Nat.succ_lt_succ h)) hhigh

/-- Byte strings of one length denote different numbers. -/
theorem eq_of_toNat_eq {as bs : Bytes} (hlength : as.length = bs.length)
    (h : toNat as = toNat bs) : as = bs := by
  induction as generalizing bs with
  | nil => exact (List.eq_nil_of_length_eq_zero hlength.symm).symm
  | cons a as ih =>
    obtain ⟨b, bs, rfl⟩ := List.exists_cons_of_length_eq_add_one hlength.symm
    rw [List.length_cons, List.length_cons, Nat.add_right_cancel_iff] at hlength
    have has := toNat_lt as
    have hbs := toNat_lt bs
    rw [toNat_cons, toNat_cons, hlength] at h
    rw [hlength] at has
    have hdiv := congrArg (· / 256 ^ bs.length) h
    have hpos : 0 < 256 ^ bs.length := Nat.pow_pos (by decide)
    simp only [Nat.mul_comm _ (256 ^ bs.length), Nat.mul_add_div hpos, Nat.div_eq_of_lt has,
      Nat.div_eq_of_lt hbs, Nat.add_zero, UInt8.toNat_inj] at hdiv
    subst hdiv
    rw [ih hlength (Nat.add_left_cancel h)]

/-! ## Words -/

@[simp] theorem length_bigEndian32 (w : UInt32) : (bigEndian32 w).length = 4 := rfl

@[simp] theorem length_bigEndian64 (w : UInt64) : (bigEndian64 w).length = 8 := rfl

theorem toNat_bigEndian32 (w : UInt32) : toNat (bigEndian32 w) = w.toNat := by
  have hw := w.toNat_lt
  simp only [bigEndian32, toNat, List.foldl_cons, List.foldl_nil, UInt32.toNat_toUInt8,
    UInt32.toNat_shiftRight, Nat.shiftRight_eq_div_pow, UInt32.reduceToNat, Nat.reduceMod,
    Nat.reducePow]
  omega

theorem toNat_bigEndian64 (w : UInt64) : toNat (bigEndian64 w) = w.toNat := by
  have hw := w.toNat_lt
  simp only [bigEndian64, toNat, List.foldl_cons, List.foldl_nil, UInt64.toNat_toUInt8,
    UInt64.toNat_shiftRight, Nat.shiftRight_eq_div_pow, UInt64.reduceToNat, Nat.reduceMod,
    Nat.reducePow]
  omega

/-! ## Words in memory order -/

@[simp] theorem length_ofWord32 (w : UInt32) : (ofWord32 w).length = 4 := rfl

@[simp] theorem length_ofWord64 (w : UInt64) : (ofWord64 w).length = 8 := rfl

theorem ofWord32_word32 {bs : Bytes} (h : 4 ≤ bs.length) : ofWord32 (word32 bs) = bs.take 4 := by
  have hlength : (bs.take 4).length = 4 := List.length_take_of_le h
  have hlt := toNat_lt (bs.take 4).reverse
  rw [List.length_reverse, hlength] at hlt
  have hword : (word32 bs).toNat = toNat (bs.take 4).reverse := UInt32.toNat_ofNat_of_lt' hlt
  refine List.reverse_inj.mp (eq_of_toNat_eq ?_ ?_)
  · rw [List.length_reverse, List.length_reverse, hlength, length_ofWord32]
  · exact (toNat_bigEndian32 (word32 bs)).trans hword

theorem ofWord64_word64 {bs : Bytes} (h : 8 ≤ bs.length) : ofWord64 (word64 bs) = bs.take 8 := by
  have hlength : (bs.take 8).length = 8 := List.length_take_of_le h
  have hlt := toNat_lt (bs.take 8).reverse
  rw [List.length_reverse, hlength] at hlt
  have hword : (word64 bs).toNat = toNat (bs.take 8).reverse := UInt64.toNat_ofNat_of_lt' hlt
  refine List.reverse_inj.mp (eq_of_toNat_eq ?_ ?_)
  · rw [List.length_reverse, List.length_reverse, hlength, length_ofWord64]
  · exact (toNat_bigEndian64 (word64 bs)).trans hword

/-! ## The high bit -/

theorem high_bit_clear_iff (b : UInt8) : (b &&& 0x80 == 0) = true ↔ b.toNat < 128 := by
  have h : ∀ i : Fin 256, ((UInt8.ofNat i &&& 0x80 == 0) = true ↔ (i : Nat) < 128) := by
    decide +kernel
  simpa using h ⟨b.toNat, b.toNat_lt⟩

theorem toNat_low_bits (b : UInt8) : (b &&& 0x7f).toNat = b.toNat % 128 := by
  rw [UInt8.toNat_and]
  exact Nat.and_two_pow_sub_one_eq_mod b.toNat 7

theorem toNat_mark (n : Nat) (hn : n < 128) : (0x80 ||| UInt8.ofNat n).toNat = 128 + n := by
  have h : ∀ i : Fin 128, (0x80 ||| UInt8.ofNat i).toNat = 128 + (i : Nat) := by
    decide +kernel
  exact h ⟨n, hn⟩

end PeerLink.Bytes
