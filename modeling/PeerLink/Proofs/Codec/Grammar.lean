import Mathlib.Data.List.Forall2
import PeerLink.Codec.Tag
import PeerLink.Message.Item
import PeerLink.Proofs.Codec.Words

/-! # The grammar of messages

Which byte strings stand for which values, said without a reader or a writer.

* `Grammar.number`, `Grammar.signedNumber`: the numbers that bytes denote, most significant first.
* `Grammar.LengthForm`: one byte below 128, or a marked count of one to four bytes; leading zeros
  are allowed.
* `Grammar.ElementForm`: a tag, the length of the content in any form, the content.
* `Grammar.Content`, `Grammar.ValueForm`: the contents and the elements that denote a value.
* `Grammar.SequenceForm`: a sequence of one element for each member of a list.
* `Grammar.MessageForm`: one sequence of exactly three, for the types, the keys and the values.
-/

namespace PeerLink.Grammar
set_option autoImplicit false

/-! ## Numbers -/

/-- The number of a byte string in positional notation. -/
def number : Bytes → Nat
  | [] => 0
  | b :: rest => b.toNat * 256 ^ rest.length + number rest

/-- The number of a byte string in two's complement: of those that agree with `number` modulo the
power of 256 that the bytes span, the one in the half-open range around zero. -/
def signedNumber (bs : Bytes) : Int := Int.bmod (number bs) (256 ^ bs.length)

theorem number_eq_toNat (bs : Bytes) : number bs = Bytes.toNat bs := by
  induction bs with
  | nil => rfl
  | cons b rest ih => rw [number, ih, Bytes.toNat_cons]

theorem number_lt (bs : Bytes) : number bs < 256 ^ bs.length := by
  rw [number_eq_toNat]
  exact Bytes.toNat_lt bs

/-- The sign bit of the first byte decides which of the two candidates `signedNumber` is. -/
theorem signedNumber_cons (b : UInt8) (rest : Bytes) :
    signedNumber (b :: rest) =
      if b.toNat < 128 then (number (b :: rest) : Int)
      else (number (b :: rest) : Int) - 256 ^ (rest.length + 1) := by
  have hlt := number_lt (b :: rest)
  have hrest := number_lt rest
  have hhalf : 2 * (128 * 256 ^ rest.length) = 256 ^ (rest.length + 1) := by
    rw [Nat.pow_succ]; ring
  rw [List.length_cons] at hlt
  have hmod : ((number (b :: rest) : Nat) : Int) % ((256 ^ (rest.length + 1) : Nat) : Int) =
      number (b :: rest) := Int.emod_eq_of_lt (by omega) (by exact_mod_cast hlt)
  rw [signedNumber, Int.bmod, List.length_cons, hmod]
  by_cases hb : b.toNat < 128
  · have hmul : b.toNat * 256 ^ rest.length ≤ 127 * 256 ^ rest.length :=
      Nat.mul_le_mul_right _ (by omega)
    have hnum : number (b :: rest) < 128 * 256 ^ rest.length := by rw [number]; omega
    rw [if_pos hb, if_pos (by omega)]
  · have hmul : 128 * 256 ^ rest.length ≤ b.toNat * 256 ^ rest.length :=
      Nat.mul_le_mul_right _ (by omega)
    have hnum : 128 * 256 ^ rest.length ≤ number (b :: rest) := by rw [number]; omega
    rw [if_neg hb, if_neg (by omega)]
    push_cast
    rfl

theorem signedNumber_bounds (bs : Bytes) (h : bs.length ≤ 8) :
    -2 ^ 63 ≤ signedNumber bs ∧ signedNumber bs < 2 ^ 63 := by
  cases bs with
  | nil => decide
  | cons b rest =>
    have hpow : (256 : Nat) ^ ((b :: rest).length) ≤ 256 ^ 8 := Nat.pow_le_pow_right (by decide) h
    have hpos : 0 < 256 ^ (b :: rest).length := Nat.pow_pos (by decide)
    have hle := Int.le_bmod (x := (number (b :: rest) : Int)) hpos
    have hlt := Int.bmod_lt (x := (number (b :: rest) : Int)) hpos
    rw [signedNumber]
    omega

/-- Eight bytes are not more than the register has room for, so no byte is lost and the sign that
it was filled with comes to stand in front of them. -/
theorem toInt_ofContent {bs : Bytes} (h : bs.length ≤ 8) :
    (Integer.ofContent bs).toInt = signedNumber bs := by
  cases bs with
  | nil => rfl
  | cons b rest =>
    have hfill : (Integer.signFill (b :: rest)).toInt = if b.toNat < 128 then 0 else -1 := by
      rw [Integer.signFill, bne]
      by_cases hb : b.toNat < 128
      · rw [if_pos hb, (Bytes.high_bit_clear_iff b).mpr hb]
        rfl
      · rw [if_neg hb, Bool.eq_false_iff.mpr (mt (Bytes.high_bit_clear_iff b).mp hb)]
        rfl
    have hnumber : (Integer.signFill (b :: rest)).toInt * 256 ^ (b :: rest).length +
        (Bytes.toNat (b :: rest) : Int) = signedNumber (b :: rest) := by
      rw [hfill, signedNumber_cons, number_eq_toNat, List.length_cons]
      split <;> ring
    have hbounds := signedNumber_bounds (b :: rest) h
    rw [Integer.ofContent, Integer.toInt_foldl_shiftIn, hnumber]
    exact Int.bmod_eq_of_le (by omega) (by omega)

/-! ## Lengths and elements -/

/-- The forms of a length. -/
inductive LengthForm : Nat → Bytes → Prop where
  /-- One byte. -/
  | short (n : Nat) (small : n < 128) : LengthForm n [UInt8.ofNat n]
  /-- A count, marked by the high bit, and that many bytes. -/
  | long (digits : Bytes) (some_digit : 1 ≤ digits.length) (few_digits : digits.length ≤ 4) :
    LengthForm (number digits) (UInt8.ofNat (128 + digits.length) :: digits)

theorem LengthForm.one_le {n : ℕ} {form : Bytes} (h : LengthForm n form) : 1 ≤ form.length := by
  cases h <;> simp

/-- An element: a tag, the length of the content, the content. -/
def ElementForm (tag : UInt8) (content form : Bytes) : Prop :=
  ∃ length, LengthForm content.length length ∧ form = tag :: (length ++ content)

theorem ElementForm.exists_header {tag : UInt8} {content form : Bytes}
    (h : ElementForm tag content form) : ∃ header, 2 ≤ header.length ∧ form = header ++ content := by
  obtain ⟨length, hlength, rfl⟩ := h
  have hone := hlength.one_le
  refine ⟨tag :: length, ?_, rfl⟩
  rw [List.length_cons]
  omega

theorem ElementForm.ne_nil {tag : UInt8} {content form : Bytes} (h : ElementForm tag content form) :
    form ≠ [] := by
  obtain ⟨_, _, rfl⟩ := h
  exact List.cons_ne_nil _ _

/-! ## Values -/

/-- The tag of a value's elements. -/
def tag : Value → UInt8
  | .integer _ => Tag.integer
  | .boolean _ => Tag.boolean
  | .real _ => Tag.real
  | .string _ => Tag.text
  | .binary _ => Tag.octets

/-- The contents that denote a value. -/
inductive Content : Value → Bytes → Prop where
  /-- One to eight bytes in two's complement. -/
  | integer (v : Int64) (bs : Bytes) (some_byte : 1 ≤ bs.length) (few_bytes : bs.length ≤ 8)
    (denotes : v.toInt = signedNumber bs) : Content (.integer v) bs
  /-- One byte, zero for false. -/
  | boolean (b : UInt8) : Content (.boolean (b != 0)) [b]
  /-- Nothing, for the zero without a sign. -/
  | zero : Content (.real Binary64.zero) []
  /-- A header and the eight bytes of the bit pattern. -/
  | pattern (bits : UInt64) (bs : Bytes) (eight : bs.length = 8)
    (denotes : bits.toNat = number bs) : Content (.real ⟨bits⟩) (0x03 :: bs)
  /-- The UTF-8 form of the text. -/
  | string (s : String) : Content (.string s) (Utf8.encode s)
  /-- The bytes themselves. -/
  | binary (bs : Bytes) : Content (.binary bs) bs

/-- The elements that denote a value. -/
def ValueForm (v : Value) (form : Bytes) : Prop :=
  ∃ content, Content v content ∧ ElementForm (tag v) content form

theorem ValueForm.ne_nil {v : Value} {form : Bytes} (h : ValueForm v form) : form ≠ [] := by
  obtain ⟨_, _, helement⟩ := h
  exact helement.ne_nil

/-! ## Messages -/

/-- A sequence of one element for each member of a list. -/
def SequenceForm {α : Type} (part : α → Bytes → Prop) (xs : List α) (form : Bytes) : Prop :=
  ∃ parts, List.Forall₂ part xs parts ∧ ElementForm Tag.sequence parts.flatten form

/-- The type of an item: its code, from zero to four. -/
def ItemTypeForm (i : Item) (form : Bytes) : Prop :=
  (0 ≤ i.type.code.toInt ∧ i.type.code.toInt ≤ 4) ∧ ValueForm (.integer i.type.code) form

/-- The key of an item. -/
def ItemKeyForm (i : Item) (form : Bytes) : Prop := ValueForm (.string i.key) form

/-- The value of an item, which is of the item's type. -/
def ItemValueForm (i : Item) (form : Bytes) : Prop := i.value.type = i.type ∧ ValueForm i.value form

/-- A message: one sequence whose content is three, of the types, the keys and the values. -/
def MessageForm (items : List Item) (form : Bytes) : Prop :=
  ∃ types keys values, SequenceForm ItemTypeForm items types ∧ SequenceForm ItemKeyForm items keys ∧
    SequenceForm ItemValueForm items values ∧
    ElementForm Tag.sequence (types ++ (keys ++ values)) form

end PeerLink.Grammar
