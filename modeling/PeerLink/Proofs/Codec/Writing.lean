import PeerLink.Message.Encode
import PeerLink.Proofs.Codec.Grammar

/-! # What encoders write

* `Wire.element`, `Wire.sequence`, `Wire.value`: the bytes of an element, a sequence and a value, as
  functions of their content alone.
* `Encoder.endSequence_beginSequence`: the length that is filled in afterwards is the length of what
  was written in between.
* `Encoder.value_eq_append`, `Encoder.sequenceOf_eq_ok_iff`: an encoder appends these bytes and
  changes nothing else, unless some content is too long for its length.
* `Grammar.valueForm_value`, `Grammar.elementForm_sequence`: what is written is in the grammar.
-/

namespace PeerLink
set_option autoImplicit false

/-! ## Bytes of a content -/

namespace Wire

/-- The shortest form of a length. -/
def length (n : Nat) : Bytes := (Length.encode? n).getD []

/-- An element. -/
def element (tag : UInt8) (content : Bytes) : Bytes := tag :: (length content.length ++ content)

/-- A sequence, whose length always takes four bytes. -/
def sequence (content : Bytes) : Bytes :=
  Tag.sequence :: 0x84 :: (Bytes.bigEndian32 (UInt32.ofNat content.length) ++ content)

/-- The content of a value's element. -/
def content : Value → Bytes
  | .integer v => Integer.content v
  | .boolean v => [if v then 0xff else 0x00]
  | .real v => if v.isZero then [] else Tag.binary64 :: Bytes.bigEndian64 v.bits
  | .string v => Utf8.encode v
  | .binary v => v

/-- The element of a value. -/
def value (v : Value) : Bytes := element (Grammar.tag v) (content v)

end Wire

/-! ## Lengths -/

namespace Length

theorem encode?_of_short {n : Nat} (h : n < 128) : encode? n = some [UInt8.ofNat n] := if_pos h

theorem encode?_of_long {n : Nat} (hlong : ¬ n < 128) (h : n < 2 ^ 32) :
    encode? n = some ((0x80 ||| UInt8.ofNat
      ((Bytes.bigEndian32 (UInt32.ofNat n)).dropWhile (· == 0)).length) ::
      (Bytes.bigEndian32 (UInt32.ofNat n)).dropWhile (· == 0)) := by
  rw [← drop_zeroBytes]
  exact (if_neg hlong).trans (if_pos h)

theorem encode?_isSome {n : Nat} (h : n < 2 ^ 32) : encode? n = some (Wire.length n) := by
  by_cases hshort : n < 128
  · rw [Wire.length, encode?_of_short hshort, Option.getD_some]
  · rw [Wire.length, encode?_of_long hshort h, Option.getD_some]

theorem encode?_of_overflow {n : Nat} (h : 2 ^ 32 ≤ n) : encode? n = none :=
  (if_neg (Nat.not_lt.mpr (Nat.le_trans (by decide) h))).trans (if_neg (Nat.not_lt.mpr h))

end Length

namespace Grammar

theorem lengthForm_length {n : Nat} (h : n < 2 ^ 32) : LengthForm n (Wire.length n) := by
  by_cases hshort : n < 128
  · rw [Wire.length, Length.encode?_of_short hshort]
    exact .short n hshort
  · have hword : (UInt32.ofNat n).toNat = n := UInt32.toNat_ofNat_of_lt' h
    generalize hdigits : (Bytes.bigEndian32 (UInt32.ofNat n)).dropWhile (· == 0) = digits
    have hnumber : number digits = n := by
      rw [number_eq_toNat, ← hdigits, Bytes.toNat_dropWhile_zero, Bytes.toNat_bigEndian32, hword]
    have hfew : digits.length ≤ 4 := by
      rw [← hdigits]
      exact (List.dropWhile_sublist _).length_le
    have hsome : 1 ≤ digits.length := by
      rcases digits with _ | ⟨d, digits⟩
      · rw [number] at hnumber
        omega
      · simp
    have hmark : 0x80 ||| UInt8.ofNat digits.length = UInt8.ofNat (128 + digits.length) := by
      apply UInt8.toNat_inj.mp
      rw [Bytes.toNat_mark _ (by omega), UInt8.toNat_ofNat']
      omega
    have hform := LengthForm.long digits hsome hfew
    rw [hnumber, ← hmark] at hform
    rw [Wire.length, Length.encode?_of_long hshort h, hdigits]
    exact hform

theorem elementForm_element (tag : UInt8) {content : Bytes} (h : content.length < 2 ^ 32) :
    ElementForm tag content (Wire.element tag content) :=
  ⟨_, lengthForm_length h, rfl⟩

theorem elementForm_sequence {content : Bytes} (h : content.length < 2 ^ 32) :
    ElementForm Tag.sequence content (Wire.sequence content) := by
  have hform := LengthForm.long (Bytes.bigEndian32 (UInt32.ofNat content.length)) (by simp)
    (by simp)
  rw [number_eq_toNat, Bytes.toNat_bigEndian32, UInt32.toNat_ofNat_of_lt' h] at hform
  exact ⟨_, hform, rfl⟩

/-! ## Values -/

theorem signedNumber_dropRedundant (bs : Bytes) (h : bs ≠ []) :
    signedNumber (Integer.dropRedundant bs) = signedNumber bs ∧
      1 ≤ (Integer.dropRedundant bs).length ∧ (Integer.dropRedundant bs).length ≤ bs.length := by
  fun_induction Integer.dropRedundant bs with
  | case1 lead next rest hredundant ih =>
    obtain ⟨hsigned, hsome, hfew⟩ := ih (List.cons_ne_nil _ _)
    refine ⟨hsigned.trans ?_, hsome, by simp only [List.length_cons] at hfew ⊢; omega⟩
    rw [Bool.or_eq_true, Bool.and_eq_true, Bool.and_eq_true, bne, Bool.not_eq_true',
      ← Bool.not_eq_true] at hredundant
    have hpow : (256 : Int) ^ (rest.length + 1 + 1) = 256 * 256 ^ (rest.length + 1) := by ring
    have hnumber : number (lead :: next :: rest) =
        lead.toNat * 256 ^ (rest.length + 1) + number (next :: rest) := rfl
    rw [signedNumber_cons next rest, signedNumber_cons lead (next :: rest), hnumber,
      List.length_cons, hpow]
    rcases hredundant with ⟨hlead, hnext⟩ | ⟨hlead, hnext⟩
    · rw [Bytes.high_bit_clear_iff] at hnext
      rw [beq_iff_eq.mp hlead, if_pos hnext, if_pos (by decide), UInt8.toNat_zero, Nat.zero_mul,
        Nat.zero_add]
    · rw [Bytes.high_bit_clear_iff] at hnext
      rw [beq_iff_eq.mp hlead, if_neg hnext, if_neg (by decide),
        show (0xff : UInt8).toNat = 255 from rfl]
      push_cast
      ring
  | case2 lead next rest hkept => exact ⟨rfl, by simp, Nat.le_refl _⟩
  | case3 bs hshort => exact ⟨rfl, List.length_pos_iff.mpr h, Nat.le_refl _⟩

theorem signedNumber_bigEndian64 (v : Int64) :
    signedNumber (Bytes.bigEndian64 v.toUInt64) = v.toInt := by
  have hspan : 256 ^ (Bytes.bigEndian64 v.toUInt64).length = 2 ^ 64 := by
    rw [Bytes.length_bigEndian64]
    norm_num
  rw [signedNumber, number_eq_toNat, Bytes.toNat_bigEndian64, hspan]
  exact (BitVec.toInt_eq_toNat_bmod v.toBitVec).symm

theorem signedNumber_content (v : Int64) :
    v.toInt = signedNumber (Integer.content v) ∧
      1 ≤ (Integer.content v).length ∧ (Integer.content v).length ≤ 8 := by
  obtain ⟨hsigned, hbounds⟩ :=
    signedNumber_dropRedundant (Bytes.bigEndian64 v.toUInt64) (List.cons_ne_nil _ _)
  exact ⟨(hsigned.trans (signedNumber_bigEndian64 v)).symm, hbounds⟩

end Grammar

/-! ## Zeros -/

namespace Binary64

/-- The zero with a sign. -/
def negativeZero : Binary64 := ⟨0x8000000000000000⟩

/-- A real as a message carries it: the sign of a zero is lost. -/
def dropZeroSign (r : Binary64) : Binary64 := if r = negativeZero then zero else r

theorem isZero_iff (r : Binary64) : r.isZero = true ↔ r = zero ∨ r = negativeZero := by
  have hlow : (r.bits &&& 0x7fffffffffffffff).toNat = r.bits.toNat % 2 ^ 63 := by
    rw [UInt64.toNat_and]
    exact Nat.and_two_pow_sub_one_eq_mod r.bits.toNat 63
  have hlt := r.bits.toNat_lt
  rw [isZero, beq_iff_eq, ← UInt64.toNat_inj, hlow]
  obtain ⟨bits⟩ := r
  simp only [zero, negativeZero, mk.injEq, ← UInt64.toNat_inj, UInt64.reduceToNat] at hlt ⊢
  omega

theorem dropZeroSign_of_isZero {r : Binary64} (h : r.isZero = true) : r.dropZeroSign = zero := by
  rcases (isZero_iff r).mp h with rfl | rfl <;> rfl

theorem dropZeroSign_of_not_isZero {r : Binary64} (h : ¬ r.isZero = true) : r.dropZeroSign = r :=
  if_neg fun hr => h ((isZero_iff r).mpr (Or.inr hr))

end Binary64

/-- A value as a message carries it. -/
def Value.dropZeroSign : Value → Value
  | .real r => .real r.dropZeroSign
  | v => v

/-- An item as a message carries it. -/
def Item.dropZeroSign (i : Item) : Item := { i with value := i.value.dropZeroSign }

theorem Value.type_dropZeroSign (v : Value) : v.dropZeroSign.type = v.type := by
  cases v <;> rfl

namespace Grammar

theorem content_content (v : Value) : Content v.dropZeroSign (Wire.content v) := by
  cases v with
  | integer v =>
    obtain ⟨hsigned, hsome, hfew⟩ := signedNumber_content v
    exact .integer v _ hsome hfew hsigned
  | boolean v =>
    cases v with
    | false => exact .boolean 0x00
    | true => exact .boolean 0xff
  | real r =>
    rw [Value.dropZeroSign, Wire.content]
    by_cases hzero : r.isZero = true
    · rw [Binary64.dropZeroSign_of_isZero hzero, if_pos hzero]
      exact .zero
    · rw [Binary64.dropZeroSign_of_not_isZero hzero, if_neg hzero]
      exact .pattern r.bits _ rfl (by rw [number_eq_toNat, Bytes.toNat_bigEndian64])
  | string s => exact .string s
  | binary bs => exact .binary bs

theorem valueForm_value (v : Value) (h : (Wire.content v).length < 2 ^ 32) :
    ValueForm v.dropZeroSign (Wire.value v) := by
  have htag : tag v.dropZeroSign = tag v := by cases v <;> rfl
  refine ⟨Wire.content v, content_content v, ?_⟩
  rw [htag]
  exact elementForm_element (tag v) h

theorem sequenceForm_sequence {α β : Type} {part : β → Bytes → Prop} (f : α → β) (bytes : α → Bytes)
    {xs : List α} (hpart : ∀ x ∈ xs, part (f x) (bytes x))
    (h : (xs.flatMap bytes).length < 2 ^ 32) :
    SequenceForm part (xs.map f) (Wire.sequence (xs.flatMap bytes)) := by
  refine ⟨xs.map bytes, ?_, elementForm_sequence h⟩
  rw [List.forall₂_map_left_iff, List.forall₂_map_right_iff, List.forall₂_same]
  exact hpart

end Grammar

/-! ## Encoders -/

namespace Encoder

theorem toBytes_append (e : Encoder) (bs : Bytes) : (e.append bs).toBytes = e.toBytes ++ bs :=
  Array.toList_appendList

theorem toBytes_inj {e f : Encoder} : e.toBytes = f.toBytes ↔ e = f := by
  cases e
  cases f
  rw [toBytes, toBytes, Array.toList_inj, mk.injEq]

theorem append_append (e : Encoder) (as bs : Bytes) :
    (e.append as).append bs = e.append (as ++ bs) := by
  rw [← toBytes_inj]
  simp only [toBytes_append, List.append_assoc]

theorem append_nil (e : Encoder) : e.append [] = e := by
  rw [← toBytes_inj, toBytes_append, List.append_nil]

theorem element_eq_append (tag : UInt8) {content : Bytes} (h : content.length < 2 ^ 32)
    (e : Encoder) : e.element tag content = (.ok (), e.append (Wire.element tag content)) := by
  rw [element, length, Length.encode?_isSome h]
  simp only [append_append, Wire.element, List.cons_append, List.nil_append]

theorem element_of_long (tag : UInt8) {content : Bytes} (h : 2 ^ 32 ≤ content.length)
    (e : Encoder) :
    e.element tag content = (.error (.lengthOverflow content.length), e.append [tag]) := by
  rw [element, length, Length.encode?_of_overflow h]

theorem size_eq_length (e : Encoder) : e.size = e.toBytes.length := (Array.length_toList).symm

/-- The four bytes behind the first two of an appended byte string, set one by one. -/
theorem set_four (front content : Bytes) (tag form a b c d a' b' c' d' : UInt8) :
    ((((front ++ tag :: form :: a :: b :: c :: d :: content).set (front.length + 2) a').set
      (front.length + 3) b').set (front.length + 4) c').set (front.length + 5) d' =
      front ++ tag :: form :: a' :: b' :: c' :: d' :: content := by
  have hset : ∀ (k : Nat) (x : UInt8) (back : Bytes),
      (front ++ back).set (front.length + k) x = front ++ back.set k x := by
    intro k x back
    rw [List.set_append_right _ _ (Nat.le_add_right _ _), Nat.add_sub_cancel_left]
  rw [hset, hset, hset, hset]
  rfl

theorem toBytes_open (e : Encoder) (content : Bytes) :
    (e.beginSequence.2.append content).toBytes =
      e.toBytes ++ Tag.sequence :: lengthForm :: 0 :: 0 :: 0 :: 0 :: content := by
  rw [toBytes_append, beginSequence, toBytes_append, List.append_assoc]
  rfl

theorem position_beginSequence (e : Encoder) :
    e.beginSequence.1.position = e.toBytes.length + 1 := by
  rw [← size_eq_length]
  rfl

/-- What the size tells of an open sequence is the length of what was written since. -/
theorem size_open (e : Encoder) (content : Bytes) :
    (e.beginSequence.2.append content).size - e.beginSequence.1.position - lengthSize =
      content.length := by
  rw [size_eq_length, toBytes_open, position_beginSequence, lengthSize, List.length_append]
  simp only [List.length_cons]
  omega

/-- The length filled in at the end is the length of what was written since the beginning. -/
theorem endSequence_beginSequence (e : Encoder) {content : Bytes} (h : content.length < 2 ^ 32) :
    (e.beginSequence.2.append content).endSequence e.beginSequence.1 =
      (.ok (), e.append (Wire.sequence content)) := by
  have hopen := toBytes_open e content
  have hposition := position_beginSequence e
  have hfits : content.length < Length.limit := h
  rw [endSequence, size_open]
  simp only [if_pos hfits]
  refine Prod.ext rfl (toBytes_inj.mp ?_)
  simp only [toBytes] at hopen hposition ⊢
  rw [Array.toList_setIfInBounds, Array.toList_setIfInBounds, Array.toList_setIfInBounds,
    Array.toList_setIfInBounds, hopen, hposition]
  exact (set_four _ _ _ _ _ _ _ _ _ _ _ _).trans (toBytes_append e _).symm

theorem endSequence_of_long (e : Encoder) {content : Bytes} (h : 2 ^ 32 ≤ content.length) :
    (e.beginSequence.2.append content).endSequence e.beginSequence.1 =
      (.error (.lengthOverflow content.length), e.beginSequence.2.append content) := by
  rw [endSequence, size_open]
  exact if_neg (Nat.not_lt.mpr h)

theorem value_eq_append (v : Value) (h : (Wire.content v).length < 2 ^ 32) (e : Encoder) :
    e.value v = (.ok (), e.append (Wire.value v)) := by
  cases v with
  | integer v =>
    have hfew := (Grammar.signedNumber_content v).2.2
    have hlength : Wire.length (Integer.content v).length =
        [UInt8.ofNat (Integer.content v).length] := by
      rw [Wire.length, Length.encode?_of_short (by omega), Option.getD_some]
    rw [value, integer, Wire.value, Wire.element, Wire.content, hlength]
    rfl
  | boolean v => rfl
  | real r =>
    rw [value, real, Wire.value, Wire.element, Wire.content]
    split <;> rfl
  | string s => exact element_eq_append Tag.text h e
  | binary bs => exact element_eq_append Tag.octets h e

/-- Of a value whose content is too long for its length, the tag is left behind. -/
theorem value_of_long (v : Value) (h : 2 ^ 32 ≤ (Wire.content v).length) (e : Encoder) :
    e.value v =
      (.error (.lengthOverflow (Wire.content v).length), e.append [Grammar.tag v]) := by
  cases v with
  | integer v =>
    have hfew := (Grammar.signedNumber_content v).2.2
    rw [Wire.content] at h
    omega
  | boolean v => exact absurd h (by simp [Wire.content])
  | real r =>
    rw [Wire.content] at h
    split at h <;> simp at h
  | string s => exact element_of_long Tag.text h e
  | binary bs => exact element_of_long Tag.octets h e

section Lists

variable {α : Type} (v : α → Value) (xs : List α)

theorem each_eq_ok_iff (e f : Encoder) :
    each (fun x => value (v x)) xs e = .ok f ↔
      (∀ x ∈ xs, (Wire.content (v x)).length < 2 ^ 32) ∧
        f = e.append (xs.flatMap fun x => Wire.value (v x)) := by
  induction xs generalizing e with
  | nil => simp [each, append_nil, eq_comm]
  | cons x xs ih =>
    rw [each, List.forall_mem_cons, List.flatMap_cons]
    by_cases hx : (Wire.content (v x)).length < 2 ^ 32
    · rw [value_eq_append (v x) hx, and_iff_right hx, ← append_append]
      exact ih _
    · rw [value_of_long (v x) (Nat.not_lt.mp hx)]
      exact iff_of_false nofun fun h => hx h.1.1

theorem sequenceOf_eq_ok_iff (e f : Encoder) :
    sequenceOf (fun x => value (v x)) xs e = .ok f ↔
      (∀ x ∈ xs, (Wire.content (v x)).length < 2 ^ 32) ∧
        (xs.flatMap fun x => Wire.value (v x)).length < 2 ^ 32 ∧
        f = e.append (Wire.sequence (xs.flatMap fun x => Wire.value (v x))) := by
  have hcontent := each_eq_ok_iff v xs e.beginSequence.2
  simp only [sequenceOf]
  rcases heach : each (fun x => value (v x)) xs e.beginSequence.2 with err | g
  · refine iff_of_false nofun fun h => ?_
    have hok := (hcontent _).mpr ⟨h.1, rfl⟩
    rw [heach] at hok
    cases hok
  · obtain ⟨hshort, rfl⟩ := (hcontent g).mp heach
    rw [and_iff_right hshort]
    by_cases hsize : (xs.flatMap fun x => Wire.value (v x)).length < 2 ^ 32
    · simp only [endSequence_beginSequence e hsize, Except.ok.injEq, hsize, true_and, eq_comm]
    · simp only [endSequence_of_long e (Nat.not_lt.mp hsize)]
      exact iff_of_false nofun fun h => hsize h.1

end Lists

end Encoder

end PeerLink
