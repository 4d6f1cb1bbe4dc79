import Mathlib.Algebra.Order.BigOperators.Group.List
import Mathlib.Data.Nat.Log
import Mathlib.Order.Bounds.Basic
import PeerLink.Proofs.Message.Encoding

/-! # How long messages are

* `Wire.octets`, `Wire.width`: how many bytes it takes to write a number, without and with a sign;
  `Wire.octets_le_iff` and `Wire.isLeast_width` say that they are the fewest.
* `Wire.messageSize`: the length of a message as a sum over its items, and `Wire.length_message`.
* `Message.encode_of_untyped`: the first item that cannot be written decides how writing fails.
-/

namespace PeerLink
set_option autoImplicit false

namespace Wire

/-! ## Numbers -/

/-- How many bytes it takes to write a natural number, at least one. -/
def octets (n : ℕ) : ℕ := Nat.log 256 n + 1

theorem octets_le_iff {n k : ℕ} (hk : 1 ≤ k) : octets n ≤ k ↔ n < 256 ^ k := by
  rcases Nat.eq_zero_or_pos n with rfl | hn
  · simp [octets, hk]
  · rw [octets, Nat.succ_le_iff]
    exact Nat.log_lt_iff_lt_pow (by decide) (by omega)

theorem octets_eq {n k : ℕ} (hlow : k = 0 ∨ 256 ^ k ≤ n) (hhigh : n < 256 ^ (k + 1)) :
    octets n = k + 1 := by
  rcases hlow with rfl | hlow
  · rw [octets, Nat.log_of_lt (by omega)]
  · rw [octets, Nat.log_eq_of_pow_le_of_lt_pow hlow hhigh]

/-- The distance of an integer from the nearer one of zero and minus one. -/
def magnitude (v : ℤ) : ℕ := (max v (-v - 1)).toNat

theorem magnitude_lt_iff {v : ℤ} {n : ℕ} : magnitude v < n ↔ -n ≤ v ∧ v < n := by
  rw [magnitude]
  omega

/-- How many bytes an integer takes with its sign. -/
def width (v : Int64) : ℕ := octets (2 * magnitude v.toInt)

theorem width_le_iff {v : Int64} {k : ℕ} (hk : 1 ≤ k) :
    width v ≤ k ↔ -2 ^ (8 * k - 1) ≤ v.toInt ∧ v.toInt < 2 ^ (8 * k - 1) := by
  have hpow : 256 ^ k = 2 * 2 ^ (8 * k - 1) := by
    rw [← Nat.pow_succ', show (8 * k - 1).succ = 8 * k by omega, Nat.pow_mul]
  have hiff : 2 * magnitude v.toInt < 256 ^ k ↔ magnitude v.toInt < 2 ^ (8 * k - 1) := by omega
  rw [width, octets_le_iff hk, hiff, magnitude_lt_iff]
  push_cast
  rfl

/-- It is the fewest bytes whose two's complement has room for the integer. -/
theorem isLeast_width (v : Int64) :
    IsLeast {k | 1 ≤ k ∧ -2 ^ (8 * k - 1) ≤ v.toInt ∧ v.toInt < 2 ^ (8 * k - 1)} (width v) := by
  have hsome : 1 ≤ width v := by simp [width, octets]
  exact ⟨⟨hsome, (width_le_iff hsome).mp le_rfl⟩, fun k hk => (width_le_iff hk.1).mpr hk.2⟩

end Wire

/-! ## Contents are as short as they can be -/

namespace Grammar

theorem magnitude_signedNumber_cons (b : UInt8) (rest : Bytes) :
    Wire.magnitude (signedNumber (b :: rest)) =
      if b.toNat < 128 then number (b :: rest)
      else 256 ^ (rest.length + 1) - 1 - number (b :: rest) := by
  have hlt := number_lt (b :: rest)
  rw [List.length_cons] at hlt
  have hspan : ((256 ^ (rest.length + 1) : ℕ) : ℤ) = 256 ^ (rest.length + 1) := by push_cast; rfl
  rw [signedNumber_cons, Wire.magnitude, ← hspan]
  split <;> omega

theorem magnitude_signedNumber_lt {bs : Bytes} (h : bs ≠ []) :
    2 * Wire.magnitude (signedNumber bs) < 256 ^ bs.length := by
  obtain ⟨b, rest, rfl⟩ := List.exists_cons_of_ne_nil h
  have hlt := number_lt (b :: rest)
  have hnumber : number (b :: rest) = b.toNat * 256 ^ rest.length + number rest := rfl
  have hrest := number_lt rest
  rw [magnitude_signedNumber_cons, List.length_cons, Nat.pow_succ']
  split
  · have hbyte : b.toNat * 256 ^ rest.length ≤ 127 * 256 ^ rest.length :=
      Nat.mul_le_mul_right _ (by omega)
    omega
  · have hbyte : 128 * 256 ^ rest.length ≤ b.toNat * 256 ^ rest.length :=
      Nat.mul_le_mul_right _ (by omega)
    omega

/-- The first byte says more than the sign, or the second one starts with the other bit. -/
theorem le_magnitude_signedNumber {lead next : UInt8} {rest : Bytes}
    (hzero : lead.toNat = 0 → 128 ≤ next.toNat) (hones : lead.toNat = 255 → next.toNat < 128) :
    256 ^ (rest.length + 1) ≤ 2 * Wire.magnitude (signedNumber (lead :: next :: rest)) := by
  have hrest := number_lt rest
  have hlead := lead.toNat_lt
  have hnext := next.toNat_lt
  have hnumber : number (lead :: next :: rest) =
      lead.toNat * (256 * 256 ^ rest.length) + (next.toNat * 256 ^ rest.length + number rest) := by
    rw [number, number, List.length_cons, Nat.pow_succ']
  rw [magnitude_signedNumber_cons, hnumber, List.length_cons]
  simp only [Nat.pow_succ']
  generalize 256 ^ rest.length = span at hrest ⊢
  have hlow (a b c : ℕ) (h : b ≤ a) : b * c ≤ a * c := Nat.mul_le_mul_right c h
  split
  · by_cases hfirst : lead.toNat = 0
    · have hbyte := hlow next.toNat 128 span (hzero hfirst)
      omega
    · have hbyte := hlow lead.toNat 1 (256 * span) (by omega)
      omega
  · by_cases hfirst : lead.toNat = 255
    · have hbyte := hlow 127 next.toNat span (by have := hones hfirst; omega)
      rw [hfirst]
      omega
    · have hbyte := hlow 254 lead.toNat (256 * span) (by omega)
      have hbyte' := hlow 255 next.toNat span (by omega)
      omega

/-- What is left of a number without its redundant bytes has as many bytes as its number takes. -/
theorem length_dropRedundant {bs : Bytes} (h : bs ≠ []) :
    (Integer.dropRedundant bs).length =
      Wire.octets (2 * Wire.magnitude (signedNumber (Integer.dropRedundant bs))) := by
  fun_induction Integer.dropRedundant bs with
  | case1 lead next rest hredundant ih => exact ih (List.cons_ne_nil _ _)
  | case2 lead next rest hkept =>
    refine (Wire.octets_eq (.inr (le_magnitude_signedNumber ?_ ?_))
      (magnitude_signedNumber_lt (List.cons_ne_nil _ _))).symm
    · intro hlead
      by_contra hnext
      have hclear := (Bytes.high_bit_clear_iff next).mpr (by omega)
      exact hkept (by simp [UInt8.toNat_inj.mp (hlead.trans UInt8.toNat_zero.symm), hclear])
    · intro hlead
      by_contra hnext
      have hset := mt (Bytes.high_bit_clear_iff next).mp hnext
      have hall : lead = 0xff := UInt8.toNat_inj.mp hlead
      rw [beq_iff_eq] at hset
      exact hkept (by simp [hall, hset])
  | case3 bs hshort =>
    rcases bs with _ | ⟨b, _ | ⟨next, rest⟩⟩
    · exact absurd rfl h
    · exact (Wire.octets_eq (.inl rfl) (magnitude_signedNumber_lt h)).symm
    · exact (hshort b next rest rfl).elim

end Grammar

namespace Wire

theorem length_integer (v : Int64) : (Integer.content v).length = width v := by
  have hne : Bytes.bigEndian64 v.toUInt64 ≠ [] := List.cons_ne_nil _ _
  have hlength := Grammar.length_dropRedundant hne
  rw [width, (Grammar.signedNumber_content v).1]
  exact hlength

theorem length_digits {n : ℕ} (hn : n ≠ 0) (h : n < 2 ^ 32) :
    ((Bytes.bigEndian32 (UInt32.ofNat n)).dropWhile (· == 0)).length = octets n := by
  have hnumber : Bytes.toNat (Bytes.bigEndian32 (UInt32.ofNat n)) = n :=
    (Bytes.toNat_bigEndian32 _).trans (UInt32.toNat_ofNat_of_lt' h)
  have hsome : 1 ≤ octets n := Nat.succ_pos _
  have hfew : octets n ≤ 4 := (octets_le_iff (by decide)).mpr h
  have hlow : 256 ^ (octets n - 1) ≤ n := Nat.pow_log_le_self 256 hn
  have hhigh : n < 256 ^ octets n := (octets_le_iff hsome).mp le_rfl
  have hkept : 4 - (4 - octets n) = octets n := by omega
  rw [Bytes.dropWhile_zero_eq_drop (Nat.sub_le 4 (octets n)), List.length_drop,
    Bytes.length_bigEndian32, hkept]
  · intro _
    rw [Bytes.length_bigEndian32, hnumber, hkept]
    exact hlow
  · rw [Bytes.length_bigEndian32, hnumber, hkept]
    exact hhigh

/-! ## Messages -/

/-- How many bytes the shortest form of a length takes. -/
def lengthSize (n : ℕ) : ℕ := if n < 128 then 1 else 1 + octets n

/-- How many bytes an element takes: its content, a tag and its length. -/
def elementSize (n : ℕ) : ℕ := n + 1 + lengthSize n

def valueSize : Value → ℕ
  | .integer v => 2 + width v
  | .boolean _ => 3
  | .real r => if r.isZero then 2 else 11
  | .string s => elementSize s.utf8ByteSize
  | .binary bs => elementSize bs.length

/-- What an item adds to a message: its type, its key and its value. -/
def itemSize (i : Item) : ℕ := 3 + elementSize i.key.utf8ByteSize + valueSize i.value

def messageSize (items : List Item) : ℕ := 24 + (items.map itemSize).sum

theorem length_length {n : ℕ} (h : n < 2 ^ 32) : (length n).length = lengthSize n := by
  rw [lengthSize]
  split
  · rename_i hshort
    rw [length, Length.encode?_of_short hshort]
    rfl
  · rename_i hlong
    rw [length, Length.encode?_of_long hlong h, Option.getD_some, List.length_cons,
      length_digits (by omega) h, Nat.add_comm]

theorem length_element (tag : UInt8) {content : Bytes} (h : content.length < 2 ^ 32) :
    (element tag content).length = elementSize content.length := by
  simp only [element, elementSize, List.length_cons, List.length_append, length_length h]
  omega

theorem length_text (s : String) : (Utf8.encode s).length = s.utf8ByteSize := by
  rw [← String.size_toByteArray]
  exact Array.length_toList

theorem length_value (v : Value) (h : (content v).length < 2 ^ 32) :
    (value v).length = valueSize v := by
  rw [value, length_element _ h]
  cases v with
  | integer v =>
    have hfew := (Grammar.signedNumber_content v).2.2
    rw [content, valueSize, elementSize, lengthSize, if_pos (by omega), length_integer]
    omega
  | boolean b => rfl
  | real r =>
    rw [content, valueSize]
    split <;> rfl
  | string s => rw [content, valueSize, length_text]
  | binary bs => rfl

theorem length_content_le_valueSize (v : Value) : (content v).length ≤ valueSize v := by
  cases v with
  | integer v => simp [content, valueSize, length_integer]
  | boolean b => simp [content, valueSize]
  | real r =>
    rw [content, valueSize]
    split <;> simp
  | string s =>
    rw [content, valueSize, length_text, elementSize]
    omega
  | binary bs =>
    rw [content, valueSize, elementSize]
    omega

theorem length_parts {items : List Item} (h : ∀ i ∈ items, itemSize i < 2 ^ 32) :
    (items.flatMap fun i => value (.integer i.type.code)).length +
      ((items.flatMap fun i => value (.string i.key)).length +
        (items.flatMap fun i => value i.value).length) = (items.map itemSize).sum := by
  induction items with
  | nil => rfl
  | cons i items ih =>
    obtain ⟨hi, hitems⟩ := List.forall_mem_cons.mp h
    have hparts := ih hitems
    have htype : (value (.integer i.type.code)).length = 3 := by cases i.type <;> rfl
    have hkey := length_value (.string i.key)
    have hvalue := length_value i.value
    have hcontent := length_content_le_valueSize i.value
    rw [itemSize, elementSize] at hi
    rw [content, length_text, valueSize] at hkey
    simp only [List.flatMap_cons, List.length_append, List.map_cons, List.sum_cons, itemSize,
      htype, hkey (by omega), hvalue (by omega)]
    omega

theorem length_message {items : List Item} (h : messageSize items < 2 ^ 32) :
    (message items).length = messageSize items := by
  have hitems : ∀ i ∈ items, itemSize i < 2 ^ 32 := fun i hi => by
    have hle := List.le_sum_of_mem (List.mem_map_of_mem (f := itemSize) hi)
    rw [messageSize] at h
    omega
  have hparts := length_parts hitems
  rw [message, length_sequence, body, messageSize]
  simp only [List.length_append, length_sequence]
  omega

theorem length_body_lt {items : List Item} (h : messageSize items < 2 ^ 32) :
    (body items).length < 2 ^ 32 := by
  have hlength := length_message h
  rw [message, length_sequence] at hlength
  omega

end Wire

/-! ## Items that cannot be written -/

namespace Message

/-- The check of an item fails if its type is reserved or is not its value's. -/
theorem check_of_untyped {i : Item} (h : i.type.isReserved = true ∨ i.value.type ≠ i.type) :
    i.check = .error (if i.type.isReserved then .unsupportedType i.type.code
      else .valueTypeMismatch i.key i.type i.value.type) := by
  rw [Item.check]
  by_cases hreserved : i.type.isReserved = true
  · rw [if_pos hreserved, if_pos hreserved]
  · rw [if_neg hreserved, if_neg hreserved, if_pos]
    simpa using h.resolve_left hreserved

theorem checkAll_of_untyped {before after : List Item} {i : Item} {err : CodecError}
    (hbefore : ∀ i ∈ before, i.value.type = i.type) (hi : i.check = .error err) :
    checkAll (before ++ i :: after) = .error err := by
  induction before with
  | nil => rw [List.nil_append, checkAll, hi]
  | cons first before ih =>
    obtain ⟨hfirst, hrest⟩ := List.forall_mem_cons.mp hbefore
    rw [List.cons_append, checkAll, (check_eq_ok_iff first).mpr hfirst]
    exact ih hrest

/-- Nothing of what comes after the first item that cannot be written matters. -/
theorem encode_of_untyped {before after : List Item} {i : Item}
    (hbefore : ∀ i ∈ before, i.value.type = i.type)
    (hi : i.type.isReserved = true ∨ i.value.type ≠ i.type) :
    encode (before ++ i :: after) = .error (if i.type.isReserved then .unsupportedType i.type.code
      else .valueTypeMismatch i.key i.type i.value.type) := by
  rw [encode, checkAll_of_untyped hbefore (check_of_untyped hi)]
  rfl

end Message

end PeerLink
