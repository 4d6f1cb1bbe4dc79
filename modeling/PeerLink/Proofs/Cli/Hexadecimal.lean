import Mathlib.Data.List.Induction
import PeerLink.Cli.Argument

/-! # Hexadecimal arguments

Bytes are given as pairs of digits of either case, and shown again in lower case. The reader of a
pair reads it as a number, and a number may have a sign: a plus sign in front of a digit passes for
a leading zero.

* `Hex.IsDigit`, `Hex.Denotes`: the digits, and the bytes that an even number of them denotes.
* `Argument.unmarked`: a text without the `0x` before it.
* `Argument.signsFilled`: pairs with a zero for the sign that stands first.

Main statement: `Argument.hex_iff_digits_after_signs`. What is shown is read again:
`Argument.hex?_encode`.
-/

namespace PeerLink
set_option autoImplicit false

/-! ## Digits -/

namespace Hex

/-- The digits of either case, in the order of their values. -/
def IsDigit (c : Char) (n : Nat) : Prop :=
  "0123456789abcdef".toList[n]? = some c ∨ "0123456789ABCDEF".toList[n]? = some c

instance (c : Char) (n : Nat) : Decidable (IsDigit c n) := inferInstanceAs (Decidable (_ ∨ _))

/-- The bytes of pairs of digits, the high one first. -/
inductive Denotes : List Char → Bytes → Prop where
  | nil : Denotes [] []
  | pair {high low : Char} {rest : List Char} {x y : Nat} {bs : Bytes} (hx : IsDigit high x)
      (hy : IsDigit low y) (h : Denotes rest bs) :
      Denotes (high :: low :: rest) (UInt8.ofNat (16 * x + y) :: bs)

theorem isDigit_digitChar {n : Nat} (h : n < 16) : IsDigit (digitChar n) n := by
  have hall : ∀ i : Fin 16, IsDigit (digitChar i) i := by decide +kernel
  exact hall ⟨n, h⟩

theorem lt_of_isDigit {c : Char} {n : Nat} (h : IsDigit c n) : n < 16 := by
  rcases h with h | h
  · exact (List.getElem?_eq_some_iff.mp h).1
  · exact (List.getElem?_eq_some_iff.mp h).1

theorem digit?_of_isDigit {c : Char} {n : Nat} (h : IsDigit c n) : digit? c = some n := by
  have hall : ∀ i : Fin 16, digit? "0123456789abcdef".toList[i] = some i.1 ∧
      digit? "0123456789ABCDEF".toList[i] = some i.1 := by decide +kernel
  have hi := hall ⟨n, lt_of_isDigit h⟩
  rcases h with h | h
  · obtain ⟨_, rfl⟩ := List.getElem?_eq_some_iff.mp h
    exact hi.1
  · obtain ⟨_, rfl⟩ := List.getElem?_eq_some_iff.mp h
    exact hi.2

theorem digitChar_of_isDigit {c : Char} {n : Nat} (h : IsDigit c n) :
    digitChar n = c.toLower := by
  have hall : ∀ i : Fin 16, digitChar i = "0123456789abcdef".toList[i].toLower ∧
      digitChar i = "0123456789ABCDEF".toList[i].toLower := by decide +kernel
  have hi := hall ⟨n, lt_of_isDigit h⟩
  rcases h with h | h
  · obtain ⟨_, rfl⟩ := List.getElem?_eq_some_iff.mp h
    exact hi.1
  · obtain ⟨_, rfl⟩ := List.getElem?_eq_some_iff.mp h
    exact hi.2

theorem isDigit_of_digit? {c : Char} {n : Nat} (h : digit? c = some n) : IsDigit c n := by
  -- beyond ASCII there is no digit, and within it there are few enough characters to look at each
  have hall : ∀ i : Fin 128, ∀ n ∈ digit? (Char.ofNat i), IsDigit (Char.ofNat i) n := by
    decide +kernel
  have hascii : c.toNat < 128 := by
    by_contra hlarge
    have hbeyond (d : Char) (hd : d.toNat < 128) : ¬ c ≤ d := by
      rw [Char.le_def, UInt32.le_iff_toNat_le]
      exact fun hle => hlarge (Nat.lt_of_le_of_lt hle hd)
    rw [digit?, if_neg (fun hc => hbeyond '9' (by decide) hc.2),
      if_neg (fun hc => hbeyond 'f' (by decide) hc.2),
      if_neg (fun hc => hbeyond 'F' (by decide) hc.2)] at h
    cases h
  have hc := hall ⟨c.toNat, hascii⟩ n
  rw [Char.ofNat_toNat] at hc
  exact hc h

theorem digit?_eq_some_iff {c : Char} {n : Nat} : digit? c = some n ↔ IsDigit c n :=
  ⟨isDigit_of_digit?, digit?_of_isDigit⟩

/-- What denotes bytes is an even number of digits. -/
theorem exists_denotes_iff (cs : List Char) :
    (∃ bs, Denotes cs bs) ↔ cs.length % 2 = 0 ∧ ∀ c ∈ cs, ∃ n, IsDigit c n := by
  constructor
  · rintro ⟨bs, h⟩
    induction h with
    | nil => exact ⟨rfl, fun c hc => absurd hc List.not_mem_nil⟩
    | @pair high low rest x y bs hx hy _ ih =>
      obtain ⟨heven, hdigits⟩ := ih
      refine ⟨?_, ?_⟩
      · rw [List.length_cons, List.length_cons]
        omega
      · rw [List.forall_mem_cons, List.forall_mem_cons]
        exact ⟨⟨x, hx⟩, ⟨y, hy⟩, hdigits⟩
  · induction cs using List.twoStepInduction with
    | nil => exact fun _ => ⟨[], .nil⟩
    | singleton c =>
      intro h
      have hodd := h.1
      rw [List.length_singleton] at hodd
      cases hodd
    | cons_cons high low rest ih _ =>
      rintro ⟨heven, hdigits⟩
      rw [List.forall_mem_cons, List.forall_mem_cons] at hdigits
      obtain ⟨⟨x, hx⟩, ⟨y, hy⟩, hrest⟩ := hdigits
      rw [List.length_cons, List.length_cons] at heven
      obtain ⟨bs, hbs⟩ := ih ⟨by omega, hrest⟩
      exact ⟨_, .pair hx hy hbs⟩

theorem ofByte_of_digits {high low : Char} {x y : Nat} (hx : IsDigit high x)
    (hy : IsDigit low y) : ofByte (UInt8.ofNat (16 * x + y)) = [high.toLower, low.toLower] := by
  have hx16 := lt_of_isDigit hx
  have hy16 := lt_of_isDigit hy
  have hbyte : (UInt8.ofNat (16 * x + y)).toNat = 16 * x + y :=
    UInt8.toNat_ofNat_of_lt' (by change 16 * x + y < 256; omega)
  rw [ofByte, hbyte, show (16 * x + y) / 16 = x by omega, show (16 * x + y) % 16 = y by omega,
    digitChar_of_isDigit hx, digitChar_of_isDigit hy]

/-- The bytes that digits denote are shown as these digits in lower case. -/
theorem Denotes.toList_encode {cs : List Char} {bs : Bytes} (h : Denotes cs bs) :
    (encode bs).toList = cs.map Char.toLower := by
  rw [encode, String.toList_ofList]
  induction h with
  | nil => rfl
  | pair hx hy _ ih =>
    rw [List.flatMap_cons, ih, ofByte_of_digits hx hy]
    rfl

/-- What is shown for bytes denotes them. -/
theorem denotes_encode (bs : Bytes) : Denotes (encode bs).toList bs := by
  rw [encode, String.toList_ofList]
  induction bs with
  | nil => exact .nil
  | cons b bs ih =>
    have hlt := b.toNat_lt
    have hhalves : UInt8.ofNat (16 * (b.toNat / 16) + b.toNat % 16) = b := by
      rw [Nat.div_add_mod, UInt8.ofNat_toNat]
    have hpair := Denotes.pair (isDigit_digitChar (show b.toNat / 16 < 16 by omega))
      (isDigit_digitChar (show b.toNat % 16 < 16 by omega)) ih
    rw [hhalves] at hpair
    exact hpair

end Hex

/-! ## Arguments -/

namespace Argument

/-- A text without one `0x` before it. -/
def unmarked : List Char → List Char
  | '0' :: 'x' :: rest => rest
  | cs => cs

theorem unmarked_of_plain {cs : List Char} (h : ∀ rest, cs = '0' :: 'x' :: rest → False) :
    unmarked cs = cs := by
  unfold unmarked
  split
  · next rest => exact absurd rfl (h rest)
  · rfl

/-- Pairs with a zero for the sign that stands first. -/
def signsFilled : List Char → List Char
  | high :: low :: rest => (if high = '+' then '0' else high) :: low :: signsFilled rest
  | cs => cs

theorem signsFilled_of_not_mem {cs : List Char} (h : '+' ∉ cs) : signsFilled cs = cs := by
  induction cs using List.twoStepInduction with
  | nil => rfl
  | singleton c => rfl
  | cons_cons high low rest ih _ =>
    rw [List.mem_cons, List.mem_cons, not_or, not_or] at h
    obtain ⟨hhigh, -, hrest⟩ := h
    rw [signsFilled, if_neg (Ne.symm hhigh), ih hrest]

theorem pair?_eq_some_iff {high low : Char} {b : UInt8} :
    pair? high low = some b ↔ ∃ x y, Hex.IsDigit (if high = '+' then '0' else high) x ∧
      Hex.IsDigit low y ∧ UInt8.ofNat (16 * x + y) = b := by
  simp only [← Hex.digit?_eq_some_iff]
  rw [pair?]
  by_cases hsign : high = '+'
  · have hzero : Hex.digit? '0' = some 0 := by decide
    rw [if_pos hsign, if_pos hsign, hzero, Option.map_eq_some_iff]
    constructor
    · rintro ⟨y, hy, rfl⟩
      exact ⟨0, y, rfl, hy, by rw [Nat.mul_zero, Nat.zero_add]⟩
    · rintro ⟨x, y, hx, hy, rfl⟩
      cases hx
      exact ⟨y, hy, by rw [Nat.mul_zero, Nat.zero_add]⟩
  · rw [if_neg hsign, if_neg hsign]
    constructor
    · intro h
      split at h
      · next x y hx hy => exact ⟨x, y, hx, hy, Option.some.inj h⟩
      · cases h
    · rintro ⟨x, y, hx, hy, rfl⟩
      rw [hx, hy]

theorem pairs?_eq_some_iff {cs : List Char} {bs : Bytes} :
    pairs? cs = some bs ↔ Hex.Denotes (signsFilled cs) bs := by
  induction cs using List.twoStepInduction generalizing bs with
  | nil =>
    constructor
    · rintro ⟨⟩
      exact .nil
    · rintro ⟨⟩
      rfl
  | singleton c =>
    constructor
    · rintro ⟨⟩
    · rintro ⟨⟩
  | cons_cons high low rest ih _ =>
    rw [pairs?, signsFilled]
    constructor
    · intro h
      split at h
      · next b tail hpair hrest =>
        cases h
        obtain ⟨x, y, hx, hy, rfl⟩ := pair?_eq_some_iff.mp hpair
        exact .pair hx hy (ih.mp hrest)
      · cases h
    · intro h
      cases h with
      | @pair _ _ _ x y tail hx hy hrest =>
        rw [pair?_eq_some_iff.mpr ⟨x, y, hx, hy, rfl⟩, ih.mpr hrest]

theorem hex?_eq_pairs? (input : String) : hex? input = pairs? (unmarked input.toList) := by
  rw [hex?]
  split
  · next rest heq => rw [heq, unmarked]
  · next hplain => rw [unmarked_of_plain hplain]

theorem hex?_eq_some_iff {input : String} {bs : Bytes} :
    hex? input = some bs ↔ Hex.Denotes (signsFilled (unmarked input.toList)) bs := by
  rw [hex?_eq_pairs?, pairs?_eq_some_iff]

theorem unmarked_of_denotes {cs : List Char} {bs : Bytes} (h : Hex.Denotes cs bs) :
    unmarked cs = cs := by
  cases h with
  | nil => rfl
  | @pair high low rest x y bs hx hy h =>
    refine unmarked_of_plain fun rest heq => ?_
    have hnone : Hex.digit? 'x' = none := by decide
    cases heq
    rw [Hex.digit?_of_isDigit hy] at hnone
    cases hnone

theorem not_isDigit_plus (n : Nat) : ¬ Hex.IsDigit '+' n := by
  rw [← Hex.digit?_eq_some_iff]
  exact nofun

theorem hex?_encode (bs : Bytes) : hex? (Hex.encode bs) = some bs := by
  have hdenotes := Hex.denotes_encode bs
  have hdigits := ((Hex.exists_denotes_iff _).mp ⟨bs, hdenotes⟩).2
  have hplain : '+' ∉ (Hex.encode bs).toList := fun hplus => by
    obtain ⟨n, hn⟩ := hdigits _ hplus
    exact not_isDigit_plus n hn
  rw [hex?_eq_some_iff, unmarked_of_denotes hdenotes, signsFilled_of_not_mem hplain]
  exact hdenotes

/-- A text is accepted if, without one `0x` before it and with a zero for every sign that stands
first in a pair, it is an even number of digits. The bytes are what the digits denote, and they are
shown as these digits in lower case. Where there is no sign, nothing is filled in. -/
theorem hex_iff_digits_after_signs (input : String) :
    (∀ bs, hex? input = some bs ↔ Hex.Denotes (signsFilled (unmarked input.toList)) bs) ∧
    ((∃ bs, hex? input = some bs) ↔ (signsFilled (unmarked input.toList)).length % 2 = 0 ∧
      ∀ c ∈ signsFilled (unmarked input.toList), ∃ n, Hex.IsDigit c n) ∧
    (∀ bs, hex? input = some bs →
      (Hex.encode bs).toList = (signsFilled (unmarked input.toList)).map Char.toLower) ∧
    ('+' ∉ unmarked input.toList →
      signsFilled (unmarked input.toList) = unmarked input.toList) := by
  refine ⟨fun bs => hex?_eq_some_iff, ?_, fun bs h => ?_, signsFilled_of_not_mem⟩
  · rw [← Hex.exists_denotes_iff]
    exact exists_congr fun bs => hex?_eq_some_iff
  · exact (hex?_eq_some_iff.mp h).toList_encode

theorem hex_iff_digits_after_signs_mixed :
    ('+' ∉ unmarked "0xABcd".toList ∧ hex? "0xABcd" = some [0xab, 0xcd]) ∧
      signsFilled (unmarked "0xABcd".toList) = ['A', 'B', 'c', 'd'] ∧
      (Hex.encode [0xab, 0xcd]).toList = ['a', 'b', 'c', 'd'] := by
  have hplain : '+' ∉ unmarked "0xABcd".toList := by decide
  have hread : hex? "0xABcd" = some [0xab, 0xcd] := by decide
  obtain ⟨-, -, hshown, hfilled⟩ := hex_iff_digits_after_signs "0xABcd"
  have hdigits := hfilled hplain
  have hlower := hshown _ hread
  rw [hdigits] at hlower
  exact ⟨⟨hplain, hread⟩, hdigits, hlower⟩

/-- A sign and a digit are no two digits, but they are read as a byte, and shown as two digits. -/
theorem hex_takes_sign_for_digit :
    hex? "+f" = some [0x0f] ∧ (¬ ∃ n, Hex.IsDigit '+' n) ∧ ¬ Hex.Denotes ['+', 'f'] [0x0f] ∧
      (Hex.encode [0x0f]).toList ≠ "+f".toList.map Char.toLower := by
  refine ⟨by decide, ?_, ?_, by decide⟩
  · rintro ⟨n, hn⟩
    exact not_isDigit_plus n hn
  · intro h
    obtain ⟨n, hn⟩ := ((Hex.exists_denotes_iff _).mp ⟨_, h⟩).2 '+' List.mem_cons_self
    exact not_isDigit_plus n hn

end Argument

end PeerLink
