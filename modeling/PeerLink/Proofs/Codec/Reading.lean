import PeerLink.Codec.Element
import PeerLink.Proofs.Codec.Grammar

/-! # What readers accept

* `Reader.Accepts r form`: the reader succeeds with a value exactly when the input starts with a
  form of that value, and leaves what follows the form.
* `Reader.Accepts.bind`: readers one after another accept forms one after another.
* `Reader.accepts_element`, `Reader.accepts_integer` and the others: the readers of elements accept
  the grammar.
* `Reader.untilEmpty_eq_ok_iff`: a repeated reader accepts concatenations.
-/

namespace PeerLink.Reader
set_option autoImplicit false

variable {α β : Type}

/-- A reader succeeds with a value exactly on the forms of that value followed by anything, and
leaves what follows. -/
def Accepts (r : Reader α) (form : α → Bytes → Prop) : Prop :=
  ∀ bs a rest, r bs = (.ok a, rest) ↔ ∃ front, form a front ∧ bs = front ++ rest

/-- What is before the part that is left is the form. -/
theorem Accepts.append_iff {r : Reader α} {form : α → Bytes → Prop} (h : Accepts r form)
    (front rest : Bytes) (a : α) : r (front ++ rest) = (.ok a, rest) ↔ form a front := by
  rw [h]
  constructor
  · rintro ⟨front', hform, heq⟩
    rwa [List.append_cancel_right heq]
  · intro hform
    exact ⟨front, hform, rfl⟩

/-! ## Combining readers -/

theorem bind_eq_ok_iff (r : Reader α) (f : α → Reader β) (bs rest : Bytes) (b : β) :
    (r >>= f) bs = (.ok b, rest) ↔ ∃ a mid, r bs = (.ok a, mid) ∧ f a mid = (.ok b, rest) := by
  change andThen r f bs = _ ↔ _
  unfold andThen
  rcases hr : r bs with ⟨_ | a, mid⟩
  · simp
  · simp

theorem Accepts.of_iff {r : Reader α} {form form' : α → Bytes → Prop} (h : Accepts r form)
    (hform : ∀ a front, form' a front ↔ form a front) : Accepts r form' := by
  intro bs a rest
  simp only [h bs a rest, hform]

theorem accepts_ok (a : α) : Accepts (ok a) (fun b front => b = a ∧ front = []) := by
  intro bs b rest
  simp [ok, eq_comm]

theorem accepts_fail (e : CodecError) : Accepts (fail e : Reader α) (fun _ _ => False) := by
  intro bs b rest
  simp [fail]

theorem Accepts.bind {r : Reader α} {f : α → Reader β} {form : α → Bytes → Prop}
    {form' : α → β → Bytes → Prop} (hr : Accepts r form) (hf : ∀ a, Accepts (f a) (form' a)) :
    Accepts (r >>= f)
      (fun b front => ∃ a x y, form a x ∧ form' a b y ∧ front = x ++ y) := by
  intro bs b rest
  rw [bind_eq_ok_iff]
  constructor
  · rintro ⟨a, mid, hra, hfa⟩
    obtain ⟨x, hx, rfl⟩ := (hr _ _ _).mp hra
    obtain ⟨y, hy, rfl⟩ := (hf a _ _ _).mp hfa
    exact ⟨x ++ y, ⟨a, x, y, hx, hy, rfl⟩, (List.append_assoc x y rest).symm⟩
  · rintro ⟨front, ⟨a, x, y, hx, hy, rfl⟩, rfl⟩
    exact ⟨a, y ++ rest, (hr _ _ _).mpr ⟨x, hx, List.append_assoc x y rest⟩,
      (hf a _ _ _).mpr ⟨y, hy, rfl⟩⟩

/-! ## Bytes -/

theorem accepts_byte : Accepts byte (fun b front => front = [b]) := by
  intro bs b rest
  cases bs with
  | nil => simp [byte]
  | cons c bs => simp [byte]

theorem accepts_take (n : Nat) : Accepts (take n) (fun bs front => bs.length = n ∧ front = bs) := by
  intro bs a rest
  unfold take
  constructor
  · intro h
    split at h
    · next hlong =>
      rw [Bytes.atLeast_iff] at hlong
      obtain ⟨ha, hrest⟩ := Prod.mk.inj h
      cases ha
      exact ⟨bs.take n, ⟨List.length_take_of_le hlong, rfl⟩, by rw [← hrest, List.take_append_drop]⟩
    · cases (Prod.mk.inj h).1
  · rintro ⟨front, ⟨hlen, rfl⟩, rfl⟩
    subst hlen
    rw [if_pos ((Bytes.atLeast_iff _ _).mpr (by simp)), List.take_left, List.drop_left]

/-! ## Lengths -/

theorem accepts_digits (n : Nat) :
    Accepts (do let digits ← take n; ok (Bytes.toNat digits))
      (fun value front => front.length = n ∧ value = Grammar.number front) := by
  refine ((accepts_take n).bind fun digits => accepts_ok (Bytes.toNat digits)).of_iff
    fun value front => ?_
  constructor
  · rintro ⟨hlen, rfl⟩
    exact ⟨front, front, [], ⟨hlen, rfl⟩, ⟨Grammar.number_eq_toNat front, rfl⟩, by simp⟩
  · rintro ⟨digits, x, y, ⟨hlen, rfl⟩, ⟨rfl, rfl⟩, rfl⟩
    rw [List.append_nil]
    exact ⟨hlen, (Grammar.number_eq_toNat x).symm⟩

theorem shortForm_iff (first : UInt8) (hfirst : first.toNat < 128) (n : Nat) (front : Bytes) :
    Grammar.LengthForm n (first :: front) ↔ n = first.toNat ∧ front = [] := by
  constructor
  · intro h
    cases h with
    | short _ hsmall => exact ⟨by rw [UInt8.toNat_ofNat']; omega, rfl⟩
    | long _ hone hfour => rw [UInt8.toNat_ofNat'] at hfirst; omega
  · rintro ⟨rfl, rfl⟩
    have h := Grammar.LengthForm.short first.toNat hfirst
    rwa [UInt8.ofNat_toNat] at h

theorem longForm_iff (first : UInt8) (hfirst : ¬ first.toNat < 128) (n : Nat) (front : Bytes) :
    Grammar.LengthForm n (first :: front) ↔
      (1 ≤ first.toNat % 128 ∧ first.toNat % 128 ≤ 4) ∧ front.length = first.toNat % 128 ∧
        n = Grammar.number front := by
  constructor
  · intro h
    cases h with
    | short _ hsmall => exact absurd (by rw [UInt8.toNat_ofNat']; omega) hfirst
    | long _ hone hfour =>
      rw [UInt8.toNat_ofNat']
      exact ⟨by omega, by omega, rfl⟩
  · rintro ⟨hcount, hlen, rfl⟩
    have hmark : first = UInt8.ofNat (128 + front.length) := by
      apply UInt8.toNat_inj.mp
      have := first.toNat_lt
      rw [UInt8.toNat_ofNat']
      omega
    rw [hmark]
    exact .long front (by omega) (by omega)

theorem accepts_length : Accepts Length.read Grammar.LengthForm := by
  refine (accepts_byte.bind fun first =>
    (?_ : Accepts _ (fun n front => Grammar.LengthForm n (first :: front)))).of_iff
      fun n front => ?_
  · -- the marker's low bits are the count, which the reader refuses at zero and above four
    have hlow := Bytes.toNat_low_bits first
    have hzero : (first &&& 0x7f == 0) = true ↔ first.toNat % 128 = 0 := by
      rw [beq_iff_eq, ← UInt8.toNat_inj, hlow, UInt8.toNat_zero]
    have hmany : Length.maxBytes < first &&& 0x7f ↔ 4 < first.toNat % 128 := by
      rw [UInt8.lt_iff_toNat_lt, hlow]
      rfl
    split
    · next hshort =>
      rw [Bytes.high_bit_clear_iff] at hshort
      exact (accepts_ok _).of_iff (shortForm_iff first hshort)
    · next hlong =>
      rw [Bytes.high_bit_clear_iff] at hlong
      dsimp only
      split
      · next hcount =>
        refine (accepts_fail _).of_iff fun n front => ?_
        rw [longForm_iff first hlong, iff_false]
        rw [hzero] at hcount
        omega
      split
      · next hcount =>
        refine (accepts_fail _).of_iff fun n front => ?_
        rw [longForm_iff first hlong, iff_false]
        rw [hmany] at hcount
        omega
      · next hsome hfew =>
        rw [hzero] at hsome
        rw [hmany] at hfew
        refine (accepts_digits _).of_iff fun n front => ?_
        rw [longForm_iff first hlong, hlow]
        exact and_iff_right (by omega)
  · constructor
    · intro h
      cases h with
      | short _ hsmall => exact ⟨_, _, [], rfl, .short n hsmall, rfl⟩
      | long digits hone hfour => exact ⟨_, _, digits, rfl, .long digits hone hfour, rfl⟩
    · rintro ⟨first, x, y, rfl, h, rfl⟩
      exact h

/-! ## Elements -/

theorem accepts_element (tag : UInt8) : Accepts (element tag) (Grammar.ElementForm tag) := by
  refine (accepts_byte.bind fun found => (?_ : Accepts _ (fun content front => found = tag ∧
    ∃ length, Grammar.LengthForm content.length length ∧ front = length ++ content))).of_iff
      fun content front => ?_
  · split
    · next hfound =>
      have hne : found ≠ tag := by simpa using hfound
      exact (accepts_fail _).of_iff fun content front => ⟨fun h => hne h.1, False.elim⟩
    · next hfound =>
      have heq : found = tag := by simpa using hfound
      refine (accepts_length.bind accepts_take).of_iff fun content front => ?_
      constructor
      · rintro ⟨-, length, hlength, rfl⟩
        exact ⟨_, length, content, hlength, ⟨rfl, rfl⟩, rfl⟩
      · rintro ⟨n, length, y, hlength, ⟨rfl, rfl⟩, rfl⟩
        exact ⟨heq, length, hlength, rfl⟩
  · constructor
    · rintro ⟨length, hlength, rfl⟩
      exact ⟨tag, [tag], _, rfl, ⟨rfl, length, hlength, rfl⟩, rfl⟩
    · rintro ⟨found, x, y, rfl, ⟨rfl, length, hlength, rfl⟩, rfl⟩
      exact ⟨length, hlength, rfl⟩

theorem accepts_sequence : Accepts sequence (Grammar.ElementForm Tag.sequence) :=
  accepts_element Tag.sequence

theorem accepts_skip :
    Accepts skip (fun _ front => ∃ tag content, Grammar.ElementForm tag content front) := by
  refine (accepts_byte.bind fun _ => accepts_length.bind fun n =>
    (accepts_take n).bind fun _ => accepts_ok ()).of_iff fun _ front => ?_
  constructor
  · rintro ⟨tag, content, length, hlength, rfl⟩
    exact ⟨tag, [tag], _, rfl, ⟨_, length, content, hlength,
      ⟨content, content, [], ⟨rfl, rfl⟩, ⟨rfl, rfl⟩, by simp⟩, rfl⟩, rfl⟩
  · rintro ⟨tag, x, y, rfl, ⟨n, length, z, hlength, ⟨_, content, w, ⟨rfl, rfl⟩, ⟨-, rfl⟩, rfl⟩,
      rfl⟩, rfl⟩
    exact ⟨tag, content, length, hlength, by simp⟩

/-! ## Values -/

theorem Accepts.content {tag : UInt8} {g : Bytes → Reader α} {denotes : α → Bytes → Prop}
    (hg : ∀ content, Accepts (g content) (fun a front => denotes a content ∧ front = [])) :
    Accepts (element tag >>= g)
      (fun a front => ∃ content, denotes a content ∧ Grammar.ElementForm tag content front) := by
  refine ((accepts_element tag).bind hg).of_iff fun a front => ?_
  constructor
  · rintro ⟨content, hcontent, hfront⟩
    exact ⟨content, front, [], hfront, ⟨hcontent, rfl⟩, by simp⟩
  · rintro ⟨content, x, y, hx, ⟨hcontent, rfl⟩, rfl⟩
    exact ⟨content, hcontent, by rwa [List.append_nil]⟩

theorem accepts_integer : Accepts integer (fun v => Grammar.ValueForm (.integer v)) := by
  refine Accepts.content fun content => ?_
  split
  · next hlen =>
    refine (accepts_fail _).of_iff fun v front => ?_
    rw [iff_false]
    rintro ⟨hcontent, -⟩
    cases hcontent with
    | integer _ _ hsome hfew _ =>
      rw [Bool.or_eq_true, List.isEmpty_iff, Bytes.atLeast_iff] at hlen
      rcases hlen with rfl | hlen
      · simp at hsome
      · omega
  · next hlen =>
    rw [Bool.or_eq_true, List.isEmpty_iff, Bytes.atLeast_iff, not_or, ← ne_eq,
      ← List.length_pos_iff] at hlen
    obtain ⟨hsome, hfew⟩ := hlen
    refine (accepts_ok _).of_iff fun v front => and_congr_left fun _ => ?_
    have hnumber := Grammar.toInt_ofContent (show content.length ≤ 8 by omega)
    constructor
    · intro hcontent
      cases hcontent with
      | integer _ _ _ _ hdenotes => exact Int64.toInt_inj.mp (hdenotes.trans hnumber.symm)
    · rintro rfl
      exact .integer _ _ hsome (by omega) hnumber

theorem accepts_boolean : Accepts boolean (fun v => Grammar.ValueForm (.boolean v)) := by
  refine Accepts.content fun content => ?_
  split
  · next b =>
    refine (accepts_ok _).of_iff fun v front => and_congr_left fun _ => ?_
    constructor
    · intro hcontent
      cases hcontent
      rfl
    · rintro rfl
      exact .boolean b
  · next hother =>
    refine (accepts_fail _).of_iff fun v front => ?_
    rw [iff_false]
    rintro ⟨hcontent, -⟩
    cases hcontent
    exact hother _ rfl

theorem accepts_real : Accepts real (fun v => Grammar.ValueForm (.real v)) := by
  refine Accepts.content fun content => ?_
  split
  · refine (accepts_ok _).of_iff fun v front => and_congr_left fun _ => ?_
    constructor
    · intro hcontent
      cases hcontent
      rfl
    · rintro rfl
      exact .zero
  · next header pattern =>
    split
    · next hheader =>
      refine (accepts_fail _).of_iff fun v front => ?_
      rw [iff_false]
      rintro ⟨hcontent, -⟩
      cases hcontent
      exact absurd hheader (by decide)
    split
    · next hheader hlen =>
      refine (accepts_fail _).of_iff fun v front => ?_
      rw [iff_false]
      rintro ⟨hcontent, -⟩
      cases hcontent with
      | pattern bits _ height _ => simp [height] at hlen
    · next hheader hlen =>
      have height : pattern.length = 8 := by simpa using hlen
      have heq : header = 0x03 := by simpa [Tag.binary64] using hheader
      have hfits : (UInt64.ofNat (Bytes.toNat pattern)).toNat = Bytes.toNat pattern := by
        have hlt := Bytes.toNat_lt pattern
        rw [height] at hlt
        exact UInt64.toNat_ofNat_of_lt' hlt
      subst heq
      refine (accepts_ok _).of_iff fun v front => and_congr_left fun _ => ?_
      constructor
      · intro hcontent
        cases hcontent with
        | pattern bits _ _ hdenotes =>
          rw [← Grammar.number_eq_toNat, ← hdenotes, UInt64.ofNat_toNat]
      · rintro rfl
        exact .pattern _ _ height (by rw [hfits, Grammar.number_eq_toNat])

theorem accepts_text : Accepts text (fun v => Grammar.ValueForm (.string v)) := by
  refine Accepts.content fun content => ?_
  split
  · next s hs =>
    rw [Utf8.decode_eq_ok_iff] at hs
    subst hs
    refine (accepts_ok _).of_iff fun v front => and_congr_left fun _ => ?_
    constructor
    · generalize hbytes : Utf8.encode s = bytes
      intro hcontent
      cases hcontent
      exact (Utf8.encode_injective hbytes).symm
    · rintro rfl
      exact .string v
  · next fault hfault =>
    refine (accepts_fail _).of_iff fun v front => ?_
    rw [iff_false]
    rintro ⟨hcontent, -⟩
    cases hcontent
    rw [Utf8.decode_encode] at hfault
    cases hfault

theorem accepts_octets : Accepts octets (fun v => Grammar.ValueForm (.binary v)) := by
  refine (accepts_element Tag.octets).of_iff fun v front => ?_
  constructor
  · rintro ⟨content, hcontent, hfront⟩
    cases hcontent
    exact hfront
  · intro hfront
    exact ⟨v, .binary v, hfront⟩

/-! ## Repetition -/

theorem eq_nil_of_flatten_eq_nil {form : α → Bytes → Prop}
    (hform : ∀ a front, form a front → front ≠ []) {xs : List α} {parts : List Bytes}
    (h : List.Forall₂ form xs parts) (hparts : parts.flatten = []) : xs = [] := by
  cases h with
  | nil => rfl
  | cons ha _ =>
    rw [List.flatten_cons, List.append_eq_nil_iff] at hparts
    exact absurd hparts.1 (hform _ _ ha)

theorem untilEmptyFrom_nil_eq_ok_iff (r : Reader α) {form : α → Bytes → Prop}
    (hform : ∀ a front, form a front → front ≠ []) (budget : Bytes) (seen xs : List α) :
    untilEmptyFrom r budget seen [] = .ok xs ↔
      ∃ read parts, xs = seen.reverse ++ read ∧ List.Forall₂ form read parts ∧
        [] = parts.flatten := by
  have hnil : untilEmptyFrom r budget seen [] = .ok seen.reverse := by cases budget <;> rfl
  rw [hnil, Except.ok.injEq]
  constructor
  · rintro rfl
    exact ⟨[], [], by simp, .nil, rfl⟩
  · rintro ⟨read, parts, rfl, hread, hparts⟩
    rw [eq_nil_of_flatten_eq_nil hform hread hparts.symm, List.append_nil]

/-- With a byte of budget for every byte left, a repeated reader stops only at the end. -/
theorem untilEmptyFrom_eq_ok_iff {r : Reader α} {form : α → Bytes → Prop} (hr : Accepts r form)
    (hform : ∀ a front, form a front → front ≠ []) (budget : Bytes) (seen : List α) (bs : Bytes)
    (hbudget : bs.length ≤ budget.length) (xs : List α) :
    untilEmptyFrom r budget seen bs = .ok xs ↔
      ∃ read parts, xs = seen.reverse ++ read ∧ List.Forall₂ form read parts ∧
        bs = parts.flatten := by
  induction budget generalizing seen bs with
  | nil =>
    have hbs : bs = [] := List.eq_nil_of_length_eq_zero (Nat.le_zero.mp hbudget)
    rw [hbs]
    exact untilEmptyFrom_nil_eq_ok_iff r hform [] seen xs
  | cons c budget ih =>
    cases bs with
    | nil => exact untilEmptyFrom_nil_eq_ok_iff r hform (c :: budget) seen xs
    | cons b bs =>
      have hshrink : ∀ a front rest, form a front → b :: bs = front ++ rest →
          rest.length ≤ budget.length := by
        intro a front rest ha hsplit
        have hlen := congrArg List.length hsplit
        have hfront := List.length_pos_iff.mpr (hform a front ha)
        simp only [List.length_cons, List.length_append] at hlen hbudget
        omega
      rw [untilEmptyFrom]
      constructor
      · intro h
        rcases hstep : r (b :: bs) with ⟨_ | a, rest⟩
        · rw [hstep] at h
          cases h
        · rw [hstep] at h
          obtain ⟨front, ha, hsplit⟩ := (hr _ _ _).mp hstep
          obtain ⟨read, parts, rfl, hread, rfl⟩ :=
            (ih (a :: seen) rest (hshrink a front rest ha hsplit)).mp h
          exact ⟨a :: read, front :: parts, by simp, .cons ha hread, by simp [hsplit]⟩
      · rintro ⟨read, parts, rfl, hread, hparts⟩
        cases hread with
        | nil => cases hparts
        | @cons a front read parts ha hread =>
          rw [List.flatten_cons] at hparts
          rw [(hr _ a parts.flatten).mpr ⟨front, ha, hparts⟩]
          refine (ih (a :: seen) _ (hshrink a front _ ha hparts)).mpr ⟨read, parts, ?_, hread, rfl⟩
          simp

theorem untilEmpty_eq_ok_iff {r : Reader α} {form : α → Bytes → Prop} (hr : Accepts r form)
    (hform : ∀ a front, form a front → front ≠ []) (bs : Bytes) (xs : List α) :
    untilEmpty r bs = .ok xs ↔ ∃ parts, List.Forall₂ form xs parts ∧ bs = parts.flatten := by
  rw [untilEmpty, untilEmptyFrom_eq_ok_iff hr hform bs [] bs (Nat.le_refl _)]
  simp

/-- The content of a sequence, read to its end. -/
theorem accepts_sequenceOf {r : Reader α} {form : α → Bytes → Prop} (hr : Accepts r form)
    (hform : ∀ a front, form a front → front ≠ []) :
    Accepts (do ofExcept (untilEmpty r (← sequence))) (Grammar.SequenceForm form) := by
  have hall : ∀ content, Accepts (ofExcept (untilEmpty r content))
      (fun xs front => (∃ parts, List.Forall₂ form xs parts ∧ content = parts.flatten) ∧
        front = []) := by
    intro content
    rcases hread : untilEmpty r content with e | xs
    · refine (accepts_fail e).of_iff fun ys front => ?_
      rw [← untilEmpty_eq_ok_iff hr hform, hread]
      simp
    · refine (accepts_ok xs).of_iff fun ys front => and_congr_left fun _ => ?_
      rw [← untilEmpty_eq_ok_iff hr hform, hread, Except.ok.injEq, eq_comm]
  refine (Accepts.content hall).of_iff fun xs front => ?_
  constructor
  · rintro ⟨parts, hparts, hfront⟩
    exact ⟨parts.flatten, ⟨parts, hparts, rfl⟩, hfront⟩
  · rintro ⟨content, ⟨parts, hparts, rfl⟩, hfront⟩
    exact ⟨parts, hparts, hfront⟩

end PeerLink.Reader
