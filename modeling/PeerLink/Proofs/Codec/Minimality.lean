import PeerLink.Proofs.Message.Canonical

/-! # Shortest forms

Integers and lengths are written in as few bytes as a reader would take for them. What is longer
than it has to be is read all the same, and comes out shortest when it is written again.

* `Encoder.WritesInteger`, `Encoder.WritesLength`: the bytes that an encoder writes, whatever it has
  written before.
* `Reader.ReadsInteger`: the integer that a content is read as, in an element of any form.
* `Grammar.content_suffix`: contents of one integer end alike, in the content that is written.

Main statements: `Integer.contents_are_minimal_and_exact`, `Length.forms_are_shortest`.
-/

namespace PeerLink
set_option autoImplicit false

/-! ## Contents of one integer -/

namespace Grammar

/-- Two's complement of a fixed length gives each number one byte string. -/
theorem eq_of_signedNumber_eq {as bs : Bytes} (hlength : as.length = bs.length)
    (h : signedNumber as = signedNumber bs) : as = bs := by
  have has := number_lt as
  have hbs := number_lt bs
  rw [hlength] at has
  rw [signedNumber, signedNumber, hlength] at h
  have hmod := congrArg (· % ((256 ^ bs.length : ℕ) : ℤ)) h
  simp only [Int.bmod_emod] at hmod
  rw [Int.emod_eq_of_lt (by omega) (by omega), Int.emod_eq_of_lt (by omega) (by omega),
    number_eq_toNat, number_eq_toNat] at hmod
  exact Bytes.eq_of_toNat_eq hlength (by omega)

/-- The number decides how many bytes are left of a content without its redundant ones, and so
which. -/
theorem dropRedundant_eq_of_signedNumber_eq {as bs : Bytes} (has : as ≠ []) (hbs : bs ≠ [])
    (h : signedNumber as = signedNumber bs) :
    Integer.dropRedundant as = Integer.dropRedundant bs := by
  have hkept : signedNumber (Integer.dropRedundant as) = signedNumber (Integer.dropRedundant bs) :=
    calc signedNumber (Integer.dropRedundant as) = signedNumber as :=
          (signedNumber_dropRedundant as has).1
      _ = signedNumber bs := h
      _ = signedNumber (Integer.dropRedundant bs) := (signedNumber_dropRedundant bs hbs).1.symm
  refine eq_of_signedNumber_eq ?_ hkept
  rw [length_dropRedundant has, length_dropRedundant hbs, hkept]

theorem dropRedundant_suffix (bs : Bytes) : Integer.dropRedundant bs <:+ bs := by
  fun_induction Integer.dropRedundant bs with
  | case1 lead next rest hredundant ih => exact ih.trans (List.suffix_cons lead (next :: rest))
  | case2 lead next rest hkept => exact List.suffix_rfl
  | case3 bs hshort => exact List.suffix_rfl

theorem content_suffix {v : Int64} {bs : Bytes} (h : Content (.integer v) bs) :
    Integer.content v <:+ bs := by
  cases h with
  | integer _ _ some_byte _ denotes =>
    have hne : bs ≠ [] := List.length_pos_iff.mp some_byte
    have hsame : Integer.content v = Integer.dropRedundant bs :=
      dropRedundant_eq_of_signedNumber_eq (List.cons_ne_nil _ _) hne
        ((signedNumber_bigEndian64 v).trans denotes)
    rw [hsame]
    exact dropRedundant_suffix bs

end Grammar

/-! ## Integers -/

/-- What an encoder writes for an integer: a tag, the length of the content in one byte, and the
content. -/
def Encoder.WritesInteger (v : Int64) (content : Bytes) : Prop :=
  ∀ e : Encoder, (e.integer v).toBytes =
    e.toBytes ++ Tag.integer :: UInt8.ofNat content.length :: content

theorem Encoder.writesInteger_content (v : Int64) : WritesInteger v (Integer.content v) :=
  fun e => toBytes_append e _

namespace Reader

/-- An element of this content is read as an integer, whatever follows it and in whatever form its
length is given. -/
def ReadsInteger (content : Bytes) (v : Int64) : Prop :=
  ∀ form rest, Grammar.ElementForm Tag.integer content form →
    integer (form ++ rest) = (.ok v, rest)

theorem readsInteger_of_content {v : Int64} {content : Bytes}
    (h : Grammar.Content (.integer v) content) : ReadsInteger content v :=
  fun form rest hform => (accepts_integer.append_iff form rest v).mpr ⟨content, h, hform⟩

/-- The element at the front of an input has one content. -/
theorem content_of_readsInteger {v : Int64} {content form rest last : Bytes}
    (hform : Grammar.ElementForm Tag.integer content form)
    (hread : integer (form ++ rest) = (.ok v, last)) : Grammar.Content (.integer v) content := by
  obtain ⟨front, ⟨other, hother, hfront⟩, hsplit⟩ := (accepts_integer _ v last).mp hread
  have hhere : element Tag.integer (form ++ rest) = (.ok content, rest) :=
    ((accepts_element Tag.integer).append_iff form rest content).mpr hform
  have hthere : element Tag.integer (form ++ rest) = (.ok other, last) :=
    (accepts_element Tag.integer _ other last).mpr ⟨front, hfront, hsplit⟩
  rw [hhere, Prod.mk.injEq, Except.ok.injEq] at hthere
  rw [hthere.1]
  exact hother

end Reader

namespace Integer

/-- What is written for an integer has the fewest bytes whose two's complement has room for it, is
read back as the integer, and has no more bytes than any content that is read as it. Any one to
eight bytes are read as their number in two's complement, and what is written for that is how they
end. -/
theorem contents_are_minimal_and_exact :
    (∀ v : Int64, ∃ content, Encoder.WritesInteger v content ∧
      IsLeast {k | 1 ≤ k ∧ -2 ^ (8 * k - 1) ≤ v.toInt ∧ v.toInt < 2 ^ (8 * k - 1)}
        content.length ∧
      (∀ rest, Reader.integer ((Encoder.empty.integer v).toBytes ++ rest) = (.ok v, rest)) ∧
      ∀ other form rest last, Grammar.ElementForm Tag.integer other form →
        Reader.integer (form ++ rest) = (.ok v, last) → content.length ≤ other.length) ∧
    ∀ content : Bytes, 1 ≤ content.length → content.length ≤ 8 →
      ∃ v : Int64, v.toInt = Grammar.signedNumber content ∧ Reader.ReadsInteger content v ∧
        ∃ kept, Encoder.WritesInteger v kept ∧ kept <:+ content := by
  constructor
  · intro v
    obtain ⟨hdenotes, hsome, hfew⟩ := Grammar.signedNumber_content v
    have hwrites := Encoder.writesInteger_content v
    have hread := Reader.readsInteger_of_content (.integer v (content v) hsome hfew hdenotes)
    refine ⟨content v, hwrites, ?_, ?_, ?_⟩
    · rw [Wire.length_integer]
      exact Wire.isLeast_width v
    · intro rest
      have hlength : Grammar.LengthForm (content v).length [UInt8.ofNat (content v).length] :=
        .short _ (by omega)
      rw [hwrites Encoder.empty]
      exact hread _ rest ⟨_, hlength, rfl⟩
    · intro other form rest last hform hother
      exact (Reader.content_of_readsInteger hform hother).length_content_le
  · intro bs hsome hfew
    have hnumber := Grammar.toInt_ofContent hfew
    have hcontent : Grammar.Content (.integer (ofContent bs)) bs := .integer _ bs hsome hfew hnumber
    exact ⟨ofContent bs, hnumber, Reader.readsInteger_of_content hcontent,
      content (ofContent bs), Encoder.writesInteger_content _, Grammar.content_suffix hcontent⟩

/-- A number with one byte more than it needs, under a length with one byte more than it needs. -/
def paddedElement : Bytes := [0x02, 0x81, 0x03, 0xff, 0xff, 0x7f]

theorem contents_are_minimal_and_exact_padded :
    Grammar.ElementForm Tag.integer [0xff, 0xff, 0x7f] paddedElement ∧
      Reader.integer (paddedElement ++ [0x30]) = (.ok (-129), [0x30]) ∧
      (∃ kept, Encoder.WritesInteger (-129) kept ∧ kept <:+ [0xff, 0xff, 0x7f]) ∧
      ∃ content, Encoder.WritesInteger (-129) content ∧ content.length ≤ 3 := by
  have hform : Grammar.ElementForm Tag.integer [0xff, 0xff, 0x7f] paddedElement :=
    ⟨[0x81, 0x03], .long [0x03] (by decide) (by decide), rfl⟩
  obtain ⟨hleast, hexact⟩ := contents_are_minimal_and_exact
  obtain ⟨v, hnumber, hreads, hagain⟩ := hexact [0xff, 0xff, 0x7f] (by decide) (by decide)
  obtain rfl : v = -129 := Int64.toInt_inj.mp (hnumber.trans (by decide))
  have hread := hreads paddedElement [0x30] hform
  obtain ⟨content, hwrites, -, -, hshortest⟩ := hleast (-129)
  exact ⟨hform, hread, hagain, content, hwrites, hshortest _ _ _ _ hform hread⟩

end Integer

/-! ## Lengths -/

/-- What an encoder writes for a length. -/
def Encoder.WritesLength (n : Nat) (form : Bytes) : Prop :=
  ∀ e : Encoder, e.length n = (.ok (), e.append form)

theorem Encoder.writesLength_length {n : Nat} (h : n < 2 ^ 32) :
    WritesLength n (Wire.length n) := by
  intro e
  rw [length, Length.encode?_isSome h]

theorem Encoder.length_of_overflow {n : Nat} (h : 2 ^ 32 ≤ n) (e : Encoder) :
    e.length n = (.error (.lengthOverflow n), e) := by
  rw [length, Length.encode?_of_overflow h]

namespace Length

/-- A length that fits four bytes is written so that exactly its form is read back from the front of
any input, and of all forms that are read as it this is the shortest. Whatever is read as a length
fits four bytes and was no shorter than what is written for it. Other lengths are refused and
nothing is written for them. -/
theorem forms_are_shortest :
    (∀ n, n < 2 ^ 32 → ∃ form, Encoder.WritesLength n form ∧
      (∀ rest, read (form ++ rest) = (.ok n, rest)) ∧
      IsLeast {k | ∃ other rest, read (other ++ rest) = (.ok n, rest) ∧ other.length = k}
        form.length) ∧
    (∀ bs n rest, read bs = (.ok n, rest) → n < 2 ^ 32 ∧
      ∃ front form, bs = front ++ rest ∧ Encoder.WritesLength n form ∧
        form.length ≤ front.length) ∧
    ∀ n (e : Encoder), ((e.length n).1.isOk = false ↔ 2 ^ 32 ≤ n) ∧
      (2 ^ 32 ≤ n → e.length n = (.error (.lengthOverflow n), e)) := by
  refine ⟨?_, ?_, ?_⟩
  · intro n hn
    have hback : ∀ rest, read (Wire.length n ++ rest) = (.ok n, rest) := fun rest =>
      (Reader.accepts_length.append_iff _ rest n).mpr (Grammar.lengthForm_length hn)
    refine ⟨Wire.length n, Encoder.writesLength_length hn, hback, ⟨_, [], hback [], rfl⟩, ?_⟩
    rintro k ⟨other, rest, hread, rfl⟩
    rw [Wire.length_length hn]
    exact ((Reader.accepts_length.append_iff other rest n).mp hread).lengthSize_le
  · intro bs n rest hread
    obtain ⟨front, hform, hsplit⟩ := (Reader.accepts_length bs n rest).mp hread
    refine ⟨hform.lt, front, Wire.length n, hsplit, Encoder.writesLength_length hform.lt, ?_⟩
    rw [Wire.length_length hform.lt]
    exact hform.lengthSize_le
  · intro n e
    refine ⟨⟨fun hfails => ?_, fun hlong => ?_⟩, fun hlong => Encoder.length_of_overflow hlong e⟩
    · by_contra hshort
      rw [Encoder.writesLength_length (Nat.not_le.mp hshort) e] at hfails
      cases hfails
    · rw [Encoder.length_of_overflow hlong e]
      rfl

/-- A length of two bytes that is given in three, and a byte behind it. -/
def paddedLength : Bytes := [0x83, 0x00, 0x01, 0x2c, 0x30]

theorem forms_are_shortest_padded :
    (300 < 2 ^ 32 ∧ read paddedLength = (.ok 300, [0x30])) ∧
      (∃ form, Encoder.WritesLength 300 form ∧ read (form ++ [0x30]) = (.ok 300, [0x30])) ∧
      (∃ front form, paddedLength = front ++ [0x30] ∧ Encoder.WritesLength 300 form ∧
        form.length ≤ front.length) ∧
      Encoder.empty.length (2 ^ 32) = (.error (.lengthOverflow (2 ^ 32)), Encoder.empty) := by
  have hread : read paddedLength = (.ok 300, [0x30]) := rfl
  obtain ⟨hwritten, hanyForm, hlimit⟩ := forms_are_shortest
  obtain ⟨form, hwrites, hback, -⟩ := hwritten 300 (by decide)
  obtain ⟨hfits, hshort⟩ := hanyForm paddedLength 300 [0x30] hread
  exact ⟨⟨hfits, hread⟩, ⟨form, hwrites, hback [0x30]⟩, hshort,
    (hlimit (2 ^ 32) Encoder.empty).2 le_rfl⟩

end Length

end PeerLink
