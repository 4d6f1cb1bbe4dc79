import PeerLink.Proofs.Message.Size

/-! # The form that messages settle in

A reader takes lengths and integers with leading zeros, long forms of short lengths, any byte but
zero for true, and both zeros bit by bit. Writing what was read makes a message that writing and
reading do not change any more.

* `Grammar.LengthForm.lengthSize_le`, `Grammar.Content.length_content_le`: no form is shorter than
  the one that is written.
* `Grammar.MessageForm.length_body_le`: a message that was read is hardly longer when it is written.
* `Wire.message_dropZeroSign`: the sign of a zero is not written.

Main statement: `Message.recoding_settles`.
-/

namespace PeerLink
set_option autoImplicit false

/-! ## What is written is shortest -/

namespace Wire

theorem octets_mono {m n : ℕ} (h : m ≤ n) : octets m ≤ octets n :=
  Nat.succ_le_succ (Nat.log_mono_right h)

theorem lengthSize_mono {m n : ℕ} (h : m ≤ n) : lengthSize m ≤ lengthSize n := by
  have hoctets := octets_mono h
  rw [lengthSize, lengthSize]
  split <;> split <;> omega

end Wire

namespace Grammar

theorem LengthForm.lt {n : ℕ} {form : Bytes} (h : LengthForm n form) : n < 2 ^ 32 := by
  cases h with
  | short _ small => omega
  | long digits _ few_digits =>
    calc number digits < 256 ^ digits.length := number_lt digits
      _ ≤ 256 ^ 4 := Nat.pow_le_pow_right (by decide) few_digits

theorem LengthForm.lengthSize_le {n : ℕ} {form : Bytes} (h : LengthForm n form) :
    Wire.lengthSize n ≤ form.length := by
  rw [Wire.lengthSize]
  cases h with
  | short _ small => rw [if_pos small, List.length_singleton]
  | long digits some_digit _ =>
    have hoctets := (Wire.octets_le_iff some_digit).mpr (number_lt digits)
    rw [List.length_cons]
    split <;> omega

theorem Content.length_content_le {v : Value} {bs : Bytes} (h : Content v bs) :
    (Wire.content v).length ≤ bs.length := by
  cases h with
  | integer v bs some_byte _ denotes =>
    have hne : bs ≠ [] := List.length_pos_iff.mp some_byte
    rw [Wire.content, Wire.length_integer, Wire.width, denotes]
    exact (Wire.octets_le_iff some_byte).mpr (magnitude_signedNumber_lt hne)
  | boolean b => rfl
  | zero => rfl
  | pattern bits bs eight _ =>
    rw [Wire.content]
    split
    · exact Nat.zero_le _
    · simp [eight]
  | string s => rfl
  | binary bs => rfl

theorem ValueForm.length_value_le {v : Value} {form : Bytes} (h : ValueForm v form) :
    (Wire.value v).length ≤ form.length := by
  obtain ⟨content, hcontent, length, hlength, rfl⟩ := h
  have hshort := hcontent.length_content_le
  have hsize := Wire.lengthSize_mono hshort
  have hform := hlength.lengthSize_le
  rw [Wire.value, Wire.length_element _ (Nat.lt_of_le_of_lt hshort hlength.lt), Wire.elementSize,
    List.length_cons, List.length_append]
  omega

/-- A sequence is written with four bytes for its length, where one may have been read. -/
theorem SequenceForm.length_sequence_le {α : Type} {part : α → Bytes → Prop} (bytes : α → Bytes)
    (hpart : ∀ x form, part x form → (bytes x).length ≤ form.length) {xs : List α} {form : Bytes}
    (h : SequenceForm part xs form) :
    (Wire.sequence (xs.flatMap bytes)).length ≤ form.length + 4 := by
  obtain ⟨parts, hparts, length, hlength, rfl⟩ := h
  have hcontent : (xs.flatMap bytes).length ≤ parts.flatten.length := by
    clear hlength
    induction hparts with
    | nil => exact Nat.le_refl 0
    | @cons x front xs parts hx _ ih =>
      have hfront := hpart x front hx
      rw [List.flatMap_cons, List.flatten_cons, List.length_append, List.length_append]
      omega
  have hone := hlength.one_le
  rw [Wire.length_sequence, List.length_cons, List.length_append]
  omega

theorem MessageForm.length_body_le {items : List Item} {bs : Bytes} (h : MessageForm items bs) :
    (Wire.body items).length ≤ bs.length + 10 := by
  obtain ⟨types, keys, values, htypes, hkeys, hvalues, length, hlength, rfl⟩ := h
  have ht := htypes.length_sequence_le (fun i => Wire.value (.integer i.type.code))
    fun _ _ hi => hi.2.length_value_le
  have hk := hkeys.length_sequence_le (fun i => Wire.value (.string i.key))
    fun _ _ hi => hi.length_value_le
  have hv := hvalues.length_sequence_le (fun i => Wire.value i.value)
    fun _ _ hi => hi.2.length_value_le
  have hone := hlength.one_le
  simp only [Wire.body, List.length_append, List.length_cons]
  omega

end Grammar

/-! ## Zeros -/

namespace Wire

theorem content_dropZeroSign (v : Value) : content v.dropZeroSign = content v := by
  cases v with
  | real r =>
    by_cases hzero : r.isZero = true
    · rw [Value.dropZeroSign, Binary64.dropZeroSign_of_isZero hzero, content, content, if_pos hzero]
      rfl
    · rw [Value.dropZeroSign, Binary64.dropZeroSign_of_not_isZero hzero]
  | _ => rfl

theorem value_dropZeroSign (v : Value) : value v.dropZeroSign = value v := by
  have htag : Grammar.tag v.dropZeroSign = Grammar.tag v := by cases v <;> rfl
  rw [value, value, content_dropZeroSign, htag]

theorem message_dropZeroSign (items : List Item) :
    message (items.map Item.dropZeroSign) = message items := by
  simp only [message, body, List.flatMap_map, Item.dropZeroSign, value_dropZeroSign]

end Wire

/-! ## Messages -/

namespace Message

theorem typed_of_messageForm {items : List Item} {bs : Bytes} (h : Grammar.MessageForm items bs) :
    ∀ i ∈ items, i.value.type = i.type := by
  obtain ⟨_, _, _, _, _, ⟨_, hparts, _⟩, _⟩ := h
  exact typed_of_forms hparts

/-- The items of a message that was read can be written. What is written is read as the same items
but for the signs of zeros, and writing these gives the same bytes. A message that was written comes
out as it was. -/
theorem recoding_settles (bs : Bytes) (hsize : bs.length < 2 ^ 31) (items : List Item)
    (hread : decode bs = .ok items) :
    ∃ settled, encode items = .ok settled ∧
      decode settled = .ok (items.map Item.dropZeroSign) ∧
      encode (items.map Item.dropZeroSign) = .ok settled ∧
      ((∃ source, encode source = .ok bs) → settled = bs) := by
  have hform := messageForm_of_decode hread
  have htyped := typed_of_messageForm hform
  -- four sequences may each take four length bytes where one was read, far from the limit
  have hbody : (Wire.body items).length < 2 ^ 32 := by
    have hle := hform.length_body_le
    omega
  have hagain := messageForm_message htyped hbody
  refine ⟨Wire.message items, encode_eq_message htyped hbody, decode_of_messageForm hagain, ?_, ?_⟩
  · have htyped' := typed_of_messageForm hagain
    rw [← Wire.message_dropZeroSign]
    refine encode_eq_message htyped' ?_
    have hlength := congrArg List.length (Wire.message_dropZeroSign items)
    simp only [Wire.message, Wire.length_sequence] at hlength
    omega
  · rintro ⟨source, hsource⟩
    obtain ⟨hsourceTyped, hsourceSize, rfl⟩ := (encode_eq_ok_iff source bs).mp hsource
    have hdecode := decode_of_messageForm (messageForm_message hsourceTyped hsourceSize)
    rw [hdecode, Except.ok.injEq] at hread
    rw [← hread, Wire.message_dropZeroSign]

/-- A zero with a sign, under a type and a key that take more bytes than they need. -/
def paddedMessage : Bytes :=
  [0x30, 25, 0x30, 4, 0x02, 2, 0, 2, 0x30, 4, 0x0c, 0x81, 1, 0x6b,
    0x30, 11, 0x09, 9, 0x03, 0x80, 0, 0, 0, 0, 0, 0, 0]

theorem recoding_settles_padded :
    paddedMessage.length < 2 ^ 31 ∧
      decode paddedMessage = .ok [.ofValue "k" (.real Binary64.negativeZero)] ∧
      ∃ settled, encode [.ofValue "k" (.real Binary64.negativeZero)] = .ok settled ∧
        decode settled = .ok [.ofValue "k" (.real Binary64.zero)] ∧
        encode [.ofValue "k" (.real Binary64.zero)] = .ok settled ∧
        ((∃ source, encode source = .ok paddedMessage) → settled = paddedMessage) := by
  have hsize : paddedMessage.length < 2 ^ 31 := by decide
  have hread : decode paddedMessage = .ok [.ofValue "k" (.real Binary64.negativeZero)] := rfl
  exact ⟨hsize, hread, recoding_settles paddedMessage hsize _ hread⟩

end Message

end PeerLink
