import PeerLink.Proofs.Codec.Writing
import PeerLink.Proofs.Message.Decoding

/-! # The messages that are written

* `Wire.message`: the bytes of a message, as a function of its items.
* `Message.encode_eq_ok_iff`: writing gives these bytes exactly if the items are typed and the
  content is short enough for its length.
* `Message.messageForm_message`: they are in the grammar, for the items as a message carries them.

Main statement: `Message.encode_reads_back`.
-/

namespace PeerLink
set_option autoImplicit false

namespace Wire

/-- The content of a message: the sequences of the types, the keys and the values. -/
def body (items : List Item) : Bytes :=
  sequence (items.flatMap fun i => value (.integer i.type.code)) ++
    (sequence (items.flatMap fun i => value (.string i.key)) ++
      sequence (items.flatMap fun i => value i.value))

/-- The bytes of a message. -/
def message (items : List Item) : Bytes := sequence (body items)

theorem length_sequence (content : Bytes) : (sequence content).length = content.length + 6 := by
  simp only [sequence, List.length_cons, List.length_append, Bytes.length_bigEndian32]
  omega

theorem length_content_le (v : Value) : (content v).length ≤ (value v).length := by
  rw [value, element, List.length_cons, List.length_append]
  omega

theorem length_le_flatMap {α : Type} (bytes : α → Bytes) {xs : List α} {x : α} (hx : x ∈ xs) :
    (bytes x).length ≤ (xs.flatMap bytes).length := by
  obtain ⟨front, back, rfl⟩ := List.append_of_mem hx
  simp only [List.flatMap_append, List.flatMap_cons, List.length_append]
  omega

/-- Every content inside a message is shorter than the message's own. -/
theorem lengths_of_body {items : List Item} (h : (body items).length < 2 ^ 32) :
    (items.flatMap fun i => value (.integer i.type.code)).length < 2 ^ 32 ∧
    (items.flatMap fun i => value (.string i.key)).length < 2 ^ 32 ∧
    (items.flatMap fun i => value i.value).length < 2 ^ 32 := by
  simp only [body, List.length_append, length_sequence] at h
  omega

theorem length_content_of_body {items : List Item} (h : (body items).length < 2 ^ 32) {i : Item}
    (hi : i ∈ items) : (content (.integer i.type.code)).length < 2 ^ 32 ∧
      (content (.string i.key)).length < 2 ^ 32 ∧ (content i.value).length < 2 ^ 32 := by
  obtain ⟨htypes, hkeys, hvalues⟩ := lengths_of_body h
  have ht := length_le_flatMap (fun i : Item => value (.integer i.type.code)) hi
  have hk := length_le_flatMap (fun i : Item => value (.string i.key)) hi
  have hv := length_le_flatMap (fun i : Item => value i.value) hi
  exact ⟨by have := length_content_le (.integer i.type.code); omega,
    by have := length_content_le (.string i.key); omega,
    by have := length_content_le i.value; omega⟩

end Wire

namespace Message

/-! ## Checks -/

theorem check_eq_ok_iff (i : Item) : i.check = .ok () ↔ i.value.type = i.type := by
  obtain ⟨type, key, value⟩ := i
  cases value <;> cases type <;> simp [Item.check, ItemType.isReserved, Value.type]

theorem checkAll_eq_ok_iff (items : List Item) :
    checkAll items = .ok () ↔ ∀ i ∈ items, i.value.type = i.type := by
  induction items with
  | nil => simp [checkAll]
  | cons i items ih =>
    rw [checkAll, List.forall_mem_cons, ← check_eq_ok_iff, ← ih]
    cases i.check <;> simp

/-! ## Bytes -/

/-- Types and keys are written as values, too. -/
theorem encode_eq_values (items : List Item) : encode items = (do
    checkAll items
    let (message, e) := Encoder.empty.beginSequence
    let e ← e.sequenceOf (fun i => Encoder.value (.integer i.type.code)) items
    let e ← e.sequenceOf (fun i => Encoder.value (.string i.key)) items
    let e ← e.sequenceOf (fun i => Encoder.value i.value) items
    match e.endSequence message with
    | (.ok (), e) => .ok e.toBytes
    | (.error err, _) => .error err) := rfl

theorem encode_eq_message {items : List Item} (htyped : ∀ i ∈ items, i.value.type = i.type)
    (hsize : (Wire.body items).length < 2 ^ 32) : encode items = .ok (Wire.message items) := by
  obtain ⟨htypes, hkeys, hvalues⟩ := Wire.lengths_of_body hsize
  have hcontent := fun i (hi : i ∈ items) => Wire.length_content_of_body hsize hi
  have ht := fun e => (Encoder.sequenceOf_eq_ok_iff (fun i : Item => .integer i.type.code) items e
    _).mpr ⟨fun i hi => (hcontent i hi).1, htypes, rfl⟩
  have hk := fun e => (Encoder.sequenceOf_eq_ok_iff (fun i : Item => .string i.key) items e
    _).mpr ⟨fun i hi => (hcontent i hi).2.1, hkeys, rfl⟩
  have hv := fun e => (Encoder.sequenceOf_eq_ok_iff (fun i : Item => i.value) items e
    _).mpr ⟨fun i hi => (hcontent i hi).2.2, hvalues, rfl⟩
  have hend := Encoder.endSequence_beginSequence Encoder.empty hsize
  rw [Wire.body, ← Encoder.append_append, ← Encoder.append_append] at hend
  simp only [encode_eq_values, (checkAll_eq_ok_iff items).mpr htyped, ht, hk, hv, bind,
    Except.bind]
  rw [hend]
  exact congrArg Except.ok (Encoder.toBytes_append _ _)

/-- Nothing but an item that is not of its type, or a content that is too long for its length, keeps
a message from being written. -/
theorem encode_eq_ok_iff (items : List Item) (bs : Bytes) :
    encode items = .ok bs ↔ (∀ i ∈ items, i.value.type = i.type) ∧
      (Wire.body items).length < 2 ^ 32 ∧ bs = Wire.message items := by
  constructor
  · intro h
    rw [encode_eq_values] at h
    simp only [bind, Except.bind] at h
    split at h
    · cases h
    next hcheck =>
    split at h
    · cases h
    next afterTypes htypes =>
    split at h
    · cases h
    next afterKeys hkeys =>
    split at h
    · cases h
    next afterValues hvalues =>
    obtain ⟨-, -, rfl⟩ := (Encoder.sequenceOf_eq_ok_iff _ _ _ _).mp htypes
    obtain ⟨-, -, rfl⟩ := (Encoder.sequenceOf_eq_ok_iff _ _ _ _).mp hkeys
    obtain ⟨-, -, rfl⟩ := (Encoder.sequenceOf_eq_ok_iff _ _ _ _).mp hvalues
    have htyped := (checkAll_eq_ok_iff items).mp hcheck
    rw [Encoder.append_append, Encoder.append_append, ← Wire.body] at h
    by_cases hsize : (Wire.body items).length < 2 ^ 32
    · rw [Encoder.endSequence_beginSequence _ hsize] at h
      exact ⟨htyped, hsize, (Except.ok.inj h).symm.trans (Encoder.toBytes_append _ _)⟩
    · rw [Encoder.endSequence_of_long _ (Nat.not_lt.mp hsize)] at h
      cases h
  · rintro ⟨htyped, hsize, rfl⟩
    exact encode_eq_message htyped hsize

/-! ## Forms -/

theorem messageForm_message {items : List Item} (htyped : ∀ i ∈ items, i.value.type = i.type)
    (hsize : (Wire.body items).length < 2 ^ 32) :
    Grammar.MessageForm (items.map Item.dropZeroSign) (Wire.message items) := by
  obtain ⟨htypes, hkeys, hvalues⟩ := Wire.lengths_of_body hsize
  have hcontent := fun i (hi : i ∈ items) => Wire.length_content_of_body hsize hi
  refine ⟨_, _, _, ?_, ?_, ?_, Grammar.elementForm_sequence hsize⟩
  · refine Grammar.sequenceForm_sequence Item.dropZeroSign _ (fun i hi => ?_) htypes
    have hrange := code_range i.value
    rw [htyped i hi] at hrange
    exact ⟨hrange, Grammar.valueForm_value (.integer i.type.code) (hcontent i hi).1⟩
  · exact Grammar.sequenceForm_sequence Item.dropZeroSign _
      (fun i hi => Grammar.valueForm_value (.string i.key) (hcontent i hi).2.1) hkeys
  · refine Grammar.sequenceForm_sequence Item.dropZeroSign _ (fun i hi => ?_) hvalues
    exact ⟨(i.value.type_dropZeroSign).trans (htyped i hi),
      Grammar.valueForm_value i.value (hcontent i hi).2.2⟩

theorem manifest_message {items : List Item} (htyped : ∀ i ∈ items, i.value.type = i.type)
    (hsize : (Wire.body items).length < 2 ^ 32) :
    manifest (Wire.message items) = .ok (manifestOf items) := by
  obtain ⟨inner, values, hcontent, hmanifest, -⟩ :=
    manifest_of_messageForm (messageForm_message htyped hsize)
  have hsame : manifestOf (items.map Item.dropZeroSign) = manifestOf items := by
    simp only [manifestOf, List.map_map]
    rfl
  simp only [manifest, hcontent, bind, Except.bind, hmanifest, hsame]

/-- Typed items whose content is short enough for its length are written, and what was written is
read as the same items in the same order, but for the signs of zeros, under a manifest of their
types and keys. -/
theorem encode_reads_back (items : List Item) (htyped : ∀ i ∈ items, i.value.type = i.type)
    (hsize : (Wire.body items).length < 2 ^ 32) :
    encode items = .ok (Wire.message items) ∧
      decode (Wire.message items) = .ok (items.map Item.dropZeroSign) ∧
      manifest (Wire.message items) = .ok ⟨items.map (·.type), items.map (·.key)⟩ :=
  ⟨encode_eq_message htyped hsize, decode_of_messageForm (messageForm_message htyped hsize),
    manifest_message htyped hsize⟩

/-- Two items under one key, a zero with a sign and a text longer than a short length. -/
def sampleItems : List Item :=
  [.ofValue "k" (.real Binary64.negativeZero), .ofValue "" (.integer (-129)),
    .ofValue "k" (.binary (List.replicate 200 0x5a))]

theorem encode_reads_back_sample :
    (∀ i ∈ sampleItems, i.value.type = i.type) ∧ (Wire.body sampleItems).length < 2 ^ 32 ∧
      decode (Wire.message sampleItems) = .ok (sampleItems.map Item.dropZeroSign) := by
  have htyped : ∀ i ∈ sampleItems, i.value.type = i.type := by decide
  have hsize : (Wire.body sampleItems).length < 2 ^ 32 := by decide +kernel
  exact ⟨htyped, hsize, (encode_reads_back sampleItems htyped hsize).2.1⟩

end Message

end PeerLink
