import Mathlib.Algebra.Order.BigOperators.Group.List
import PeerLink.Proofs.Codec.Consumption
import PeerLink.Proofs.Message.Size

/-! # What an input is good for

A peer may send anything, with any lengths in it. Reading it ends, and what comes out of it is no
larger than what came in: an item takes at least seven bytes besides its key and its value.

* `Reader.Ends`: a loop over elements is over after at most one round for every two bytes.
* `Message.carried`: the bytes that an item holds.
* `Grammar.MessageForm.size_le`: how much a message of given items takes at least.

Main statement: `Message.decoding_is_bounded`.
-/

namespace PeerLink
set_option autoImplicit false

/-! ## Loops -/

namespace Reader

/-- The loop of a reader over all of an input comes to an end, and the bounded loop has the same
result. -/
def Ends {α : Type} (r : Reader α) (bs : Bytes) : Prop :=
  ∃ rounds, Loop r rounds bs (untilEmpty r bs) ∧ 2 * rounds ≤ bs.length + 1

theorem Consumes.ends {α : Type} {r : Reader α} (hr : Consumes 2 r) (bs : Bytes) : Ends r bs := by
  obtain ⟨rounds, hloop, hrounds⟩ := loop_untilEmpty hr (by decide) bs
  exact ⟨rounds, hloop, by omega⟩

end Reader

/-! ## Sizes -/

namespace Message

/-- The bytes of a text or of a byte string. -/
def carriedByValue : Value → Nat
  | .string s => s.utf8ByteSize
  | .binary bs => bs.length
  | _ => 0

def carried (i : Item) : Nat := i.key.utf8ByteSize + carriedByValue i.value

theorem consumes_typeCode : Reader.Consumes 2 typeCode := by
  refine Reader.consumes_integer.bind (l := 0) fun code => ?_
  split
  · exact Reader.consumes_ok _
  · exact Reader.consumes_fail _ _

end Message

namespace Grammar

theorem ElementForm.length_le {tag : UInt8} {content form : Bytes}
    (h : ElementForm tag content form) : content.length + 2 ≤ form.length := by
  obtain ⟨header, hheader, rfl⟩ := h.exists_header
  rw [List.length_append]
  omega

theorem Content.carried_le {v : Value} {content : Bytes} (h : Content v content) :
    Message.carriedByValue v ≤ content.length := by
  cases h with
  | string s => exact Nat.le_of_eq (Wire.length_text s).symm
  | binary bs => exact Nat.le_refl _
  | integer | boolean | zero | pattern => exact Nat.zero_le _

theorem ValueForm.carried_le {v : Value} {form : Bytes} (h : ValueForm v form) :
    Message.carriedByValue v + 2 ≤ form.length := by
  obtain ⟨content, hcontent, hform⟩ := h
  have hcarried := hcontent.carried_le
  have hlength := hform.length_le
  omega

/-- An integer has at least one byte. -/
theorem ValueForm.three_le {v : Int64} {form : Bytes} (h : ValueForm (.integer v) form) :
    3 ≤ form.length := by
  obtain ⟨content, hcontent, hform⟩ := h
  have hlength := hform.length_le
  cases hcontent with
  | integer _ _ some_byte => omega

theorem SequenceForm.sum_le {α : Type} {part : α → Bytes → Prop} (size : α → Nat) (k : Nat)
    (hpart : ∀ x front, part x front → size x + k ≤ front.length) {xs : List α} {form : Bytes}
    (h : SequenceForm part xs form) :
    (xs.map size).sum + k * xs.length + 2 ≤ form.length := by
  obtain ⟨parts, hparts, hform⟩ := h
  have hlength := hform.length_le
  have hsum : (xs.map size).sum + k * xs.length ≤ parts.flatten.length := by
    clear hlength hform
    induction hparts with
    | nil => exact Nat.le_refl 0
    | @cons x front xs parts hx _ ih =>
      have hfront := hpart x front hx
      simp only [List.map_cons, List.sum_cons, List.length_cons, List.flatten_cons,
        List.length_append, Nat.mul_succ]
      omega
  omega

/-- A message takes eight bytes, seven for every item, and all that the items hold. -/
theorem MessageForm.size_le {items : List Item} {bs : Bytes} (h : MessageForm items bs) :
    8 + 7 * items.length + (items.map Message.carried).sum ≤ bs.length := by
  obtain ⟨types, keys, values, htypes, hkeys, hvalues, hform⟩ := h
  have ht := htypes.sum_le (fun _ => 0) 3 fun _ _ hi => by
    have hthree := hi.2.three_le
    omega
  have hk := hkeys.sum_le (fun i => i.key.utf8ByteSize) 2 fun _ _ hi => hi.carried_le
  have hv := hvalues.sum_le (fun i => Message.carriedByValue i.value) 2
    fun _ _ hi => hi.2.carried_le
  have hlength := hform.length_le
  have hsum : (items.map Message.carried).sum = (items.map fun i => i.key.utf8ByteSize).sum +
      (items.map fun i => Message.carriedByValue i.value).sum := List.sum_map_add
  simp only [List.length_append] at hlength
  omega

end Grammar

namespace Message

/-- Every operation on every input leaves an end of it, and if it reads an element, takes at least
two bytes and answers with nothing but the content among them; so do operations one after another.
The loops over type codes, keys and surplus values end on every input. The items that are read from
one are no more, and hold no more bytes, than it has room for. -/
theorem decoding_is_bounded (bs : Bytes) :
    (∀ op : Reader.Operation, (op.perform bs).2 <:+ bs ∧
      ∀ answer rest, op.perform bs = (.ok answer, rest) → op.readsElement = true →
        ∃ header content, 2 ≤ header.length ∧ bs = header ++ (content ++ rest) ∧
          ∀ slice ∈ answer.slice?, slice = content) ∧
    (∀ ops, Reader.Operation.after ops bs <:+ bs ∧
      (Reader.Operation.after ops bs).length + 2 * Reader.Operation.elementsRead ops bs ≤
        bs.length) ∧
    (Reader.Ends typeCode bs ∧ Reader.Ends Reader.text bs ∧ Reader.Ends Reader.skip bs) ∧
    ∀ items, decode bs = .ok items →
      8 + 7 * items.length ≤ bs.length ∧ (items.map carried).sum ≤ bs.length := by
  refine ⟨fun op => ⟨op.consumes_perform.suffix bs, fun answer rest h hop => ?_⟩, fun ops => ?_,
    ⟨?_, ?_, ?_⟩, fun items h => ?_⟩
  · exact Reader.Operation.readsContent_of_ok hop h
  · exact ⟨Reader.Operation.after_suffix ops bs, Reader.Operation.length_after_le ops bs⟩
  · exact consumes_typeCode.ends bs
  · exact Reader.consumes_text.ends bs
  · exact Reader.consumes_skip.ends bs
  · have hsize := (messageForm_of_decode h).size_le
    omega

/-- An empty text under an empty key. No message of one item is shorter. -/
def leastMessage : Bytes := [0x30, 13, 0x30, 3, 0x02, 1, 3, 0x30, 2, 0x0c, 0, 0x30, 2, 0x0c, 0]

theorem decoding_is_bounded_leastMessage :
    (decode leastMessage = .ok [.ofValue "" (.string "")] ∧
      Reader.Operation.sequence.perform leastMessage = (.ok (.bytes (leastMessage.drop 2)), [])) ∧
    leastMessage.length = 8 + 7 * 1 ∧ 8 + 7 * 1 ≤ leastMessage.length ∧
    ∃ header content, 2 ≤ header.length ∧ leastMessage = header ++ (content ++ []) ∧
      leastMessage.drop 2 = content := by
  have hread : decode leastMessage = .ok [.ofValue "" (.string "")] := by decide +kernel
  have hsequence : Reader.Operation.sequence.perform leastMessage =
      (.ok (.bytes (leastMessage.drop 2)), []) := rfl
  obtain ⟨hoperations, -, -, hitems⟩ := decoding_is_bounded leastMessage
  obtain ⟨header, content, hheader, hsplit, hslice⟩ := (hoperations _).2 _ _ hsequence rfl
  exact ⟨⟨hread, hsequence⟩, rfl, (hitems _ hread).1, header, content, hheader, hsplit,
    hslice _ rfl⟩

end Message

end PeerLink
