import PeerLink.Proofs.Codec.Nesting
import PeerLink.Proofs.Message.Decoding

/-! # Reading by shape

A reader that knows how elements are nested, and of which type each value is, gets back what was
written.

* `Shape`: a tree without its values.
* `Reader.whole`: a reader over the content of a sequence, which must read all of it.
* `Reader.tree`: reads an element of a given shape.

Main statement: `Reader.written_tree_is_read`, whatever follows the element.
-/

namespace PeerLink
set_option autoImplicit false

/-- How elements are nested, and of which type each value is. -/
inductive Shape where
  | value (type : ItemType)
  | sequence (children : List Shape)

mutual

def Tree.shape : Tree → Shape
  | .value v => .value v.type
  | .sequence children => .sequence (Tree.shapes children)

def Tree.shapes : List Tree → List Shape
  | [] => []
  | t :: ts => t.shape :: Tree.shapes ts

end

mutual

/-- An element as it is read back: the sign of a zero is lost. -/
def Tree.dropZeroSign : Tree → Tree
  | .value v => .value v.dropZeroSign
  | .sequence children => .sequence (Tree.dropZeroSigns children)

def Tree.dropZeroSigns : List Tree → List Tree
  | [] => []
  | t :: ts => t.dropZeroSign :: Tree.dropZeroSigns ts

end

namespace Reader

variable {α : Type}

/-! ## Readers of a shape -/

/-- What a reader makes of a byte string, all of which it has to read. -/
def whole (r : Reader α) (bs : Bytes) : Except CodecError α :=
  (r.andThen (fun a => finish.andThen fun () => ok a) bs).1

mutual

/-- An element of a given shape. -/
def tree : Shape → Reader Tree
  | .value type => do ok (.value (← Message.readValue type))
  | .sequence children => do ok (.sequence (← ofExcept (whole (trees children) (← sequence))))

/-- Elements of given shapes, one after another. -/
def trees : List Shape → Reader (List Tree)
  | [] => ok []
  | s :: ss => do
    let t ← tree s
    let ts ← trees ss
    ok (t :: ts)

end

theorem bind_of_ok {β : Type} {r : Reader α} {f : α → Reader β} {bs rest last : Bytes} {a : α}
    {b : β} (hr : r bs = (.ok a, rest)) (hf : f a rest = (.ok b, last)) :
    (r >>= f) bs = (.ok b, last) :=
  (bind_eq_ok_iff r f bs last b).mpr ⟨a, rest, hr, hf⟩

theorem whole_of_ok {r : Reader α} {bs : Bytes} {a : α} (h : r bs = (.ok a, [])) :
    whole r bs = .ok a := by
  rw [whole, andThen, h]
  rfl

/-! ## Written elements -/

mutual

theorem tree_wire (t : Tree) (h : t.Short) (rest : Bytes) :
    tree t.shape (Wire.tree t ++ rest) = (.ok t.dropZeroSign, rest) := by
  cases t with
  | value v =>
    rw [Tree.Short] at h
    have hread := (Message.accepts_readValue v.type _ _ rest).mpr
      ⟨_, ⟨v.type_dropZeroSign, Grammar.valueForm_value v h⟩, rfl⟩
    exact bind_of_ok hread rfl
  | sequence children =>
    rw [Tree.Short] at h
    have hcontent : sequence (Wire.sequence (Wire.trees children) ++ rest) =
        (.ok (Wire.trees children), rest) :=
      (accepts_sequence _ _ rest).mpr ⟨_, Grammar.elementForm_sequence h.2, rfl⟩
    have hchildren := trees_wire children h.1 []
    rw [List.append_nil] at hchildren
    -- the reader of the content has nothing left, whatever follows the sequence
    refine bind_of_ok hcontent (bind_of_ok ?_ rfl)
    rw [whole_of_ok hchildren]
    rfl

theorem trees_wire (ts : List Tree) (h : Tree.AllShort ts) (rest : Bytes) :
    trees (Tree.shapes ts) (Wire.trees ts ++ rest) = (.ok (Tree.dropZeroSigns ts), rest) := by
  cases ts with
  | nil => rfl
  | cons t ts =>
    rw [Tree.AllShort] at h
    rw [Wire.trees, List.append_assoc]
    exact bind_of_ok (tree_wire t h.1 _) (bind_of_ok (trees_wire ts h.2 rest) rfl)

end

theorem skip_wire (t : Tree) (h : t.Short) (rest : Bytes) :
    skip (Wire.tree t ++ rest) = (.ok (), rest) := by
  refine (accepts_skip _ _ rest).mpr ⟨_, ?_, rfl⟩
  cases t with
  | value v =>
    rw [Tree.Short] at h
    exact ⟨_, _, Grammar.elementForm_element (Grammar.tag v) h⟩
  | sequence children =>
    rw [Tree.Short] at h
    exact ⟨_, _, Grammar.elementForm_sequence h.2⟩

/-- What an encoder writes for an element whose contents are short enough for their lengths is read
back by the shape of the element, but for the signs of zeros, and passed over as one element. Either
way exactly what follows it is left. -/
theorem written_tree_is_read (t : Tree) (h : t.Short) (rest : Bytes) :
    ∃ written : Encoder,
      Encoder.run t.calls ⟨Encoder.empty, []⟩ = (.ok (), ⟨written, []⟩) ∧
      tree t.shape (written.toBytes ++ rest) = (.ok t.dropZeroSign, rest) ∧
      skip (written.toBytes ++ rest) = (.ok (), rest) := by
  have hrun := Encoder.run_calls t h [] Encoder.empty []
  have hbytes : (Encoder.empty.append (Wire.tree t)).toBytes = Wire.tree t :=
    Encoder.toBytes_append _ _
  rw [List.append_nil] at hrun
  refine ⟨_, hrun, ?_, ?_⟩
  · rw [hbytes]
    exact tree_wire t h rest
  · rw [hbytes]
    exact skip_wire t h rest

/-- A zero with a sign, an empty sequence and, in another one, a content longer than a short
length. -/
def sampleTree : Tree :=
  .sequence [.value (.real Binary64.negativeZero), .sequence [],
    .sequence [.value (.binary (List.replicate 200 0x5a)), .value (.integer (-129))]]

theorem written_tree_is_read_sample :
    sampleTree.Short ∧ ∃ written : Encoder,
      Encoder.run sampleTree.calls ⟨Encoder.empty, []⟩ = (.ok (), ⟨written, []⟩) ∧
      tree sampleTree.shape (written.toBytes ++ [0x30]) =
        (.ok (.sequence [.value (.real Binary64.zero), .sequence [],
          .sequence [.value (.binary (List.replicate 200 0x5a)), .value (.integer (-129))]]),
          [0x30]) ∧
      skip (written.toBytes ++ [0x30]) = (.ok (), [0x30]) := by
  have hshort : sampleTree.Short := by
    simp only [sampleTree, Tree.AllShort, Tree.Short, Wire.trees, Wire.tree, and_true, true_and]
    decide +kernel
  exact ⟨hshort, written_tree_is_read sampleTree hshort [0x30]⟩

end Reader

end PeerLink
