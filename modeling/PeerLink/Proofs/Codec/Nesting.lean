import PeerLink.Proofs.Codec.Writing

/-! # Nested sequences

An encoder fills in the length of a sequence when it is closed, while the sequences around it are
still open. What comes out is nevertheless what a recursion over the nesting writes.

* `Tree`: an element with everything inside it; `Wire.tree` writes it content first.
* `Encoder.Call`, `Encoder.run`: a program of encoder calls, with the marks of the sequences that
  are open kept as a stack.
* `Encoder.Call.balanced`: every sequence that is opened is closed, and no other.
* `Encoder.Pending`: behind each open mark there is an unfilled length and the content so far.

Main statement: `Encoder.balanced_writes_trees`. It joins `Encoder.run_calls`, the induction over
the nesting, with `Encoder.Pending.run`, which is kept by every call of any program.
-/

namespace PeerLink
set_option autoImplicit false

/-! ## Trees -/

/-- An element: a value, or a sequence of elements. -/
inductive Tree where
  | value (v : Value)
  | sequence (children : List Tree)

mutual

/-- The bytes of an element; a sequence is written around the bytes of its content. -/
def Wire.tree : Tree → Bytes
  | .value v => Wire.value v
  | .sequence children => Wire.sequence (Wire.trees children)

/-- The bytes of elements one after another. -/
def Wire.trees : List Tree → Bytes
  | [] => []
  | t :: ts => Wire.tree t ++ Wire.trees ts

end

mutual

/-- Every content in an element has a length of at most four bytes. -/
def Tree.Short : Tree → Prop
  | .value v => (Wire.content v).length < 2 ^ 32
  | .sequence children => Tree.AllShort children ∧ (Wire.trees children).length < 2 ^ 32

/-- Every content in some elements has a length of at most four bytes. -/
def Tree.AllShort : List Tree → Prop
  | [] => True
  | t :: ts => t.Short ∧ Tree.AllShort ts

end

namespace Encoder

/-! ## Programs -/

/-- A call to an encoder. -/
inductive Call where
  | value (v : Value)
  | beginSequence
  /-- Closes the innermost open sequence. -/
  | endSequence

/-- An encoder in use, with the marks of the open sequences, innermost first. -/
structure Draft where
  encoder : Encoder
  marks : List Mark

/-- One call. To close a sequence takes a mark, so without one there is nothing to call. -/
def Call.perform (d : Draft) : Call → Except CodecError Unit × Draft
  | .value v => ((d.encoder.value v).1, { d with encoder := (d.encoder.value v).2 })
  | .beginSequence => (.ok (), ⟨d.encoder.beginSequence.2, d.encoder.beginSequence.1 :: d.marks⟩)
  | .endSequence =>
    match d.marks with
    | [] => (.ok (), d)
    | m :: marks => ((d.encoder.endSequence m).1, ⟨(d.encoder.endSequence m).2, marks⟩)

/-- A program, up to the first call that fails. -/
def run : List Call → Draft → Except CodecError Unit × Draft
  | [], d => (.ok (), d)
  | call :: calls, d =>
    match call.perform d with
    | (.ok (), d) => run calls d
    | (.error e, d) => (.error e, d)

/-- Whether a program closes the sequences that are open before it and those that it opens, each
once. -/
def Call.balanced : ℕ → List Call → Bool
  | depth, [] => depth == 0
  | depth, .value _ :: calls => balanced depth calls
  | depth, .beginSequence :: calls => balanced (depth + 1) calls
  | 0, .endSequence :: _ => false
  | depth + 1, .endSequence :: calls => balanced depth calls

end Encoder

mutual

/-- The calls that write an element. -/
def Tree.calls : Tree → List Encoder.Call
  | .value v => [.value v]
  | .sequence children => .beginSequence :: (Tree.callsAll children ++ [.endSequence])

/-- The calls that write elements one after another. -/
def Tree.callsAll : List Tree → List Encoder.Call
  | [] => []
  | t :: ts => t.calls ++ Tree.callsAll ts

end

namespace Encoder

/-! ## Balanced programs are those of trees -/

/-- A program that closes what is open writes some elements first, and then ends or closes the
innermost of the open sequences. -/
theorem Call.exists_trees_of_balanced (calls : List Call) (depth : ℕ)
    (h : balanced depth calls = true) :
    ∃ trees rest, calls = Tree.callsAll trees ++ rest ∧
      (depth = 0 ∧ rest = [] ∨
        ∃ outer after, depth = outer + 1 ∧ rest = .endSequence :: after ∧
          balanced outer after = true) := by
  -- the rest behind an inner sequence is not the tail of the program, hence the length
  induction hn : calls.length using Nat.strong_induction_on generalizing calls depth with
  | _ n ih =>
    subst hn
    cases calls with
    | nil => exact ⟨[], [], rfl, .inl ⟨by simpa [balanced] using h, rfl⟩⟩
    | cons call calls =>
      cases call with
      | value v =>
        obtain ⟨trees, rest, rfl, hrest⟩ := ih calls.length (by simp) calls depth h rfl
        exact ⟨.value v :: trees, rest, by simp [Tree.callsAll, Tree.calls], hrest⟩
      | beginSequence =>
        obtain ⟨children, _, rfl, ⟨hdepth, -⟩ | ⟨outer, after, hdepth, rfl, hafter⟩⟩ :=
          ih calls.length (by simp) calls (depth + 1) h rfl
        · exact absurd hdepth (Nat.succ_ne_zero depth)
        · obtain rfl := Nat.succ.inj hdepth
          obtain ⟨trees, rest, rfl, hrest⟩ := ih after.length (by simp; omega) after depth hafter rfl
          exact ⟨.sequence children :: trees, rest, by simp [Tree.callsAll, Tree.calls], hrest⟩
      | endSequence =>
        cases depth with
        | zero => cases h
        | succ outer => exact ⟨[], _, rfl, .inr ⟨outer, calls, rfl, rfl, h⟩⟩

theorem Call.exists_callsAll_of_balanced {calls : List Call} (h : balanced 0 calls = true) :
    ∃ trees, calls = Tree.callsAll trees := by
  obtain ⟨trees, rest, rfl, ⟨-, rfl⟩ | ⟨outer, _, hdepth, -⟩⟩ :=
    exists_trees_of_balanced calls 0 h
  · exact ⟨trees, List.append_nil _⟩
  · exact absurd hdepth.symm (Nat.succ_ne_zero outer)

/-! ## What a program writes -/

mutual

theorem run_calls (t : Tree) (h : t.Short) (rest : List Call) (e : Encoder) (marks : List Mark) :
    run (t.calls ++ rest) ⟨e, marks⟩ = run rest ⟨e.append (Wire.tree t), marks⟩ := by
  cases t with
  | value v =>
    rw [Tree.Short] at h
    simp only [Tree.calls, List.cons_append, List.nil_append, run, Call.perform,
      value_eq_append v h e, Wire.tree]
  | sequence children =>
    rw [Tree.Short] at h
    have hcontent := run_callsAll children h.1 (.endSequence :: rest) e.beginSequence.2
      (e.beginSequence.1 :: marks)
    simp only [Tree.calls, List.cons_append, List.append_assoc, List.nil_append, Wire.tree]
    rw [run]
    simp only [Call.perform]
    rw [hcontent, run]
    simp only [Call.perform, endSequence_beginSequence e h.2]

theorem run_callsAll (ts : List Tree) (h : Tree.AllShort ts) (rest : List Call) (e : Encoder)
    (marks : List Mark) :
    run (Tree.callsAll ts ++ rest) ⟨e, marks⟩ = run rest ⟨e.append (Wire.trees ts), marks⟩ := by
  cases ts with
  | nil => simp only [Tree.callsAll, Wire.trees, List.nil_append, append_nil]
  | cons t ts =>
    rw [Tree.AllShort] at h
    simp only [Tree.callsAll, Wire.trees, List.append_assoc]
    rw [run_calls t h.1, run_callsAll ts h.2, append_append]

end

/-! ## Open sequences -/

theorem exists_append_value (v : Value) (e : Encoder) : ∃ bs, (e.value v).2 = e.append bs := by
  by_cases h : (Wire.content v).length < 2 ^ 32
  · exact ⟨_, congrArg Prod.snd (value_eq_append v h e)⟩
  · exact ⟨_, congrArg Prod.snd (value_of_long v (Nat.not_lt.mp h) e)⟩

theorem exists_append_endSequence (e : Encoder) (content : Bytes) :
    ∃ bs, ((e.beginSequence.2.append content).endSequence e.beginSequence.1).2 = e.append bs := by
  by_cases h : content.length < 2 ^ 32
  · exact ⟨_, congrArg Prod.snd (endSequence_beginSequence e h)⟩
  · refine ⟨[Tag.sequence, lengthForm, 0, 0, 0, 0] ++ content, ?_⟩
    rw [endSequence_of_long e (Nat.not_lt.mp h)]
    exact append_append e _ content

/-- For each mark from the outermost to the innermost, the encoder has opened a sequence there and
written some content since. -/
inductive Pending : List Mark → Encoder → Prop where
  | none (e : Encoder) : Pending [] e
  | some (marks : List Mark) (e : Encoder) (content : Bytes) (outer : Pending marks e) :
    Pending (e.beginSequence.1 :: marks) (e.beginSequence.2.append content)

namespace Pending

theorem append {marks : List Mark} {e : Encoder} (h : Pending marks e) (bs : Bytes) :
    Pending marks (e.append bs) := by
  cases h with
  | none => exact .none _
  | some marks e content outer =>
    rw [append_append]
    exact .some marks e (content ++ bs) outer

theorem perform {d : Draft} (h : Pending d.marks d.encoder) (call : Call) :
    Pending (call.perform d).2.marks (call.perform d).2.encoder := by
  obtain ⟨e, marks⟩ := d
  cases call with
  | value v =>
    obtain ⟨bs, hbs⟩ := exists_append_value v e
    simp only [Call.perform, hbs]
    exact h.append bs
  | beginSequence =>
    have hopen := Pending.some marks e [] h
    rwa [append_nil] at hopen
  | endSequence =>
    cases h with
    | none => exact .none e
    | some marks e content outer =>
      -- what is filled in lies behind the marks of the outer sequences
      obtain ⟨bs, hbs⟩ := exists_append_endSequence e content
      change Pending marks ((e.beginSequence.2.append content).endSequence e.beginSequence.1).2
      rw [hbs]
      exact outer.append bs

theorem run {d : Draft} (h : Pending d.marks d.encoder) (calls : List Call) :
    Pending (run calls d).2.marks (run calls d).2.encoder := by
  induction calls generalizing d with
  | nil => exact h
  | cons call calls ih =>
    have hnext := h.perform call
    rw [Encoder.run]
    rcases hcall : call.perform d with ⟨_ | _, next⟩
    · rwa [hcall] at hnext
    · rw [hcall] at hnext
      exact ih hnext

end Pending

/-! ## Parts of a program -/

theorem run_append (before after : List Call) (d : Draft) :
    run (before ++ after) d = match run before d with
      | (.ok (), next) => run after next
      | (.error err, last) => (.error err, last) := by
  induction before generalizing d with
  | nil => rfl
  | cons call before ih =>
    rw [List.cons_append, run, run]
    rcases call.perform d with ⟨_ | _, next⟩
    · rfl
    · exact ih next

/-- As many sequences are open as the balance says, so there is one to be closed. -/
theorem marks_ne_nil_of_balanced {before after : List Call} {d next : Draft}
    (hbalanced : Call.balanced d.marks.length (before ++ .endSequence :: after) = true)
    (hrun : run before d = (.ok (), next)) : next.marks ≠ [] := by
  induction before generalizing d with
  | nil =>
    cases hrun
    intro hnone
    rw [hnone] at hbalanced
    cases hbalanced
  | cons call before ih =>
    rw [run] at hrun
    rcases hcall : call.perform d with ⟨_ | _, mid⟩
    · rw [hcall] at hrun
      cases hrun
    · rw [hcall] at hrun
      obtain rfl : (call.perform d).2 = mid := by rw [hcall]
      refine ih ?_ hrun
      obtain ⟨e, marks⟩ := d
      cases call with
      | value v => exact hbalanced
      | beginSequence => exact hbalanced
      | endSequence =>
        cases marks with
        | nil => cases hbalanced
        | cons m marks => exact hbalanced

/-- When a sequence is closed, its length is all that changes: the four bytes behind the marked one
take the place of zeros. -/
theorem endSequence_of_pending {m : Mark} {marks : List Mark} {e closed : Encoder}
    (h : Pending (m :: marks) e) (hend : e.endSequence m = (.ok (), closed)) :
    ∃ front content, m.position = front.length + 1 ∧
      e.toBytes = front ++ 0x30 :: 0x84 :: 0 :: 0 :: 0 :: 0 :: content ∧
      closed.toBytes =
        front ++ 0x30 :: 0x84 :: (Bytes.bigEndian32 (UInt32.ofNat content.length) ++ content) := by
  cases h with
  | some marks outer content _ =>
    refine ⟨outer.toBytes, content, position_beginSequence outer, toBytes_open outer content, ?_⟩
    by_cases h : content.length < 2 ^ 32
    · rw [endSequence_beginSequence outer h] at hend
      cases hend
      exact toBytes_append outer _
    · rw [endSequence_of_long outer (Nat.not_lt.mp h)] at hend
      cases hend

/-- A program of properly nested calls is the program of some trees. If the contents of the trees
are short enough for their lengths, it succeeds and appends the bytes of the trees, and each of its
calls that close a sequence changes the four bytes of that sequence's length and no others. -/
theorem balanced_writes_trees {calls : List Call} (hbalanced : Call.balanced 0 calls = true)
    (e : Encoder) :
    (∃ trees, calls = Tree.callsAll trees) ∧
    ∀ trees, calls = Tree.callsAll trees → Tree.AllShort trees →
      run calls ⟨e, []⟩ = (.ok (), ⟨e.append (Wire.trees trees), []⟩) ∧
      ∀ before after, calls = before ++ .endSequence :: after →
        ∃ opened closed m marks front content,
          run before ⟨e, []⟩ = (.ok (), ⟨opened, m :: marks⟩) ∧
          opened.endSequence m = (.ok (), closed) ∧
          m.position = front.length + 1 ∧
          opened.toBytes = front ++ 0x30 :: 0x84 :: 0 :: 0 :: 0 :: 0 :: content ∧
          closed.toBytes = front ++ 0x30 :: 0x84 ::
            (Bytes.bigEndian32 (UInt32.ofNat content.length) ++ content) := by
  refine ⟨Call.exists_callsAll_of_balanced hbalanced, fun trees htrees hshort => ?_⟩
  have hrun := run_callsAll trees hshort [] e []
  rw [List.append_nil, ← htrees] at hrun
  refine ⟨hrun, fun before after hsplit => ?_⟩
  rw [hsplit] at hbalanced
  rw [hsplit, run_append] at hrun
  rcases hbefore : run before ⟨e, []⟩ with ⟨_ | _, opened, marks⟩
  · rw [hbefore] at hrun
    cases hrun
  · have hpending := (Pending.none e).run before (d := ⟨e, []⟩)
    rw [hbefore] at hpending hrun
    cases marks with
    | nil => exact absurd rfl (marks_ne_nil_of_balanced (d := ⟨e, []⟩) hbalanced hbefore)
    | cons m marks =>
      -- the call does not fail, since the whole program does not
      rcases hend : opened.endSequence m with ⟨_ | _, closed⟩
      · simp only [run, Call.perform, hend] at hrun
        cases hrun
      · obtain ⟨front, content, hposition, hopened, hclosed⟩ := endSequence_of_pending hpending hend
        exact ⟨opened, closed, m, marks, front, content, rfl, hend, hposition, hopened, hclosed⟩

/-- A sequence with two inside it, one of them empty, and a value behind. -/
def sampleCalls : List Call :=
  [.beginSequence, .value (.integer (-129)), .beginSequence, .value (.string "a"), .endSequence,
    .beginSequence, .endSequence, .endSequence, .value (.boolean true)]

def sampleTrees : List Tree :=
  [.sequence [.value (.integer (-129)), .sequence [.value (.string "a")], .sequence []],
    .value (.boolean true)]

theorem balanced_writes_trees_sample :
    Call.balanced 0 sampleCalls = true ∧ sampleCalls = Tree.callsAll sampleTrees ∧
      Tree.AllShort sampleTrees ∧
      run sampleCalls ⟨empty, []⟩ = (.ok (), ⟨empty.append [0x30, 0x84, 0, 0, 0, 19,
        0x02, 2, 0xff, 0x7f, 0x30, 0x84, 0, 0, 0, 3, 0x0c, 1, 0x61, 0x30, 0x84, 0, 0, 0, 0,
        0x01, 1, 0xff], []⟩) := by
  have hbalanced : Call.balanced 0 sampleCalls = true := by decide
  have htrees : sampleCalls = Tree.callsAll sampleTrees := rfl
  have hshort : Tree.AllShort sampleTrees := by
    simp only [sampleTrees, Tree.AllShort, Tree.Short, Wire.trees, Wire.tree, and_true, true_and]
    decide
  exact ⟨hbalanced, htrees, hshort,
    ((balanced_writes_trees hbalanced empty).2 sampleTrees htrees hshort).1⟩

end Encoder

end PeerLink
