import PeerLink.Proofs.Codec.Reading
import PeerLink.Proofs.Codec.Stability

/-! # What reading consumes

What a reader leaves is the end of what was there, after a failure too. An element takes at least
two bytes, a tag and a length, so a loop over elements ends on any input.

* `Reader.Consumes`: a reader leaves an end of its input; a success takes so many bytes at least.
* `Reader.Operation`: the ways to read on; `Reader.Operation.after`: one after another.
* `Reader.Loop`: reading as long as bytes are left, without a bound on the number of rounds;
  `Reader.loop_untilEmpty` says that the bounded loop is this one.
-/

namespace PeerLink.Reader
set_option autoImplicit false

variable {α β : Type}

structure Consumes (k : Nat) (r : Reader α) : Prop where
  suffix : ∀ bs, (r bs).2 <:+ bs
  least : ∀ bs a rest, r bs = (.ok a, rest) → rest.length + k ≤ bs.length

/-! ## Readers one after another -/

theorem Consumes.mono {k l : Nat} {r : Reader α} (h : Consumes l r) (hkl : k ≤ l) :
    Consumes k r := by
  refine ⟨h.suffix, fun bs a rest hread => ?_⟩
  have hleast := h.least bs a rest hread
  omega

theorem consumes_ok (a : α) : Consumes 0 (ok a) := by
  refine ⟨fun bs => List.suffix_rfl, fun bs b rest h => ?_⟩
  obtain ⟨-, rfl⟩ := Prod.mk.inj h
  exact Nat.le_refl _

/-- A success that never comes takes any number of bytes. -/
theorem consumes_fail (k : Nat) (e : CodecError) : Consumes k (fail e : Reader α) :=
  ⟨fun _ => List.suffix_rfl, fun _ _ _ h => nomatch (Prod.mk.inj h).1⟩

theorem Consumes.bind {k l : Nat} {r : Reader α} {f : α → Reader β} (hr : Consumes k r)
    (hf : ∀ a, Consumes l (f a)) : Consumes (k + l) (r >>= f) := by
  constructor
  · intro bs
    have hfirst := hr.suffix bs
    rcases hread : r bs with ⟨e | a, mid⟩
    · rw [hread] at hfirst
      rw [bind_eq_of_error hread]
      exact hfirst
    · rw [hread] at hfirst
      rw [bind_eq_of_ok hread]
      exact ((hf a).suffix mid).trans hfirst
  · intro bs b rest h
    obtain ⟨a, mid, hra, hfa⟩ := (bind_eq_ok_iff r f bs rest b).mp h
    have hfirst := hr.least bs a mid hra
    have hsecond := (hf a).least mid b rest hfa
    omega

theorem Consumes.wrapped {k : Nat} {r : Reader α} (hr : Consumes k r) (wrap : α → β) :
    Consumes k (do ok (wrap (← r))) :=
  hr.bind fun a => consumes_ok (wrap a)

/-! ## Bytes, lengths and elements -/

theorem consumes_byte : Consumes 1 byte := by
  constructor
  · intro bs
    cases bs with
    | nil => exact List.suffix_rfl
    | cons b bs => exact List.suffix_cons b bs
  · intro bs a rest h
    cases bs with
    | nil => cases (Prod.mk.inj h).1
    | cons b bs =>
      obtain ⟨-, rfl⟩ := Prod.mk.inj h
      exact Nat.le_refl _

theorem consumes_take (n : Nat) : Consumes n (take n) := by
  constructor
  · intro bs
    unfold take
    split
    · exact List.drop_suffix n bs
    · exact List.suffix_rfl
  · intro bs front rest h
    obtain ⟨_, ⟨hlength, rfl⟩, rfl⟩ := (accepts_take n bs front rest).mp h
    rw [List.length_append, hlength, Nat.add_comm]

theorem consumes_length : Consumes 1 Length.read := by
  refine consumes_byte.bind (l := 0) fun first => ?_
  split
  · exact consumes_ok _
  · dsimp only
    split
    · exact consumes_fail _ _
    split
    · exact consumes_fail _ _
    · exact ((consumes_take _).mono (Nat.zero_le _)).wrapped Bytes.toNat

theorem consumes_element (tag : UInt8) : Consumes 2 (element tag) := by
  refine consumes_byte.bind (l := 1) fun found => ?_
  split
  · exact consumes_fail _ _
  · exact consumes_length.bind fun n => (consumes_take n).mono (Nat.zero_le n)

theorem consumes_skip : Consumes 2 skip :=
  consumes_byte.bind (l := 1) fun _ => consumes_length.bind (l := 0) fun n =>
    ((consumes_take n).mono (Nat.zero_le n)).wrapped fun _ => ()

/-- What is made of a content takes no more of the input. -/
theorem consumes_ofContent {tag : UInt8} {g : Bytes → Reader α}
    (hg : ∀ content, Consumes 0 (g content)) : Consumes 2 (element tag >>= g) :=
  (consumes_element tag).bind hg

theorem consumes_integer : Consumes 2 integer := by
  refine consumes_ofContent fun content => ?_
  split
  · exact consumes_fail _ _
  · exact consumes_ok _

theorem consumes_boolean : Consumes 2 boolean := by
  refine consumes_ofContent fun content => ?_
  split
  · exact consumes_ok _
  · exact consumes_fail _ _

theorem consumes_real : Consumes 2 real := by
  refine consumes_ofContent fun content => ?_
  split
  · exact consumes_ok _
  · split
    · exact consumes_fail _ _
    split
    · exact consumes_fail _ _
    · exact consumes_ok _

theorem consumes_text : Consumes 2 text := by
  refine consumes_ofContent fun content => ?_
  split
  · exact consumes_ok _
  · exact consumes_fail _ _

theorem consumes_finish : Consumes 0 finish := by
  constructor
  · intro bs
    unfold finish
    split <;> exact List.suffix_rfl
  · intro bs u rest h
    unfold finish at h
    split at h
    · obtain ⟨-, rfl⟩ := Prod.mk.inj h
      exact Nat.le_refl _
    · cases (Prod.mk.inj h).1

/-! ## Operations -/

/-- What can be done with the bytes that are left. -/
inductive Operation where
  | integer
  | boolean
  | real
  | text
  | octets
  | sequence
  | skip
  | element (tag : UInt8)
  | length
  | byte
  | take (n : Nat)
  | finish

/-- What an operation answers. The content of a sequence is read in turn, from its first byte on. -/
inductive Answer where
  | integer (v : Int64)
  | boolean (v : Bool)
  | real (v : Binary64)
  | text (s : String)
  | bytes (bs : Bytes)
  | number (n : Nat)
  | nothing

/-- The part of the input that an answer is. -/
def Answer.slice? : Answer → Option Bytes
  | .text s => some (Utf8.encode s)
  | .bytes bs => some bs
  | _ => none

namespace Operation

def perform : Operation → Reader Answer
  | .integer => do ok (.integer (← Reader.integer))
  | .boolean => do ok (.boolean (← Reader.boolean))
  | .real => do ok (.real (← Reader.real))
  | .text => do ok (.text (← Reader.text))
  | .octets => do ok (.bytes (← Reader.octets))
  | .sequence => do ok (.bytes (← Reader.sequence))
  | .skip => do ok ((fun _ => .nothing) (← Reader.skip))
  | .element tag => do ok (.bytes (← Reader.element tag))
  | .length => do ok (.number (← Length.read))
  | .byte => do ok (.bytes [← Reader.byte])
  | .take n => do ok (.bytes (← Reader.take n))
  | .finish => do ok ((fun _ => .nothing) (← Reader.finish))

/-- Whether an operation is about one whole element. -/
def readsElement : Operation → Bool
  | .length | .byte | .take _ | .finish => false
  | _ => true

theorem consumes_perform (op : Operation) :
    Consumes (if op.readsElement then 2 else 0) op.perform := by
  cases op with
  | integer => exact consumes_integer.wrapped _
  | boolean => exact consumes_boolean.wrapped _
  | real => exact consumes_real.wrapped _
  | text => exact consumes_text.wrapped _
  | octets => exact (consumes_element Tag.octets).wrapped _
  | sequence => exact (consumes_element Tag.sequence).wrapped _
  | skip => exact consumes_skip.wrapped _
  | element tag => exact (consumes_element tag).wrapped _
  | length => exact (consumes_length.mono (Nat.zero_le 1)).wrapped _
  | byte => exact (consumes_byte.mono (Nat.zero_le 1)).wrapped _
  | take n => exact ((consumes_take n).mono (Nat.zero_le n)).wrapped _
  | finish => exact consumes_finish.wrapped _

/-- A header, the content, and what is left. An answer that is part of the input is the content. -/
def ReadsContent (bs rest : Bytes) (answer : Answer) : Prop :=
  ∃ header content, 2 ≤ header.length ∧ bs = header ++ (content ++ rest) ∧
    ∀ slice ∈ answer.slice?, slice = content

theorem readsContent_of_form {r : Reader α} (wrap : α → Answer) {tag : α → UInt8}
    {denotes : α → Bytes → Prop}
    (hr : Accepts r fun a front => ∃ content, denotes a content ∧
      Grammar.ElementForm (tag a) content front)
    (hslice : ∀ a content, denotes a content → ∀ slice ∈ (wrap a).slice?, slice = content)
    {bs rest : Bytes} {answer : Answer} (h : (do ok (wrap (← r))) bs = (.ok answer, rest)) :
    ReadsContent bs rest answer := by
  obtain ⟨a, mid, hread, hanswer⟩ := (bind_eq_ok_iff _ _ _ _ _).mp h
  obtain ⟨front, ⟨content, hcontent, hform⟩, rfl⟩ := (hr _ _ _).mp hread
  obtain ⟨header, hheader, rfl⟩ := hform.exists_header
  cases hanswer
  exact ⟨header, content, hheader, List.append_assoc .., hslice a content hcontent⟩

theorem readsContent_of_element (tag : UInt8) {bs rest : Bytes} {answer : Answer}
    (h : (do ok (Answer.bytes (← Reader.element tag))) bs = (.ok answer, rest)) :
    ReadsContent bs rest answer := by
  have haccepts : Accepts (Reader.element tag) fun found front =>
      ∃ content, found = content ∧ Grammar.ElementForm tag content front :=
    (accepts_element tag).of_iff fun found front => exists_eq_left'
  refine readsContent_of_form .bytes haccepts (fun found content heq slice hslice => ?_) h
  cases hslice
  exact heq

theorem readsContent_of_skip {bs rest : Bytes} {answer : Answer}
    (h : skip.perform bs = (.ok answer, rest)) : ReadsContent bs rest answer := by
  obtain ⟨u, mid, hread, hanswer⟩ := (bind_eq_ok_iff _ _ _ _ _).mp h
  obtain ⟨front, ⟨tag, content, hform⟩, rfl⟩ := (accepts_skip _ _ _).mp hread
  obtain ⟨header, hheader, rfl⟩ := hform.exists_header
  cases hanswer
  exact ⟨header, content, hheader, List.append_assoc .., nofun⟩

theorem readsContent_of_ok {op : Operation} {bs rest : Bytes} {answer : Answer}
    (hop : op.readsElement = true) (h : op.perform bs = (.ok answer, rest)) :
    ReadsContent bs rest answer := by
  cases op with
  | integer => exact readsContent_of_form .integer accepts_integer (fun _ _ _ => nofun) h
  | boolean => exact readsContent_of_form .boolean accepts_boolean (fun _ _ _ => nofun) h
  | real => exact readsContent_of_form .real accepts_real (fun _ _ _ => nofun) h
  | text =>
    refine readsContent_of_form .text accepts_text (fun s content hcontent slice hslice => ?_) h
    cases hslice
    cases hcontent
    rfl
  | octets => exact readsContent_of_element Tag.octets h
  | sequence => exact readsContent_of_element Tag.sequence h
  | skip => exact readsContent_of_skip h
  | element tag => exact readsContent_of_element tag h
  | length | byte | take | finish => cases hop

/-! ### One operation after another -/

/-- What is left after a number of operations, whatever comes of them. -/
def after (ops : List Operation) (bs : Bytes) : Bytes :=
  ops.foldl (fun left op => (op.perform left).2) bs

/-- How many elements they read. -/
def elementsRead : List Operation → Bytes → Nat
  | [], _ => 0
  | op :: ops, bs =>
    elementsRead ops (op.perform bs).2 +
      if op.readsElement && (op.perform bs).1.isOk then 1 else 0

theorem after_suffix (ops : List Operation) (bs : Bytes) : after ops bs <:+ bs := by
  induction ops generalizing bs with
  | nil => exact List.suffix_rfl
  | cons op ops ih => exact (ih _).trans (op.consumes_perform.suffix bs)

theorem length_after_le (ops : List Operation) (bs : Bytes) :
    (after ops bs).length + 2 * elementsRead ops bs ≤ bs.length := by
  induction ops generalizing bs with
  | nil => exact Nat.le_refl _
  | cons op ops ih =>
    have hlater := ih (op.perform bs).2
    have hleft := (op.consumes_perform.suffix bs).length_le
    rw [elementsRead]
    change (after ops (op.perform bs).2).length + _ ≤ _
    split
    · next hread =>
      obtain ⟨hop, hok⟩ := Bool.and_eq_true_iff.mp hread
      rcases hperform : op.perform bs with ⟨e | answer, rest⟩
      · rw [hperform] at hok
        cases hok
      · have hleast := op.consumes_perform.least bs answer rest hperform
        rw [if_pos hop] at hleast
        rw [hperform] at hlater
        dsimp only at hlater ⊢
        omega
    · omega

end Operation

/-! ## Loops -/

/-- Reading as long as bytes are left, in so many rounds. -/
inductive Loop (r : Reader α) : Nat → Bytes → Except CodecError (List α) → Prop where
  | ended : Loop r 0 [] (.ok [])
  | failed {bs rest : Bytes} {e : CodecError} (left : bs ≠ []) (h : r bs = (.error e, rest)) :
      Loop r 1 bs (.error e)
  | again {n : Nat} {bs rest : Bytes} {a : α} {result : Except CodecError (List α)}
      (left : bs ≠ []) (h : r bs = (.ok a, rest)) (later : Loop r n rest result) :
      Loop r (n + 1) bs (result.map (a :: ·))

/-- A reader that takes a byte with every success has read everything before its budget is used
up. -/
theorem loop_untilEmptyFrom {k : Nat} {r : Reader α} (hr : Consumes k r) (hk : 1 ≤ k)
    (budget : Bytes) (seen : List α) (bs : Bytes) (hbudget : bs.length ≤ budget.length) :
    ∃ n result, Loop r n bs result ∧ k * n < bs.length + k ∧
      untilEmptyFrom r budget seen bs = result.map (seen.reverse ++ ·) := by
  induction budget generalizing seen bs with
  | nil =>
    obtain rfl : bs = [] := List.eq_nil_of_length_eq_zero (Nat.le_zero.mp hbudget)
    refine ⟨0, .ok [], .ended, by omega, ?_⟩
    simp [untilEmptyFrom, Except.map]
  | cons c budget ih =>
    rcases bs with _ | ⟨b, bs⟩
    · refine ⟨0, .ok [], .ended, by omega, ?_⟩
      simp [untilEmptyFrom, Except.map]
    · have hleft : b :: bs ≠ [] := List.cons_ne_nil b bs
      rw [untilEmptyFrom]
      rcases hread : r (b :: bs) with ⟨e | a, rest⟩
      · refine ⟨1, .error e, .failed hleft hread, ?_, rfl⟩
        rw [List.length_cons, Nat.mul_one]
        omega
      · have hleast := hr.least _ a rest hread
        simp only [List.length_cons] at hleast hbudget
        obtain ⟨n, result, hloop, hrounds, hresult⟩ := ih (a :: seen) rest (by omega)
        refine ⟨n + 1, _, .again hleft hread hloop, ?_, ?_⟩
        · rw [List.length_cons, Nat.mul_succ]
          omega
        · dsimp only
          rw [hresult]
          cases result <;> simp [Except.map]

theorem loop_untilEmpty {k : Nat} {r : Reader α} (hr : Consumes k r) (hk : 1 ≤ k) (bs : Bytes) :
    ∃ n, Loop r n bs (untilEmpty r bs) ∧ k * n < bs.length + k := by
  obtain ⟨n, result, hloop, hrounds, hresult⟩ :=
    loop_untilEmptyFrom hr hk bs [] bs (Nat.le_refl _)
  have hmap : untilEmpty r bs = result := by
    rw [untilEmpty, hresult]
    cases result <;> rfl
  exact ⟨n, hmap ▸ hloop, hrounds⟩

end PeerLink.Reader
