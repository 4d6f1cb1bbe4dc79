import PeerLink.Codec.Element

/-! # Answers that stand

A reader that runs short of bytes may answer otherwise when more of them come. Whatever else it
answers, it answers on every longer input too, and what was appended is left over.

* `Reader.RunsShort`: the reader wants more bytes than there are, and says so.
* `Reader.Stable`: it runs short, or its answer stands.
* `Reader.Stable.bind`: readers one after another; `Reader.stable_element`: elements of any tag.
-/

namespace PeerLink.Reader
set_option autoImplicit false

variable {α β : Type}

def RunsShort (r : Reader α) (bs : Bytes) : Prop :=
  ∃ needed left rest, left < needed ∧ r bs = (.error (.truncated needed left), rest)

def Stable (r : Reader α) : Prop :=
  ∀ bs, RunsShort r bs ∨ ∀ more, r (bs ++ more) = ((r bs).1, (r bs).2 ++ more)

/-! ## Readers one after another -/

theorem bind_eq_of_ok {r : Reader α} {f : α → Reader β} {bs rest : Bytes} {a : α}
    (h : r bs = (.ok a, rest)) : (r >>= f) bs = f a rest := by
  show andThen r f bs = _
  rw [andThen, h]

theorem bind_eq_of_error {r : Reader α} {f : α → Reader β} {bs rest : Bytes} {e : CodecError}
    (h : r bs = (.error e, rest)) : (r >>= f) bs = (.error e, rest) := by
  show andThen r f bs = _
  rw [andThen, h]

theorem stable_ok (a : α) : Stable (ok a) := fun _ => .inr fun _ => rfl

theorem stable_fail (e : CodecError) : Stable (fail e : Reader α) := fun _ => .inr fun _ => rfl

/-- The second reader starts from what the first left over, which an extension only lengthens. -/
theorem Stable.bind {r : Reader α} {f : α → Reader β} (hr : Stable r) (hf : ∀ a, Stable (f a)) :
    Stable (r >>= f) := by
  intro bs
  rcases hr bs with ⟨needed, left, rest, hlt, hshort⟩ | hstands
  · left
    exact ⟨needed, left, rest, hlt, bind_eq_of_error hshort⟩
  rcases hread : r bs with ⟨e | a, rest⟩
  · right
    intro more
    have hmore := hstands more
    rw [hread] at hmore
    rw [bind_eq_of_error hread, bind_eq_of_error hmore]
  rcases hf a rest with ⟨needed, left, last, hlt, hshort⟩ | hstands'
  · left
    exact ⟨needed, left, last, hlt, (bind_eq_of_ok hread).trans hshort⟩
  · right
    intro more
    have hmore := hstands more
    rw [hread] at hmore
    rw [bind_eq_of_ok hread, bind_eq_of_ok hmore]
    exact hstands' more

/-! ## Bytes, lengths and elements -/

theorem stable_byte : Stable byte := by
  intro bs
  cases bs with
  | nil => exact .inl ⟨1, 0, [], Nat.zero_lt_one, rfl⟩
  | cons b bs => exact .inr fun more => rfl

theorem stable_take (n : Nat) : Stable (take n) := by
  intro bs
  unfold take
  by_cases hlong : n ≤ bs.length
  · right
    intro more
    have hmore : n ≤ (bs ++ more).length := by
      rw [List.length_append]
      omega
    rw [if_pos ((Bytes.atLeast_iff n bs).mpr hlong), if_pos ((Bytes.atLeast_iff n _).mpr hmore),
      List.take_append_of_le_length hlong, List.drop_append_of_le_length hlong]
  · left
    refine ⟨n, bs.length, bs, by omega, if_neg ?_⟩
    rw [Bytes.atLeast_iff]
    exact hlong

theorem stable_length : Stable Length.read := by
  apply stable_byte.bind
  intro first
  split
  · exact stable_ok _
  · dsimp only
    split
    · exact stable_fail _
    split
    · exact stable_fail _
    · exact (stable_take _).bind fun digits => stable_ok _

theorem stable_element (tag : UInt8) : Stable (element tag) := by
  apply stable_byte.bind
  intro found
  split
  · exact stable_fail _
  · exact stable_length.bind stable_take

/-! ## Inputs that are read to their end -/

/-- An input that is read as a whole has no proper beginning with an answer of its own. -/
theorem Stable.runsShort {r : Reader α} (hr : Stable r) {bs part : Bytes} {a : α}
    (h : r bs = (.ok a, [])) (hpart : part <+: bs) (hproper : part ≠ bs) : RunsShort r part := by
  obtain ⟨more, rfl⟩ := hpart
  rcases hr part with hshort | hstands
  · exact hshort
  · have hall := hstands more
    rw [h] at hall
    obtain ⟨-, hrest⟩ := Prod.mk.inj hall
    obtain ⟨-, hmore⟩ := List.append_eq_nil_iff.mp hrest.symm
    rw [hmore, List.append_nil] at hproper
    exact absurd rfl hproper

end PeerLink.Reader
