import PeerLink.Link.Channel
import PeerLink.Proofs.Region.Lock

/-! # Mailboxes under the lock

* `Block.toBytes_overwrite`, `Block.front_eq_take`: blocks as lists of bytes.
* `Mailbox.message_store`: a stored message is the message of the mailbox, whatever lies behind it.
* `Channel.write_of_available`, `Channel.tryRead_of_available`: what an operation does when the lock
  can be had; the lock is free afterwards.
* `Channel.write_of_free`, `Channel.tryRead_of_free`, `Channel.tryReadInto_of_free`: the same when
  the lock is free, and stays as it is.
* `Channel.write_outcome`, `Channel.tryRead_outcome`, `Channel.tryReadInto_outcome`: what an
  operation can do whatever the lock says.
* `Layout.mailbox_putChannel_of_ne`: the other direction is not touched.
-/

namespace PeerLink
set_option autoImplicit false

/-! ## Blocks -/

namespace Block

variable {n : Nat}

theorem length_toBytes (b : Block n) : b.toBytes.length = n := b.length_toList

theorem front_eq_take (b : Block n) (k : Nat) : b.front k = b.toBytes.take k := by
  rw [front, Array.toList_extract, List.extract_eq_take_drop, List.drop_zero, Nat.sub_zero]
  rfl

theorem toBytes_overwrite (b : Block n) (bs : Bytes) :
    (b.overwrite bs).toBytes = bs.take n ++ b.toBytes.drop bs.length := by
  have hlen := b.length_toBytes
  have hdrop : (b.toBytes.drop bs.length).take (n - bs.length) = b.toBytes.drop bs.length := by
    apply List.take_of_length_le
    exact Nat.le_of_eq (by rw [List.length_drop, hlen])
  rw [← hdrop]
  simp only [toBytes, overwrite, Vector.toList, Array.toList_append, Array.toList_extract,
    List.extract_eq_take_drop]

end Block

/-! ## Mailboxes -/

namespace Mailbox

theorem length_message (m : Mailbox) : m.message.length = m.messageLength := by
  rw [message, Block.front_eq_take, List.length_take, Block.length_toBytes]
  exact Nat.min_eq_left (Nat.min_le_right _ _)

theorem messageLength_setLength (m : Mailbox) {n : Nat} (h : n ≤ capacity) :
    (m.setLength n).messageLength = n := by
  have hword : (UInt32.ofNat n).toNat = n :=
    UInt32.toNat_ofNat_of_lt' (Nat.lt_of_le_of_lt h (by decide))
  rw [messageLength, setLength, hword]
  exact Nat.min_eq_left h

theorem message_store (m : Mailbox) {payload : Bytes} (h : payload.length ≤ capacity) :
    (m.store payload).message = payload := by
  have hlen : (m.store payload).messageLength = payload.length :=
    messageLength_setLength (m.copyIn payload) h
  have hdata : (m.store payload).data = m.data.overwrite payload := rfl
  rw [message, hlen, hdata, Block.front_eq_take, Block.toBytes_overwrite, List.take_of_length_le h,
    List.take_left]

end Mailbox

/-! ## Channels -/

namespace Channel

variable {α : Type} {p : Process} {c : Channel}

theorem locked_of_available (timeout : Duration)
    (act : Channel → Except LinkError α × Channel) (h : c.lock.Available p) :
    c.locked p timeout act = act { c with lock := c.lock.taken p.pid } := by
  rw [locked, Lock.acquire_of_available timeout h]

theorem locked_of_not_available (timeout : Duration)
    (act : Channel → Except LinkError α × Channel) (h : ¬ c.lock.Available p) :
    ∃ e, c.locked p timeout act = (.error e, c) := by
  obtain ⟨e, he⟩ := Lock.acquire_of_not_available timeout h
  rw [locked, he]
  exact ⟨_, rfl⟩

theorem finish_of_owner (a : α) (h : c.lock.owner = p.pid) :
    c.finish p a = (.ok a, { c with lock := { c.lock with owner := 0 } }) := by
  rw [finish, Lock.release_of_owner h]

theorem abandon_of_owner (e : LinkError) (h : c.lock.owner = p.pid) :
    (c.abandon p e : Except LinkError α × Channel) =
      (.error e, { c with lock := { c.lock with owner := 0 } }) := by
  rw [abandon, Lock.drop_of_owner h]

theorem write_of_long (timeout : Duration) {payload : Bytes}
    (hlong : Mailbox.capacity < payload.length) :
    c.write p timeout payload = (.error (.bufferFull payload.length Mailbox.capacity), c) :=
  if_pos ((Bytes.atLeast_iff _ _).mpr hlong)

theorem write_of_available (timeout : Duration) {payload : Bytes}
    (hfits : payload.length ≤ Mailbox.capacity) (h : c.lock.Available p) :
    c.write p timeout payload =
      (.ok (), ⟨{ c.lock.taken p.pid with owner := 0 }, c.mailbox.store payload⟩) := by
  have hshort : ¬ Bytes.atLeast (Mailbox.capacity + 1) payload = true := by
    rw [Bytes.atLeast_iff]
    omega
  rw [write, if_neg hshort, locked_of_available timeout _ h, finish_of_owner _ rfl]

theorem write_of_free (timeout : Duration) {payload : Bytes}
    (hfits : payload.length ≤ Mailbox.capacity) (h : c.lock.owner = 0) :
    c.write p timeout payload = (.ok (), { c with mailbox := c.mailbox.store payload }) := by
  rw [write_of_available timeout hfits (.inl h), Lock.taken_of_free p.pid h]

theorem write_of_refused {timeout : Duration} {payload : Bytes} {e : RegionError}
    (hfits : payload.length ≤ Mailbox.capacity) (h : c.lock.acquire p timeout = .error e) :
    c.write p timeout payload = (.error (.region e), c) := by
  have hshort : ¬ Bytes.atLeast (Mailbox.capacity + 1) payload = true := by
    rw [Bytes.atLeast_iff]
    omega
  rw [write, if_neg hshort, locked, h]

theorem receiving_of_empty (timeout : Duration) (act : Channel → Except LinkError α × Channel)
    (hempty : c.mailbox.pending = false) : c.receiving p timeout act = (.error .noData, c) := by
  rw [receiving, hempty]
  rfl

theorem receiving_of_available (timeout : Duration)
    (act : Channel → Except LinkError α × Channel) (hpending : c.mailbox.pending = true)
    (h : c.lock.Available p) :
    c.receiving p timeout act = act { c with lock := c.lock.taken p.pid } := by
  rw [receiving, locked_of_available timeout _ h]
  simp [hpending]

theorem receiving_of_refused {timeout : Duration} {e : RegionError}
    (act : Channel → Except LinkError α × Channel) (hpending : c.mailbox.pending = true)
    (h : c.lock.acquire p timeout = .error e) :
    c.receiving p timeout act = (.error (.region e), c) := by
  rw [receiving, locked, h]
  simp [hpending]

theorem tryRead_of_empty (timeout : Duration) (hempty : c.mailbox.pending = false) :
    c.tryRead p timeout = (.error .noData, c) :=
  receiving_of_empty timeout _ hempty

theorem tryRead_of_available (timeout : Duration) (hpending : c.mailbox.pending = true)
    (h : c.lock.Available p) :
    c.tryRead p timeout =
      (.ok c.mailbox.message, ⟨{ c.lock.taken p.pid with owner := 0 }, c.mailbox.markRead⟩) := by
  rw [tryRead, receiving_of_available timeout _ hpending h, finish_of_owner _ rfl]

theorem tryRead_of_free (timeout : Duration) (hpending : c.mailbox.pending = true)
    (h : c.lock.owner = 0) :
    c.tryRead p timeout =
      (.ok c.mailbox.message, { c with mailbox := c.mailbox.markRead }) := by
  rw [tryRead_of_available timeout hpending (.inl h), Lock.taken_of_free p.pid h]

theorem tryReadInto_of_empty (timeout : Duration) (buffer : Bytes)
    (hempty : c.mailbox.pending = false) :
    c.tryReadInto p timeout buffer = (.error .noData, c) :=
  receiving_of_empty timeout _ hempty

theorem overwrite_zero {buffer bs : Bytes} (h : bs.length ≤ buffer.length) :
    buffer.overwrite 0 bs = bs ++ buffer.drop bs.length := by
  rw [Bytes.overwrite, List.take_zero, List.nil_append, Nat.sub_zero, Nat.zero_add,
    List.take_of_length_le h]

theorem tryReadInto_of_free (timeout : Duration) (buffer : Bytes)
    (hpending : c.mailbox.pending = true) (h : c.lock.owner = 0) :
    c.tryReadInto p timeout buffer =
      if c.mailbox.message.length ≤ buffer.length then
        (.ok (c.mailbox.message.length,
            c.mailbox.message ++ buffer.drop c.mailbox.message.length),
          { c with mailbox := c.mailbox.markRead })
      else (.error (.bufferTooSmall c.mailbox.message.length buffer.length), c) := by
  have hlen := c.mailbox.length_message
  rw [tryReadInto, receiving_of_available timeout _ hpending (.inl h)]
  simp only [← hlen, Bytes.atLeast_iff]
  by_cases hfits : c.mailbox.message.length ≤ buffer.length
  · rw [if_pos hfits, if_pos hfits, finish_of_owner _ rfl, overwrite_zero hfits]
    simp only [Lock.taken_of_free p.pid h]
  · rw [if_neg hfits, if_neg hfits, abandon_of_owner _ rfl]
    simp only [Lock.taken_of_free p.pid h]

/-! ## Channels whatever the lock says -/

theorem write_outcome (p : Process) (timeout : Duration) (payload : Bytes) (c : Channel) :
    (payload.length ≤ Mailbox.capacity ∧
      ∃ lock, c.write p timeout payload = (.ok (), ⟨lock, c.mailbox.store payload⟩)) ∨
    ∃ e, c.write p timeout payload = (.error e, c) := by
  by_cases hfits : payload.length ≤ Mailbox.capacity
  · by_cases ha : c.lock.Available p
    · exact .inl ⟨hfits, _, write_of_available timeout hfits ha⟩
    · right
      rw [write, if_neg (by rw [Bytes.atLeast_iff]; omega)]
      exact locked_of_not_available timeout _ ha
  · exact .inr ⟨_, write_of_long timeout (Nat.lt_of_not_le hfits)⟩

/-- A read that does not get as far as the message leaves everything as it was. -/
theorem receiving_outcome (p : Process) (timeout : Duration)
    (act : Channel → Except LinkError α × Channel) (c : Channel) :
    c.receiving p timeout act = act { c with lock := c.lock.taken p.pid } ∨
    ∃ e, c.receiving p timeout act = (.error e, c) := by
  by_cases hpending : c.mailbox.pending = true
  · by_cases ha : c.lock.Available p
    · exact .inl (receiving_of_available timeout act hpending ha)
    · right
      rw [receiving, if_neg (by simp [hpending])]
      exact locked_of_not_available timeout _ ha
  · exact .inr ⟨_, receiving_of_empty timeout act (Bool.eq_false_iff.mpr hpending)⟩

theorem tryRead_outcome (p : Process) (timeout : Duration) (c : Channel) :
    (∃ lock, c.tryRead p timeout = (.ok c.mailbox.message, ⟨lock, c.mailbox.markRead⟩)) ∨
    ∃ e, c.tryRead p timeout = (.error e, c) := by
  rw [tryRead]
  refine (receiving_outcome p timeout _ c).imp_left fun h => ?_
  rw [h, finish_of_owner _ rfl]
  exact ⟨_, rfl⟩

/-- A buffer that is too small is found out only under the lock. -/
theorem tryReadInto_outcome (p : Process) (timeout : Duration) (buffer : Bytes) (c : Channel) :
    (∃ taken lock, c.tryReadInto p timeout buffer = (.ok taken, ⟨lock, c.mailbox.markRead⟩)) ∨
    ∃ e lock, c.tryReadInto p timeout buffer = (.error e, ⟨lock, c.mailbox⟩) := by
  rw [tryReadInto]
  rcases receiving_outcome p timeout _ c with h | ⟨e, h⟩
  · rw [h]
    dsimp only
    split
    · rw [finish_of_owner _ rfl]
      exact .inl ⟨_, _, rfl⟩
    · rw [abandon_of_owner _ rfl]
      exact .inr ⟨_, _, rfl⟩
  · exact .inr ⟨e, c.lock, h⟩

end Channel

/-! ## Regions -/

namespace Layout

variable {d d' : Direction} {c : Channel} {l : Layout}

@[simp] theorem lock_putChannel : (l.putChannel d c).header.lock = c.lock := by
  cases d <;> rfl

@[simp] theorem mailbox_putChannel_self : (l.putChannel d c).mailbox d = c.mailbox := by
  cases d <;> rfl

theorem mailbox_putChannel_of_ne (h : d' ≠ d) : (l.putChannel d c).mailbox d' = l.mailbox d' := by
  cases d <;> cases d' <;> first | rfl | exact absurd rfl h

theorem putChannel_channel : l.putChannel d (l.channel d) = l := by
  cases d <;> rfl

end Layout

end PeerLink
