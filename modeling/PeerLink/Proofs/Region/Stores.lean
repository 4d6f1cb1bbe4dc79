import PeerLink.Proofs.Region.Lock

/-! # Stores

What a process does to shared memory with the lock in hand is a sequence of stores, the first of
which take the lock. A process that dies leaves the effect of some first part of them.

* `LockedMemory`: memory with a lock in it, and the stores to it.
* `LockedMemory.after`: what a sequence of stores leaves behind.
* `LockedMemory.lockStores`, `LockedMemory.after_lockStores`: the stores that take an available lock.
* `LockedMemory.owner_after`: whom the lock names afterwards.
-/

namespace PeerLink
set_option autoImplicit false

/-- Memory with a lock in it, and the stores to it. Some are to the lock: its holder, and one more
take-over of it. No other store changes the holder. -/
class LockedMemory (M : Type) (S : outParam Type) where
  lock : M → Lock
  setLock : Lock → M → M
  apply : M → S → M
  owner : UInt32 → S
  reclaim : S
  lock_setLock (l : Lock) (m : M) : lock (setLock l m) = l
  setLock_setLock (l l' : Lock) (m : M) : setLock l' (setLock l m) = setLock l' m
  apply_owner (pid : UInt32) (m : M) :
    apply m (owner pid) = setLock { lock m with owner := pid } m
  apply_reclaim (m : M) :
    apply m reclaim = setLock { lock m with reclaims := (lock m).reclaims + 1 } m
  owner_apply (m : M) (s : S) :
    (lock (apply m s)).owner = (lock m).owner ∨ s = owner (lock (apply m s)).owner

namespace LockedMemory

variable {M S : Type} [LockedMemory M S]

/-- Memory after some stores. -/
def after (m : M) (stores : List S) : M := stores.foldl apply m

variable (M) in
/-- The stores that take an available lock. -/
def lockStores (pid : UInt32) (l : Lock) : List S :=
  owner M pid :: if l.owner = 0 then [] else [reclaim M]

theorem after_cons (m : M) (s : S) (stores : List S) :
    after m (s :: stores) = after (apply m s) stores := rfl

theorem after_append (m : M) (front back : List S) :
    after m (front ++ back) = after (after m front) back := List.foldl_append

theorem after_lockStores (pid : UInt32) (m : M) :
    after m (lockStores M pid (lock m)) = setLock ((lock m).taken pid) m := by
  by_cases hfree : (lock m).owner = 0
  · rw [lockStores, Lock.taken, if_pos hfree, if_pos hfree]
    exact apply_owner pid m
  · rw [lockStores, Lock.taken, if_neg hfree, if_neg hfree, after_cons, after_cons, apply_owner,
      apply_reclaim, lock_setLock, setLock_setLock]
    rfl

theorem eq_of_mem_lockStores {s : S} {pid : UInt32} {l : Lock} (hs : s ∈ lockStores M pid l) :
    s = owner M pid ∨ s = reclaim M := by
  rw [lockStores, List.mem_cons] at hs
  refine hs.imp_right fun hreclaim => ?_
  split at hreclaim
  · exact absurd hreclaim List.not_mem_nil
  · exact List.mem_singleton.mp hreclaim

/-- The lock names the holder that it named before, or one that was stored. -/
theorem owner_after (m : M) (stores : List S) :
    (lock (after m stores)).owner = (lock m).owner ∨
      owner M (lock (after m stores)).owner ∈ stores := by
  induction stores generalizing m with
  | nil => exact .inl rfl
  | cons s stores ih =>
    rw [after_cons]
    rcases ih (apply m s) with hsame | hmem
    · rw [hsame]
      exact (owner_apply m s).imp_right fun hs => List.mem_cons.mpr (.inl hs.symm)
    · exact .inr (List.mem_cons_of_mem s hmem)

/-- A part of a sequence ends before a store in the middle of it, or has that store in it. -/
theorem prefix_append_cons {pre front back : List S} {s : S} (hpre : pre <+: front ++ s :: back) :
    pre <+: front ∨ ∃ rest, pre = front ++ s :: rest ∧ rest <+: back := by
  rcases List.prefix_or_prefix_of_prefix hpre (List.prefix_append front _) with hshort | ⟨last, rfl⟩
  · exact .inl hshort
  · rw [List.prefix_append_right_inj, List.prefix_cons_iff] at hpre
    rcases hpre with rfl | ⟨rest, rfl, hrest⟩
    · exact .inl (by simp only [List.append_nil, List.prefix_refl])
    · exact .inr ⟨rest, rfl, hrest⟩

end LockedMemory

end PeerLink
