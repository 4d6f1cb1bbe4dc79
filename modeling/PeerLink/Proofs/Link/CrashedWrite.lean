import PeerLink.Proofs.Link.Mailbox
import PeerLink.Proofs.Region.Stores

/-! # Writers that die

A write is a sequence of stores to shared memory, and the writer may die after any of them. It then
leaves the lock to the next reader, who takes it over and cannot tell how far the write came. Where
the length had not been stored yet the reader finds the old message with bytes of the new one in it.

* `Channel.Store`: the stores.
* `Channel.Copies`: a sequence of stores that copies a payload, in whatever order.
* `Channel.writeStores`: the stores of a whole write.
* `Channel.message_after_prefix`: the message that a part of a write leaves behind.
* `Channel.tryRead_after_crashed_write`: what the next reader gets.
-/

namespace PeerLink.Channel
set_option autoImplicit false

open LockedMemory (after lockStores after_cons after_append after_lockStores eq_of_mem_lockStores
  owner_after prefix_append_cons)

/-! ## Stores -/

/-- A store to the words and bytes of a channel: the holder of the lock, one more take-over of it, a
byte of a payload, the length of a message, one more message. -/
inductive Store where
  | owner (pid : UInt32)
  | reclaim
  | byte (i : Nat) (b : UInt8)
  | length (n : Nat)
  | count
  deriving DecidableEq

namespace Store

/-- A channel after a store. -/
def apply (c : Channel) : Store → Channel
  | .owner pid => { c with lock := { c.lock with owner := pid } }
  | .reclaim => { c with lock := { c.lock with reclaims := c.lock.reclaims + 1 } }
  | .byte i b => { c with mailbox := { c.mailbox with data := c.mailbox.data.setIfInBounds i b } }
  | .length n => { c with mailbox := c.mailbox.setLength n }
  | .count => { c with mailbox := c.mailbox.announce }

/-- Payload bytes after a store. -/
def applyBytes (bs : Bytes) : Store → Bytes
  | .byte i b => bs.set i b
  | _ => bs

end Store

instance : LockedMemory Channel Store where
  lock := Channel.lock
  setLock lock c := { c with lock }
  apply := Store.apply
  owner := .owner
  reclaim := .reclaim
  lock_setLock _ _ := rfl
  setLock_setLock _ _ _ := rfl
  apply_owner _ _ := rfl
  apply_reclaim _ := rfl
  owner_apply _ s := by
    cases s with
    | owner pid => exact .inr rfl
    | _ => exact .inl rfl

/-- Bytes with the payload bytes among some stores written over them, as far as they reach. -/
def overlay (stores : List Store) (bs : Bytes) : Bytes := stores.foldl Store.applyBytes bs

/-- The stores copy a payload and do nothing else. The order is left open, as it is for a copy of
memory. -/
def Copies (payload : Bytes) (stores : List Store) : Prop :=
  ∀ s, s ∈ stores ↔ ∃ i b, s = .byte i b ∧ payload[i]? = some b

/-- The copy from the first byte to the last. -/
def forwardCopy (payload : Bytes) : List Store := payload.zipIdx.map fun (b, i) => .byte i b

/-- The stores of a write of `n` bytes, given those that copy the bytes. -/
def writeStores (p : Process) (l : Lock) (copy : List Store) (n : Nat) : List Store :=
  lockStores Channel p.pid l ++ (copy ++ [.length n, .count, .owner 0])

variable {p q : Process} {c : Channel} {payload : Bytes} {copy pre stores : List Store}

theorem copies_forwardCopy (payload : Bytes) : Copies payload (forwardCopy payload) := by
  intro s
  rw [forwardCopy, List.mem_map]
  constructor
  · rintro ⟨⟨b, i⟩, hmem, rfl⟩
    exact ⟨i, b, rfl, List.mk_mem_zipIdx_iff_getElem?.mp hmem⟩
  · rintro ⟨i, b, rfl, hb⟩
    exact ⟨(b, i), List.mk_mem_zipIdx_iff_getElem?.mpr hb, rfl⟩

/-! ## Bytes under stores -/

theorem overlay_take (stores : List Store) (bs : Bytes) (n : Nat) :
    overlay stores (bs.take n) = (overlay stores bs).take n := by
  induction stores generalizing bs with
  | nil => rfl
  | cons s stores ih =>
    have hstep : s.applyBytes (bs.take n) = (s.applyBytes bs).take n := by
      cases s <;> simp [Store.applyBytes, List.take_set]
    rw [overlay, List.foldl_cons, hstep, ← overlay, ih]
    rfl

theorem getElem?_overlay_of_not_mem {i : Nat} (h : ∀ b, .byte i b ∉ stores) (bs : Bytes) :
    (overlay stores bs)[i]? = bs[i]? := by
  induction stores generalizing bs with
  | nil => rfl
  | cons s stores ih =>
    have hrest : ∀ b, .byte i b ∉ stores := fun b hb => h b (List.mem_cons_of_mem s hb)
    rw [overlay, List.foldl_cons, ← overlay, ih hrest]
    cases s with
    | byte j b =>
      have hne : j ≠ i := by
        rintro rfl
        exact h b List.mem_cons_self
      exact List.getElem?_set_ne hne
    | _ => rfl

theorem getElem?_overlay_of_mem {i : Nat} {b : UInt8} (hmem : .byte i b ∈ stores)
    (honly : ∀ b', .byte i b' ∈ stores → b' = b) {bs : Bytes} (hi : i < bs.length) :
    (overlay stores bs)[i]? = some b := by
  induction stores generalizing bs with
  | nil => exact absurd hmem List.not_mem_nil
  | cons s stores ih =>
    have hrest : ∀ b', .byte i b' ∈ stores → b' = b :=
      fun b' hb' => honly b' (List.mem_cons_of_mem s hb')
    rw [overlay, List.foldl_cons, ← overlay]
    -- The last store of the byte decides.
    by_cases hlater : .byte i b ∈ stores
    · exact ih hlater hrest (by cases s <;> simpa [Store.applyBytes] using hi)
    · have hs : Store.byte i b = s := (List.mem_cons.mp hmem).resolve_right hlater
      have hnone : ∀ b', .byte i b' ∉ stores := by
        intro b' hb'
        rw [hrest b' hb'] at hb'
        exact hlater hb'
      rw [getElem?_overlay_of_not_mem hnone, ← hs]
      exact List.getElem?_set_self hi

/-- In whatever order a payload is copied, it ends up at the front. -/
theorem overlay_of_copies (hcopy : Copies payload copy) {bs : Bytes}
    (hfits : payload.length ≤ bs.length) :
    overlay copy bs = payload ++ bs.drop payload.length := by
  apply List.ext_getElem?
  intro i
  by_cases hi : i < payload.length
  · have hmem : .byte i payload[i] ∈ copy :=
      (hcopy _).mpr ⟨i, payload[i], rfl, List.getElem?_eq_getElem hi⟩
    have honly : ∀ b, .byte i b ∈ copy → b = payload[i] := by
      intro b hb
      obtain ⟨j, b', hs, hb'⟩ := (hcopy _).mp hb
      cases hs
      rw [List.getElem?_eq_getElem hi] at hb'
      exact (Option.some.inj hb').symm
    rw [getElem?_overlay_of_mem hmem honly (Nat.lt_of_lt_of_le hi hfits),
      List.getElem?_append_left hi, List.getElem?_eq_getElem hi]
  · have hnone : ∀ b, .byte i b ∉ copy := by
      intro b hb
      obtain ⟨j, b', hs, hb'⟩ := (hcopy _).mp hb
      cases hs
      exact hi (List.getElem?_eq_some_iff.mp hb').1
    have hle : payload.length ≤ i := Nat.le_of_not_lt hi
    rw [getElem?_overlay_of_not_mem hnone, List.getElem?_append_right hle, List.getElem?_drop,
      Nat.add_sub_cancel' hle]

/-! ## Channels under stores -/

theorem data_after (c : Channel) (stores : List Store) :
    (after c stores).mailbox.data.toBytes = overlay stores c.mailbox.data.toBytes := by
  induction stores generalizing c with
  | nil => rfl
  | cons s stores ih =>
    have hstep : (LockedMemory.apply c s).mailbox.data.toBytes =
        s.applyBytes c.mailbox.data.toBytes := by
      cases s with
      | byte i b => exact Vector.toList_setIfInBounds
      | _ => rfl
    rw [after_cons, ih, hstep]
    rfl

theorem length_after (h : ∀ n, .length n ∉ stores) (c : Channel) :
    (after c stores).mailbox.length = c.mailbox.length := by
  induction stores generalizing c with
  | nil => rfl
  | cons s stores ih =>
    have hrest : ∀ n, .length n ∉ stores := fun n hn => h n (List.mem_cons_of_mem s hn)
    rw [after_cons, ih hrest]
    cases s with
    | length n => exact absurd List.mem_cons_self (h n)
    | _ => rfl

theorem readCount_after (c : Channel) (stores : List Store) :
    (after c stores).mailbox.readCount = c.mailbox.readCount := by
  induction stores generalizing c with
  | nil => rfl
  | cons s stores ih =>
    rw [after_cons, ih]
    cases s <;> rfl

theorem writeCount_after (c : Channel) (stores : List Store) :
    (after c stores).mailbox.writeCount =
      c.mailbox.writeCount + UInt64.ofNat (stores.count .count) := by
  induction stores generalizing c with
  | nil => exact (UInt64.add_zero _).symm
  | cons s stores ih =>
    rw [after_cons, ih]
    by_cases hs : s = .count
    · rw [hs, List.count_cons_self, Nat.add_comm, UInt64.ofNat_add, ← UInt64.add_assoc]
      rfl
    · rw [List.count_cons_of_ne hs]
      cases s with
      | count => exact absurd rfl hs
      | _ => rfl

/-- As long as no length is stored the message keeps its length, and bytes that are stored show in
it. -/
theorem message_after (h : ∀ n, .length n ∉ stores) (c : Channel) :
    (after c stores).mailbox.message = overlay stores c.mailbox.message := by
  have hlength : (after c stores).mailbox.messageLength = c.mailbox.messageLength := by
    rw [Mailbox.messageLength, length_after h, ← Mailbox.messageLength]
  rw [Mailbox.message, Block.front_eq_take, hlength, data_after, ← overlay_take,
    ← Block.front_eq_take, ← Mailbox.message]

/-! ## The stores of a write -/

theorem after_locking (p : Process) (c : Channel) :
    after c (lockStores Channel p.pid c.lock) = { c with lock := c.lock.taken p.pid } :=
  after_lockStores p.pid c

theorem after_bytes (h : ∀ s ∈ stores, ∃ i b, s = .byte i b) (c : Channel) :
    after c stores =
      { c with mailbox := { c.mailbox with data := (after c stores).mailbox.data } } := by
  induction stores generalizing c with
  | nil => rfl
  | cons s stores ih =>
    obtain ⟨i, b, rfl⟩ := h s List.mem_cons_self
    have hrest : ∀ s ∈ stores, ∃ i b, s = .byte i b := fun s hs => h s (List.mem_cons_of_mem _ hs)
    rw [after_cons]
    exact ih hrest _

theorem after_copy (hcopy : Copies payload copy) (hfits : payload.length ≤ Mailbox.capacity)
    (c : Channel) : after c copy = { c with mailbox := c.mailbox.copyIn payload } := by
  have hbytes : ∀ s ∈ copy, ∃ i b, s = .byte i b := by
    intro s hs
    obtain ⟨i, b, rfl, -⟩ := (hcopy s).mp hs
    exact ⟨i, b, rfl⟩
  have hdata : (after c copy).mailbox.data = c.mailbox.data.overwrite payload := by
    have hroom : payload.length ≤ c.mailbox.data.toBytes.length := by
      rw [Block.length_toBytes]
      exact hfits
    have hbytes : (after c copy).mailbox.data.toBytes =
        (c.mailbox.data.overwrite payload).toBytes := by
      rw [data_after, overlay_of_copies hcopy hroom, Block.toBytes_overwrite,
        List.take_of_length_le hfits]
    exact Vector.toList_inj.mp hbytes
  rw [after_bytes hbytes, hdata]
  rfl

/-- The stores of a write, one after the other, are the write. -/
theorem write_eq_after (timeout : Duration) (hfits : payload.length ≤ Mailbox.capacity)
    (hcopy : Copies payload copy) (hwriter : c.lock.Available p) :
    c.write p timeout payload =
      (.ok (), after c (writeStores p c.lock copy payload.length)) := by
  rw [write_of_available timeout hfits hwriter, writeStores, after_append, after_locking,
    after_append, after_copy hcopy hfits]
  rfl

theorem not_length_mem_front (hcopy : Copies payload copy) (n : Nat) :
    .length n ∉ lockStores Channel p.pid c.lock ++ copy := by
  intro hmem
  rcases List.mem_append.mp hmem with hlock | hcopied
  · rcases eq_of_mem_lockStores hlock with hs | hs <;> cases hs
  · obtain ⟨i, b, hs, -⟩ := (hcopy _).mp hcopied
    cases hs

/-- A part of a write either ends before the length is stored, or has copied the whole payload. -/
theorem prefix_writeStores {n : Nat} (hpre : pre <+: writeStores p c.lock copy n) :
    pre <+: lockStores Channel p.pid c.lock ++ copy ∨
      ∃ rest, pre = lockStores Channel p.pid c.lock ++ (copy ++ .length n :: rest) ∧
        rest <+: [.count, .owner 0] := by
  rw [writeStores, ← List.append_assoc] at hpre
  rcases prefix_append_cons hpre with hshort | ⟨rest, hrest, hends⟩
  · exact .inl hshort
  · exact .inr ⟨rest, hrest.trans (List.append_assoc ..), hends⟩

/-- The message that a part of a write leaves behind. -/
theorem message_after_prefix (hfits : payload.length ≤ Mailbox.capacity)
    (hcopy : Copies payload copy)
    (hpre : pre <+: writeStores p c.lock copy payload.length) :
    (after c pre).mailbox.message =
      if .length payload.length ∈ pre then payload else overlay pre c.mailbox.message := by
  rcases prefix_writeStores hpre with hshort | ⟨rest, rfl, hrest⟩
  · have hnone : ∀ n, .length n ∉ pre :=
      fun n hn => not_length_mem_front hcopy n (hshort.mem hn)
    rw [if_neg (hnone _), message_after hnone]
  · have hmem : .length payload.length ∈
        lockStores Channel p.pid c.lock ++ (copy ++ .length payload.length :: rest) := by
      simp
    have hends : rest = [] ∨ ∃ last, rest = .count :: last ∧ (last = [] ∨ last = [.owner 0]) := by
      simpa [List.prefix_cons_iff] using hrest
    rw [if_pos hmem, after_append, after_locking, after_append, after_copy hcopy hfits]
    -- What follows the length does not touch the message.
    refine Eq.trans ?_ (c.mailbox.message_store hfits)
    rcases hends with rfl | ⟨last, rfl, rfl | rfl⟩ <;> rfl

theorem available_after_prefix {n : Nat} (hcopy : Copies payload copy)
    (hreader : c.lock.Available q) (hother : p.pid ≠ q.pid) (hdead : q.alive p.pid = false)
    (hpre : pre <+: writeStores p c.lock copy n) : (after c pre).lock.Available q := by
  have howners : ∀ pid, .owner pid ∈ pre → pid = p.pid ∨ pid = 0 := by
    intro pid hpid
    have hmem := hpre.mem hpid
    rw [writeStores, List.mem_append, List.mem_append] at hmem
    rcases hmem with hlock | hcopied | hend
    · rcases eq_of_mem_lockStores hlock with hs | hs
      · cases hs
        exact .inl rfl
      · cases hs
    · obtain ⟨i, b, hs, -⟩ := (hcopy _).mp hcopied
      cases hs
    · exact .inr (by simpa using hend)
  exact hreader.of_owner hother hdead ((owner_after c pre).imp_right (howners _))

theorem count_le_one {n : Nat} (hcopy : Copies payload copy)
    (hpre : pre <+: writeStores p c.lock copy n) : pre.count .count ≤ 1 := by
  have hlock : (lockStores Channel p.pid c.lock).count .count = 0 := by
    apply List.count_eq_zero_of_not_mem
    intro hmem
    rcases eq_of_mem_lockStores hmem with hs | hs <;> cases hs
  have hcopied : copy.count .count = 0 := by
    apply List.count_eq_zero_of_not_mem
    intro hmem
    obtain ⟨i, b, hs, -⟩ := (hcopy _).mp hmem
    cases hs
  refine Nat.le_trans (hpre.sublist.count_le _) ?_
  rw [writeStores, List.count_append, List.count_append, hlock, hcopied]
  exact Nat.le_of_eq rfl

theorem pending_after_prefix {n : Nat} (hcopy : Copies payload copy)
    (hpending : c.mailbox.pending = true) (hpre : pre <+: writeStores p c.lock copy n) :
    (after c pre).mailbox.pending = true ↔
      ¬ (.count ∈ pre ∧ c.mailbox.writeCount + 1 = c.mailbox.readCount) := by
  have hne : c.mailbox.writeCount ≠ c.mailbox.readCount := bne_iff_ne.mp hpending
  rw [Mailbox.pending, bne_iff_ne, readCount_after, writeCount_after]
  by_cases hmem : .count ∈ pre
  · have hone : pre.count .count = 1 :=
      Nat.le_antisymm (count_le_one hcopy hpre) (List.count_pos_iff.mpr hmem)
    rw [hone]
    simp [hmem]
  · rw [List.count_eq_zero_of_not_mem hmem]
    simpa [hmem] using hne

/-! ## The next read -/

/-- A writer dies after any of the stores of its write, which finds a message waiting. The next
reader takes the lock over. If the length was stored it gets the new message, and otherwise the old
one with the bytes copied so far written over it. Only if the count of messages has come round to
the count of read ones does it get nothing. -/
theorem tryRead_after_crashed_write {p q : Process} {c : Channel} {payload : Bytes}
    {copy pre : List Store} (timeout timeout' : Duration) (hpending : c.mailbox.pending = true)
    (hfits : payload.length ≤ 65536) (hcopy : Copies payload copy)
    (hwriter : c.lock.Available p) (hreader : c.lock.Available q)
    (hother : p.pid ≠ q.pid) (hdead : q.alive p.pid = false)
    (hpre : pre <+: writeStores p c.lock copy payload.length) :
    c.write p timeout payload =
        (.ok (), after c (writeStores p c.lock copy payload.length)) ∧
      (after c pre).tryRead q timeout' =
        if .count ∈ pre ∧ c.mailbox.writeCount + 1 = c.mailbox.readCount then
          (.error .noData, after c pre)
        else
          (.ok (if .length payload.length ∈ pre then payload else overlay pre c.mailbox.message),
            ⟨{ (after c pre).lock.taken q.pid with owner := 0 },
              (after c pre).mailbox.markRead⟩) := by
  refine ⟨write_eq_after timeout hfits hcopy hwriter, ?_⟩
  have hwaits := pending_after_prefix hcopy hpending hpre
  by_cases hwrapped : .count ∈ pre ∧ c.mailbox.writeCount + 1 = c.mailbox.readCount
  · have hempty : (after c pre).mailbox.pending = false := by
      rw [Bool.eq_false_iff]
      exact fun h => hwaits.mp h hwrapped
    rw [if_pos hwrapped, tryRead_of_empty timeout' hempty]
  · have havailable := available_after_prefix hcopy hreader hother hdead hpre
    rw [if_neg hwrapped, tryRead_of_available timeout' (hwaits.mpr hwrapped) havailable,
      message_after_prefix hfits hcopy hpre]

/-- A channel with a message waiting. -/
def sampleChannel : Channel := ⟨⟨0, 0⟩, Mailbox.zero.store [1, 1]⟩

/-- A writer that is dead when the reader comes. -/
def sampleWriter : Process := ⟨7, fun _ => true⟩

/-- A reader that finds no other process alive. -/
def sampleReader : Process := ⟨8, fun pid => pid == 8⟩

theorem message_sampleChannel : sampleChannel.mailbox.message = [1, 1] :=
  Mailbox.zero.message_store (by decide)

/-- A writer that dies between the length and the count leaves its message to the reader. -/
theorem tryRead_after_length :
    [.owner 7, .byte 0 2, .length 1] <+:
        writeStores sampleWriter sampleChannel.lock (forwardCopy [2]) 1 ∧
      ((after sampleChannel [.owner 7, .byte 0 2, .length 1]).tryRead sampleReader 0).1 =
        .ok [2] := by
  have hpre : [.owner 7, .byte 0 2, .length 1] <+:
      writeStores sampleWriter sampleChannel.lock (forwardCopy [2]) 1 := ⟨[.count, .owner 0], rfl⟩
  have hread := (tryRead_after_crashed_write (c := sampleChannel) (q := sampleReader) 0 0 rfl
    (by decide) (copies_forwardCopy [2]) (.inl rfl) (.inl rfl) (by decide) (by decide) hpre).2
  exact ⟨hpre, congrArg Prod.fst hread⟩

/-- A writer that dies within the copy leaves a message that is neither the old nor the new one. -/
theorem tryRead_mixes_messages :
    sampleChannel.mailbox.pending = true ∧ sampleChannel.mailbox.message = [1, 1] ∧
      [.owner 7, .byte 0 2] <+:
        writeStores sampleWriter sampleChannel.lock (forwardCopy [2, 2]) 2 ∧
      ((after sampleChannel [.owner 7, .byte 0 2]).tryRead sampleReader 0).1 = .ok [2, 1] ∧
      ([2, 1] : Bytes) ≠ [1, 1] ∧ ([2, 1] : Bytes) ≠ [2, 2] := by
  have hpre : [.owner 7, .byte 0 2] <+:
      writeStores sampleWriter sampleChannel.lock (forwardCopy [2, 2]) 2 :=
    ⟨[.byte 1 2, .length 2, .count, .owner 0], rfl⟩
  have havailable : (after sampleChannel [.owner 7, .byte 0 2]).lock.Available sampleReader :=
    .inr ⟨by decide, by decide, by decide⟩
  have hmessage : (after sampleChannel [.owner 7, .byte 0 2]).mailbox.message = [2, 1] := by
    rw [message_after (by simp), message_sampleChannel]
    rfl
  have hread := tryRead_of_available 0 (c := after sampleChannel [.owner 7, .byte 0 2]) rfl
    havailable
  rw [hmessage] at hread
  exact ⟨rfl, message_sampleChannel, hpre, congrArg Prod.fst hread, by decide, by decide⟩

end PeerLink.Channel
