import Mathlib.Algebra.Order.Interval.Set.Monoid
import PeerLink.Link.Claim
import PeerLink.Proofs.Bytes.BigEndian
import PeerLink.Proofs.Link.Mailbox

/-! # Regions as bytes

Where the parts of a region lie, and what a change of one part leaves of the bytes.

* `Bytes.SameOutside`: byte strings of one length that differ only within a set of positions.
* `RoleSlot.image_ofImage`, `Header.image_ofImage`, `Mailbox.image_ofImage`,
  `Layout.image_ofImage`: a region is nothing but its bytes.
* `RoleSlot.pidWord`, `Mailbox.lengthWord`, `Layout.lockWords` and their kind: where the fields lie
  in a part, and `Role.inSlot`, `Direction.inMailbox`: where they lie in the region.
* `RoleSlot.sameOutside_occupy`, `Mailbox.sameOutside_store` and their kind: what a change of one
  part leaves of its bytes.
* `Header.sameOutside_mapSlot`, `Layout.sameOutside_putChannel`: a part that changes within some
  positions changes the whole within these positions behind the start of the part.
-/

namespace PeerLink
set_option autoImplicit false

/-! ## Differences of byte strings -/

namespace Bytes

/-- Byte strings of one length that are the same at every position outside of a set. -/
structure SameOutside (S : Set ℕ) (before after : Bytes) : Prop where
  length : after.length = before.length
  same : ∀ i ∉ S, after[i]? = before[i]?

namespace SameOutside

variable {S T : Set ℕ} {a b c : Bytes}

theorem refl (S : Set ℕ) (a : Bytes) : SameOutside S a a := ⟨rfl, fun _ _ => rfl⟩

theorem mono (h : SameOutside S a b) (hS : S ⊆ T) : SameOutside T a b :=
  ⟨h.length, fun i hi => h.same i fun hmem => hi (hS hmem)⟩

theorem trans (hab : SameOutside S a b) (hbc : SameOutside T b c) : SameOutside (S ∪ T) a c where
  length := hbc.length.trans hab.length
  same i hi := by
    rw [Set.mem_union, not_or] at hi
    exact (hbc.same i hi.2).trans (hab.same i hi.1)

/-- Byte strings of one length are the same outside of it. -/
theorem of_length {n : ℕ} (ha : a.length = n) (hb : b.length = n) :
    SameOutside (Set.Ico 0 n) a b where
  length := hb.trans ha.symm
  same i hi := by
    rw [Set.mem_Ico, not_and, Nat.not_lt] at hi
    have hn := hi (Nat.zero_le i)
    rw [List.getElem?_eq_none (ha.trans_le hn), List.getElem?_eq_none (hb.trans_le hn)]

theorem append_right (h : SameOutside S a b) (back : Bytes) :
    SameOutside S (a ++ back) (b ++ back) where
  length := by rw [List.length_append, List.length_append, h.length]
  same i hi := by
    rw [List.getElem?_append, List.getElem?_append, h.length, h.same i hi]

theorem append_left (h : SameOutside S a b) (front : Bytes) :
    SameOutside ((front.length + ·) '' S) (front ++ a) (front ++ b) where
  length := by rw [List.length_append, List.length_append, h.length]
  same i hi := by
    rw [List.getElem?_append, List.getElem?_append]
    split
    · rfl
    · next hle =>
      refine h.same _ fun hmem => hi ⟨_, hmem, ?_⟩
      dsimp only
      omega

/-- A part that changes within some positions, behind a front of known length. -/
theorem part {k : ℕ} (h : SameOutside S a b) (front back : Bytes) (hfront : front.length = k) :
    SameOutside ((k + ·) '' S) (front ++ (a ++ back)) (front ++ (b ++ back)) := by
  rw [← hfront]
  exact (h.append_right back).append_left front

/-- A field of known length that is replaced, between a front of known length and the rest. -/
theorem field {k n : ℕ} (front back old new : Bytes) (hfront : front.length = k)
    (hold : old.length = n) (hnew : new.length = n) :
    SameOutside (Set.Ico k (k + n)) (front ++ (old ++ back)) (front ++ (new ++ back)) := by
  have h := (of_length hold hnew).part front back hfront
  rwa [Set.image_const_add_Ico, Nat.add_zero] at h

end SameOutside

/-! ## Ranges side by side -/

theorem slice_append (bs : Bytes) {i j m n : ℕ} (h : j = i + m) :
    bs.slice i m ++ bs.slice j n = bs.slice i (m + n) := by
  rw [slice, slice, slice, h, ← List.drop_drop, ← List.take_add]

end Bytes

namespace Block

variable {n : ℕ}

theorem toBytes_ofBytes {bs : Bytes} (h : bs.length = n) : (ofBytes n bs).toBytes = bs := by
  subst h
  simp [ofBytes, toBytes, Vector.toList]

end Block

/-! ## Lengths -/

@[simp] theorem RoleSlot.length_image (s : RoleSlot) : s.image.length = 24 := rfl

@[simp] theorem Lock.length_image (l : Lock) : l.image.length = 8 := rfl

@[simp] theorem Header.length_image (h : Header) : h.image.length = 192 := by
  simp only [Header.image, List.length_append, Bytes.length_ofWord32, Bytes.length_ofWord64,
    Block.length_toBytes, Lock.length_image, RoleSlot.length_image]

@[simp] theorem Mailbox.length_image (m : Mailbox) : m.image.length = Mailbox.size := by
  simp only [Mailbox.image, List.length_append, Bytes.length_ofWord32, Bytes.length_ofWord64,
    Block.length_toBytes]
  rfl

theorem Layout.length_image (l : Layout) : l.image.length = Layout.size := by
  simp only [Layout.image, List.length_append, Header.length_image, Mailbox.length_image,
    Block.length_toBytes]
  rfl

/-! ## Bytes are regions -/

section Parts

variable {bs : Bytes} {i n : ℕ}

theorem Bytes.ofWord32_drop (h : i + 4 ≤ bs.length) :
    Bytes.ofWord32 (Bytes.word32 (bs.drop i)) = bs.slice i 4 :=
  Bytes.ofWord32_word32 (by rw [List.length_drop]; omega)

theorem Bytes.ofWord64_drop (h : i + 8 ≤ bs.length) :
    Bytes.ofWord64 (Bytes.word64 (bs.drop i)) = bs.slice i 8 :=
  Bytes.ofWord64_word64 (by rw [List.length_drop]; omega)

theorem Block.toBytes_slice (h : i + n ≤ bs.length) :
    (Block.ofBytes n ((bs.drop i).take n)).toBytes = bs.slice i n :=
  Block.toBytes_ofBytes (by rw [List.length_take, List.length_drop]; omega)

theorem Lock.image_ofImage (h : i + 8 ≤ bs.length) :
    (Lock.ofImage (bs.drop i)).image = bs.slice i 8 := by
  rw [Lock.image, Lock.ofImage, List.drop_drop, Bytes.ofWord32_drop (by omega),
    Bytes.ofWord32_drop (by omega), Bytes.slice_append bs rfl]

theorem RoleSlot.image_ofImage (h : i + 24 ≤ bs.length) :
    (RoleSlot.ofImage (bs.drop i)).image = bs.slice i 24 := by
  simp only [RoleSlot.image, RoleSlot.ofImage, List.drop_drop]
  rw [Bytes.ofWord64_drop (by omega), Bytes.ofWord32_drop (by omega),
    Bytes.ofWord32_drop (by omega), Bytes.ofWord32_drop (by omega), Bytes.ofWord32_drop (by omega),
    Bytes.slice_append bs rfl, Bytes.slice_append bs rfl, Bytes.slice_append bs rfl,
    Bytes.slice_append bs rfl]

theorem Header.image_ofImage (h : 192 ≤ bs.length) :
    (Header.ofImage bs).image = bs.slice 0 192 := by
  have hmagic : Bytes.ofWord32 (Bytes.word32 bs) = bs.slice 0 4 :=
    Bytes.ofWord32_word32 (by omega)
  simp only [Header.image, Header.ofImage]
  rw [hmagic, Bytes.ofWord32_drop (by omega), Bytes.ofWord32_drop (by omega),
    Bytes.ofWord32_drop (by omega), Bytes.ofWord64_drop (by omega), Block.toBytes_slice (by omega),
    Lock.image_ofImage (by omega), Block.toBytes_slice (by omega),
    RoleSlot.image_ofImage (by omega), RoleSlot.image_ofImage (by omega),
    Block.toBytes_slice (by omega)]
  iterate 10 rw [Bytes.slice_append bs rfl]

theorem Mailbox.image_ofImage (h : i + Mailbox.size ≤ bs.length) :
    (Mailbox.ofImage (bs.drop i)).image = bs.slice i Mailbox.size := by
  have hsize : Mailbox.size = 24 + Mailbox.capacity := rfl
  simp only [Mailbox.image, Mailbox.ofImage, List.drop_drop]
  rw [Bytes.ofWord64_drop (by omega), Bytes.ofWord64_drop (by omega),
    Bytes.ofWord32_drop (by omega), Bytes.ofWord32_drop (by omega), Block.toBytes_slice (by omega)]
  iterate 4 rw [Bytes.slice_append bs rfl]
  rfl

/-- Every byte string of the right length is a region. -/
theorem Layout.image_ofImage (h : bs.length = Layout.size) : (Layout.ofImage bs).image = bs := by
  have hsize : Layout.size = Header.size + 2 * Mailbox.size + 16 := rfl
  have hheader : Header.size = 0 + 192 := rfl
  have htail : Header.size + 2 * Mailbox.size = Header.size + Mailbox.size + Mailbox.size := by
    omega
  simp only [Layout.image, Layout.ofImage]
  rw [Header.image_ofImage (by omega), Mailbox.image_ofImage (by omega),
    Mailbox.image_ofImage (by omega), Block.toBytes_slice (by omega), Bytes.slice_append bs htail,
    Bytes.slice_append bs rfl, Bytes.slice_append bs hheader]
  exact List.take_of_length_le (Nat.le_of_eq h)

end Parts

/-! ## Positions

Where the fields lie, counted from the start of their slot, mailbox or region. -/

namespace RoleSlot

def heartbeatWord : Set ℕ := Set.Ico 0 8

def pidWord : Set ℕ := Set.Ico 8 12

def flagWord : Set ℕ := Set.Ico 12 16

def generationWord : Set ℕ := Set.Ico 16 20

/-- The words of a slot that mean something. -/
def usedBytes : Set ℕ := Set.Ico 0 20

theorem heartbeatWord_subset : heartbeatWord ⊆ usedBytes :=
  Set.Ico_subset_Ico (by decide) (by decide)

theorem flagWord_subset : flagWord ⊆ usedBytes := Set.Ico_subset_Ico (by decide) (by decide)

theorem claimWords_subset : pidWord ∪ flagWord ∪ generationWord ⊆ usedBytes := by
  refine Set.union_subset (Set.union_subset ?_ flagWord_subset) ?_
  · exact Set.Ico_subset_Ico (by decide) (by decide)
  · exact Set.Ico_subset_Ico (by decide) (by decide)

end RoleSlot

namespace Mailbox

def writeCountWord : Set ℕ := Set.Ico 0 8

def readCountWord : Set ℕ := Set.Ico 8 16

def lengthWord : Set ℕ := Set.Ico 16 20

/-- The first bytes of a message, as far as the mailbox has room for them. -/
def payloadBytes (n : ℕ) : Set ℕ := Set.Ico 24 (24 + min n capacity)

/-- The words of a mailbox that mean something, and its payload. -/
def usedBytes : Set ℕ := Set.Ico 0 20 ∪ Set.Ico 24 size

theorem readCountWord_subset : readCountWord ⊆ usedBytes :=
  (Set.Ico_subset_Ico (by decide) (by decide)).trans Set.subset_union_left

theorem storeBytes_subset (n : ℕ) : payloadBytes n ∪ lengthWord ∪ writeCountWord ⊆ usedBytes := by
  refine Set.union_subset (Set.union_subset ?_ ?_) ?_
  · have hroom : 24 + min n capacity ≤ size := Nat.add_le_add_left (Nat.min_le_right _ _) 24
    exact (Set.Ico_subset_Ico_right hroom).trans Set.subset_union_right
  · exact (Set.Ico_subset_Ico (by decide) (by decide)).trans Set.subset_union_left
  · exact (Set.Ico_subset_Ico (by decide) (by decide)).trans Set.subset_union_left

end Mailbox

/-- Magic, version and capacity, and behind a spare word the threshold. -/
def Layout.identityWords : Set ℕ := Set.Ico 0 12 ∪ Set.Ico 16 24

def Layout.lockWords : Set ℕ := Set.Ico 64 72

def Role.slotStart : Role → ℕ
  | .slave => 152
  | .master | .auto => 128

def Direction.mailboxStart : Direction → ℕ
  | .masterToSlave => 192
  | .slaveToMaster => 65752

theorem Role.slotStart_cases (side : Role) : side.slotStart = 128 ∨ side.slotStart = 152 := by
  cases side <;> decide

theorem Direction.mailboxStart_injective : Function.Injective mailboxStart := by
  intro d e h
  cases d <;> cases e <;> first | rfl | cases h

theorem Direction.mailboxStart_cases (d : Direction) :
    d.mailboxStart = 192 ∨ d.mailboxStart = 65752 := by
  cases d <;> decide

/-- Positions in the slot of a side as positions in the region. -/
def Role.inSlot (side : Role) (S : Set ℕ) : Set ℕ := (side.slotStart + ·) '' S

/-- Positions in the mailbox of a direction as positions in the region. -/
def Direction.inMailbox (d : Direction) (S : Set ℕ) : Set ℕ := (d.mailboxStart + ·) '' S

theorem Role.mem_inSlot_Ico {side : Role} {i m n : ℕ} :
    i ∈ side.inSlot (Set.Ico m n) ↔ side.slotStart + m ≤ i ∧ i < side.slotStart + n := by
  rw [inSlot, Set.image_const_add_Ico, Set.mem_Ico]

theorem Direction.mem_inMailbox_Ico {d : Direction} {i m n : ℕ} :
    i ∈ d.inMailbox (Set.Ico m n) ↔ d.mailboxStart + m ≤ i ∧ i < d.mailboxStart + n := by
  rw [inMailbox, Set.image_const_add_Ico, Set.mem_Ico]

theorem Direction.inMailbox_union (d : Direction) (S T : Set ℕ) :
    d.inMailbox (S ∪ T) = d.inMailbox S ∪ d.inMailbox T :=
  Set.image_union ..

/-! ## Changes of one part -/

open Bytes (SameOutside)

namespace RoleSlot

variable (s : RoleSlot) (pid : UInt32)

theorem sameOutside_beat : SameOutside heartbeatWord s.image s.beat.image :=
  .field [] _ (Bytes.ofWord64 s.heartbeat) (Bytes.ofWord64 s.beat.heartbeat) rfl rfl rfl

theorem sameOutside_occupy :
    SameOutside (pidWord ∪ flagWord ∪ generationWord) s.image (s.occupy pid).image := by
  let claimOf (s : RoleSlot) : Bytes :=
    Bytes.ofWord32 s.pid ++ Bytes.ofWord32 s.flag ++ Bytes.ofWord32 s.generation
  have h : SameOutside (Set.Ico 8 (8 + 12)) s.image (s.occupy pid).image :=
    .field (Bytes.ofWord64 s.heartbeat) (Bytes.ofWord32 s.reserved) (claimOf s)
      (claimOf (s.occupy pid)) rfl rfl rfl
  refine h.mono fun i hi => ?_
  simp only [pidWord, flagWord, generationWord, Set.mem_union, Set.mem_Ico] at hi ⊢
  omega

theorem sameOutside_vacate : SameOutside flagWord s.image s.vacate.image :=
  .field (Bytes.ofWord64 s.heartbeat ++ Bytes.ofWord32 s.pid) _ (Bytes.ofWord32 s.flag)
    (Bytes.ofWord32 s.vacate.flag) rfl rfl rfl

theorem sameOutside_vacateIfOwn : SameOutside flagWord s.image (s.vacateIfOwn pid).image := by
  rw [vacateIfOwn]
  split
  · exact s.sameOutside_vacate
  · exact .refl _ _

end RoleSlot

namespace Mailbox

variable (m : Mailbox)

theorem sameOutside_announce : SameOutside writeCountWord m.image m.announce.image :=
  .field [] _ (Bytes.ofWord64 m.writeCount) (Bytes.ofWord64 m.announce.writeCount) rfl rfl rfl

theorem sameOutside_markRead : SameOutside readCountWord m.image m.markRead.image :=
  .field (Bytes.ofWord64 m.writeCount) _ (Bytes.ofWord64 m.readCount)
    (Bytes.ofWord64 m.markRead.readCount) rfl rfl rfl

theorem sameOutside_setLength (n : ℕ) : SameOutside lengthWord m.image (m.setLength n).image :=
  .field (Bytes.ofWord64 m.writeCount ++ Bytes.ofWord64 m.readCount) _ (Bytes.ofWord32 m.length)
    (Bytes.ofWord32 (m.setLength n).length) rfl rfl rfl

theorem sameOutside_copyIn {payload : Bytes} (h : payload.length ≤ capacity) :
    SameOutside (payloadBytes payload.length) m.image (m.copyIn payload).image := by
  -- the old bytes under the payload have its length, since it fits
  let front : Bytes := Bytes.ofWord64 m.writeCount ++ Bytes.ofWord64 m.readCount
    ++ Bytes.ofWord32 m.length ++ Bytes.ofWord32 m.reserved
  have hold : (m.data.toBytes.take payload.length).length = payload.length :=
    List.length_take_of_le (h.trans_eq (Block.length_toBytes _).symm)
  have hcopy := SameOutside.field front (m.data.toBytes.drop payload.length) _ payload rfl hold rfl
  have hdata : (m.data.overwrite payload).toBytes = payload ++ m.data.toBytes.drop payload.length :=
    by rw [Block.toBytes_overwrite, List.take_of_length_le h]
  rw [List.take_append_drop, ← hdata] at hcopy
  rw [payloadBytes, Nat.min_eq_left h]
  exact hcopy

theorem sameOutside_store {payload : Bytes} (h : payload.length ≤ capacity) :
    SameOutside (payloadBytes payload.length ∪ lengthWord ∪ writeCountWord) m.image
      (m.store payload).image :=
  ((m.sameOutside_copyIn h).trans (sameOutside_setLength _ _)).trans (sameOutside_announce _)

end Mailbox

/-! ## Changes of the whole -/

namespace Header

variable (h : Header)

/-- The bytes in front of the lock. -/
def beforeLockWords : Bytes :=
  Bytes.ofWord32 h.magic ++ (Bytes.ofWord32 h.version ++ (Bytes.ofWord32 h.slotCapacity
    ++ (Bytes.ofWord32 h.reserved ++ (Bytes.ofWord64 h.staleThresholdMs ++ h.beforeLock.toBytes))))

/-- The bytes in front of the role slots. -/
def beforeSlots : Bytes := h.beforeLockWords ++ (h.lock.image ++ h.afterLock.toBytes)

theorem length_beforeLockWords : h.beforeLockWords.length = 64 := by
  simp only [beforeLockWords, List.length_append, Block.length_toBytes]
  rfl

theorem length_beforeSlots : h.beforeSlots.length = 128 := by
  simp only [beforeSlots, List.length_append, length_beforeLockWords, Block.length_toBytes]
  rfl

theorem image_eq_beforeSlots : h.image =
    h.beforeSlots ++ (h.master.image ++ (h.slave.image ++ h.afterRoles.toBytes)) := by
  simp only [image, beforeSlots, beforeLockWords, List.append_assoc]

theorem sameOutside_lock (l : Lock) :
    SameOutside Layout.lockWords h.image { h with lock := l }.image := by
  have hlock : SameOutside Layout.lockWords h.beforeSlots { h with lock := l }.beforeSlots :=
    .field h.beforeLockWords h.afterLock.toBytes h.lock.image l.image h.length_beforeLockWords
      rfl rfl
  rw [image_eq_beforeSlots, image_eq_beforeSlots]
  exact hlock.append_right _

theorem sameOutside_identity (magic version slotCapacity : UInt32) (staleThresholdMs : UInt64) :
    SameOutside Layout.identityWords h.image
      { h with magic, version, slotCapacity, staleThresholdMs }.image := by
  let named : Header := { h with magic, version, slotCapacity }
  let nameOf (h : Header) : Bytes :=
    Bytes.ofWord32 h.magic ++ Bytes.ofWord32 h.version ++ Bytes.ofWord32 h.slotCapacity
  have hname : SameOutside (Set.Ico 0 (0 + 12)) h.image named.image :=
    .field [] _ (nameOf h) (nameOf named) rfl rfl rfl
  have hthreshold : SameOutside (Set.Ico 16 (16 + 8)) named.image
      { named with staleThresholdMs }.image :=
    .field (nameOf named ++ Bytes.ofWord32 h.reserved) _ (Bytes.ofWord64 h.staleThresholdMs)
      (Bytes.ofWord64 staleThresholdMs) rfl rfl rfl
  exact hname.trans hthreshold

theorem sameOutside_mapSlot {S : Set ℕ} {f : RoleSlot → RoleSlot} (side : Role)
    (hf : SameOutside S (h.slot side).image (f (h.slot side)).image) :
    SameOutside (side.inSlot S) h.image (h.mapSlot side f).image := by
  rw [image_eq_beforeSlots, image_eq_beforeSlots]
  cases side with
  | slave =>
    have hfront : (h.beforeSlots ++ h.master.image).length = 152 := by
      rw [List.length_append, length_beforeSlots, RoleSlot.length_image]
    have hpart := hf.part (h.beforeSlots ++ h.master.image) h.afterRoles.toBytes hfront
    rw [List.append_assoc, List.append_assoc] at hpart
    exact hpart
  | master | auto =>
    exact hf.part h.beforeSlots (h.slave.image ++ h.afterRoles.toBytes) h.length_beforeSlots

end Header

namespace Layout

variable {S : Set ℕ} (l : Layout)

theorem sameOutside_header {h : Header} (hh : SameOutside S l.header.image h.image) :
    SameOutside S l.image { l with header := h }.image :=
  hh.append_right _

theorem sameOutside_putChannel {c : Channel} (d : Direction)
    (hc : SameOutside S (l.mailbox d).image c.mailbox.image) :
    SameOutside (lockWords ∪ d.inMailbox S) l.image (l.putChannel d c).image := by
  let locked : Layout := { l with header := { l.header with lock := c.lock } }
  have hlock : SameOutside lockWords l.image locked.image :=
    l.sameOutside_header (l.header.sameOutside_lock c.lock)
  refine hlock.trans ?_
  have hheader : locked.header.image.length = 192 := Header.length_image _
  cases d with
  | masterToSlave =>
    exact hc.part locked.header.image (l.slaveToMaster.image ++ l.tail.toBytes) hheader
  | slaveToMaster =>
    have hfront : (locked.header.image ++ l.masterToSlave.image).length = 65752 := by
      rw [List.length_append, hheader, Mailbox.length_image]
      rfl
    have hpart := hc.part (locked.header.image ++ l.masterToSlave.image) l.tail.toBytes hfront
    rw [List.append_assoc, List.append_assoc] at hpart
    exact hpart

end Layout

end PeerLink
