import PeerLink.Link.Stats
import PeerLink.Proofs.Link.Claims
import PeerLink.Proofs.Link.Image

/-! # What an operation leaves of a region

Every operation on a region may change a few words and leaves all other bytes as they are, whatever
the bytes are at the start.

* `Layout.Operation`, `Layout.Operation.Answer`, `Layout.Operation.perform`: the operations on a
  region and what they return.
* `Layout.Operation.changes`: the positions that may differ afterwards, which depends on the answer.
* `Layout.Operation.sameOutside_perform`: all other bytes stay.
* `Layout.Operation.changes_cases`: the positions are in the lock, or among the words in use of the
  operation's own side and direction.
* `Layout.sameOutside_publish`: what the maker of a region fills in before there are operations.

Main statement: `Layout.Operation.perform_frame`. What no operation changes stays through every run
of them: `Layout.Operation.fixed_performAll`.
-/

namespace PeerLink
set_option autoImplicit false

open Bytes (SameOutside)

/-- An access to a lock which leaves the lock as it was if it is refused. -/
def Lock.update (access : Lock → Except RegionError Lock) (l : Lock) :
    Except RegionError Unit × Lock :=
  match access l with
  | .ok l' => (.ok (), l')
  | .error e => (.error e, l)

namespace Layout

/-- An operation on the lock of a region. -/
def onLock {α : Type} (act : Lock → α × Lock) (l : Layout) : α × Layout :=
  let (a, lock) := act l.header.lock
  (a, { l with header := { l.header with lock } })

/-! ## Operations -/

/-- What a process can do with a region that it has mapped. A side writes into its outgoing
direction and reads from its incoming one. -/
inductive Operation where
  | acquire
  | tryAcquire
  | unlock
  | dropGuard
  | resetLock
  | claim (requested : Role)
  | release (side : Role)
  | beat (side : Role)
  | write (writer : Role) (payload : Bytes)
  | tryRead (reader : Role)
  | tryReadInto (reader : Role) (buffer : Bytes)
  | pending (reader : Role)
  /-- All fields of the header, of which an accessor returns one. -/
  | header
  | stats (name : String) (previous : Option HeartbeatBaseline)

namespace Operation

/-- What an operation returns. -/
abbrev Answer : Operation → Type
  | .acquire | .unlock | .resetLock => Except RegionError Unit
  | .tryAcquire => Bool
  | .dropGuard | .beat _ => Unit
  | .claim _ => Except LinkError Role
  | .release _ => Except LinkError Bool
  | .write _ _ => Except LinkError Unit
  | .tryRead _ => Except LinkError Bytes
  | .tryReadInto _ _ => Except LinkError (Nat × Bytes)
  | .pending _ => Bool
  | .header => Header
  | .stats _ _ => RegionStats

/-- An operation of a process, with its time limit for the lock. -/
def perform (p : Process) (timeout : Duration) : (op : Operation) → Layout → op.Answer × Layout
  | .acquire, l => l.onLock (Lock.update (Lock.acquire p timeout))
  | .tryAcquire, l => l.onLock fun k => match k.tryLock p with
    | some taken => (true, taken)
    | none => (false, k)
  | .unlock, l => l.onLock (Lock.update (Lock.release p.pid))
  | .dropGuard, l => l.onLock fun k => ((), k.drop p.pid)
  | .resetLock, l => l.onLock (Lock.update (Lock.init p))
  | .claim requested, l => l.onHeader (·.claim p requested timeout)
  | .release side, l => l.onHeader (·.release p side timeout)
  | .beat side, l => l.onHeader fun h => ((), h.beat side)
  | .write writer payload, l => l.onChannel writer.outgoing (·.write p timeout payload)
  | .tryRead reader, l => l.onChannel reader.incoming (·.tryRead p timeout)
  | .tryReadInto reader buffer, l => l.onChannel reader.incoming (·.tryReadInto p timeout buffer)
  | .pending reader, l => ((l.mailbox reader.incoming).pending, l)
  | .header, l => (l.header, l)
  | .stats name previous, l => (RegionStats.capture p name l previous, l)

/-! ## Positions -/

/-- The positions that may differ after an operation with a given answer. -/
def changes : (op : Operation) → op.Answer → Set ℕ
  | .acquire, _ => lockWords
  | .tryAcquire, _ => lockWords
  | .unlock, _ => lockWords
  | .dropGuard, _ => lockWords
  | .resetLock, _ => lockWords
  | .claim _, .ok side =>
    lockWords ∪ side.inSlot (RoleSlot.pidWord ∪ RoleSlot.flagWord ∪ RoleSlot.generationWord)
  | .claim _, .error _ => lockWords
  | .release side, .ok _ => lockWords ∪ side.inSlot RoleSlot.flagWord
  -- what is refused before the lock is taken changes nothing at all
  | .release _, .error _ => ∅
  | .beat side, _ => side.inSlot RoleSlot.heartbeatWord
  | .write writer payload, .ok _ =>
    lockWords ∪ writer.outgoing.inMailbox
      (Mailbox.payloadBytes payload.length ∪ Mailbox.lengthWord ∪ Mailbox.writeCountWord)
  | .write _ _, .error _ => ∅
  | .tryRead reader, .ok _ => lockWords ∪ reader.incoming.inMailbox Mailbox.readCountWord
  | .tryRead _, .error _ => ∅
  | .tryReadInto reader _, .ok _ => lockWords ∪ reader.incoming.inMailbox Mailbox.readCountWord
  | .tryReadInto _ _, .error _ => lockWords
  | .pending _, _ => ∅
  | .header, _ => ∅
  | .stats _ _, _ => ∅

/-- The side whose slot an operation is about. -/
def side? : (op : Operation) → op.Answer → Option Role
  | .claim _, .ok side => some side
  | .release side, _ => some side
  | .beat side, _ => some side
  | _, _ => none

/-- The direction whose mailbox an operation is about. -/
def direction? : Operation → Option Direction
  | .write writer _ => some writer.outgoing
  | .tryRead reader => some reader.incoming
  | .tryReadInto reader _ => some reader.incoming
  | .pending reader => some reader.incoming
  | _ => none

/-- The bytes that no field in use covers: the spare words of header, slots and mailboxes, and what
fills up the header and the region. -/
def reservedBytes : Set ℕ :=
  Set.Ico 12 16 ∪ Set.Ico 24 64 ∪ Set.Ico 72 128 ∪ Set.Ico 148 152 ∪ Set.Ico 172 192
    ∪ Set.Ico 212 216 ∪ Set.Ico 65772 65776 ∪ Set.Ico 131312 131328

/-- The bytes that stay as long as the region is there. -/
def fixedBytes : Set ℕ := identityWords ∪ reservedBytes

/-! ## The bytes that stay -/

variable (p : Process) (timeout : Duration) (l : Layout)

theorem sameOutside_setLock (lock : Lock) :
    SameOutside lockWords l.image { l with header := { l.header with lock } }.image :=
  l.sameOutside_header (l.header.sameOutside_lock lock)

theorem sameOutside_onLock {α : Type} (act : Lock → α × Lock) :
    SameOutside lockWords l.image (l.onLock act).2.image :=
  sameOutside_setLock l _

theorem sameOutside_claim (requested : Role) :
    let (answer, l') := (Operation.claim requested).perform p timeout l
    SameOutside ((Operation.claim requested).changes answer) l.image l'.image := by
  rw [perform, onHeader]
  rcases Header.claim_outcome p requested timeout l.header with ⟨side, lock, h⟩ | ⟨e, lock, h⟩
  · rw [h]
    have hslot := Header.sameOutside_mapSlot { l.header with lock } side
      (RoleSlot.sameOutside_occupy _ p.pid)
    exact l.sameOutside_header ((l.header.sameOutside_lock lock).trans hslot)
  · rw [h]
    exact sameOutside_setLock l lock

theorem sameOutside_release (side : Role) :
    let (answer, l') := (Operation.release side).perform p timeout l
    SameOutside ((Operation.release side).changes answer) l.image l'.image := by
  rw [perform, onHeader]
  rcases Header.release_outcome p side timeout l.header with ⟨live, lock, h⟩ | ⟨e, h⟩
  · rw [h]
    have hslot := Header.sameOutside_mapSlot { l.header with lock } side
      (RoleSlot.sameOutside_vacateIfOwn _ p.pid)
    exact l.sameOutside_header ((l.header.sameOutside_lock lock).trans hslot)
  · rw [h]
    exact .refl _ _

theorem sameOutside_beat (side : Role) :
    SameOutside (side.inSlot RoleSlot.heartbeatWord) l.image
      ((Operation.beat side).perform p timeout l).2.image :=
  l.sameOutside_header (l.header.sameOutside_mapSlot side (RoleSlot.sameOutside_beat _))

theorem sameOutside_write (writer : Role) (payload : Bytes) :
    let (answer, l') := (Operation.write writer payload).perform p timeout l
    SameOutside ((Operation.write writer payload).changes answer) l.image l'.image := by
  rw [perform, onChannel]
  rcases Channel.write_outcome p timeout payload (l.channel writer.outgoing) with
    ⟨hfits, lock, h⟩ | ⟨e, h⟩
  · rw [h]
    exact l.sameOutside_putChannel _ (Mailbox.sameOutside_store _ hfits)
  · rw [h]
    dsimp only
    rw [putChannel_channel]
    exact .refl _ _

theorem sameOutside_tryRead (reader : Role) :
    let (answer, l') := (Operation.tryRead reader).perform p timeout l
    SameOutside ((Operation.tryRead reader).changes answer) l.image l'.image := by
  rw [perform, onChannel]
  rcases Channel.tryRead_outcome p timeout (l.channel reader.incoming) with ⟨lock, h⟩ | ⟨e, h⟩
  · rw [h]
    exact l.sameOutside_putChannel _ (Mailbox.sameOutside_markRead _)
  · rw [h]
    dsimp only
    rw [putChannel_channel]
    exact .refl _ _

theorem sameOutside_tryReadInto (reader : Role) (buffer : Bytes) :
    let (answer, l') := (Operation.tryReadInto reader buffer).perform p timeout l
    SameOutside ((Operation.tryReadInto reader buffer).changes answer) l.image l'.image := by
  rw [perform, onChannel]
  rcases Channel.tryReadInto_outcome p timeout buffer (l.channel reader.incoming) with
    ⟨taken, lock, h⟩ | ⟨e, lock, h⟩
  · rw [h]
    exact l.sameOutside_putChannel _ (Mailbox.sameOutside_markRead _)
  · rw [h]
    -- the buffer was too small, so at most the lock has another number of take-overs
    have hlock := l.sameOutside_putChannel (S := ∅) (c := ⟨lock, l.mailbox reader.incoming⟩)
      reader.incoming (.refl _ _)
    rw [Direction.inMailbox, Set.image_empty, Set.union_empty] at hlock
    exact hlock

theorem sameOutside_perform (op : Operation) :
    SameOutside (op.changes (op.perform p timeout l).1) l.image
      (op.perform p timeout l).2.image := by
  cases op with
  | acquire | tryAcquire | unlock | dropGuard | resetLock => exact sameOutside_onLock l _
  | claim requested => exact sameOutside_claim p timeout l requested
  | release side => exact sameOutside_release p timeout l side
  | beat side => exact sameOutside_beat p timeout l side
  | write writer payload => exact sameOutside_write p timeout l writer payload
  | tryRead reader => exact sameOutside_tryRead p timeout l reader
  | tryReadInto reader buffer => exact sameOutside_tryReadInto p timeout l reader buffer
  | pending | header | stats => exact .refl _ _

/-! ## The bytes that no operation changes -/

section Positions

variable {op : Operation} {answer : op.Answer} {i : ℕ}

/-- What an operation changes is in the lock, or among the words in use of its own slot or its own
mailbox. -/
theorem changes_cases (hi : i ∈ op.changes answer) :
    i ∈ lockWords ∨
    (∃ side, op.side? answer = some side ∧ i ∈ side.inSlot RoleSlot.usedBytes) ∨
    ∃ d, op.direction? = some d ∧ i ∈ d.inMailbox Mailbox.usedBytes := by
  cases op with
  | acquire | tryAcquire | unlock | dropGuard | resetLock => exact .inl hi
  | claim requested =>
    cases answer with
    | error e => exact .inl hi
    | ok side =>
      rcases hi with hi | hi
      · exact .inl hi
      · exact .inr (.inl ⟨side, rfl, Set.image_mono RoleSlot.claimWords_subset hi⟩)
  | release side =>
    cases answer with
    | error e => cases hi
    | ok live =>
      rcases hi with hi | hi
      · exact .inl hi
      · exact .inr (.inl ⟨side, rfl, Set.image_mono RoleSlot.flagWord_subset hi⟩)
  | beat side => exact .inr (.inl ⟨side, rfl, Set.image_mono RoleSlot.heartbeatWord_subset hi⟩)
  | write writer payload =>
    cases answer with
    | error e => cases hi
    | ok =>
      rcases hi with hi | hi
      · exact .inl hi
      · exact .inr (.inr ⟨_, rfl, Set.image_mono (Mailbox.storeBytes_subset _) hi⟩)
  | tryRead reader =>
    cases answer with
    | error e => cases hi
    | ok message =>
      rcases hi with hi | hi
      · exact .inl hi
      · exact .inr (.inr ⟨_, rfl, Set.image_mono Mailbox.readCountWord_subset hi⟩)
  | tryReadInto reader buffer =>
    cases answer with
    | error e => exact .inl hi
    | ok taken =>
      rcases hi with hi | hi
      · exact .inl hi
      · exact .inr (.inr ⟨_, rfl, Set.image_mono Mailbox.readCountWord_subset hi⟩)
  | pending | header | stats => cases hi

/-- The same in numbers. -/
theorem changes_bounds (hi : i ∈ op.changes answer) :
    (64 ≤ i ∧ i < 72) ∨
    (∃ side, op.side? answer = some side ∧ side.slotStart ≤ i ∧ i < side.slotStart + 20) ∨
    ∃ d, op.direction? = some d ∧
      (d.mailboxStart ≤ i ∧ i < d.mailboxStart + 20 ∨
        d.mailboxStart + 24 ≤ i ∧ i < d.mailboxStart + 65560) := by
  rcases changes_cases hi with hlock | ⟨side, hside, hslot⟩ | ⟨d, hd, hmailbox⟩
  · exact .inl hlock
  · exact .inr (.inl ⟨side, hside, Role.mem_inSlot_Ico.mp hslot⟩)
  · rw [Mailbox.usedBytes, Direction.inMailbox_union] at hmailbox
    exact .inr (.inr ⟨d, hd, hmailbox.imp Direction.mem_inMailbox_Ico.mp
      Direction.mem_inMailbox_Ico.mp⟩)

theorem changes_not_fixed (hi : i ∈ op.changes answer) : i ∉ fixedBytes := by
  simp only [fixedBytes, reservedBytes, identityWords, Set.mem_union, Set.mem_Ico]
  rcases changes_bounds hi with hlock | ⟨side, -, hslot⟩ | ⟨d, -, hmailbox⟩
  · omega
  · have hstart := side.slotStart_cases
    omega
  · have hstart := d.mailboxStart_cases
    omega

theorem changes_not_inSlot {side : Role}
    (hother : ∀ own, op.side? answer = some own → own.slotStart ≠ side.slotStart)
    (hi : i ∈ op.changes answer) : i ∉ side.inSlot (Set.Ico 0 RoleSlot.size) := by
  rw [Role.mem_inSlot_Ico, RoleSlot.size]
  have hside := side.slotStart_cases
  rcases changes_bounds hi with hlock | ⟨own, hown, hslot⟩ | ⟨d, -, hmailbox⟩
  · omega
  · have hstart := own.slotStart_cases
    have hne := hother own hown
    omega
  · have hstart := d.mailboxStart_cases
    omega

theorem changes_not_inMailbox {d : Direction} (hother : op.direction? ≠ some d)
    (hi : i ∈ op.changes answer) : i ∉ d.inMailbox (Set.Ico 0 Mailbox.size) := by
  rw [Direction.mem_inMailbox_Ico, Mailbox.size, Mailbox.capacity]
  have hd := d.mailboxStart_cases
  rcases changes_bounds hi with hlock | ⟨side, -, hslot⟩ | ⟨own, hown, hmailbox⟩
  · omega
  · have hstart := side.slotStart_cases
    omega
  · have hstart := own.mailboxStart_cases
    have hne : own.mailboxStart ≠ d.mailboxStart := fun heq =>
      hother (hown.trans (congrArg some (Direction.mailboxStart_injective heq)))
    omega

end Positions

/-! ## The frame of every operation -/

/-- Whatever the bytes of a region are, an operation changes no others than those that its answer
allows: nothing that is reserved, no slot but that of its own side, and no mailbox but that of its
own direction. -/
theorem perform_frame (op : Operation) {bs : Bytes} (hsize : bs.length = Layout.size) :
    let (answer, l) := op.perform p timeout (Layout.ofImage bs)
    SameOutside (op.changes answer) bs l.image ∧
    (∀ i ∈ reservedBytes, l.image[i]? = bs[i]?) ∧
    (∀ side : Role, (∀ own, op.side? answer = some own → own.slotStart ≠ side.slotStart) →
      ∀ i ∈ side.inSlot (Set.Ico 0 RoleSlot.size), l.image[i]? = bs[i]?) ∧
    ∀ d : Direction, op.direction? ≠ some d →
      ∀ i ∈ d.inMailbox (Set.Ico 0 Mailbox.size), l.image[i]? = bs[i]? := by
  have hframe := sameOutside_perform p timeout (Layout.ofImage bs) op
  rw [Layout.image_ofImage hsize] at hframe
  refine ⟨hframe, fun i hi => ?_, fun side hother i hi => ?_, fun d hother i hi => ?_⟩
  · exact hframe.same i fun hchanged => changes_not_fixed hchanged (.inr hi)
  · exact hframe.same i fun hchanged => changes_not_inSlot hother hchanged hi
  · exact hframe.same i fun hchanged => changes_not_inMailbox hother hchanged hi

/-- The same at a region of zeros, into which the slave writes three bytes. -/
theorem perform_frame_zero :
    let p : Process := ⟨7, fun _ => false⟩
    let bs : Bytes := Layout.zero.image
    let (answer, l) := (Operation.write .slave [1, 2, 3]).perform p 0 (Layout.ofImage bs)
    bs.length = Layout.size ∧ answer = .ok () ∧
    SameOutside (Set.Ico 64 72 ∪ Direction.slaveToMaster.inMailbox
      (Set.Ico 24 27 ∪ Set.Ico 16 20 ∪ Set.Ico 0 8)) bs l.image ∧
    ∀ i ∈ reservedBytes, l.image[i]? = bs[i]? := by
  have hframe := perform_frame ⟨7, fun _ => false⟩ 0 (.write .slave [1, 2, 3])
    (Layout.length_image Layout.zero)
  exact ⟨Layout.length_image _, rfl, hframe.1, hframe.2.1⟩

/-- Operations of any processes, one after the other. -/
def performAll : List (Process × Duration × Operation) → Layout → Layout
  | [], l => l
  | (p, timeout, op) :: rest, l => performAll rest (op.perform p timeout l).2

/-- What a region is and what is reserved stays as it was mapped, whatever is done with it. -/
theorem fixed_performAll (calls : List (Process × Duration × Operation)) {i : ℕ}
    (hi : i ∈ fixedBytes) : (performAll calls l).image[i]? = l.image[i]? := by
  induction calls generalizing l with
  | nil => rfl
  | cons call rest ih =>
    obtain ⟨p, timeout, op⟩ := call
    have hstep := (sameOutside_perform p timeout l op).same i fun hchanged =>
      changes_not_fixed hchanged hi
    exact (ih _).trans hstep

end Operation

/-! ## A new region -/

/-- The one who makes a region fills in its identity, which no operation changes afterwards, and
resets the lock. -/
theorem sameOutside_publish (p : Process) (staleThreshold : Duration) (l : Layout) :
    SameOutside (identityWords ∪ lockWords) l.image
      (l.onHeader (·.publish p staleThreshold)).2.image := by
  have hheader : SameOutside (identityWords ∪ lockWords) l.header.image
      (l.header.publish p staleThreshold).2.image := by
    unfold Header.publish
    dsimp only
    split
    · exact (l.header.sameOutside_identity _ _ _ _).mono Set.subset_union_left
    · exact (l.header.sameOutside_identity _ _ _ _).trans (Header.sameOutside_lock _ _)
  exact l.sameOutside_header hheader

end Layout

end PeerLink
