import Mathlib.Algebra.Group.Nat.Defs
import Mathlib.Logic.Function.Basic
import PeerLink.Proofs.Link.Mailbox

/-! # Channels as letterboxes

What the peers see of the two mailboxes of a region is two independent letterboxes.

* `Channel.Request`, `Channel.Reply`, `Channel.Call`: an operation of some process on one direction,
  and what it returns.
* `Layout.run`: a run of calls on a region.
* `Letterbox`: the message that waits, how many were ever stored, and how many had been at the last
  successful read; `Letterbox.run` is a run of the same calls on two of them.
* `Mailbox.Shows`: the counters and bytes of a mailbox stand for a letterbox.

Main statement: `Layout.run_refines_letterboxes`. `Shows` is kept by every request
(`Channel.Request.perform_shows`) and hence by every run (`Layout.run_shows`).
-/

namespace PeerLink
set_option autoImplicit false

/-! ## Calls -/

/-- What a process asks of a channel. -/
inductive Channel.Request where
  | write (payload : Bytes)
  | tryRead
  | tryReadInto (buffer : Bytes)
  | pending

/-- What a request returns; a read into a buffer returns the length and the buffer. -/
inductive Channel.Reply where
  | written (result : Except LinkError Unit)
  | read (result : Except LinkError Bytes)
  | readInto (result : Except LinkError (Nat × Bytes))
  | pending (waits : Bool)

/-- A request of a process to the channel of a direction, with its time limit for the lock. -/
structure Channel.Call where
  process : Process
  timeout : Duration
  direction : Direction
  request : Channel.Request

/-- A request carried out on a channel. -/
def Channel.Request.perform (p : Process) (timeout : Duration) (c : Channel) :
    Channel.Request → Channel.Reply × Channel
  | .write payload => (.written (c.write p timeout payload).1, (c.write p timeout payload).2)
  | .tryRead => (.read (c.tryRead p timeout).1, (c.tryRead p timeout).2)
  | .tryReadInto buffer =>
    (.readInto (c.tryReadInto p timeout buffer).1, (c.tryReadInto p timeout buffer).2)
  | .pending => (.pending c.mailbox.pending, c)

/-- A call carried out on a region. -/
def Channel.Call.perform (call : Channel.Call) (l : Layout) : Channel.Reply × Layout :=
  l.onChannel call.direction fun c => call.request.perform call.process call.timeout c

/-- A run of calls on a region: the answers in order, and the region afterwards. -/
def Layout.run : List Channel.Call → Layout → List Channel.Reply × Layout
  | [], l => ([], l)
  | call :: calls, l =>
    let (answer, l) := call.perform l
    let (answers, l) := Layout.run calls l
    (answer :: answers, l)

/-! ## Letterboxes -/

/-- A letterbox for one message. -/
structure Letterbox where
  /-- The message that waits to be read. -/
  unread : Option Bytes
  /-- How many messages were ever stored. -/
  stored : Nat
  /-- How many had been stored at the last successful read. -/
  seen : Nat

namespace Letterbox

/-- A letterbox that was never used. -/
def empty : Letterbox := ⟨none, 0, 0⟩

/-- A message is stored in place of the one that waits. -/
def store (payload : Bytes) (b : Letterbox) : Letterbox := ⟨some payload, b.stored + 1, b.seen⟩

/-- The message is taken. -/
def take (b : Letterbox) : Letterbox := ⟨none, b.stored, b.stored⟩

/-- What a letterbox answers, and how the request leaves it. -/
def answer (b : Letterbox) : Channel.Request → Channel.Reply × Letterbox
  | .write payload =>
    if payload.length ≤ 65536 then (.written (.ok ()), b.store payload)
    else (.written (.error (.bufferFull payload.length 65536)), b)
  | .tryRead =>
    match b.unread with
    | none => (.read (.error .noData), b)
    | some message => (.read (.ok message), b.take)
  | .tryReadInto buffer =>
    match b.unread with
    | none => (.readInto (.error .noData), b)
    | some message =>
      if message.length ≤ buffer.length then
        (.readInto (.ok (message.length, message ++ buffer.drop message.length)), b.take)
      else (.readInto (.error (.bufferTooSmall message.length buffer.length)), b)
  | .pending => (.pending b.unread.isSome, b)

/-- A run of calls on two letterboxes, each call on the one of its direction. -/
def run : List Channel.Call → (Direction → Letterbox) →
    List Channel.Reply × (Direction → Letterbox)
  | [], boxes => ([], boxes)
  | call :: calls, boxes =>
    let (answer, box) := (boxes call.direction).answer call.request
    let (answers, boxes) := run calls (Function.update boxes call.direction box)
    (answer :: answers, boxes)

end Letterbox

/-- Whether a call stores a message in a direction. -/
def Channel.Call.storesIn (d : Direction) (call : Channel.Call) : Bool :=
  call.direction == d &&
    match call.request with
    | .write payload => payload.length ≤ 65536
    | _ => false

/-- How many calls store a message in a direction. -/
def Channel.storesIn (d : Direction) (calls : List Channel.Call) : Nat :=
  calls.countP (·.storesIn d)

/-! ## The relation -/

/-- A mailbox stands for a letterbox: the counters are the letterbox's, they differ exactly if a
message waits, and that message is the mailbox's. -/
structure Mailbox.Shows (m : Mailbox) (b : Letterbox) : Prop where
  stored : m.writeCount.toNat = b.stored
  seen : m.readCount.toNat = b.seen
  ordered : b.seen ≤ b.stored
  waits : b.unread.isSome = true ↔ b.seen ≠ b.stored
  message : ∀ message, b.unread = some message → m.message = message

namespace Mailbox.Shows

variable {m : Mailbox} {b : Letterbox}

theorem zero : Mailbox.zero.Shows Letterbox.empty :=
  ⟨rfl, rfl, Nat.le_refl _, by simp [Letterbox.empty], by simp [Letterbox.empty]⟩

theorem pending_eq (h : m.Shows b) : m.pending = b.unread.isSome := by
  have hcounts : m.writeCount = m.readCount ↔ b.seen = b.stored := by
    rw [← UInt64.toNat_inj, h.stored, h.seen]
    exact eq_comm
  rw [Bool.eq_iff_iff, h.waits, Mailbox.pending, bne_iff_ne, ne_eq, ne_eq, hcounts]

theorem store (h : m.Shows b) {payload : Bytes} (hfits : payload.length ≤ 65536)
    (hroom : b.stored + 1 < 2 ^ 64) : (m.store payload).Shows (b.store payload) where
  stored := by
    have hcount : (m.store payload).writeCount = m.writeCount + 1 := rfl
    rw [hcount, UInt64.toNat_add, h.stored]
    exact Nat.mod_eq_of_lt hroom
  seen := h.seen
  ordered := Nat.le_succ_of_le h.ordered
  waits := by
    have hordered := h.ordered
    simp only [Letterbox.store, Option.isSome_some, true_iff]
    omega
  message := by
    intro message hmessage
    cases hmessage
    exact message_store m hfits

theorem markRead (h : m.Shows b) : m.markRead.Shows b.take where
  stored := h.stored
  seen := h.stored
  ordered := Nat.le_refl _
  waits := by simp [Letterbox.take]
  message := by simp [Letterbox.take]

end Mailbox.Shows

/-! ## One call -/

/-- A request on a channel whose lock is free is answered as by the letterbox, and leaves the lock
as it was. -/
theorem Channel.Request.perform_shows (request : Channel.Request) (p : Process)
    (timeout : Duration) {c : Channel} {b : Letterbox} (hfree : c.lock.owner = 0)
    (h : c.mailbox.Shows b) (hroom : (b.answer request).2.stored < 2 ^ 64) :
    (request.perform p timeout c).1 = (b.answer request).1 ∧
      (request.perform p timeout c).2.lock = c.lock ∧
      (request.perform p timeout c).2.mailbox.Shows (b.answer request).2 := by
  cases request with
  | write payload =>
    rw [Channel.Request.perform, Letterbox.answer] at *
    by_cases hfits : payload.length ≤ 65536
    · rw [if_pos hfits] at hroom
      rw [if_pos hfits, Channel.write_of_free timeout hfits hfree]
      exact ⟨rfl, rfl, h.store hfits hroom⟩
    · rw [if_neg hfits, Channel.write_of_long timeout (Nat.lt_of_not_le hfits)]
      exact ⟨rfl, rfl, h⟩
  | tryRead =>
    have hpending := h.pending_eq
    rw [Channel.Request.perform, Letterbox.answer]
    rcases hunread : b.unread with _ | message
    · rw [hunread] at hpending
      rw [Channel.tryRead_of_empty timeout hpending]
      exact ⟨rfl, rfl, h⟩
    · rw [hunread] at hpending
      rw [Channel.tryRead_of_free timeout hpending hfree, h.message message hunread]
      exact ⟨rfl, rfl, h.markRead⟩
  | tryReadInto buffer =>
    have hpending := h.pending_eq
    rw [Channel.Request.perform, Letterbox.answer]
    rcases hunread : b.unread with _ | message
    · rw [hunread] at hpending
      rw [Channel.tryReadInto_of_empty timeout buffer hpending]
      exact ⟨rfl, rfl, h⟩
    · rw [hunread] at hpending
      rw [Channel.tryReadInto_of_free timeout buffer hpending hfree, h.message message hunread]
      dsimp only
      by_cases hfits : message.length ≤ buffer.length
      · rw [if_pos hfits, if_pos hfits]
        exact ⟨rfl, rfl, h.markRead⟩
      · rw [if_neg hfits, if_neg hfits]
        exact ⟨rfl, rfl, h⟩
  | pending =>
    rw [Channel.Request.perform, Letterbox.answer, h.pending_eq]
    exact ⟨rfl, rfl, h⟩

theorem Letterbox.stored_answer (b : Letterbox) (call : Channel.Call) :
    (b.answer call.request).2.stored =
      b.stored + if call.storesIn call.direction then 1 else 0 := by
  obtain ⟨p, timeout, d, request⟩ := call
  cases request with
  | write payload =>
    by_cases hfits : payload.length ≤ 65536 <;> simp [answer, Channel.Call.storesIn, hfits, store]
  | tryRead => cases hunread : b.unread <;> simp [answer, Channel.Call.storesIn, hunread, take]
  | tryReadInto buffer =>
    rcases hunread : b.unread with _ | message
    · simp [answer, Channel.Call.storesIn, hunread]
    · by_cases hfits : message.length ≤ buffer.length <;>
        simp [answer, Channel.Call.storesIn, hunread, hfits, take]
  | pending => simp [answer, Channel.Call.storesIn]

/-! ## Runs -/

namespace Layout

/-- A region stands for two letterboxes, and its lock is free. -/
structure Shows (l : Layout) (boxes : Direction → Letterbox) : Prop where
  free : l.header.lock.owner = 0
  mailbox : ∀ d, (l.mailbox d).Shows (boxes d)

theorem perform_shows (call : Channel.Call) {l : Layout} {boxes : Direction → Letterbox}
    (h : l.Shows boxes)
    (hroom : ((boxes call.direction).answer call.request).2.stored < 2 ^ 64) :
    (call.perform l).1 = ((boxes call.direction).answer call.request).1 ∧
      (call.perform l).2.Shows
        (Function.update boxes call.direction ((boxes call.direction).answer call.request).2) := by
  obtain ⟨hanswer, hlock, hmailbox⟩ := call.request.perform_shows call.process call.timeout
    (c := l.channel call.direction) h.free (h.mailbox call.direction) hroom
  refine ⟨hanswer, ?_, ?_⟩
  · rw [Channel.Call.perform, onChannel, lock_putChannel, hlock]
    exact h.free
  · intro d
    rw [Channel.Call.perform, onChannel]
    by_cases hd : d = call.direction
    · subst hd
      rw [mailbox_putChannel_self, Function.update_self]
      exact hmailbox
    · rw [mailbox_putChannel_of_ne hd, Function.update_of_ne hd]
      exact h.mailbox d

theorem run_shows (calls : List Channel.Call) {l : Layout} {boxes : Direction → Letterbox}
    (h : l.Shows boxes) (hroom : ∀ d, (boxes d).stored + Channel.storesIn d calls < 2 ^ 64) :
    (run calls l).1 = (Letterbox.run calls boxes).1 ∧
      (run calls l).2.Shows (Letterbox.run calls boxes).2 ∧
      ∀ d, ((Letterbox.run calls boxes).2 d).stored =
        (boxes d).stored + Channel.storesIn d calls := by
  induction calls generalizing l boxes with
  | nil => exact ⟨rfl, h, fun d => rfl⟩
  | cons call calls ih =>
    have hcount : ∀ d, Channel.storesIn d (call :: calls) =
        Channel.storesIn d calls + if call.storesIn d then 1 else 0 := by
      intro d
      rw [Channel.storesIn, List.countP_cons]
      rfl
    have hstored : ∀ d, (Function.update boxes call.direction
        ((boxes call.direction).answer call.request).2 d).stored =
        (boxes d).stored + if call.storesIn d then 1 else 0 := by
      intro d
      by_cases hd : d = call.direction
      · subst hd
        rw [Function.update_self, Letterbox.stored_answer]
      · have hother : call.storesIn d = false := by
          rw [Channel.Call.storesIn, beq_eq_false_iff_ne.mpr (Ne.symm hd), Bool.false_and]
        rw [Function.update_of_ne hd, hother]
        rfl
    have hfits : ∀ d, (Function.update boxes call.direction
        ((boxes call.direction).answer call.request).2 d).stored + Channel.storesIn d calls <
          2 ^ 64 := by
      intro d
      have := hroom d
      rw [hcount] at this
      rw [hstored]
      omega
    obtain ⟨hreply, hshows⟩ := perform_shows call h (by
      have := hfits call.direction
      rw [Function.update_self] at this
      omega)
    obtain ⟨hreplies, hafter, hfinal⟩ := ih hshows hfits
    refine ⟨?_, hafter, ?_⟩
    · rw [run, Letterbox.run]
      exact congrArg₂ List.cons hreply hreplies
    · intro d
      rw [Letterbox.run]
      refine (hfinal d).trans ?_
      rw [hstored, hcount]
      omega

theorem shows_zero : zero.Shows fun _ => Letterbox.empty :=
  ⟨rfl, fun d => by cases d <;> exact Mailbox.Shows.zero⟩

theorem perform_write_of_long (l : Layout) (p : Process) (timeout : Duration) (d : Direction)
    (payload : Bytes) (hlong : 65536 < payload.length) :
    Channel.Call.perform ⟨p, timeout, d, .write payload⟩ l =
      (.written (.error (.bufferFull payload.length 65536)), l) := by
  rw [Channel.Call.perform, onChannel, Channel.Request.perform, Channel.write_of_long timeout hlong]
  exact Prod.ext rfl putChannel_channel

/-- Any run of calls from a region of zeros is answered as by two independent letterboxes. The
counters are those of the letterboxes, the lock is free, and a write that is too long changes no
byte of the region. -/
theorem run_refines_letterboxes (calls : List Channel.Call)
    (hroom : ∀ d, Channel.storesIn d calls < 2 ^ 64) :
    (run calls zero).1 = (Letterbox.run calls fun _ => .empty).1 ∧
      (run calls zero).2.header.lock.owner = 0 ∧
      (∀ d, ((run calls zero).2.mailbox d).writeCount.toNat = Channel.storesIn d calls ∧
        ((run calls zero).2.mailbox d).readCount.toNat =
          ((Letterbox.run calls fun _ => .empty).2 d).seen ∧
        ((run calls zero).2.mailbox d).readCount.toNat ≤
          ((run calls zero).2.mailbox d).writeCount.toNat ∧
        ((run calls zero).2.mailbox d).pending =
          ((Letterbox.run calls fun _ => .empty).2 d).unread.isSome) ∧
      ∀ p timeout d payload, 65536 < payload.length →
        Channel.Call.perform ⟨p, timeout, d, .write payload⟩ (run calls zero).2 =
          (.written (.error (.bufferFull payload.length 65536)), (run calls zero).2) := by
  have hzero : ∀ d : Direction, Letterbox.empty.stored + Channel.storesIn d calls < 2 ^ 64 := by
    intro d
    rw [show Letterbox.empty.stored = 0 from rfl, Nat.zero_add]
    exact hroom d
  obtain ⟨hreplies, hshows, hstored⟩ := run_shows calls shows_zero hzero
  refine ⟨hreplies, hshows.free, fun d => ?_,
    fun p timeout d => perform_write_of_long _ p timeout d⟩
  have hbox := hshows.mailbox d
  refine ⟨?_, hbox.seen, ?_, hbox.pending_eq⟩
  · rw [hbox.stored, hstored d]
    exact Nat.zero_add _
  · rw [hbox.stored, hbox.seen]
    exact hbox.ordered

/-- A long message, a short one over it that is read, and a message the other way that is not. -/
def sampleCalls (p q : Process) : List Channel.Call :=
  [⟨p, 0, .masterToSlave, .write [1, 2, 3]⟩, ⟨p, 0, .masterToSlave, .write [4]⟩,
    ⟨q, 0, .slaveToMaster, .write [5]⟩, ⟨q, 0, .masterToSlave, .tryReadInto []⟩,
    ⟨q, 0, .masterToSlave, .tryRead⟩, ⟨p, 0, .masterToSlave, .pending⟩]

theorem run_sampleCalls :
    (∀ d, Channel.storesIn d (sampleCalls ⟨7, fun _ => true⟩ ⟨8, fun _ => true⟩) < 2 ^ 64) ∧
      (run (sampleCalls ⟨7, fun _ => true⟩ ⟨8, fun _ => true⟩) zero).1 =
        [.written (.ok ()), .written (.ok ()), .written (.ok ()),
          .readInto (.error (.bufferTooSmall 1 0)), .read (.ok [4]), .pending false] := by
  have hroom : ∀ d, Channel.storesIn d (sampleCalls ⟨7, fun _ => true⟩ ⟨8, fun _ => true⟩) <
      2 ^ 64 := by
    intro d
    cases d <;> decide
  exact ⟨hroom, (run_refines_letterboxes _ hroom).1.trans rfl⟩

end Layout

end PeerLink
