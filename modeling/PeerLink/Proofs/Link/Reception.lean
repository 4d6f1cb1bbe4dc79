import PeerLink.Proofs.Link.Mailbox

/-! # Reading into a buffer

A reader takes a message as a byte string of its own, or has it copied into a buffer. The buffer is
memory as the channel is: what was copied stays copied whatever comes of the read. So the read into
a buffer is spelled out here with the buffer as part of the state.

* `Reception`, `Reception.fill`: a channel with a reader's buffer, and the read into the buffer.
* `Channel.tryReadInto_eq_fill`: it is the read that answers with the buffer.
* `Reception.fill_eq_tryRead`: a read into a buffer told by the read that takes the message.

Main statement: `Channel.read_paths_agree`. A message survives any number of buffers that are too
small: `Reception.tryRead_fillAll`.
-/

namespace PeerLink
set_option autoImplicit false

/-- A channel and the buffer of a reader. -/
structure Reception where
  channel : Channel
  buffer : Bytes

namespace Reception

def onChannel {α : Type} (act : Channel → α × Channel) (s : Reception) : α × Reception :=
  let (a, channel) := act s.channel
  (a, { s with channel })

def copyOut (s : Reception) : Reception :=
  { s with buffer := s.buffer.overwrite 0 s.channel.mailbox.message }

def markRead (s : Reception) : Reception :=
  { s with channel := { s.channel with mailbox := s.channel.mailbox.markRead } }

/-- The read with the lock in hand. The mailbox is asked again, and the length of the buffer before
anything is copied. -/
def fillLocked (p : Process) (s : Reception) : Except LinkError Nat × Reception :=
  let n := s.channel.mailbox.messageLength
  if !s.channel.mailbox.pending then s.onChannel (·.abandon p .noData)
  else if Bytes.atLeast n s.buffer then s.copyOut.markRead.onChannel (·.finish p n)
  else s.onChannel (·.abandon p (.bufferTooSmall n s.buffer.length))

def fill (p : Process) (timeout : Duration) (s : Reception) : Except LinkError Nat × Reception :=
  if !s.channel.mailbox.pending then (.error .noData, s)
  else
    match s.channel.lock.acquire p timeout with
    | .error e => (.error (.region e), s)
    | .ok lock => { s with channel := { s.channel with lock } }.fillLocked p

variable {p : Process} {timeout : Duration} {s : Reception}

/-! ## What becomes of a read -/

theorem fill_of_empty (timeout : Duration) (hempty : s.channel.mailbox.pending = false) :
    s.fill p timeout = (.error .noData, s) := by
  rw [fill, hempty]
  rfl

theorem fill_of_pending (timeout : Duration) (hpending : s.channel.mailbox.pending = true) :
    s.fill p timeout =
      match s.channel.lock.acquire p timeout with
      | .error e => (.error (.region e), s)
      | .ok lock => { s with channel := { s.channel with lock } }.fillLocked p := by
  rw [fill, hpending]
  rfl

theorem fillLocked_of_fits (hpending : s.channel.mailbox.pending = true)
    (hfits : s.channel.mailbox.message.length ≤ s.buffer.length) :
    s.fillLocked p =
      s.copyOut.markRead.onChannel (·.finish p s.channel.mailbox.message.length) := by
  rw [Mailbox.length_message] at hfits ⊢
  simp [fillLocked, hpending, (Bytes.atLeast_iff _ _).mpr hfits]

theorem fillLocked_of_short (hpending : s.channel.mailbox.pending = true)
    (hshort : s.buffer.length < s.channel.mailbox.message.length) :
    s.fillLocked p = s.onChannel
      (·.abandon p (.bufferTooSmall s.channel.mailbox.message.length s.buffer.length)) := by
  rw [Mailbox.length_message] at hshort ⊢
  have hroom : ¬ Bytes.atLeast s.channel.mailbox.messageLength s.buffer = true := by
    rw [Bytes.atLeast_iff]
    omega
  simp [fillLocked, hpending, hroom]

end Reception

/-! ## The two ways to read -/

/-- A read that answers with the buffer is the read into the buffer. -/
theorem Channel.tryReadInto_eq_fill (p : Process) (timeout : Duration) (buffer : Bytes)
    (c : Channel) :
    c.tryReadInto p timeout buffer =
      match (⟨c, buffer⟩ : Reception).fill p timeout with
      | (.ok n, s) => (.ok (n, s.buffer), s.channel)
      | (.error e, s) => (.error e, s.channel) := by
  by_cases hpending : c.mailbox.pending = true
  · rw [Reception.fill_of_pending timeout hpending, tryReadInto]
    dsimp only
    cases hlock : c.lock.acquire p timeout with
    | error e => rw [receiving_of_refused _ hpending hlock]
    | ok lock =>
      simp only [receiving, locked, hlock, hpending, Bool.not_true, Bool.false_eq_true, if_false,
        Reception.fillLocked, Reception.onChannel]
      split
      · simp only [finish, Reception.markRead, Reception.copyOut]
        cases lock.release p.pid <;> rfl
      · rfl
  · rw [Bool.not_eq_true] at hpending
    rw [Reception.fill_of_empty timeout hpending, tryReadInto_of_empty timeout buffer hpending]

namespace Reception

/-- What a read into a buffer does, told by the read that takes the message: it fails in the same
way, or puts the message in front of the rest of the buffer, or leaves it in the mailbox. -/
theorem fill_eq_tryRead (p : Process) (timeout : Duration) (c : Channel) (buffer : Bytes) :
    (⟨c, buffer⟩ : Reception).fill p timeout =
      match c.tryRead p timeout with
      | (.error e, c') => (.error e, ⟨c', buffer⟩)
      | (.ok message, c') =>
        if message.length ≤ buffer.length then
          (.ok message.length, ⟨c', message ++ buffer.drop message.length⟩)
        else
          (.error (.bufferTooSmall message.length buffer.length),
            ⟨{ c with lock := c'.lock }, buffer⟩) := by
  by_cases hpending : c.mailbox.pending = true
  · rw [fill_of_pending timeout hpending]
    dsimp only
    by_cases ha : c.lock.Available p
    · rw [Lock.acquire_of_available timeout ha, Channel.tryRead_of_available timeout hpending ha]
      dsimp only
      split
      · next hfits =>
        rw [fillLocked_of_fits hpending hfits, onChannel, Channel.finish_of_owner _ rfl]
        simp only [markRead, copyOut, Channel.overwrite_zero hfits]
      · next hfits =>
        rw [fillLocked_of_short hpending (Nat.lt_of_not_le hfits), onChannel,
          Channel.abandon_of_owner _ rfl]
    · -- neither read gets the lock, and both say so in the same words
      obtain ⟨e, he⟩ := Lock.acquire_of_not_available timeout ha
      rw [he, Channel.tryRead, Channel.receiving_of_refused _ hpending he]
  · rw [Bool.not_eq_true] at hpending
    rw [Channel.tryRead_of_empty timeout hpending, fill_of_empty timeout hpending]

end Reception

namespace Channel

variable {p : Process} {c c' : Channel} {timeout : Duration} {message : Bytes}

/-- Who takes a message has found it in the mailbox, and leaves a free lock behind. -/
theorem eq_of_tryRead (h : c.tryRead p timeout = (.ok message, c')) :
    c.mailbox.pending = true ∧ message = c.mailbox.message ∧
      c' = ⟨{ c.lock.taken p.pid with owner := 0 }, c.mailbox.markRead⟩ := by
  by_cases hpending : c.mailbox.pending = true
  · by_cases ha : c.lock.Available p
    · rw [tryRead_of_available timeout hpending ha] at h
      cases h
      exact ⟨hpending, rfl, rfl⟩
    · obtain ⟨e, he⟩ := Lock.acquire_of_not_available timeout ha
      rw [tryRead, receiving_of_refused _ hpending he] at h
      cases h
  · rw [tryRead_of_empty timeout (Bool.not_eq_true _ ▸ hpending)] at h
    cases h

/-- The channel that a read into a buffer which is too small leaves behind. -/
theorem tryRead_of_short (h : c.tryRead p timeout = (.ok message, c')) (p' : Process)
    (timeout' : Duration) :
    ({ c with lock := c'.lock } : Channel).tryRead p' timeout' = (.ok message, c') := by
  obtain ⟨hpending, rfl, rfl⟩ := eq_of_tryRead h
  exact tryRead_of_free timeout' hpending rfl

/-- What a read leaves in the reader's buffer. -/
def bufferAfter (p : Process) (timeout : Duration) (buffer : Bytes) (c : Channel) : Bytes :=
  ((⟨c, buffer⟩ : Reception).fill p timeout).2.buffer

/-- Whatever the words of a channel are: where the one read fails, the other fails in the same way;
where it takes a message, a buffer with room for it gets the message at its front and nothing else,
and a smaller one nothing at all, so that the message can still be taken. -/
theorem read_paths_agree (p : Process) (timeout : Duration) (c : Channel) :
    (∀ e c', c.tryRead p timeout = (.error e, c') → ∀ buffer,
      c.tryReadInto p timeout buffer = (.error e, c') ∧
      c.bufferAfter p timeout buffer = buffer) ∧
    ∀ message c', c.tryRead p timeout = (.ok message, c') →
      message.length ≤ 65536 ∧
      ∀ buffer : Bytes,
        (message.length ≤ buffer.length →
          let filled := message ++ buffer.drop message.length
          c.tryReadInto p timeout buffer = (.ok (message.length, filled), c') ∧
          c.bufferAfter p timeout buffer = filled) ∧
        (buffer.length < message.length →
          ∃ left, c.tryReadInto p timeout buffer =
              (.error (.bufferTooSmall message.length buffer.length), left) ∧
            c.bufferAfter p timeout buffer = buffer ∧
            ∀ p' timeout', left.tryRead p' timeout' = (.ok message, c')) := by
  refine ⟨fun e c' h buffer => ?_, fun message c' h => ⟨?_, fun buffer => ⟨?_, ?_⟩⟩⟩
  · rw [tryReadInto_eq_fill, bufferAfter, Reception.fill_eq_tryRead, h]
    exact ⟨rfl, rfl⟩
  · obtain ⟨-, rfl, -⟩ := eq_of_tryRead h
    rw [Mailbox.length_message]
    exact Nat.min_le_right _ _
  · intro hfits
    rw [tryReadInto_eq_fill, bufferAfter, Reception.fill_eq_tryRead, h]
    dsimp only
    rw [if_pos hfits]
    exact ⟨rfl, rfl⟩
  · intro hshort
    rw [tryReadInto_eq_fill, bufferAfter, Reception.fill_eq_tryRead, h]
    dsimp only
    rw [if_neg (Nat.not_le.mpr hshort)]
    exact ⟨_, rfl, rfl, tryRead_of_short h⟩

/-- A length beyond the mailbox, counters that have gone apart, and the lock of a dead process. -/
def overlong : Channel :=
  ⟨⟨9, 41⟩, { Mailbox.zero with writeCount := 3, readCount := 5, length := 0xffffffff }⟩

theorem read_paths_agree_overlong :
    ∃ message c', overlong.tryRead ⟨7, fun _ => false⟩ 0 = (.ok message, c') ∧
      message.length = 65536 ∧ c'.lock = ⟨0, 42⟩ ∧
      ∀ buffer : Bytes, buffer.length < 65536 →
        overlong.bufferAfter ⟨7, fun _ => false⟩ 0 buffer = buffer := by
  have hdead : overlong.lock.Abandoned ⟨7, fun _ => false⟩ :=
    ⟨by decide, by decide, by decide⟩
  have hread := tryRead_of_available (c := overlong) 0 (by decide) (.inr hdead)
  have hlength : overlong.mailbox.message.length = 65536 := by
    rw [Mailbox.length_message]
    decide
  refine ⟨_, _, hread, hlength, rfl, fun buffer hshort => ?_⟩
  obtain ⟨-, hpaths⟩ := (read_paths_agree ⟨7, fun _ => false⟩ 0 overlong).2 _ _ hread
  obtain ⟨-, -, hkept, -⟩ := (hpaths buffer).2 (Nat.lt_of_lt_of_eq hshort hlength.symm)
  exact hkept

end Channel

namespace Reception

def fillAll (p : Process) (timeout : Duration) : List Bytes → Channel → Channel
  | [], c => c
  | buffer :: rest, c => fillAll p timeout rest ((⟨c, buffer⟩ : Reception).fill p timeout).2.channel

theorem tryRead_fillAll {p : Process} {timeout : Duration} {c c' : Channel} {message : Bytes}
    (h : c.tryRead p timeout = (.ok message, c')) {buffers : List Bytes}
    (hshort : ∀ buffer ∈ buffers, buffer.length < message.length) :
    (fillAll p timeout buffers c).tryRead p timeout = (.ok message, c') := by
  induction buffers generalizing c with
  | nil => exact h
  | cons buffer rest ih =>
    have hnow : ¬ message.length ≤ buffer.length :=
      Nat.not_le.mpr (hshort buffer (List.mem_cons_self ..))
    have hleft : ((⟨c, buffer⟩ : Reception).fill p timeout).2.channel =
        { c with lock := c'.lock } := by
      rw [fill_eq_tryRead, h]
      dsimp only
      rw [if_neg hnow]
    rw [fillAll, hleft]
    exact ih (Channel.tryRead_of_short h p timeout) fun buffer hbuffer =>
      hshort buffer (List.mem_cons_of_mem _ hbuffer)

end Reception

end PeerLink
