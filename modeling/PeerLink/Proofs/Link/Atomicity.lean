import PeerLink.Proofs.Link.Claims
import PeerLink.Proofs.Link.Reception

/-! # All or nothing

A call on a region does what it is for, or it leaves slots, mailboxes and the caller's buffer as
they were; and whichever way it ends, a lock that it took is free again.

* `Site`, `Call`, `Call.perform`: the memory that a call can change, and the calls.
* `Plan`, `Plan.carryOut`: a refusal ahead of the lock, and an action with the lock in hand.
* `Call.perform_eq_carryOut`: a call is its plan, whatever early ends its code has.
* `Plan.Careful.carryOut_cases`: what can become of a plan whose action undoes nothing because it
  has done nothing when it fails.

Main statement: `Call.perform_is_atomic`. No run of calls keeps the lock:
`Call.lock_performAll`.
-/

namespace PeerLink
set_option autoImplicit false

theorem Lock.available_iff (timeout : Duration) {p : Process} {l : Lock} :
    l.Available p ↔ ∃ taken, l.acquire p timeout = .ok taken := by
  refine ⟨fun ha => ⟨_, acquire_of_available timeout ha⟩, fun ⟨taken, htaken⟩ => ?_⟩
  by_cases ha : l.Available p
  · exact ha
  · rw [acquire_eq_lockTimeout timeout ha] at htaken
    cases htaken

/-- Whether a failure is found without the lock: before it is asked for, or because it cannot be
had. -/
def LinkError.withoutLock : LinkError → Bool
  | .bufferFull _ _ | .noData | .region (.lockTimeout _ _) => true
  | _ => false

/-- A region, and a buffer of the caller's. -/
structure Site where
  region : Layout
  buffer : Bytes

namespace Site

def lock (s : Site) : Lock := s.region.header.lock

def withLock (lock : Lock) (s : Site) : Site :=
  { s with region := { s.region with header := { s.region.header with lock } } }

@[simp] theorem lock_withLock (lock : Lock) (s : Site) : (s.withLock lock).lock = lock := rfl

@[simp] theorem withLock_lock (s : Site) : s.withLock s.lock = s := rfl

@[simp] theorem withLock_withLock (lock lock' : Lock) (s : Site) :
    (s.withLock lock).withLock lock' = s.withLock lock' := rfl

def mapSlot (side : Role) (f : RoleSlot → RoleSlot) (s : Site) : Site :=
  { s with region := { s.region with header := s.region.header.mapSlot side f } }

def mapMailbox (d : Direction) (f : Mailbox → Mailbox) (s : Site) : Site :=
  { s with region := s.region.putChannel d ⟨s.lock, f (s.region.mailbox d)⟩ }

theorem lock_mapSlot (side : Role) (f : RoleSlot → RoleSlot) (s : Site) :
    (s.mapSlot side f).lock = s.lock := Header.lock_mapSlot ..

theorem lock_mapMailbox (d : Direction) (f : Mailbox → Mailbox) (s : Site) :
    (s.mapMailbox d f).lock = s.lock := Layout.lock_putChannel

/-- An operation on the region. Of its result only the failure is kept. -/
def onRegion {α : Type} (act : Layout → Except LinkError α × Layout) (s : Site) :
    Option LinkError × Site :=
  match act s.region with
  | (.ok _, region) => (none, { s with region })
  | (.error e, region) => (some e, { s with region })

end Site

/-! ## Calls -/

/-- The calls on a region that take its lock. -/
inductive Call where
  | claim (requested : Role)
  | release (side : Role)
  | write (writer : Role) (payload : Bytes)
  | tryRead (reader : Role)
  /-- Into the buffer of the site. -/
  | tryReadInto (reader : Role)

/-- What becomes of a site by a call, and why the call failed if it did. -/
def Call.perform (p : Process) (timeout : Duration) : Call → Site → Option LinkError × Site
  | .claim requested, s => s.onRegion (·.onHeader (·.claim p requested timeout))
  | .release side, s => s.onRegion (·.onHeader (·.release p side timeout))
  | .write writer payload, s =>
    s.onRegion (·.onChannel writer.outgoing (·.write p timeout payload))
  | .tryRead reader, s => s.onRegion (·.onChannel reader.incoming (·.tryRead p timeout))
  | .tryReadInto reader, s =>
    let (failure, left) :=
      s.onRegion (·.onChannel reader.incoming (·.tryReadInto p timeout s.buffer))
    (failure,
      { left with buffer := (s.region.channel reader.incoming).bufferAfter p timeout s.buffer })

/-! ## Plans -/

/-- How a call goes about its work. -/
structure Plan where
  /-- Why the lock is not even asked for. -/
  refusal : Site → Option LinkError
  /-- What is done with the lock in hand. -/
  act : Site → Option LinkError × Site

namespace Plan

/-- The lock is given up whatever came of the action. -/
def carryOut (p : Process) (timeout : Duration) (plan : Plan) (s : Site) :
    Option LinkError × Site :=
  match plan.refusal s with
  | some e => (some e, s)
  | none =>
    match s.lock.acquire p timeout with
    | .error e => (some (.region e), s)
    | .ok lock =>
      let (failure, left) := plan.act (s.withLock lock)
      (failure, left.withLock (left.lock.drop p.pid))

def Acquires (p : Process) (timeout : Duration) (plan : Plan) (s : Site) : Prop :=
  plan.refusal s = none ∧ ∃ lock, s.lock.acquire p timeout = .ok lock

/-- The action leaves the lock alone, and everything if it fails. -/
structure Careful (plan : Plan) : Prop where
  refusal : ∀ {s e}, plan.refusal s = some e → e.withoutLock = true
  lock : ∀ s, (plan.act s).2.lock = s.lock
  undone : ∀ {s e}, (plan.act s).1 = some e → (plan.act s).2 = s ∧ e.withoutLock = false

variable {p : Process} {timeout : Duration} {plan : Plan} {s : Site} {e : LinkError}

theorem carryOut_of_refusal (h : plan.refusal s = some e) :
    plan.carryOut p timeout s = (some e, s) := by
  rw [carryOut, h]

theorem carryOut_of_not_available (h : plan.refusal s = none) (ha : ¬ s.lock.Available p) :
    plan.carryOut p timeout s =
      (some (.region (.lockTimeout timeout s.lock.owner)), s) := by
  rw [carryOut, h]
  dsimp only
  rw [Lock.acquire_eq_lockTimeout timeout ha]

theorem Careful.carryOut_of_available (hcareful : plan.Careful) (h : plan.refusal s = none)
    (ha : s.lock.Available p) :
    plan.carryOut p timeout s =
      ((plan.act (s.withLock (s.lock.taken p.pid))).1,
        (plan.act (s.withLock (s.lock.taken p.pid))).2.withLock
          { s.lock.taken p.pid with owner := 0 }) := by
  have hheld := hcareful.lock (s.withLock (s.lock.taken p.pid))
  have hdrop : (s.lock.taken p.pid).drop p.pid = { s.lock.taken p.pid with owner := 0 } :=
    Lock.drop_of_owner rfl
  rw [carryOut, h]
  dsimp only
  rw [Lock.acquire_of_available timeout ha]
  dsimp only
  rw [hheld, Site.lock_withLock, hdrop]

/-- Without the lock nothing changes and the failure says so; with it the lock is given up, and a
failure has left nothing else behind. -/
theorem Careful.carryOut_cases (hcareful : plan.Careful) (p : Process) (timeout : Duration)
    (s : Site) :
    (¬ plan.Acquires p timeout s ∧
      ∃ e, e.withoutLock = true ∧ plan.carryOut p timeout s = (some e, s)) ∨
    (plan.Acquires p timeout s ∧
      (plan.carryOut p timeout s).2.lock = { s.lock.taken p.pid with owner := 0 } ∧
      ∀ e, (plan.carryOut p timeout s).1 = some e → e.withoutLock = false ∧
        (plan.carryOut p timeout s).2 = s.withLock { s.lock.taken p.pid with owner := 0 }) := by
  cases hrefusal : plan.refusal s with
  | some e =>
    refine .inl ⟨fun h => ?_, e, hcareful.refusal hrefusal, carryOut_of_refusal hrefusal⟩
    cases hrefusal.symm.trans h.1
  | none =>
    by_cases ha : s.lock.Available p
    · rw [hcareful.carryOut_of_available hrefusal ha]
      refine .inr ⟨⟨hrefusal, _, Lock.acquire_of_available timeout ha⟩, rfl, fun e he => ?_⟩
      obtain ⟨hundone, hlocked⟩ := hcareful.undone he
      rw [hundone]
      exact ⟨hlocked, rfl⟩
    · refine .inl ⟨fun h => ha ((Lock.available_iff timeout).mpr h.2), _, rfl,
        carryOut_of_not_available hrefusal ha⟩

end Plan

/-! ## The plan of each call -/

namespace Plan

def claim (p : Process) (requested : Role) : Plan where
  refusal _ := none
  act s :=
    match s.region.header.resolve p requested with
    | .error refusal => (some (.roleMismatch requested refusal.message), s)
    | .ok side => (none, s.mapSlot side (RoleSlot.occupy p.pid))

def release (p : Process) (side : Role) : Plan where
  refusal _ := none
  act s := (none, s.mapSlot side (RoleSlot.vacateIfOwn p.pid))

def write (d : Direction) (payload : Bytes) : Plan where
  refusal _ :=
    if payload.length ≤ Mailbox.capacity then none
    else some (.bufferFull payload.length Mailbox.capacity)
  act s := (none, s.mapMailbox d (Mailbox.store payload))

/-- A reader does not ask for the lock of an empty mailbox. -/
def tryRead (d : Direction) : Plan where
  refusal s := if (s.region.mailbox d).pending then none else some .noData
  act s := (none, s.mapMailbox d Mailbox.markRead)

def tryReadInto (d : Direction) : Plan where
  refusal := (tryRead d).refusal
  act s :=
    let message := (s.region.mailbox d).message
    if message.length ≤ s.buffer.length then
      (none, { s.mapMailbox d Mailbox.markRead with
        buffer := message ++ s.buffer.drop message.length })
    else (some (.bufferTooSmall message.length s.buffer.length), s)

theorem careful_claim (p : Process) (requested : Role) : (claim p requested).Careful where
  refusal := nofun
  lock s := by
    simp only [claim]
    split
    · rfl
    · exact s.lock_mapSlot ..
  undone {s e} he := by
    simp only [claim] at he ⊢
    split at he
    · cases he
      exact ⟨rfl, rfl⟩
    · cases he

theorem careful_release (p : Process) (side : Role) : (release p side).Careful where
  refusal := nofun
  lock s := s.lock_mapSlot ..
  undone := nofun

theorem careful_write (d : Direction) (payload : Bytes) : (write d payload).Careful where
  refusal {s e} he := by
    simp only [write] at he
    split at he <;> cases he
    rfl
  lock s := s.lock_mapMailbox ..
  undone := nofun

theorem careful_tryRead (d : Direction) : (tryRead d).Careful where
  refusal {s e} he := by
    simp only [tryRead] at he
    split at he <;> cases he
    rfl
  lock s := s.lock_mapMailbox ..
  undone := nofun

theorem careful_tryReadInto (d : Direction) : (tryReadInto d).Careful where
  refusal := (careful_tryRead d).refusal
  lock s := by
    simp only [tryReadInto]
    split
    · exact s.lock_mapMailbox ..
    · rfl
  undone {s e} he := by
    simp only [tryReadInto] at he ⊢
    by_cases hfits : (s.region.mailbox d).message.length ≤ s.buffer.length
    · rw [if_pos hfits] at he
      cases he
    · rw [if_neg hfits] at he ⊢
      cases he
      exact ⟨rfl, rfl⟩

end Plan

namespace Call

def plan (p : Process) : Call → Plan
  | .claim requested => .claim p requested
  | .release side => .release p side
  | .write writer payload => .write writer.outgoing payload
  | .tryRead reader => .tryRead reader.incoming
  | .tryReadInto reader => .tryReadInto reader.incoming

theorem careful_plan (p : Process) (call : Call) : (call.plan p).Careful := by
  cases call with
  | claim requested => exact Plan.careful_claim p requested
  | release side => exact Plan.careful_release p side
  | write writer payload => exact Plan.careful_write _ payload
  | tryRead reader => exact Plan.careful_tryRead _
  | tryReadInto reader => exact Plan.careful_tryReadInto _

variable {p : Process} {timeout : Duration} {s : Site} {d : Direction}

theorem carryOut_claim (requested : Role) :
    (Plan.claim p requested).carryOut p timeout s =
      s.onRegion (·.onHeader (·.claim p requested timeout)) := by
  simp only [Plan.carryOut, Plan.claim, Site.onRegion, Layout.onHeader, Header.claim,
    Header.underLock, Site.lock]
  cases s.region.header.lock.acquire p timeout with
  | error e => rfl
  | ok lock =>
    dsimp only [Site.withLock]
    cases ({ s.region.header with lock } : Header).resolve p requested <;> rfl

theorem carryOut_release (side : Role) :
    (Plan.release p side).carryOut p timeout s =
      s.onRegion (·.onHeader (·.release p side timeout)) := by
  simp only [Plan.carryOut, Plan.release, Site.onRegion, Layout.onHeader, Header.release,
    Header.underLock, Site.lock]
  cases s.region.header.lock.acquire p timeout <;> rfl

theorem onChannel_of_unchanged {α : Type} {act : Channel → Except LinkError α × Channel}
    {e : LinkError} (h : act (s.region.channel d) = (.error e, s.region.channel d)) :
    s.onRegion (·.onChannel d act) = (some e, s) := by
  simp only [Site.onRegion, Layout.onChannel, h, Layout.putChannel_channel]

theorem carryOut_write (payload : Bytes) :
    (Plan.write d payload).carryOut p timeout s =
      s.onRegion (·.onChannel d (·.write p timeout payload)) := by
  by_cases hfits : payload.length ≤ Mailbox.capacity
  · have hasked : (Plan.write d payload).refusal s = none := if_pos hfits
    by_cases ha : s.lock.Available p
    · have hwrite := Channel.write_of_available (c := s.region.channel d) timeout hfits ha
      rw [(Plan.careful_write d payload).carryOut_of_available hasked ha]
      simp only [Site.onRegion, Layout.onChannel, hwrite]
      cases d <;> rfl
    · have hlate := Lock.acquire_eq_lockTimeout timeout ha
      rw [Plan.carryOut_of_not_available hasked ha]
      exact (onChannel_of_unchanged (Channel.write_of_refused hfits hlate)).symm
  · have hrefused : (Plan.write d payload).refusal s =
        some (.bufferFull payload.length Mailbox.capacity) := if_neg hfits
    have hlong := Channel.write_of_long (p := p) (c := s.region.channel d) timeout
      (Nat.lt_of_not_le hfits)
    rw [Plan.carryOut_of_refusal hrefused]
    exact (onChannel_of_unchanged hlong).symm

theorem carryOut_tryRead :
    (Plan.tryRead d).carryOut p timeout s =
      s.onRegion (·.onChannel d (·.tryRead p timeout)) := by
  by_cases hpending : (s.region.mailbox d).pending = true
  · have hasked : (Plan.tryRead d).refusal s = none := if_pos hpending
    by_cases ha : s.lock.Available p
    · have hread := Channel.tryRead_of_available (c := s.region.channel d) timeout hpending ha
      rw [(Plan.careful_tryRead d).carryOut_of_available hasked ha]
      simp only [Site.onRegion, Layout.onChannel, hread]
      cases d <;> rfl
    · have hlate := Lock.acquire_eq_lockTimeout timeout ha
      rw [Plan.carryOut_of_not_available hasked ha]
      exact (onChannel_of_unchanged (Channel.receiving_of_refused _ hpending hlate)).symm
  · have hrefused : (Plan.tryRead d).refusal s = some .noData := if_neg hpending
    have hempty := Channel.tryRead_of_empty (p := p) (c := s.region.channel d) timeout
      (Bool.eq_false_iff.mpr hpending)
    rw [Plan.carryOut_of_refusal hrefused]
    exact (onChannel_of_unchanged hempty).symm

theorem perform_tryReadInto (reader : Role) :
    (Call.tryReadInto reader).perform p timeout s =
      match (⟨s.region.channel reader.incoming, s.buffer⟩ : Reception).fill p timeout with
      | (.ok _, t) => (none, ⟨s.region.putChannel reader.incoming t.channel, t.buffer⟩)
      | (.error e, t) => (some e, ⟨s.region.putChannel reader.incoming t.channel, t.buffer⟩) := by
  simp only [perform, Site.onRegion, Layout.onChannel, Channel.tryReadInto_eq_fill,
    Channel.bufferAfter]
  rcases (⟨s.region.channel reader.incoming, s.buffer⟩ : Reception).fill p timeout with
    ⟨e | n, t⟩ <;> rfl

theorem carryOut_tryReadInto (reader : Role) :
    (Plan.tryReadInto reader.incoming).carryOut p timeout s =
      (Call.tryReadInto reader).perform p timeout s := by
  let c := s.region.channel reader.incoming
  have hfill := Reception.fill_eq_tryRead p timeout c s.buffer
  rw [perform_tryReadInto]
  by_cases hpending : c.mailbox.pending = true
  · have hasked : (Plan.tryReadInto reader.incoming).refusal s = none := if_pos hpending
    by_cases ha : s.lock.Available p
    · rw [(Plan.careful_tryReadInto _).carryOut_of_available hasked ha]
      rw [Channel.tryRead_of_available timeout hpending ha] at hfill
      dsimp only at hfill
      by_cases hfits : c.mailbox.message.length ≤ s.buffer.length
      · rw [if_pos hfits] at hfill
        have hact : (Plan.tryReadInto reader.incoming).act (s.withLock (s.lock.taken p.pid)) =
            _ := if_pos hfits
        rw [hfill, hact]
        cases reader <;> rfl
      · rw [if_neg hfits] at hfill
        have hact : (Plan.tryReadInto reader.incoming).act (s.withLock (s.lock.taken p.pid)) =
            _ := if_neg hfits
        rw [hfill, hact]
        cases reader <;> rfl
    · have hlate := Lock.acquire_eq_lockTimeout timeout ha
      rw [Channel.tryRead, Channel.receiving_of_refused _ hpending hlate] at hfill
      rw [Plan.carryOut_of_not_available hasked ha, hfill]
      dsimp only
      rw [Layout.putChannel_channel]
  · have hrefused : (Plan.tryReadInto reader.incoming).refusal s = some .noData := if_neg hpending
    rw [Channel.tryRead_of_empty timeout (Bool.eq_false_iff.mpr hpending)] at hfill
    rw [Plan.carryOut_of_refusal hrefused, hfill]
    dsimp only
    rw [Layout.putChannel_channel]

theorem perform_eq_carryOut (p : Process) (timeout : Duration) (call : Call) (s : Site) :
    call.perform p timeout s = (call.plan p).carryOut p timeout s := by
  cases call with
  | claim requested => exact (carryOut_claim requested).symm
  | release side => exact (carryOut_release side).symm
  | write writer payload => exact (carryOut_write payload).symm
  | tryRead reader => exact carryOut_tryRead.symm
  | tryReadInto reader => exact (carryOut_tryReadInto reader).symm

/-! ## What a call leaves behind -/

/-- The call gets as far as asking for the lock. -/
def Asks (s : Site) : Call → Prop
  | .claim _ | .release _ => True
  | .write _ payload => payload.length ≤ 65536
  | .tryRead reader | .tryReadInto reader =>
    (s.region.mailbox reader.incoming).writeCount ≠ (s.region.mailbox reader.incoming).readCount

/-- The call asks for the lock and gets it, be it free or a dead process's. -/
def Acquires (p : Process) (timeout : Duration) (call : Call) (s : Site) : Prop :=
  call.Asks s ∧ ∃ held, s.lock.acquire p timeout = .ok held

theorem refusal_tryRead_eq_none_iff :
    (Plan.tryRead d).refusal s = none ↔
      (s.region.mailbox d).writeCount ≠ (s.region.mailbox d).readCount := by
  have hpending : (s.region.mailbox d).pending = true ↔
      (s.region.mailbox d).writeCount ≠ (s.region.mailbox d).readCount := bne_iff_ne
  rw [← hpending]
  by_cases h : (s.region.mailbox d).pending = true
  · exact iff_of_true (if_pos h) h
  · refine iff_of_false (fun hasked => ?_) h
    cases hasked.symm.trans (if_neg h)

theorem refusal_eq_none_iff {call : Call} : (call.plan p).refusal s = none ↔ call.Asks s := by
  cases call with
  | claim | release => exact iff_of_true rfl trivial
  | write writer payload =>
    by_cases hfits : payload.length ≤ 65536
    · exact iff_of_true (if_pos hfits) hfits
    · refine iff_of_false (fun h => ?_) hfits
      cases h.symm.trans (if_neg hfits)
  | tryRead | tryReadInto => exact refusal_tryRead_eq_none_iff

theorem perform_cases (p : Process) (timeout : Duration) (call : Call) (s : Site) :
    (¬ call.Acquires p timeout s ∧
      ∃ e, e.withoutLock = true ∧ call.perform p timeout s = (some e, s)) ∨
    (call.Acquires p timeout s ∧
      (call.perform p timeout s).2.lock = { s.lock.taken p.pid with owner := 0 } ∧
      ∀ e, (call.perform p timeout s).1 = some e → e.withoutLock = false ∧
        (call.perform p timeout s).2 = s.withLock { s.lock.taken p.pid with owner := 0 }) := by
  have hacquires : call.Acquires p timeout s ↔ (call.plan p).Acquires p timeout s :=
    and_congr_left' refusal_eq_none_iff.symm
  rw [perform_eq_carryOut, hacquires]
  exact (careful_plan p call).carryOut_cases p timeout s

/-- Whatever the bytes of the region are: a call that fails changes no slot, no mailbox and no
buffer; a call that has had the lock leaves it free; and one that has not, because it was refused
ahead of the lock or did not get it, changes nothing at all. -/
theorem perform_is_atomic (p : Process) (timeout : Duration) (call : Call) (s : Site) :
    let (failure, left) := call.perform p timeout s
    (∀ e, failure = some e → left = s.withLock left.lock) ∧
    (call.Acquires p timeout s →
      left.lock = ⟨0, if s.lock.owner = 0 then s.lock.reclaims else s.lock.reclaims + 1⟩) ∧
    (¬ call.Acquires p timeout s → left = s ∧ ∃ e, failure = some e ∧ e.withoutLock = true) ∧
    ∀ e, failure = some e → e.withoutLock = true → left = s := by
  have hcases := perform_cases p timeout call s
  generalize call.perform p timeout s = outcome at hcases ⊢
  obtain ⟨failure, left⟩ := outcome
  rcases hcases with ⟨hlockless, e, he, h⟩ | ⟨hheld, hlock, hundone⟩
  · cases h
    exact ⟨fun _ _ => rfl, fun hheld => absurd hheld hlockless, fun _ => ⟨rfl, e, rfl, he⟩,
      fun _ _ _ => rfl⟩
  · refine ⟨fun e he => ?_, fun _ => hlock, fun hlockless => absurd hheld hlockless,
      fun e he hwithout => ?_⟩
    · have hleft := (hundone e he).2
      dsimp only at hleft
      rw [hleft, Site.lock_withLock]
    · cases (hundone e he).1.symm.trans hwithout

/-! ## Runs of calls -/

/-- Calls of any processes, each with its own buffer, one after the other. -/
def performAll : List (Process × Duration × Call × Bytes) → Layout → Layout
  | [], l => l
  | (p, timeout, call, buffer) :: rest, l =>
    performAll rest (call.perform p timeout ⟨l, buffer⟩).2.region

theorem lock_perform (p : Process) (timeout : Duration) (call : Call) (s : Site) :
    (call.perform p timeout s).2.lock = s.lock ∨
      s.lock.owner ≠ 0 ∧ (call.perform p timeout s).2.lock = ⟨0, s.lock.reclaims + 1⟩ := by
  rcases perform_cases p timeout call s with ⟨-, e, -, h⟩ | ⟨-, hlock, -⟩
  · rw [h]
    exact .inl rfl
  · rw [hlock]
    by_cases hfree : s.lock.owner = 0
    · exact .inl (Lock.taken_of_free p.pid hfree)
    · rw [Lock.taken, if_neg hfree]
      exact .inr ⟨hfree, rfl⟩

/-- No run leaves the lock with one of its calls, and a dead holder is robbed once at most. -/
theorem lock_performAll (calls : List (Process × Duration × Call × Bytes)) (l : Layout) :
    (performAll calls l).header.lock = l.header.lock ∨
      l.header.lock.owner ≠ 0 ∧
        (performAll calls l).header.lock = ⟨0, l.header.lock.reclaims + 1⟩ := by
  induction calls generalizing l with
  | nil => exact .inl rfl
  | cons call rest ih =>
    obtain ⟨p, timeout, call, buffer⟩ := call
    have hfirst := lock_perform p timeout call ⟨l, buffer⟩
    rw [performAll]
    rcases ih (call.perform p timeout ⟨l, buffer⟩).2.region with hrest | ⟨hheld, hrest⟩
    · rw [hrest]
      exact hfirst
    · -- the lock is still the holder's of the start, since once it is free it stays free
      rcases hfirst with hsame | ⟨-, hfreed⟩
      · rw [Site.lock] at hsame
        rw [hsame] at hheld hrest
        exact .inr ⟨hheld, hrest⟩
      · rw [Site.lock] at hfreed
        rw [hfreed] at hheld
        exact absurd rfl hheld

end Call

end PeerLink
