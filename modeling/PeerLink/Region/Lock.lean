import PeerLink.Region.Error
import PeerLink.Region.Process

/-! # The region lock

A lock inside shared memory. It records the number of the process that holds it, zero when it is
free. A holder that died leaves its number behind; the next one who wants the lock finds that no
such process exists and takes the lock over. The lock is keyed by process, but two threads of one
process exclude each other too, since it is only ever taken from the free state or from the dead.

* `Lock`: the two words of the lock.
* `Lock.swap`, `Lock.takeOver`, `Lock.release`: the atomic accesses.
* `Lock.tryLock`: one attempt.
* `Lock.attempt`, `Lock.wait`: the waiting acquisition as a function of what each attempt sees.
* `Lock.lock`, `Lock.acquire`: the waiting acquisition when nobody else acts, from any instant and
  for limits whose end a clock can show.
-/

namespace PeerLink

structure Lock where
  /-- The number of the holder, zero if the lock is free. -/
  owner : UInt32
  /-- How often the lock was taken over from a dead holder. -/
  reclaims : UInt32
  deriving DecidableEq, Repr, Inhabited

namespace Lock

/-! ## Atomic accesses -/

/-- Replaces the owner if it is the expected one; otherwise reports who it is. -/
def swap (expected new : UInt32) (l : Lock) : Except UInt32 Lock :=
  if l.owner = expected then .ok { l with owner := new } else .error l.owner

/-- Takes the lock over from a holder seen before, if that is a dead process and still recorded. The
count wraps, as in builds that do not check sums; where they are checked, the take-over after the
largest count breaks off. -/
def takeOver (p : Process) (holder : UInt32) (l : Lock) : Option Lock :=
  if holder = p.pid ∨ p.alive holder then none
  else
    match l.swap holder p.pid with
    | .ok l => some { l with reclaims := l.reclaims + 1 }
    | .error _ => none

/-- Gives the lock up; refused if somebody else is recorded as its holder. -/
def release (pid : UInt32) (l : Lock) : Except RegionError Lock :=
  match l.swap pid 0 with
  | .ok l => .ok l
  | .error owner => .error (.lockStolen owner pid)

/-- Gives the lock up if it is still held; nothing is reported. -/
def drop (pid : UInt32) (l : Lock) : Lock :=
  match l.release pid with
  | .ok l => l
  | .error _ => l

/-- Makes the lock free and forgets its take-overs, unless another live process holds it. -/
def init (p : Process) (l : Lock) : Except RegionError Lock :=
  if l.owner != 0 && l.owner != p.pid && p.alive l.owner then
    .error (.lockInit s!"lock is held by live process {l.owner}")
  else .ok ⟨0, 0⟩

/-! ## Acquisition -/

/-- One attempt: take the free lock, or take it over from a dead holder. -/
def tryLock (p : Process) (l : Lock) : Option Lock :=
  match l.swap 0 p.pid with
  | .ok l => some l
  | .error holder => l.takeOver p holder

/-- How often, in failed attempts, a waiting process asks whether the holder still lives. -/
def checkEvery : Nat := 32

/-- What one attempt of a waiting process sees. -/
structure Sight where
  /-- The lock when the attempt tries to take it. -/
  first : Lock
  /-- The lock when the attempt tries to take it over, later than `first`. -/
  second : Lock
  /-- The clock after the attempt. -/
  now : Instant

/-- How a wait stands after an attempt. -/
inductive Verdict where
  /-- The lock is taken; the words after that. -/
  | taken (l : Lock)
  /-- The deadline has passed; the holder seen last. -/
  | expired (holder : UInt32)
  | waiting
  deriving DecidableEq, Repr

/-- The attempt after `failed` failed ones. The holder's life is asked for on the first attempt and
then on every thirty-second. -/
def attempt (p : Process) (deadline : Instant) (failed : Nat) (s : Sight) : Verdict :=
  match s.first.swap 0 p.pid with
  | .ok l => .taken l
  | .error holder =>
    let reclaimed := if failed % checkEvery = 0 then s.second.takeOver p holder else none
    match reclaimed with
    | some l => .taken l
    | none => if deadline ≤ s.now then .expired holder else .waiting

/-- A wait over a sequence of attempts, until one of them decides. -/
def wait (p : Process) (deadline : Instant) : Nat → List Sight → Verdict
  | _, [] => .waiting
  | failed, s :: rest =>
    match attempt p deadline failed s with
    | .waiting => wait p deadline (failed + 1) rest
    | verdict => verdict

/-- The wait of a process while nobody else acts. Nothing changes meanwhile, so one attempt at once
and one at the deadline decide. -/
def waitAlone (p : Process) (timeout : Duration) (start deadline : Instant) (l : Lock) :
    Except RegionError Lock :=
  match wait p deadline 0 [⟨l, l, start⟩, ⟨l, l, deadline⟩] with
  | .taken l => .ok l
  | .expired holder => .error (.lockTimeout timeout holder)
  | .waiting => .error (.lockTimeout timeout l.owner)

/-- Acquires the lock within a time limit while nobody else acts. If no clock can show the deadline
there is no answer: the call breaks off before its first attempt, also on a free lock. -/
def lock (p : Process) (now : Instant) (timeout : Duration) (l : Lock) :
    Option (Except RegionError Lock) :=
  (now.after? timeout).map fun deadline => l.waitAlone p timeout now deadline

/-- The acquisition where a clock can show the deadline, with the time counted from its start. What
is done with a region under its lock is described for limits of this kind. -/
def acquire (p : Process) (timeout : Duration) (l : Lock) : Except RegionError Lock :=
  l.waitAlone p timeout 0 timeout

end Lock

end PeerLink
