import Mathlib.Algebra.Group.Nat.Defs
import Mathlib.Algebra.Ring.Int.Defs
import PeerLink.Proofs.Host.Seating

/-! # How far clocks go

A clock shows whole seconds, with a sign in 64 bits, and nanoseconds below one more second. A span
is added to them part by part, and each addition of seconds may leave the range.

* `ClockReading`, `ClockReading.plus?`: what a clock shows, and the reading a span later.
* `ClockReading.plus?_eq_none_iff`: there is none exactly if the instant is not below the limit.
* `Instant.after?_eq_plus?`: instants are added to alike.
* `Host.Seated.worker_remains`: as long as no attempt is due later than clocks go, a worker goes on.
-/

namespace PeerLink
set_option autoImplicit false

/-! ## Readings -/

structure ClockReading where
  seconds : Int64
  nanos : Nat
  small : nanos < 1000000000

namespace ClockReading

/-- The nanoseconds since the origin of the clock. -/
def total (t : ClockReading) : Int := t.seconds.toInt * 1000000000 + t.nanos

def addSeconds? (s : Int64) (n : Nat) : Option Int64 :=
  if s.toInt + n ≤ Int64.maxValue.toInt then some (Int64.ofInt (s.toInt + n)) else none

/-- First the whole seconds of the span, then its nanoseconds, which may carry. -/
def plus? (t : ClockReading) (d : Duration) : Option ClockReading :=
  match addSeconds? t.seconds (d / 1000000000) with
  | none => none
  | some s =>
    if h : t.nanos + d % 1000000000 < 1000000000 then some ⟨s, t.nanos + d % 1000000000, h⟩
    else
      match addSeconds? s 1 with
      | none => none
      | some s =>
        some ⟨s, t.nanos + d % 1000000000 - 1000000000, by have := t.small; omega⟩

variable {s u : Int64} {n : Nat} {t v : ClockReading} {d : Duration}

theorem addSeconds?_eq_none_iff : addSeconds? s n = none ↔ 2 ^ 63 ≤ s.toInt + n := by
  have hmax : Int64.maxValue.toInt = 2 ^ 63 - 1 := rfl
  unfold addSeconds?
  rw [hmax]
  split
  · simp only [reduceCtorEq, false_iff]
    omega
  · simp only [true_iff]
    omega

theorem toInt_of_addSeconds? (h : addSeconds? s n = some u) : u.toInt = s.toInt + n := by
  have hmax : Int64.maxValue.toInt = 2 ^ 63 - 1 := rfl
  have hmin : -2 ^ 63 ≤ s.toInt := s.le_toInt
  unfold addSeconds? at h
  rw [hmax] at h
  split at h
  · rw [← Option.some.inj h]
    exact Int64.toInt_ofInt_of_le (by omega) (by omega)
  · cases h

/-- The sum in parts, against the sum of nanoseconds. -/
theorem plus?_spec (t : ClockReading) (d : Duration) :
    (t.plus? d = none ∧ 2 ^ 63 * 1000000000 ≤ t.total + d) ∨
      ∃ v, t.plus? d = some v ∧ v.total = t.total + d ∧ t.total + d < 2 ^ 63 * 1000000000 := by
  have hsmall := t.small
  have hparts : (d : Int) = (d / 1000000000 : Nat) * 1000000000 + (d % 1000000000 : Nat) := by
    omega
  have hrest : d % 1000000000 < 1000000000 := Nat.mod_lt _ (by decide)
  unfold plus? total
  cases hseconds : addSeconds? t.seconds (d / 1000000000) with
  | none =>
    left
    rw [addSeconds?_eq_none_iff] at hseconds
    exact ⟨rfl, by omega⟩
  | some s =>
    have hs := toInt_of_addSeconds? hseconds
    have hfits : ¬ 2 ^ 63 ≤ t.seconds.toInt + (d / 1000000000 : Nat) := by
      rw [← addSeconds?_eq_none_iff, hseconds]
      exact Option.some_ne_none s
    dsimp only
    split
    · right
      exact ⟨_, rfl, by dsimp only; omega, by omega⟩
    · cases hcarry : addSeconds? s 1 with
      | none =>
        left
        rw [addSeconds?_eq_none_iff] at hcarry
        exact ⟨rfl, by omega⟩
      | some u =>
        have hu := toInt_of_addSeconds? hcarry
        have hcarries : ¬ 2 ^ 63 ≤ s.toInt + (1 : Nat) := by
          rw [← addSeconds?_eq_none_iff, hcarry]
          exact Option.some_ne_none u
        right
        exact ⟨_, rfl, by dsimp only; omega, by omega⟩

theorem plus?_eq_none_iff : t.plus? d = none ↔ 2 ^ 63 * 1000000000 ≤ t.total + d := by
  rcases t.plus?_spec d with ⟨hnone, hlimit⟩ | ⟨v, hsome, -, hlimit⟩
  · rw [hnone]
    exact iff_of_true rfl hlimit
  · rw [hsome]
    exact iff_of_false (Option.some_ne_none v) (by omega)

theorem plus?_isSome_iff : (t.plus? d).isSome = true ↔ t.total + d < 2 ^ 63 * 1000000000 := by
  rw [Option.isSome_iff_ne_none, ne_eq, plus?_eq_none_iff]
  omega

/-! ## The first half of the time -/

/-- Before the second half of what clocks can count. -/
def Early (t : ClockReading) : Prop := t.seconds.toInt < 2 ^ 62

theorem le_half_iff (d : Duration) : d ≤ .ofSeconds (2 ^ 62) ↔ (d : Int) ≤ 2 ^ 62 * 1000000000 :=
  Int.ofNat_le.symm

theorem plus?_isSome_of_early (h : t.Early) (hd : d ≤ .ofSeconds (2 ^ 62)) :
    (t.plus? d).isSome = true := by
  have hsmall := t.small
  rw [le_half_iff] at hd
  rw [plus?_isSome_iff]
  unfold Early at h
  unfold total
  omega

/-- The last reading of the first half. -/
def noon : ClockReading := ⟨4611686018427387903, 999999999, by decide⟩

/-- A longer span than the second half is too long for some. -/
theorem forall_early_iff (d : Duration) :
    (∀ t : ClockReading, t.Early → (t.plus? d).isSome = true) ↔ d ≤ .ofSeconds (2 ^ 62) := by
  constructor
  · intro h
    have hnoon := h noon (by unfold Early noon; decide)
    have htotal : noon.total = 2 ^ 62 * 1000000000 - 1 := rfl
    rw [plus?_isSome_iff, htotal] at hnoon
    rw [le_half_iff]
    omega
  · intro hd t ht
    exact plus?_isSome_of_early ht hd

end ClockReading

/-! ## Instants -/

namespace Instant

theorem lt_limit_iff (now : Instant) (d : Duration) :
    now + d < limit ↔ (now : Int) + d < 2 ^ 63 * 1000000000 :=
  Int.ofNat_lt.symm

/-- An instant is the reading of a clock, and has one after it exactly if the reading has. -/
theorem after?_eq_plus? {now : Instant} {t : ClockReading} (h : t.total = now) (d : Duration) :
    (now.after? d).map Int.ofNat = (t.plus? d).map ClockReading.total := by
  unfold after?
  rcases t.plus?_spec d with ⟨hnone, hlate⟩ | ⟨v, hsome, htotal, hearly⟩
  · rw [hnone, if_neg (by rw [lt_limit_iff]; omega)]
    rfl
  · rw [hsome, if_pos (by rw [lt_limit_iff]; omega), Option.map_some, Option.map_some, htotal, h]
    rfl

theorem after?_ne_none_of_le {now later : Instant} {d : Duration} (h : now ≤ later)
    (hlater : later.after? d ≠ none) : now.after? d ≠ none := by
  unfold after? at hlater ⊢
  split at hlater
  · next hfits =>
    rw [if_pos (Nat.lt_of_le_of_lt (Nat.add_le_add_right h d) hfits)]
    exact Option.some_ne_none _
  · exact absurd rfl hlater

end Instant

/-! ## Workers -/

namespace Endpoint

theorem after?_of_overruns {now : Instant} {e : Endpoint} {r : Regions}
    (h : e.overruns now r = true) : now.after? e.monitor.policy.retryInterval = none := by
  unfold overruns at h
  split at h
  · exact Option.isNone_iff_eq_none.mp h
  · cases h

theorem policy_reconnect (p : Process) (now : Instant) (e : Endpoint) (r : Regions) :
    (e.reconnect p now r).1.monitor.policy = e.monitor.policy := by
  unfold reconnect
  split
  · exact (e.monitor.reattached_move _ now).policy_eq
  · exact (e.monitor.attemptFailed_move now).policy_eq

theorem policy_check (p : Process) (now : Instant) (e : Endpoint) (r : Regions) :
    (e.check p now r).1.monitor.policy = e.monitor.policy := by
  have hobserved : (e.monitor.observe (e.peerHeartbeat r) now).1.policy = e.monitor.policy :=
    (e.monitor.observe_move _ now).policy_eq
  unfold check
  dsimp only
  split
  · rw [policy_reconnect]
    exact hobserved
  · exact hobserved

end Endpoint

namespace Host

variable {p : Process} {seats : List Seat} {host : Host} {id : String} {m : Member}

/-- The member has a worker, and its attempts are so far apart. -/
def AtWork (id : String) (d : Duration) (host : Host) : Prop :=
  ∃ m, host.member? id = some m ∧ m.worker.isSome = true ∧
    m.endpoint.monitor.policy.retryInterval = d

theorem atWork_workerRound {other : String} {w : Worker} {d : Duration}
    (hm : host.member? other = some m) (hid : host.AtWork id d)
    (hfits : w.wake.after? d ≠ none) : (host.workerRound other m w).AtWork id d := by
  obtain ⟨m', hm', hworks, hd⟩ := hid
  unfold AtWork workerRound
  dsimp only
  by_cases hother : id = other
  · subst hother
    rw [hm] at hm'
    cases hm'
    split
    · next hbroken =>
      have hnone := Endpoint.after?_of_overruns hbroken.2
      rw [hd] at hnone
      exact absurd hnone hfits
    · refine ⟨_, member?_setMember_self _ hm, rfl, ?_⟩
      split
      · rw [Endpoint.policy_check]
        exact hd
      · exact hd
  · split
    · exact ⟨m', (member?_setMember_of_ne _ hother).trans hm', hworks, hd⟩
    · exact ⟨m', (member?_setMember_of_ne _ hother).trans hm', hworks, hd⟩

/-- Round after round: the instant of each is at most the one that is waited for. -/
theorem Seated.atWork_workUntil {target : Instant} {d : Duration} (h : host.Seated p seats)
    (hid : host.AtWork id d) (hfits : target.after? d ≠ none) (rounds : Nat) :
    (host.workUntil target rounds).AtWork id d := by
  induction rounds generalizing host with
  | zero => exact hid
  | succ rounds ih =>
    rw [workUntil]
    split
    · rename_i other m w hfirst
      obtain ⟨hmem, hw⟩ := of_firstAwake hfirst
      have hm := member?_of_mem h.names hmem
      split
      · next hwake =>
        have hround := atWork_workerRound hm hid (Instant.after?_ne_none_of_le hwake hfits)
        exact ih (h.leads_workerRound hm hw).1 hround
      · exact hid
    · exact hid

/-- While time passes, a worker goes on beating unless an attempt would be due later than clocks
go. -/
theorem Seated.worker_remains {d span : Duration} (h : host.Seated p seats)
    (hid : host.AtWork id d) (hfits : Instant.after? (host.now + span) d ≠ none) :
    (host.sleep span).AtWork id d :=
  h.atWork_workUntil hid hfits _

end Host

end PeerLink
