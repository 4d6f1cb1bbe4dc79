import PeerLink.Duration
import PeerLink.Link.Error

/-! # Waiting reads

A read that waits polls its mailbox until there is a message or its time is up. What happens between
two polls, and how late it is then, belongs to the surroundings.

* `Surroundings`: the clock, the passing of time, and one poll.
* `Surroundings.read`: the waiting read.
-/

namespace PeerLink

/-- What a waiting read depends on, over a state `σ` that everybody shares. -/
structure Surroundings (σ α : Type) where
  /-- One poll; no answer if nothing is there. -/
  poll : σ → Option (Except LinkError α) × σ
  clock : σ → Instant × σ
  sleep : Duration → σ → σ

namespace Surroundings

variable {σ α : Type}

/-- The time between two polls. -/
def pollInterval : Duration := 100000

/-- Polls until there is an answer or the deadline has passed, at most `rounds` more times after the
first. A read without a time limit to wait for reports that nothing is there. -/
def pollUntil (w : Surroundings σ α) (timeout : Duration) (deadline : Instant) :
    Nat → σ → Except LinkError α × σ
  | rounds, s =>
    match w.poll s with
    | (some result, s) => (result, s)
    | (none, s) =>
      if timeout = 0 then (.error .noData, s)
      else
        let (now, s) := w.clock s
        if deadline ≤ now then (.error (.timeout timeout), s)
        else
          match rounds with
          | 0 => (.error (.timeout timeout), s)
          | rounds + 1 =>
            w.pollUntil timeout deadline rounds (w.sleep (min pollInterval (deadline - now)) s)

/-- The read of a message within a time limit. If no clock can show the deadline there is no answer:
the read breaks off before its first poll. Every reading of the clock is later than the one before,
so a wait of `n` nanoseconds ends within `n` rounds. -/
def read (w : Surroundings σ α) (timeout : Duration) (s : σ) : Option (Except LinkError α) × σ :=
  let (now, s) := w.clock s
  match now.after? timeout with
  | none => (none, s)
  | some deadline =>
    let (result, s) := w.pollUntil timeout deadline timeout s
    (some result, s)

end Surroundings

end PeerLink
