/-! # Durations and instants

Time is counted in whole nanoseconds: a `Duration` is a span, an `Instant` the span since some fixed
origin.

* `Duration.text`: a span in the largest unit that it fills, with as many decimals as it needs.
* `Instant.since`: the span from an earlier instant, zero if the order is the other way round.
* `Instant.after?`: the instant a span later, as far as clocks go.
-/

namespace PeerLink

/-- A span of time in nanoseconds. -/
abbrev Duration := Nat

/-- A point in time, in nanoseconds after a fixed origin. -/
abbrev Instant := Nat

namespace Duration

def ofMillis (n : Nat) : Duration := n * 1000000

def ofSeconds (n : Nat) : Duration := n * 1000000000

def toMillis (d : Duration) : Nat := d / 1000000

/-- A number of units with the remainder as a decimal fraction of `places` digits, of which trailing
zeros are dropped. -/
def inUnit (places : Nat) (unit : String) (d : Duration) : String :=
  let fraction := Nat.toDigits 10 (d % Nat.pow 10 places)
  let padded := List.replicate (places - fraction.length) '0' ++ fraction
  let kept := (padded.reverse.dropWhile (· == '0')).reverse
  let point := if kept.isEmpty then [] else '.' :: kept
  toString (d / Nat.pow 10 places) ++ String.ofList point ++ unit

/-- A span as it is shown in messages. -/
def text (d : Duration) : String :=
  if 1000000000 ≤ d then inUnit 9 "s" d
  else if 1000000 ≤ d then inUnit 6 "ms" d
  else if 1000 ≤ d then inUnit 3 "µs" d
  else toString d ++ "ns"

end Duration

/-- The span since an earlier instant; an instant in the future counts as no time ago. -/
def Instant.since (now start : Instant) : Duration := now - start

/-- The first instant that no clock can show: whole seconds are counted in 63 bits and a sign. -/
def Instant.limit : Instant := Duration.ofSeconds (Nat.pow 2 63)

/-- The instant a span later, if a clock can show it. -/
def Instant.after? (now : Instant) (d : Duration) : Option Instant :=
  if now + d < limit then some (now + d) else none

end PeerLink
