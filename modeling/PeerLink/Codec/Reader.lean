import PeerLink.Codec.Error

/-! # Readers

A reader takes bytes from the front of a byte string. It always tells what is left: a reader that
fails has still consumed what it read before the failure.

* `Reader`: a function from the bytes left to a result and the bytes left after it.
* `Reader.byte`, `Reader.take`: one byte, a given number of bytes.
* `Reader.untilEmpty`: a reader repeated until nothing is left.
-/

namespace PeerLink

/-- Reads from the front of a byte string; the second component is what remains, after a failure
too. -/
def Reader (α : Type) := Bytes → Except CodecError α × Bytes

namespace Reader

variable {α β : Type}

/-- Reads nothing. -/
def ok (a : α) : Reader α := fun bs => (.ok a, bs)

/-- Fails and reads nothing. -/
def fail (e : CodecError) : Reader α := fun bs => (.error e, bs)

def andThen (r : Reader α) (f : α → Reader β) : Reader β := fun bs =>
  match r bs with
  | (.ok a, rest) => f a rest
  | (.error e, rest) => (.error e, rest)

instance : Monad Reader where
  pure := ok
  bind := andThen

/-- A result that needs no more bytes. -/
def ofExcept : Except CodecError α → Reader α
  | .ok a => ok a
  | .error e => fail e

def byte : Reader UInt8
  | [] => (.error (.truncated 1 0), [])
  | b :: rest => (.ok b, rest)

def take (n : Nat) : Reader Bytes := fun bs =>
  if Bytes.atLeast n bs then (.ok (bs.take n), bs.drop n)
  else (.error (.truncated n bs.length), bs)

/-- Fails unless everything has been read. -/
def finish : Reader Unit := fun bs =>
  match bs.length with
  | 0 => (.ok (), bs)
  | n => (.error (.sequenceNotConsumed n), bs)

/-! ## Repetition -/

/-- Reads as long as bytes are left, at most once for each byte of `budget`; the results so far
stand in reverse. -/
def untilEmptyFrom (r : Reader α) : Bytes → List α → Bytes → Except CodecError (List α)
  | _, seen, [] => .ok seen.reverse
  | [], seen, _ :: _ => .ok seen.reverse
  | _ :: budget, seen, b :: bs =>
    match r (b :: bs) with
    | (.ok a, rest) => untilEmptyFrom r budget (a :: seen) rest
    | (.error e, _) => .error e

/-- Repeats a reader until nothing is left. The reader must consume a byte whenever it succeeds, as
every element does, so the bytes themselves bound the number of rounds. -/
def untilEmpty (r : Reader α) (bs : Bytes) : Except CodecError (List α) :=
  untilEmptyFrom r bs [] bs

end Reader

end PeerLink
