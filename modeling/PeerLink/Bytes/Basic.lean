/-! # Byte strings

* `Bytes`: a byte string is the list of its bytes; every layer of the library speaks of this one
  view.
* `Bytes.ofWord32`, `Bytes.ofWord64` and their big-endian partners `bigEndian32`, `bigEndian64`:
  fixed-width words in memory order (least significant byte first) and in wire order.
* `Bytes.toNat`: the number a big-endian byte string denotes.
* `Bytes.atLeast`: a length test that walks no further than it has to.
-/

namespace PeerLink

abbrev Bytes := List UInt8

namespace Bytes

/-! ## Words -/

/-- The four bytes of a word, least significant first. -/
def ofWord32 (w : UInt32) : Bytes :=
  [w.toUInt8, (w >>> 8).toUInt8, (w >>> 16).toUInt8, (w >>> 24).toUInt8]

/-- The eight bytes of a word, least significant first. -/
def ofWord64 (w : UInt64) : Bytes :=
  [w.toUInt8, (w >>> 8).toUInt8, (w >>> 16).toUInt8, (w >>> 24).toUInt8,
    (w >>> 32).toUInt8, (w >>> 40).toUInt8, (w >>> 48).toUInt8, (w >>> 56).toUInt8]

/-- The four bytes of a word, most significant first. -/
def bigEndian32 (w : UInt32) : Bytes :=
  [(w >>> 24).toUInt8, (w >>> 16).toUInt8, (w >>> 8).toUInt8, w.toUInt8]

/-- The eight bytes of a word, most significant first. -/
def bigEndian64 (w : UInt64) : Bytes :=
  [(w >>> 56).toUInt8, (w >>> 48).toUInt8, (w >>> 40).toUInt8, (w >>> 32).toUInt8,
    (w >>> 24).toUInt8, (w >>> 16).toUInt8, (w >>> 8).toUInt8, w.toUInt8]

/-- The number that a byte string denotes when its first byte is the most significant. -/
def toNat (bs : Bytes) : Nat :=
  bs.foldl (fun n b => n * 256 + b.toNat) 0

/-- The word stored least significant byte first; absent bytes count as zero and bytes after the
fourth are ignored. -/
def word32 (bs : Bytes) : UInt32 :=
  UInt32.ofNat (toNat (bs.take 4).reverse)

/-- The word stored least significant byte first; absent bytes count as zero and bytes after the
eighth are ignored. -/
def word64 (bs : Bytes) : UInt64 :=
  UInt64.ofNat (toNat (bs.take 8).reverse)

/-! ## Lengths and ranges -/

/-- Whether a byte string has at least `n` bytes; it looks at no byte after the `n`th. -/
def atLeast : Nat → Bytes → Bool
  | 0, _ => true
  | n + 1, bs => !(bs.drop n).isEmpty

theorem atLeast_iff (n : Nat) (bs : Bytes) : atLeast n bs = true ↔ n ≤ bs.length := by
  cases n with
  | zero => simp [atLeast]
  | succ n => simp only [atLeast, Bool.not_eq_true', List.isEmpty_eq_false_iff, ne_eq,
      List.drop_eq_nil_iff, Nat.not_le]; omega

/-- The byte string with `new` written over it from position `start` on; what would stick out at
the end is dropped. -/
def overwrite (bs : Bytes) (start : Nat) (new : Bytes) : Bytes :=
  bs.take start ++ (new.take (bs.length - start) ++ bs.drop (start + new.length))

/-- The `n` bytes from position `start` on, fewer where the byte string ends before. -/
def slice (bs : Bytes) (start n : Nat) : Bytes :=
  (bs.drop start).take n

end Bytes

end PeerLink
