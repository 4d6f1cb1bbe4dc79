import PeerLink.Codec.Error
import PeerLink.Codec.Integer
import PeerLink.Codec.Length
import PeerLink.Codec.Tag
import PeerLink.Real.Binary64

/-! # Encoder

Writes elements one after another. A sequence is opened before its content is known: the encoder
leaves room for a four-byte length and fills it in when the sequence is closed.

* `Encoder`: the bytes written so far.
* `Encoder.Mark`: where an open sequence keeps its length.
* `Encoder.beginSequence`, `Encoder.endSequence`: open and close a sequence.
-/

namespace PeerLink

/-- The bytes written so far. -/
structure Encoder where
  buffer : Array UInt8
  deriving Inhabited

namespace Encoder

/-- The position of an open sequence's length. -/
structure Mark where
  /-- Index of the length's first byte. -/
  position : Nat
  deriving DecidableEq, Repr

def empty : Encoder := ⟨#[]⟩

def toBytes (e : Encoder) : Bytes := e.buffer.toList

def size (e : Encoder) : Nat := e.buffer.size

def append (e : Encoder) (bs : Bytes) : Encoder := ⟨e.buffer ++ bs⟩

/-- Writes a length, or nothing if it needs more than four bytes. -/
def length (n : Nat) (e : Encoder) : Except CodecError Unit × Encoder :=
  match Length.encode? n with
  | some bs => (.ok (), e.append bs)
  | none => (.error (.lengthOverflow n), e)

/-- Writes a tag, a length and a content. A content that is too long leaves the tag behind. -/
def element (tag : UInt8) (content : Bytes) (e : Encoder) : Except CodecError Unit × Encoder :=
  match (e.append [tag]).length content.length with
  | (.ok (), e) => (.ok (), e.append content)
  | (.error err, e) => (.error err, e)

def integer (v : Int64) (e : Encoder) : Encoder :=
  let content := Integer.content v
  e.append (Tag.integer :: UInt8.ofNat content.length :: content)

def boolean (v : Bool) (e : Encoder) : Encoder :=
  e.append [Tag.boolean, 1, if v then 0xff else 0x00]

/-- Writes a real; a zero of either sign has no content. -/
def real (v : Binary64) (e : Encoder) : Encoder :=
  if v.isZero then e.append [Tag.real, 0]
  else e.append (Tag.real :: 9 :: Tag.binary64 :: Bytes.bigEndian64 v.bits)

def text (v : String) (e : Encoder) : Except CodecError Unit × Encoder :=
  e.element Tag.text (Utf8.encode v)

def octets (v : Bytes) (e : Encoder) : Except CodecError Unit × Encoder :=
  e.element Tag.octets v

/-! ## Sequences -/

/-- The form of a sequence length: four length bytes. -/
def lengthForm : UInt8 := 0x84

/-- Bytes that a sequence length takes. -/
def lengthSize : Nat := 5

/-- Opens a sequence with room for its length. -/
def beginSequence (e : Encoder) : Mark × Encoder :=
  (⟨e.size + 1⟩, e.append [Tag.sequence, lengthForm, 0, 0, 0, 0])

/-- Closes a sequence by filling in the length of what was written since it was opened. -/
def endSequence (m : Mark) (e : Encoder) : Except CodecError Unit × Encoder :=
  let n := e.size - m.position - lengthSize
  if n < Length.limit then
    let w := UInt32.ofNat n
    (.ok (), ⟨e.buffer
      |>.setIfInBounds (m.position + 1) (w >>> 24).toUInt8
      |>.setIfInBounds (m.position + 2) (w >>> 16).toUInt8
      |>.setIfInBounds (m.position + 3) (w >>> 8).toUInt8
      |>.setIfInBounds (m.position + 4) w.toUInt8⟩)
  else (.error (.lengthOverflow n), e)

end Encoder

end PeerLink
