import PeerLink.Codec.Integer
import PeerLink.Codec.Length
import PeerLink.Codec.Tag
import PeerLink.Real.Binary64

/-! # Reading elements

An element is a tag, a length and so many content bytes.

* `Reader.element`: the content of an element with a required tag.
* `Reader.integer`, `Reader.boolean`, `Reader.real`, `Reader.text`, `Reader.octets`: elements of the
  five value types.
* `Reader.sequence`: the content of a sequence, to be read in turn.
* `Reader.skip`: passes over one element of any tag.
-/

namespace PeerLink.Reader

/-- The content of an element that must have the given tag. -/
def element (expected : UInt8) : Reader Bytes := do
  let found ← byte
  if found != expected then fail (.tagMismatch expected found)
  else do
    let n ← Length.read
    take n

/-- A signed integer of one to eight bytes. -/
def integer : Reader Int64 := do
  let content ← element Tag.integer
  if content.isEmpty || Bytes.atLeast 9 content then
    fail (.invalidLength Tag.integer content.length)
  else ok (Integer.ofContent content)

/-- A truth value: one byte, zero for false. -/
def boolean : Reader Bool := do
  let content ← element Tag.boolean
  match content with
  | [b] => ok (b != 0)
  | _ => fail (.invalidLength Tag.boolean content.length)

/-- A real: nothing for zero, else a header byte and the bit pattern. -/
def real : Reader Binary64 := do
  let content ← element Tag.real
  match content with
  | [] => ok Binary64.zero
  | header :: pattern =>
    if header != Tag.binary64 then fail (.unsupportedReal header)
    else if pattern.length != 8 then fail (.invalidLength Tag.real content.length)
    else ok ⟨UInt64.ofNat (Bytes.toNat pattern)⟩

def text : Reader String := do
  let content ← element Tag.text
  match Utf8.decode content with
  | .ok s => ok s
  | .error fault => fail (.invalidUtf8 fault)

def octets : Reader Bytes := element Tag.octets

def sequence : Reader Bytes := element Tag.sequence

/-- Passes over one element of any tag. -/
def skip : Reader Unit := do
  let _ ← byte
  let n ← Length.read
  let _ ← take n
  ok ()

end PeerLink.Reader
