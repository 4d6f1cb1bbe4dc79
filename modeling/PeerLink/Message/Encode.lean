import PeerLink.Codec.Encoder
import PeerLink.Message.Item

/-! # Writing messages

A message is one sequence of three: the type codes, the keys and the values of its items.

* `Message.encode`: the bytes of a list of items. Every item is checked before anything is written.
-/

namespace PeerLink

namespace Encoder

def value (v : Value) (e : Encoder) : Except CodecError Unit × Encoder :=
  match v with
  | .integer v => (.ok (), e.integer v)
  | .boolean v => (.ok (), e.boolean v)
  | .real v => (.ok (), e.real v)
  | .string v => e.text v
  | .binary v => e.octets v

/-- Writes one element for each member of a list, up to the first that fails. -/
def each {α : Type} (write : α → Encoder → Except CodecError Unit × Encoder) :
    List α → Encoder → Except CodecError Encoder
  | [], e => .ok e
  | a :: rest, e =>
    match write a e with
    | (.ok (), e) => each write rest e
    | (.error err, _) => .error err

/-- Writes a sequence with one element for each member of a list. -/
def sequenceOf {α : Type} (write : α → Encoder → Except CodecError Unit × Encoder) (xs : List α)
    (e : Encoder) : Except CodecError Encoder :=
  let (mark, e) := e.beginSequence
  match each write xs e with
  | .error err => .error err
  | .ok e =>
    match e.endSequence mark with
    | (.ok (), e) => .ok e
    | (.error err, _) => .error err

end Encoder

namespace Message

/-- The first reason why some item cannot be written. -/
def checkAll : List Item → Except CodecError Unit
  | [] => .ok ()
  | i :: rest =>
    match i.check with
    | .ok () => checkAll rest
    | .error e => .error e

def encode (items : List Item) : Except CodecError Bytes := do
  checkAll items
  let (message, e) := Encoder.empty.beginSequence
  let e ← e.sequenceOf (fun i e => (.ok (), Encoder.integer i.type.code e)) items
  let e ← e.sequenceOf (fun i e => e.text i.key) items
  let e ← e.sequenceOf (fun i e => e.value i.value) items
  match e.endSequence message with
  | (.ok (), e) => .ok e.toBytes
  | (.error err, _) => .error err

end Message

end PeerLink
