import PeerLink.Codec.Element
import PeerLink.Message.Item

/-! # Reading messages

* `Message.Manifest`: the types and keys of a message.
* `Message.manifest`: reads them without touching a value.
* `Message.decode`: reads the items of a message.

The values are read in the order of the types. Values beyond the last type are passed over, whatever
they are, so that a wrong number of values is reported as such.
-/

namespace PeerLink.Message

/-- The types and keys of a message, one of each for every item. -/
structure Manifest where
  types : List ItemType
  keys : List String
  deriving DecidableEq, Repr

def Manifest.size (m : Manifest) : Nat := m.types.length

/-- The content of the sequence that is the whole input. -/
def content (bs : Bytes) : Except CodecError Bytes :=
  match Reader.sequence bs with
  | (.error e, _) => .error e
  | (.ok inner, rest) =>
    match rest.length with
    | 0 => .ok inner
    | n => .error (.trailingBytes n)

def typeCode : Reader ItemType := do
  let code ← Reader.integer
  match ItemType.ofCode? code with
  | some t => Reader.ok t
  | none => Reader.fail (.unsupportedType code)

/-- The sequences of types and keys at the front of a message's content. -/
def readManifest : Reader Manifest := do
  let types ← (do Reader.ofExcept (Reader.untilEmpty typeCode (← Reader.sequence)))
  let keys ← (do Reader.ofExcept (Reader.untilEmpty Reader.text (← Reader.sequence)))
  if types.length != keys.length then
    Reader.fail (.sequenceCountMismatch types.length keys.length 0)
  else Reader.ok ⟨types, keys⟩

def readValue : ItemType → Reader Value
  | .integer => do Reader.ok (.integer (← Reader.integer))
  | .boolean => do Reader.ok (.boolean (← Reader.boolean))
  | .real => do Reader.ok (.real (← Reader.real))
  | .string => do Reader.ok (.string (← Reader.text))
  | .binary => do Reader.ok (.binary (← Reader.octets))
  | t => Reader.fail (.unsupportedType t.code)

/-- Reads a value for each type and key as long as bytes are left; the items so far stand in
reverse. The second component is what is left of the values. -/
def readItems : List (ItemType × String) → List Item → Bytes → Except CodecError (List Item × Bytes)
  | [], seen, bs => .ok (seen.reverse, bs)
  | (t, key) :: rest, seen, bs =>
    if bs.isEmpty then .ok (seen.reverse, bs)
    else
      match readValue t bs with
      | (.ok v, bs) => readItems rest (⟨t, key, v⟩ :: seen) bs
      | (.error e, _) => .error e

/-- Reads the types and keys of a message; its values are not looked at. -/
def manifest (bs : Bytes) : Except CodecError Manifest := do
  (readManifest (← content bs)).1

def decode (bs : Bytes) : Except CodecError (List Item) :=
  match content bs with
  | .error e => .error e
  | .ok inner =>
    match readManifest inner with
    | (.error e, _) => .error e
    | (.ok m, rest) =>
      match Reader.sequence rest with
      | (.error e, _) => .error e
      | (.ok values, rest) =>
        match readItems (m.types.zip m.keys) [] values with
        | .error e => .error e
        | .ok (items, surplus) =>
          match Reader.untilEmpty Reader.skip surplus with
          | .error e => .error e
          | .ok skipped =>
            let count := items.length + skipped.length
            if count != m.size then .error (.sequenceCountMismatch m.size m.size count)
            else
              match Reader.finish rest with
              | (.error e, _) => .error e
              | (.ok (), _) => .ok items

end PeerLink.Message
