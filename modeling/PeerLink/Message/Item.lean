import PeerLink.Codec.Error
import PeerLink.Real.Binary64

/-! # Items

A message is a list of items, each a typed value under a key.

* `Value`: the five kinds of value.
* `Item`: a key, a value and the type code that is written for it.
* `Item.check`: whether an item can be written.
* `Item.byKey`: the last value under each key.
-/

namespace PeerLink

/-- A value that a message can carry. -/
inductive Value where
  | integer (v : Int64)
  | boolean (v : Bool)
  | real (v : Binary64)
  | string (v : String)
  | binary (v : Bytes)
  deriving DecidableEq, Repr

namespace Value

def type : Value → ItemType
  | .integer _ => .integer
  | .boolean _ => .boolean
  | .real _ => .real
  | .string _ => .string
  | .binary _ => .binary

/-- Equality of values; reals are compared as numbers. -/
def same : Value → Value → Bool
  | .real a, .real b => a.sameNumber b
  | a, b => a == b

end Value

/-- A typed value under a key. Keys need not differ within a message. -/
structure Item where
  type : ItemType
  key : String
  value : Value
  deriving DecidableEq, Repr

namespace Item

/-- An item whose type is its value's. -/
def ofValue (key : String) (value : Value) : Item := ⟨value.type, key, value⟩

/-- Why an item cannot be written: its type is reserved, or is not the type of its value. -/
def check (i : Item) : Except CodecError Unit :=
  if i.type.isReserved then .error (.unsupportedType i.type.code)
  else if i.value.type != i.type then .error (.valueTypeMismatch i.key i.type i.value.type)
  else .ok ()

def same (a b : Item) : Bool :=
  a.type == b.type && a.key == b.key && a.value.same b.value

/-- A value put into a key-ordered list, in place of the one its key had. -/
def put (key : String) (v : Value) : List (String × Value) → List (String × Value)
  | [] => [(key, v)]
  | (k, w) :: rest =>
    if key < k then (key, v) :: (k, w) :: rest
    else if key == k then (k, v) :: rest
    else (k, w) :: put key v rest

/-- The last value under each key, in the order of the keys. -/
def byKey (items : List Item) : List (String × Value) :=
  items.foldl (fun m i => put i.key i.value m) []

end Item

/-- Whether two messages carry the same items in the same order. -/
def Message.same : List Item → List Item → Bool
  | [], [] => true
  | a :: as, b :: bs => a.same b && Message.same as bs
  | _, _ => false

end PeerLink
