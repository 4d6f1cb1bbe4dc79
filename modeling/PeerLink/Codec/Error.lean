import PeerLink.Bytes.Hex
import PeerLink.Text.Quoted
import PeerLink.Text.Utf8

/-! # Codec errors

* `ItemType`: the type codes that a message may carry.
* `CodecError`: why a message cannot be written or read.
* `CodecError.message`: the wording of each cause.
-/

namespace PeerLink

/-! ## Item types -/

/-- The type code of an item. Events, function calls and image frames are reserved: a message may
name them, but no value of theirs can be written or read. -/
inductive ItemType where
  | integer
  | boolean
  | real
  | string
  | binary
  /-- Reserved. -/
  | event
  /-- Reserved. -/
  | functionCall
  /-- Reserved. -/
  | imageFrame
  deriving DecidableEq, Repr

namespace ItemType

/-- The number that stands for a type in a message. -/
def code : ItemType → Int64
  | .integer => 0
  | .boolean => 1
  | .real => 2
  | .string => 3
  | .binary => 4
  | .event => 5
  | .functionCall => 6
  | .imageFrame => 7

def all : List ItemType :=
  [.integer, .boolean, .real, .string, .binary, .event, .functionCall, .imageFrame]

def ofCode? (code : Int64) : Option ItemType :=
  all.find? (·.code == code)

/-- Whether a type has no rules for its values. -/
def isReserved : ItemType → Bool
  | .event | .functionCall | .imageFrame => true
  | _ => false

def name : ItemType → String
  | .integer => "integer"
  | .boolean => "boolean"
  | .real => "real"
  | .string => "string"
  | .binary => "binary"
  | .event => "event"
  | .functionCall => "function_call"
  | .imageFrame => "image_frame"

def ofName? (s : String) : Option ItemType := all.find? (·.name == s)

theorem ofCode?_code (t : ItemType) : ofCode? t.code = some t := by
  cases t <;> decide

theorem code_of_ofCode? {c : Int64} {t : ItemType} (h : ofCode? c = some t) : t.code = c := by
  have := List.find?_some h
  simpa using this

end ItemType

/-! ## Errors -/

/-- Why a message cannot be written or read. -/
inductive CodecError where
  | truncated (needed remaining : Nat)
  | tagMismatch (expected found : UInt8)
  /-- A type code that is unknown or reserved. -/
  | unsupportedType (code : Int64)
  /-- A content length that the tag does not allow. -/
  | invalidLength (tag : UInt8) (length : Nat)
  /-- A length given in more than four bytes. -/
  | lengthTooLarge (count : UInt8)
  | indefiniteLength
  /-- A content too long for a four-byte length. -/
  | lengthOverflow (length : Nat)
  /-- A real in an unknown representation. -/
  | unsupportedReal (header : UInt8)
  | invalidUtf8 (fault : Utf8.Fault)
  | sequenceCountMismatch (types keys values : Nat)
  /-- A sequence holds more than was read. -/
  | sequenceNotConsumed (count : Nat)
  | trailingBytes (count : Nat)
  | valueTypeMismatch (key : String) (declared actual : ItemType)
  deriving DecidableEq, Repr

def CodecError.message : CodecError → String
  | .truncated needed remaining => s!"truncated input: need {needed} bytes, {remaining} remaining"
  | .tagMismatch expected found =>
    "tag mismatch: expected 0x" ++ Hex.word 2 expected.toNat ++ ", found 0x"
      ++ Hex.word 2 found.toNat
  | .unsupportedType code => s!"unsupported item type {code.toInt}"
  | .invalidLength tag length => s!"invalid length {length} for tag 0x" ++ Hex.word 2 tag.toNat
  | .lengthTooLarge count => s!"length field too large ({count.toNat} length bytes)"
  | .indefiniteLength => "indefinite length form is not supported"
  | .lengthOverflow length => s!"content length {length} exceeds the 32-bit length limit"
  | .unsupportedReal header => "unsupported real encoding header 0x" ++ Hex.word 2 header.toNat
  | .invalidUtf8 fault => "invalid utf-8 in string: " ++ fault.message
  | .sequenceCountMismatch types keys values =>
    s!"sequence count mismatch: {types} types, {keys} keys, {values} values"
  | .sequenceNotConsumed count => s!"sequence has {count} unconsumed bytes"
  | .trailingBytes count => s!"{count} trailing bytes after message"
  | .valueTypeMismatch key declared actual =>
    "item " ++ Quoted.quote key ++ " declares type " ++ declared.name ++ " but holds a "
      ++ actual.name ++ " value"

end PeerLink
