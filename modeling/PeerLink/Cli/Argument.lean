import PeerLink.Cli.Failure
import PeerLink.Message.Item
import PeerLink.Real.Reading

/-! # Arguments

The forms in which values are given on the command line.

* `Numeral.natural?`, `Numeral.integer?`: decimal numbers with an optional sign.
* `Argument.duration`, `Argument.optionalDuration`: `150ms`, `2s` or a number of seconds.
* `Argument.hex?`: pairs of hexadecimal digits.
* `Argument.item`: `key=type:value`.
-/

namespace PeerLink

namespace Numeral

/-- The number that decimal digits denote; there must be at least one. -/
def digits? (cs : List Char) : Option Nat :=
  if !cs.isEmpty && cs.all Char.isDigit then
    some (cs.foldl (fun n c => n * 10 + (c.toNat - '0'.toNat)) 0)
  else none

/-- A natural number below a bound, perhaps with a plus sign. -/
def natural? (bound : Nat) (cs : List Char) : Option Nat :=
  let number := match cs with
    | '+' :: rest => digits? rest
    | _ => digits? cs
  number.filter (· < bound)

/-- An integer of 64 bits, perhaps with a sign. -/
def integer? (cs : List Char) : Option Int64 :=
  let number : Option Int := match cs with
    | '+' :: rest => (digits? rest).map Int.ofNat
    | '-' :: rest => (digits? rest).map fun n => -(n : Int)
    | _ => (digits? cs).map Int.ofNat
  (number.filter fun n => Int64.minValue.toInt ≤ n && n ≤ Int64.maxValue.toInt).map Int64.ofInt

end Numeral

namespace Argument

/-! ## Durations -/

/-- A text without the white space around it. -/
def trim (cs : List Char) : List Char :=
  ((cs.dropWhile Text.isBlank).reverse.dropWhile Text.isBlank).reverse

/-- A text without its end, if it has that end. -/
def withoutEnd? (ending cs : List Char) : Option (List Char) :=
  if ending.isSuffixOf cs then some (cs.take (cs.length - ending.length)) else none

/-- The number of a duration and the length of its unit. -/
def splitUnit (cs : List Char) : List Char × Duration :=
  match withoutEnd? ['m', 's'] cs with
  | some number => (number, .ofMillis 1)
  | none =>
    match withoutEnd? ['s'] cs with
    | some number => (number, .ofSeconds 1)
    | none => (cs, .ofSeconds 1)

/-- A duration: a number of seconds, or of milliseconds with the unit `ms`. It must not be zero. -/
def duration (input : String) : Except Failure Duration :=
  let cs := trim input.toList
  if cs.isEmpty then .error (.usage "duration must not be empty")
  else
    let (number, unit) := splitUnit cs
    match Numeral.natural? UInt64.size number with
    | none => .error (.usage ("invalid duration value: " ++ String.ofList cs))
    | some 0 => .error (.usage "duration must be greater than zero")
    | some n => .ok (n * unit)

/-- The ways to write that there is no limit. -/
def unlimited : List String := ["0", "0s", "0ms"]

def optionalDuration (input : String) : Except Failure (Option Duration) :=
  let trimmed := String.ofList (trim input.toList)
  if unlimited.contains trimmed then .ok none
  else
    match duration trimmed with
    | .ok d => .ok (some d)
    | .error e => .error e

/-! ## Bytes -/

/-- The byte of a pair of digits. A plus sign may stand for the first digit. -/
def pair? (high low : Char) : Option UInt8 :=
  if high = '+' then (Hex.digit? low).map UInt8.ofNat
  else
    match Hex.digit? high, Hex.digit? low with
    | some h, some l => some (UInt8.ofNat (16 * h + l))
    | _, _ => none

def pairs? : List Char → Option Bytes
  | [] => some []
  | [_] => none
  | high :: low :: rest =>
    match pair? high low, pairs? rest with
    | some b, some bs => some (b :: bs)
    | _, _ => none

/-- Bytes in hexadecimal, with or without `0x` before them. -/
def hex? (input : String) : Option Bytes :=
  match input.toList with
  | '0' :: 'x' :: rest => pairs? rest
  | cs => pairs? cs

/-! ## Items -/

/-- A text before and after the first of a certain character. -/
def splitAt? (mark : Char) (cs : List Char) : Option (List Char × List Char) :=
  if cs.contains mark then some (cs.takeWhile (· != mark), (cs.dropWhile (· != mark)).drop 1)
  else none

def value (kind text : String) : Except String Value :=
  match kind with
  | "int" =>
    match Numeral.integer? text.toList with
    | some v => .ok (.integer v)
    | none => .error "not a 64-bit integer"
  | "bool" =>
    if text == "true" || text == "1" then .ok (.boolean true)
    else if text == "false" || text == "0" then .ok (.boolean false)
    else .error "expected true or false"
  | "real" =>
    match Binary64.ofText? text with
    | some v => .ok (.real v)
    | none => .error "not a number"
  | "str" => .ok (.string text)
  | "hex" =>
    match hex? text with
    | some v => .ok (.binary v)
    | none => .error "expected an even number of hex digits"
  | other => .error ("unknown type " ++ Quoted.quote other)

def itemParts (input : String) : Except String (String × String × String) :=
  match splitAt? '=' input.toList with
  | none => .error "expected key=type:value"
  | some (key, typed) =>
    match splitAt? ':' typed with
    | none => .error "expected type:value after '='"
    | some (kind, text) => .ok (String.ofList key, String.ofList kind, String.ofList text)

def item? (input : String) : Except String Item :=
  match itemParts input with
  | .error reason => .error reason
  | .ok (key, kind, text) =>
    match value kind text with
    | .error reason => .error reason
    | .ok v => .ok (.ofValue key v)

/-- An item, written `key=type:value`. -/
def item (input : String) : Except Failure Item :=
  match item? input with
  | .ok i => .ok i
  | .error reason => .error (.usage ("invalid --item " ++ Quoted.quote input ++ ": " ++ reason))

end Argument

end PeerLink
