import PeerLink.Bytes.Basic

/-! # Text as bytes

* `Utf8.encode`: the UTF-8 form of a text.
* `Utf8.decode`: the text of a byte string, or the first fault in it. It accepts exactly the
  encodings of texts (`decode_eq_ok_iff`).
* `Utf8.Fault`: where a byte string stops being UTF-8. A fault inside the string names the number
  of bytes that no character can begin with; a character cut off by the end names none.
-/

namespace PeerLink.Utf8

def encode (s : String) : Bytes :=
  s.toByteArray.data.toList

/-! ## Faults -/

/-- The first place at which a byte string is not UTF-8. -/
structure Fault where
  /-- Bytes before the faulty character, all of them valid. -/
  validUpTo : Nat
  /-- How many bytes cannot begin a character; `none` if the string ends inside a character. -/
  badBytes : Option Nat
  deriving DecidableEq, Repr

def Fault.message (f : Fault) : String :=
  match f.badBytes with
  | some n => s!"invalid utf-8 sequence of {n} bytes from index {f.validUpTo}"
  | none => s!"incomplete utf-8 byte sequence from index {f.validUpTo}"

/-- How one character at the front of a byte string ends. -/
inductive Lead where
  /-- A whole character of so many bytes. -/
  | whole (size : Nat)
  /-- So many bytes begin no character. -/
  | bad (size : Nat)
  /-- The string ends inside the character. -/
  | cut

def isTail (b : UInt8) : Bool := 0x80 ≤ b && b ≤ 0xbf

/-- The continuation bytes after a lead byte and `seen` bytes of the character, `more` of them
still owed. -/
def tails : Nat → Nat → Bytes → Lead
  | seen, 0, _ => .whole seen
  | _, _ + 1, [] => .cut
  | seen, more + 1, b :: rest => if isTail b then tails (seen + 1) more rest else .bad seen

/-- The second byte, which some lead bytes restrict, and the tails after it. -/
def second (low high : UInt8) (more : Nat) : Bytes → Lead
  | [] => .cut
  | b :: rest => if low ≤ b && b ≤ high then tails 2 more rest else .bad 1

/-- The character at the front of a byte string that starts with `b`. -/
def lead (b : UInt8) (rest : Bytes) : Lead :=
  if b ≤ 0x7f then .whole 1
  else if 0xc2 ≤ b && b ≤ 0xdf then second 0x80 0xbf 0 rest
  else if b == 0xe0 then second 0xa0 0xbf 1 rest
  else if b == 0xed then second 0x80 0x9f 1 rest
  else if 0xe1 ≤ b && b ≤ 0xef then second 0x80 0xbf 1 rest
  else if b == 0xf0 then second 0x90 0xbf 2 rest
  else if 0xf1 ≤ b && b ≤ 0xf3 then second 0x80 0xbf 2 rest
  else if b == 0xf4 then second 0x80 0x8f 2 rest
  else .bad 1

/-- The first fault at or after position `pos`; `skip` bytes still belong to the character before.
A string without a fault is reported as cut at its end. -/
def faultFrom : Nat → Nat → Bytes → Fault
  | pos, _, [] => ⟨pos, none⟩
  | pos, skip + 1, _ :: rest => faultFrom (pos + 1) skip rest
  | pos, 0, b :: rest =>
    match lead b rest with
    | .whole size => faultFrom (pos + 1) (size - 1) rest
    | .bad size => ⟨pos, some size⟩
    | .cut => ⟨pos, none⟩

/-! ## Decoding -/

def decode (bs : Bytes) : Except Fault String :=
  match String.fromUTF8? ⟨bs.toArray⟩ with
  | some s => .ok s
  | none => .error (faultFrom 0 0 bs)

theorem encode_injective {s t : String} (h : encode s = encode t) : s = t := by
  have h' : s.toByteArray.data = t.toByteArray.data := Array.toList_inj.mp h
  exact String.toByteArray_inj.mp (ByteArray.ext h')

/-- A byte string decodes to a text exactly if it is the text's encoding. -/
theorem decode_eq_ok_iff {bs : Bytes} {s : String} : decode bs = .ok s ↔ bs = encode s := by
  unfold decode String.fromUTF8?
  by_cases hv : (ByteArray.mk bs.toArray).IsValidUTF8
  · simp only [hv, ↓reduceDIte, Except.ok.injEq]
    constructor
    · rintro rfl; rfl
    · intro h; exact encode_injective (by rw [← h]; rfl)
  · simp only [hv, ↓reduceDIte, reduceCtorEq, false_iff]
    rintro rfl
    exact hv s.isValidUTF8

theorem decode_encode (s : String) : decode (encode s) = .ok s :=
  decode_eq_ok_iff.mpr rfl

end PeerLink.Utf8
