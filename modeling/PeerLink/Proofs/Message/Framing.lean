import PeerLink.Proofs.Codec.Stability
import PeerLink.Proofs.Message.Encoding

/-! # Where a message ends

A message is one element and says its own length first. So no accepted byte string is the beginning
of another one: what is cut off anywhere, inside a tag, a length or a content, is too short, and
what is longer has so many bytes too many.

Main statement: `Message.cut_or_extended_refused`.
-/

namespace PeerLink.Message
set_option autoImplicit false
open Reader

theorem sequence_of_content {bs inner : Bytes} (h : content bs = .ok inner) :
    Reader.sequence bs = (.ok inner, []) :=
  (accepts_sequence bs inner []).mpr
    ⟨bs, (content_eq_ok_iff bs inner).mp h, (List.append_nil bs).symm⟩

theorem content_of_cut {bs inner part : Bytes} (h : content bs = .ok inner) (hpart : part <+: bs)
    (hproper : part ≠ bs) :
    ∃ needed left, left < needed ∧ content part = .error (.truncated needed left) := by
  obtain ⟨needed, left, rest, hlt, hshort⟩ :=
    (stable_element Tag.sequence).runsShort (sequence_of_content h) hpart hproper
  refine ⟨needed, left, hlt, ?_⟩
  change Reader.sequence part = _ at hshort
  rw [content, hshort]

theorem content_of_extended {bs inner : Bytes} (h : content bs = .ok inner) {more : Bytes}
    (hmore : more ≠ []) : content (bs ++ more) = .error (.trailingBytes more.length) := by
  have hread : Reader.sequence (bs ++ more) = (.ok inner, more) :=
    (accepts_sequence _ inner more).mpr ⟨bs, (content_eq_ok_iff bs inner).mp h, rfl⟩
  cases more with
  | nil => exact absurd rfl hmore
  | cons b more => rw [content, hread]; rfl

/-- Both decoders open a message in the same way. -/
theorem refused_of_content {bs : Bytes} {e : CodecError} (h : content bs = .error e) :
    decode bs = .error e ∧ manifest bs = .error e := by
  constructor
  · rw [decode, h]
  · rw [manifest, h]
    rfl

theorem content_of_decode {bs : Bytes} {items : List Item} (h : decode bs = .ok items) :
    ∃ inner, content bs = .ok inner := by
  obtain ⟨inner, _, _, _, hcontent, _⟩ := (decode_eq_ok_iff_steps bs items).mp h
  exact ⟨inner, hcontent⟩

theorem decode_of_encode {items : List Item} {bs : Bytes} (h : encode items = .ok bs) :
    decode bs = .ok (items.map Item.dropZeroSign) := by
  obtain ⟨htyped, hsize, rfl⟩ := (encode_eq_ok_iff items bs).mp h
  exact decode_of_messageForm (messageForm_message htyped hsize)

/-- Whatever part of an accepted message is missing at its end, both decoders want more bytes than
there are; and however many bytes follow it, both count them. Written messages are accepted. -/
theorem cut_or_extended_refused (bs : Bytes)
    (h : (∃ items, decode bs = .ok items) ∨ ∃ items, encode items = .ok bs) :
    (∀ part, part <+: bs → part ≠ bs → ∃ needed left, left < needed ∧
      decode part = .error (.truncated needed left) ∧
      manifest part = .error (.truncated needed left)) ∧
    ∀ more, more ≠ [] →
      decode (bs ++ more) = .error (.trailingBytes more.length) ∧
      manifest (bs ++ more) = .error (.trailingBytes more.length) := by
  have haccepted : ∃ items, decode bs = .ok items := by
    rcases h with haccepted | ⟨items, hwritten⟩
    · exact haccepted
    · exact ⟨_, decode_of_encode hwritten⟩
  obtain ⟨items, hitems⟩ := haccepted
  obtain ⟨inner, hcontent⟩ := content_of_decode hitems
  constructor
  · intro part hpart hproper
    obtain ⟨needed, left, hlt, hcut⟩ := content_of_cut hcontent hpart hproper
    exact ⟨needed, left, hlt, refused_of_content hcut⟩
  · intro more hmore
    exact refused_of_content (content_of_extended hcontent hmore)

/-- A message of no items, its length given in two bytes where one would do. -/
def padded : Bytes := [0x30, 0x82, 0x00, 0x06, 0x30, 0x00, 0x30, 0x00, 0x30, 0x00]

/-- Cut between the bytes of its length, and followed by another message. -/
theorem cut_or_extended_refused_padded :
    (decode padded = .ok [] ∧ padded.take 3 <+: padded ∧ padded.take 3 ≠ padded) ∧
      (∃ needed left, left < needed ∧ decode (padded.take 3) = .error (.truncated needed left)) ∧
      decode (padded ++ padded) = .error (.trailingBytes 10) := by
  have haccepted : decode padded = .ok [] := by decide +kernel
  have hpart : padded.take 3 <+: padded := List.take_prefix 3 padded
  have hproper : padded.take 3 ≠ padded := by decide
  obtain ⟨hcut, hextended⟩ := cut_or_extended_refused padded (.inl ⟨[], haccepted⟩)
  obtain ⟨needed, left, hlt, hshort, -⟩ := hcut _ hpart hproper
  exact ⟨⟨haccepted, hpart, hproper⟩, ⟨needed, left, hlt, hshort⟩,
    (hextended padded (by decide)).1⟩

end PeerLink.Message
