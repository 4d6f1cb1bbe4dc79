import PeerLink.Proofs.Message.Decoding

/-! # What a manifest is read from

The types and keys of a message stand before its values. A reader of the manifest stops where the
keys end, so it agrees with the reader of the items as far as that goes, and of what comes after it
knows only how long it is.

* `Message.EndsWithKeys`: the bytes of a message up to the end of its keys.
* `Message.manifest_eq_ok_iff_endsWithKeys`: these decide whether there is a manifest, and which.

Main statement: `Message.manifest_ignores_values`.
-/

namespace PeerLink.Message
set_option autoImplicit false
open Reader

/-! ## Both readers begin alike -/

theorem manifest_eq_ok_iff_steps (bs : Bytes) (m : Manifest) :
    manifest bs = .ok m ↔
      ∃ inner rest, content bs = .ok inner ∧ readManifest inner = (.ok m, rest) := by
  rw [manifest]
  rcases hcontent : content bs with e | inner
  · constructor
    · intro h
      cases h
    · rintro ⟨inner, rest, hinner, -⟩
      cases hinner
  · show (readManifest inner).1 = .ok m ↔ _
    constructor
    · intro h
      exact ⟨inner, (readManifest inner).2, rfl, Prod.ext h rfl⟩
    · rintro ⟨inner', rest, hinner, hread⟩
      cases hinner
      rw [hread]

theorem manifest_of_decode {bs : Bytes} {items : List Item} (h : decode bs = .ok items) :
    manifest bs = .ok (manifestOf items) := by
  obtain ⟨inner, rest, hcontent, hread, -⟩ := manifest_of_messageForm (messageForm_of_decode h)
  exact (manifest_eq_ok_iff_steps bs _).mpr ⟨inner, rest, hcontent, hread⟩

theorem decode_of_manifest_error {bs : Bytes} {e : CodecError} (h : manifest bs = .error e) :
    decode bs = .error e := by
  rw [manifest] at h
  rw [decode]
  rcases hcontent : content bs with e' | inner
  · rw [hcontent] at h
    cases h
    rfl
  · rw [hcontent] at h
    change (readManifest inner).1 = .error e at h
    dsimp only
    rcases hread : readManifest inner with ⟨e' | m, rest⟩
    · rw [hread] at h
      cases h
      rfl
    · rw [hread] at h
      cases h

/-! ## The end of the keys -/

/-- `front` is a message up to the end of its keys, whose outer length counts `left` more bytes. -/
def EndsWithKeys (m : Manifest) (front : Bytes) (left : Nat) : Prop :=
  ∃ length body, Grammar.LengthForm (body.length + left) length ∧ ManifestForm m body ∧
    front = Tag.sequence :: (length ++ body)

theorem elementForm_append_iff (body rest bs : Bytes) :
    Grammar.ElementForm Tag.sequence (body ++ rest) bs ↔
      ∃ length, Grammar.LengthForm (body.length + rest.length) length ∧
        bs = Tag.sequence :: (length ++ body) ++ rest := by
  rw [Grammar.ElementForm, List.length_append]
  simp only [List.cons_append, List.append_assoc]

theorem manifest_eq_ok_iff_endsWithKeys (bs : Bytes) (m : Manifest) :
    manifest bs = .ok m ↔
      ∃ front, front <+: bs ∧ EndsWithKeys m front (bs.length - front.length) := by
  rw [manifest_eq_ok_iff_steps]
  constructor
  · rintro ⟨inner, rest, hcontent, hread⟩
    obtain ⟨body, hbody, rfl⟩ := (accepts_readManifest _ _ _).mp hread
    rw [content_eq_ok_iff, elementForm_append_iff] at hcontent
    obtain ⟨length, hlength, rfl⟩ := hcontent
    refine ⟨_, List.prefix_append _ rest, length, body, ?_, hbody, rfl⟩
    rwa [List.length_append, Nat.add_sub_cancel_left]
  · rintro ⟨front, ⟨rest, rfl⟩, length, body, hlength, hbody, rfl⟩
    rw [List.length_append, Nat.add_sub_cancel_left] at hlength
    refine ⟨body ++ rest, rest, ?_, (accepts_readManifest _ _ _).mpr ⟨body, hbody, rfl⟩⟩
    rw [content_eq_ok_iff, elementForm_append_iff]
    exact ⟨length, hlength, rfl⟩

/-- Two byte strings of one length, alike up to the end of the keys. -/
theorem manifest_of_common_front {bs other front : Bytes} {m : Manifest}
    (hfront : EndsWithKeys m front (bs.length - front.length)) (hbs : front <+: bs)
    (hother : front <+: other) (hlength : other.length = bs.length) :
    manifest other = manifest bs := by
  have hhere : manifest bs = .ok m :=
    (manifest_eq_ok_iff_endsWithKeys bs m).mpr ⟨front, hbs, hfront⟩
  have hthere : manifest other = .ok m := by
    refine (manifest_eq_ok_iff_endsWithKeys other m).mpr ⟨front, hother, ?_⟩
    rw [hlength]
    exact hfront
  rw [hhere, hthere]

/-- A message that is read has a manifest, of the types and keys of its items, and an error in the
manifest is the message's error. Wherever the keys of an accepted manifest end, the bytes after them
do not matter, if there are only as many of them. -/
theorem manifest_ignores_values :
    (∀ bs items, decode bs = .ok items →
      manifest bs = .ok ⟨items.map (·.type), items.map (·.key)⟩) ∧
    (∀ bs e, manifest bs = .error e → decode bs = .error e) ∧
    (∀ bs m, manifest bs = .ok m →
      ∃ front, front <+: bs ∧ EndsWithKeys m front (bs.length - front.length)) ∧
    ∀ bs other m front, EndsWithKeys m front (bs.length - front.length) → front <+: bs →
      front <+: other → other.length = bs.length → manifest other = manifest bs := by
  refine ⟨?_, ?_, ?_, ?_⟩
  · intro bs items h
    exact manifest_of_decode h
  · intro bs e h
    exact decode_of_manifest_error h
  · intro bs m h
    exact (manifest_eq_ok_iff_endsWithKeys bs m).mp h
  · intro bs other m front hfront hbs hother hlength
    exact manifest_of_common_front hfront hbs hother hlength

/-- One integer under the key `a`. -/
def oneInteger : Bytes :=
  [0x30, 0x0f, 0x30, 0x03, 0x02, 0x01, 0x00, 0x30, 0x03, 0x0c, 0x01, 0x61,
    0x30, 0x03, 0x02, 0x01, 0x01]

/-- The same types and keys, and nothing that could be a sequence of values. -/
def overwritten : Bytes := oneInteger.take 12 ++ List.replicate 5 0xff

theorem manifest_ignores_values_overwritten :
    (decode oneInteger = .ok [⟨.integer, "a", .integer 1⟩] ∧
      EndsWithKeys ⟨[.integer], ["a"]⟩ (oneInteger.take 12) 5 ∧ oneInteger.take 12 <+: oneInteger ∧
      oneInteger.take 12 <+: overwritten ∧ overwritten.length = oneInteger.length) ∧
    manifest oneInteger = .ok ⟨[.integer], ["a"]⟩ ∧ manifest overwritten = manifest oneInteger := by
  have hread : decode oneInteger = .ok [⟨.integer, "a", .integer 1⟩] := by decide +kernel
  have hfront : EndsWithKeys ⟨[.integer], ["a"]⟩ (oneInteger.take 12) 5 := by
    have hkeys : readManifest ((oneInteger.take 12).drop 2) = (.ok ⟨[.integer], ["a"]⟩, []) := by
      decide +kernel
    obtain ⟨body, hbody, hall⟩ := (accepts_readManifest _ _ _).mp hkeys
    rw [List.append_nil] at hall
    refine ⟨[0x0f], body, ?_, hbody, ?_⟩
    · rw [← hall]
      exact .short 15 (by decide)
    · rw [← hall]
      rfl
  have hhere : oneInteger.take 12 <+: oneInteger := List.take_prefix 12 oneInteger
  have hthere : oneInteger.take 12 <+: overwritten := List.prefix_append _ _
  obtain ⟨hagrees, -, -, hignores⟩ := manifest_ignores_values
  exact ⟨⟨hread, hfront, hhere, hthere, rfl⟩, hagrees _ _ hread,
    hignores oneInteger overwritten _ _ hfront hhere hthere rfl⟩

end PeerLink.Message
