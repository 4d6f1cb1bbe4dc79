import Mathlib.Data.Set.List
import PeerLink.Proofs.Codec.Stability
import PeerLink.Proofs.Message.Decoding

/-! # How many types, keys and values

Types and keys are counted against each other before a value is read. The value loop then runs in
step with the types and stops early when the values run out; what it leaves is passed over, element
by element, whatever its tags. Either way the values are counted as many as there are.

* `Message.StartsWith`: a message of given type codes and keys, and anything after them.
* `Message.readItems_of_counts`: what the value loop reads and what it leaves.
* `Message.skip_elements`: what the second loop counts.

Main statement: `Message.counts_are_compared`.
-/

namespace PeerLink.Message
set_option autoImplicit false
open Reader

/-! ## Types and keys -/

/-- A message whose first two sequences are of the given codes and keys. -/
def StartsWith (codes : List Int64) (keys : List String) (rest bs : Bytes) : Prop :=
  ∃ front names, Grammar.SequenceForm (fun c => Grammar.ValueForm (.integer c)) codes front ∧
    Grammar.SequenceForm (fun k => Grammar.ValueForm (.string k)) keys names ∧
    Grammar.ElementForm Tag.sequence (front ++ (names ++ rest)) bs

theorem exists_type_of_range (c : Int64) (h : 0 ≤ c.toInt ∧ c.toInt ≤ 7) :
    c ∈ Set.range ItemType.code := by
  have hc : Int64.ofInt c.toInt = c := Int64.ofInt_toInt c
  rcases (by omega : c.toInt = 0 ∨ c.toInt = 1 ∨ c.toInt = 2 ∨ c.toInt = 3 ∨ c.toInt = 4 ∨
    c.toInt = 5 ∨ c.toInt = 6 ∨ c.toInt = 7) with h | h | h | h | h | h | h | h
  · exact ⟨.integer, by rw [← hc, h]; rfl⟩
  · exact ⟨.boolean, by rw [← hc, h]; rfl⟩
  · exact ⟨.real, by rw [← hc, h]; rfl⟩
  · exact ⟨.string, by rw [← hc, h]; rfl⟩
  · exact ⟨.binary, by rw [← hc, h]; rfl⟩
  · exact ⟨.event, by rw [← hc, h]; rfl⟩
  · exact ⟨.functionCall, by rw [← hc, h]; rfl⟩
  · exact ⟨.imageFrame, by rw [← hc, h]; rfl⟩

theorem exists_types {codes : List Int64} (h : ∀ c ∈ codes, 0 ≤ c.toInt ∧ c.toInt ≤ 7) :
    ∃ types : List ItemType, types.map ItemType.code = codes := by
  have hrange : codes ∈ Set.range (List.map ItemType.code) := by
    rw [Set.range_list_map]
    intro c hc
    exact exists_type_of_range c (h c hc)
  exact hrange

theorem type_of_code {s t : ItemType} (h : s.code = t.code) : s = t := by
  have hs := ItemType.ofCode?_code s
  rw [h, ItemType.ofCode?_code] at hs
  exact (Option.some.inj hs).symm

/-- The manifest, or the count of types against keys. -/
theorem readManifest_of_forms {types : List ItemType} {keys : List String}
    {front names : Bytes} (rest : Bytes)
    (htypes : Grammar.SequenceForm (fun t => Grammar.ValueForm (.integer t.code)) types front)
    (hkeys : Grammar.SequenceForm (fun k => Grammar.ValueForm (.string k)) keys names) :
    readManifest (front ++ (names ++ rest)) =
      if types.length != keys.length then
        (.error (.sequenceCountMismatch types.length keys.length 0), rest)
      else (.ok ⟨types, keys⟩, rest) := by
  have hreadTypes := (accepts_sequenceOf accepts_typeCode (fun _ _ h => h.ne_nil)
    (front ++ (names ++ rest)) types (names ++ rest)).mpr ⟨front, htypes, rfl⟩
  have hreadKeys := (accepts_sequenceOf accepts_text (fun _ _ h => h.ne_nil)
    (names ++ rest) keys rest).mpr ⟨names, hkeys, rfl⟩
  rw [readManifest, bind_eq_of_ok hreadTypes, bind_eq_of_ok hreadKeys]
  split
  · rfl
  · rfl

/-! ## The two loops over the values -/

/-- The value loop, in step with the types: it reads as many items as there are both types and
values. -/
theorem readItems_of_counts (types : List ItemType) (keys : List String) (values : List Bytes)
    (seen : List Item) (hkeys : types.length = keys.length)
    (hvalues : ∀ p ∈ types.zip values, ∃ v : Value, v.type = p.1 ∧ Grammar.ValueForm v p.2) :
    ∃ items, items.length = seen.length + min types.length values.length ∧
      readItems (types.zip keys) seen values.flatten =
        .ok (items, (values.drop types.length).flatten) := by
  induction types generalizing keys values seen with
  | nil =>
    refine ⟨seen.reverse, ?_, rfl⟩
    rw [List.length_reverse, List.length_nil, Nat.zero_min, Nat.add_zero]
  | cons t types ih =>
    cases keys with
    | nil => cases hkeys
    | cons key keys =>
    cases values with
    | nil =>
      refine ⟨seen.reverse, ?_, rfl⟩
      rw [List.length_reverse, List.length_nil, Nat.min_zero, Nat.add_zero]
    | cons front values =>
      obtain ⟨v, htype, hform⟩ := hvalues (t, front) List.mem_cons_self
      have hread : readValue t (front ++ values.flatten) = (.ok v, values.flatten) :=
        (accepts_readValue t _ v _).mpr ⟨front, ⟨htype, hform⟩, rfl⟩
      have hsome : (front ++ values.flatten).isEmpty = false := by
        rw [List.isEmpty_eq_false_iff]
        intro hnil
        exact hform.ne_nil (List.append_eq_nil_iff.mp hnil).1
      obtain ⟨items, hcount, hitems⟩ := ih keys values (⟨t, key, v⟩ :: seen)
        (Nat.succ.inj hkeys) fun p hp => hvalues p (List.mem_cons_of_mem _ hp)
      refine ⟨items, ?_, ?_⟩
      · rw [List.length_cons] at hcount
        rw [List.length_cons, List.length_cons]
        omega
      · rw [List.zip_cons_cons, List.flatten_cons, readItems, hsome, hread]
        exact hitems

/-- Elements are passed over one by one, whatever their tags. -/
theorem skip_elements (parts : List Bytes)
    (h : ∀ part ∈ parts, ∃ tag content, Grammar.ElementForm tag content part) :
    untilEmpty skip parts.flatten = .ok (parts.map fun _ => ()) := by
  refine (untilEmpty_eq_ok_iff accepts_skip (fun _ _ ⟨_, _, h⟩ => h.ne_nil) _ _).mpr
    ⟨parts, ?_, rfl⟩
  rw [List.forall₂_map_left_iff, List.forall₂_same]
  exact h

/-! ## Whole messages -/

theorem decode_of_unequal_keys {types : List ItemType} {keys : List String} {rest bs : Bytes}
    (hbs : StartsWith (types.map ItemType.code) keys rest bs) (h : types.length ≠ keys.length) :
    decode bs = .error (.sequenceCountMismatch types.length keys.length 0) := by
  obtain ⟨front, names, hfront, hnames, hmessage⟩ := hbs
  rw [sequenceForm_map_iff] at hfront
  have hcontent := (content_eq_ok_iff _ _).mpr hmessage
  have hmanifest := readManifest_of_forms rest hfront hnames
  rw [if_pos (bne_iff_ne.mpr h)] at hmanifest
  simp only [decode, hcontent, hmanifest]

/-- As many keys as types: the values decide, by their number alone. -/
theorem decode_of_equal_keys {types : List ItemType} {keys : List String} {rest bs : Bytes}
    {values : List Bytes} (hbs : StartsWith (types.map ItemType.code) keys rest bs)
    (hkeys : types.length = keys.length)
    (hrest : Grammar.ElementForm Tag.sequence values.flatten rest)
    (helements : ∀ part ∈ values, ∃ tag content, Grammar.ElementForm tag content part)
    (hvalues : ∀ p ∈ types.zip values, ∃ v : Value, v.type = p.1 ∧ Grammar.ValueForm v p.2) :
    ∃ items, decode bs =
      if values.length != types.length then
        .error (.sequenceCountMismatch types.length types.length values.length)
      else .ok items := by
  obtain ⟨front, names, hfront, hnames, hmessage⟩ := hbs
  rw [sequenceForm_map_iff] at hfront
  have hcontent := (content_eq_ok_iff _ _).mpr hmessage
  have hmanifest := readManifest_of_forms rest hfront hnames
  rw [if_neg (fun hne => bne_iff_ne.mp hne hkeys)] at hmanifest
  have hsequence : Reader.sequence rest = (.ok values.flatten, []) :=
    (accepts_sequence _ _ _).mpr ⟨rest, hrest, (List.append_nil rest).symm⟩
  obtain ⟨items, hcount, hitems⟩ := readItems_of_counts types keys values [] hkeys hvalues
  have hskipped := skip_elements (values.drop types.length) fun part hpart =>
    helements part (List.mem_of_mem_drop hpart)
  -- read and passed over together
  have htotal : items.length + ((values.drop types.length).map fun _ => ()).length =
      values.length := by
    rw [hcount, List.length_map, List.length_drop, List.length_nil]
    omega
  refine ⟨items, ?_⟩
  simp only [decode, hcontent, hmanifest, hsequence, hitems, hskipped, htotal, Manifest.size]
  rfl

/-- A message of known type codes, keys and values is read if and only if there are as many of each.
Other numbers of types and keys are reported whatever comes after the keys; otherwise the values are
counted exactly, those beyond the last type whatever they are. -/
theorem counts_are_compared (codes : List Int64) (keys : List String) (rest bs : Bytes)
    (hcodes : ∀ c ∈ codes, 0 ≤ c.toInt ∧ c.toInt ≤ 7) (hbs : StartsWith codes keys rest bs) :
    (codes.length ≠ keys.length →
      decode bs = .error (.sequenceCountMismatch codes.length keys.length 0)) ∧
    ∀ values : List Bytes, Grammar.ElementForm Tag.sequence values.flatten rest →
      (∀ part ∈ values, ∃ tag content, Grammar.ElementForm tag content part) →
      (∀ p ∈ codes.zip values, ∃ v : Value, v.type.code = p.1 ∧ Grammar.ValueForm v p.2) →
      ((∃ items, decode bs = .ok items) ↔
        codes.length = keys.length ∧ keys.length = values.length) ∧
      (codes.length = keys.length → values.length ≠ codes.length →
        decode bs = .error (.sequenceCountMismatch codes.length codes.length values.length)) := by
  obtain ⟨types, rfl⟩ := exists_types hcodes
  rw [List.length_map]
  refine ⟨fun h => decode_of_unequal_keys hbs h, ?_⟩
  intro values hrest helements hvalues
  have htyped : ∀ p ∈ types.zip values, ∃ v : Value, v.type = p.1 ∧ Grammar.ValueForm v p.2 := by
    intro p hp
    have hcode : (p.1.code, p.2) ∈ (types.map ItemType.code).zip values := by
      rw [List.zip_map_left]
      exact List.mem_map_of_mem hp
    obtain ⟨v, htype, hform⟩ := hvalues _ hcode
    exact ⟨v, type_of_code htype, hform⟩
  constructor
  · constructor
    · rintro ⟨items, hread⟩
      by_cases hkeys : types.length = keys.length
      · refine ⟨hkeys, ?_⟩
        obtain ⟨items', hall⟩ := decode_of_equal_keys hbs hkeys hrest helements htyped
        by_contra hcount
        rw [if_pos (bne_iff_ne.mpr (by omega)), hread] at hall
        cases hall
      · rw [decode_of_unequal_keys hbs hkeys] at hread
        cases hread
    · rintro ⟨hkeys, hcount⟩
      obtain ⟨items, hall⟩ := decode_of_equal_keys hbs hkeys hrest helements htyped
      rw [if_neg (fun hne => bne_iff_ne.mp hne (by omega))] at hall
      exact ⟨items, hall⟩
  · intro hkeys hcount
    obtain ⟨items, hall⟩ := decode_of_equal_keys hbs hkeys hrest helements htyped
    rwa [if_pos (bne_iff_ne.mpr hcount)] at hall

/-- One integer under one key, and after its value an element whose tag means nothing. -/
def foreignSurplus : Bytes :=
  [0x30, 0x12, 0x30, 0x03, 0x02, 0x01, 0x00, 0x30, 0x03, 0x0c, 0x01, 0x61,
    0x30, 0x06, 0x02, 0x01, 0x2a, 0x77, 0x01, 0xff]

theorem counts_are_compared_foreignSurplus :
    (StartsWith [0] ["a"] (foreignSurplus.drop 12) foreignSurplus ∧
      Grammar.ValueForm (.integer 42) [0x02, 0x01, 0x2a] ∧
      Grammar.ElementForm 0x77 [0xff] [0x77, 0x01, 0xff]) ∧
    decode foreignSurplus = .error (.sequenceCountMismatch 1 1 2) := by
  have hone : Grammar.LengthForm 1 [0x01] := .short 1 (by decide)
  have hcode : Grammar.ValueForm (.integer 0) [0x02, 0x01, 0x00] :=
    ⟨[0x00], .integer 0 [0x00] (by decide) (by decide) (by decide), [0x01], hone, rfl⟩
  have hkey : Grammar.ValueForm (.string "a") [0x0c, 0x01, 0x61] :=
    ⟨[0x61], .string "a", [0x01], hone, rfl⟩
  have hvalue : Grammar.ValueForm (.integer 42) [0x02, 0x01, 0x2a] :=
    ⟨[0x2a], .integer 42 [0x2a] (by decide) (by decide) (by decide), [0x01], hone, rfl⟩
  have hforeign : Grammar.ElementForm 0x77 [0xff] [0x77, 0x01, 0xff] := ⟨[0x01], hone, rfl⟩
  have hbs : StartsWith [0] ["a"] (foreignSurplus.drop 12) foreignSurplus :=
    ⟨[0x30, 0x03, 0x02, 0x01, 0x00], [0x30, 0x03, 0x0c, 0x01, 0x61],
      ⟨[[0x02, 0x01, 0x00]], .cons hcode .nil, [0x03], .short 3 (by decide), rfl⟩,
      ⟨[[0x0c, 0x01, 0x61]], .cons hkey .nil, [0x03], .short 3 (by decide), rfl⟩,
      [0x12], .short 18 (by decide), rfl⟩
  have hcodes : ∀ c ∈ [(0 : Int64)], 0 ≤ c.toInt ∧ c.toInt ≤ 7 := by
    intro c hc
    rw [List.mem_singleton.mp hc]
    decide
  obtain ⟨-, hcounts⟩ := counts_are_compared [0] ["a"] _ foreignSurplus hcodes hbs
  refine ⟨⟨hbs, hvalue, hforeign⟩, ?_⟩
  refine (hcounts [[0x02, 0x01, 0x2a], [0x77, 0x01, 0xff]] ?_ ?_ ?_).2 rfl (by decide)
  · exact ⟨[0x06], .short 6 (by decide), rfl⟩
  · intro part hpart
    rcases List.mem_pair.mp hpart with rfl | rfl
    · obtain ⟨content, -, hform⟩ := hvalue
      exact ⟨_, content, hform⟩
    · exact ⟨_, _, hforeign⟩
  · intro p hp
    rw [List.mem_singleton.mp hp]
    exact ⟨.integer 42, rfl, hvalue⟩

end PeerLink.Message
