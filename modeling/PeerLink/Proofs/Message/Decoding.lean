import PeerLink.Message.Decode
import PeerLink.Proofs.Codec.Reading

/-! # The messages that are read

Main statement: `Message.decode_eq_ok_iff_messageForm`, a byte string is read as a list of items
exactly if the grammar makes it a message of these items.

The value loop stops early when the values run out, and what it leaves is counted afterwards. Both
cases are one statement about the loop (`Message.readItems_eq_ok`): it reads a run of values for the
first types and keys, and stops before the last of these only at the end of the values.
-/

namespace PeerLink.Message
set_option autoImplicit false
open Reader

/-! ## Types and keys -/

theorem accepts_typeCode :
    Accepts typeCode (fun t => Grammar.ValueForm (.integer t.code)) := by
  refine (accepts_integer.bind fun code =>
    (?_ : Accepts _ (fun t front => t.code = code ∧ front = []))).of_iff fun t front => ?_
  · split
    · next t ht =>
      refine (accepts_ok t).of_iff fun t' front => and_congr_left fun _ => ?_
      constructor
      · intro hcode
        rw [← hcode, ItemType.ofCode?_code, Option.some.injEq] at ht
        exact ht
      · rintro rfl
        exact ItemType.code_of_ofCode? ht
    · next hnone =>
      refine (accepts_fail _).of_iff fun t front => ?_
      rw [iff_false]
      rintro ⟨hcode, -⟩
      rw [← hcode, ItemType.ofCode?_code] at hnone
      cases hnone
  · constructor
    · intro h
      exact ⟨t.code, front, [], h, ⟨rfl, rfl⟩, by simp⟩
    · rintro ⟨code, x, y, hx, ⟨rfl, rfl⟩, rfl⟩
      rwa [List.append_nil]

/-- Types and keys side by side, as many of the ones as of the others. -/
def ManifestForm (m : Manifest) (front : Bytes) : Prop :=
  m.types.length = m.keys.length ∧
    ∃ types keys,
      Grammar.SequenceForm (fun t => Grammar.ValueForm (.integer t.code)) m.types types ∧
      Grammar.SequenceForm (fun k => Grammar.ValueForm (.string k)) m.keys keys ∧
      front = types ++ keys

theorem accepts_readManifest : Accepts readManifest ManifestForm := by
  have htypes := accepts_sequenceOf accepts_typeCode fun _ _ h => h.ne_nil
  have hkeys := accepts_sequenceOf accepts_text fun _ _ h => h.ne_nil
  refine (htypes.bind fun types => hkeys.bind fun keys => (?_ : Accepts _ (fun m front =>
    types.length = keys.length ∧ m = ⟨types, keys⟩ ∧ front = []))).of_iff fun m front => ?_
  · split
    · next hne =>
      refine (accepts_fail _).of_iff fun m front => ?_
      rw [iff_false]
      rintro ⟨heq, -⟩
      simp [heq] at hne
    · next heq =>
      refine (accepts_ok _).of_iff fun m front => ?_
      exact and_iff_right (by simpa using heq)
  · constructor
    · rintro ⟨hlen, types, keys, ht, hk, rfl⟩
      exact ⟨m.types, types, keys, ht, ⟨m.keys, keys, [], hk, ⟨hlen, rfl, rfl⟩, by simp⟩, rfl⟩
    · rintro ⟨ts, x, y, ht, ⟨ks, z, w, hk, ⟨hlen, rfl, rfl⟩, rfl⟩, rfl⟩
      exact ⟨hlen, x, z, ht, hk, by rw [List.append_nil]⟩

/-! ## Values -/

theorem accepts_wrapped {α : Type} {r : Reader α} {wrap : α → Value} {t : ItemType}
    (hr : Accepts r (fun a => Grammar.ValueForm (wrap a)))
    (htype : ∀ v : Value, v.type = t ↔ ∃ a, v = wrap a) :
    Accepts (do Reader.ok (wrap (← r)))
      (fun v front => v.type = t ∧ Grammar.ValueForm v front) := by
  refine (hr.bind fun a => accepts_ok (wrap a)).of_iff fun v front => ?_
  constructor
  · rintro ⟨ht, hform⟩
    obtain ⟨a, rfl⟩ := (htype v).mp ht
    exact ⟨a, front, [], hform, ⟨rfl, rfl⟩, by simp⟩
  · rintro ⟨a, x, y, hform, ⟨rfl, rfl⟩, rfl⟩
    exact ⟨(htype _).mpr ⟨a, rfl⟩, by rwa [List.append_nil]⟩

theorem accepts_readValue (t : ItemType) :
    Accepts (readValue t) (fun v front => v.type = t ∧ Grammar.ValueForm v front) := by
  have hreserved : ∀ e : CodecError, (∀ v : Value, v.type ≠ t) →
      Accepts (Reader.fail e) (fun v front => v.type = t ∧ Grammar.ValueForm v front) :=
    fun e ht => (accepts_fail e).of_iff fun v _ => ⟨fun h => ht v h.1, False.elim⟩
  cases t with
  | integer => exact accepts_wrapped accepts_integer (by intro v; cases v <;> simp [Value.type])
  | boolean => exact accepts_wrapped accepts_boolean (by intro v; cases v <;> simp [Value.type])
  | real => exact accepts_wrapped accepts_real (by intro v; cases v <;> simp [Value.type])
  | string => exact accepts_wrapped accepts_text (by intro v; cases v <;> simp [Value.type])
  | binary => exact accepts_wrapped accepts_octets (by intro v; cases v <;> simp [Value.type])
  | event => exact hreserved _ (by intro v; cases v <;> simp [Value.type])
  | functionCall => exact hreserved _ (by intro v; cases v <;> simp [Value.type])
  | imageFrame => exact hreserved _ (by intro v; cases v <;> simp [Value.type])

/-- What a message's manifest says of an item. -/
def entry (i : Item) : ItemType × String := (i.type, i.key)

theorem readItems_of_forms {items : List Item} {parts : List Bytes}
    (h : List.Forall₂ Grammar.ItemValueForm items parts) (seen : List Item) (surplus : Bytes) :
    readItems (items.map entry) seen (parts.flatten ++ surplus) =
      .ok (seen.reverse ++ items, surplus) := by
  induction h generalizing seen with
  | nil => simp [readItems]
  | @cons i front items parts hi _ ih =>
    have hread := (accepts_readValue i.type (front ++ (parts.flatten ++ surplus)) i.value _).mpr
      ⟨front, hi, rfl⟩
    have hne : (front ++ (parts.flatten ++ surplus)).isEmpty = false := by
      simp [hi.2.ne_nil]
    rw [List.map_cons, List.flatten_cons, List.append_assoc, entry, readItems, hne, hread]
    simp [ih]

theorem readItems_eq_ok {pairs : List (ItemType × String)} {seen items : List Item}
    {bs surplus : Bytes} (h : readItems pairs seen bs = .ok (items, surplus)) :
    ∃ read parts, items = seen.reverse ++ read ∧ read.map entry <+: pairs ∧
      List.Forall₂ Grammar.ItemValueForm read parts ∧ bs = parts.flatten ++ surplus ∧
      (surplus = [] ∨ read.map entry = pairs) := by
  induction pairs generalizing seen bs with
  | nil =>
    rw [readItems, Except.ok.injEq, Prod.mk.injEq] at h
    obtain ⟨rfl, rfl⟩ := h
    exact ⟨[], [], by simp, by simp, .nil, rfl, Or.inr rfl⟩
  | cons pair pairs ih =>
    obtain ⟨t, key⟩ := pair
    rw [readItems] at h
    split at h
    · next hempty =>
      rw [Except.ok.injEq, Prod.mk.injEq] at h
      obtain ⟨rfl, rfl⟩ := h
      rw [List.isEmpty_iff] at hempty
      exact ⟨[], [], by simp, by simp, .nil, rfl, Or.inl hempty⟩
    · rcases hvalue : readValue t bs with ⟨_ | v, rest⟩
      · rw [hvalue] at h
        cases h
      · rw [hvalue] at h
        obtain ⟨front, hfront, rfl⟩ := (accepts_readValue t _ _ _).mp hvalue
        obtain ⟨read, parts, rfl, hprefix, hread, rfl, hend⟩ := ih h
        refine ⟨⟨t, key, v⟩ :: read, front :: parts, by simp, ?_, .cons hfront hread, by simp, ?_⟩
        · exact (List.prefix_cons_inj (t, key)).mpr hprefix
        · exact hend.imp_right fun hall => by rw [List.map_cons, hall, entry]

/-! ## Messages -/

theorem content_eq_ok_iff (bs inner : Bytes) :
    content bs = .ok inner ↔ Grammar.ElementForm Tag.sequence inner bs := by
  have hsequence : Reader.sequence bs = (.ok inner, []) ↔
      Grammar.ElementForm Tag.sequence inner bs := by
    rw [accepts_sequence bs inner []]
    simp
  rw [← hsequence, content]
  rcases Reader.sequence bs with ⟨_ | found, rest⟩
  · simp
  · cases rest <;> simp

theorem finish_eq_ok_iff (bs rest : Bytes) :
    Reader.finish bs = (.ok (), rest) ↔ bs = [] ∧ rest = [] := by
  cases bs <;> simp [Reader.finish, eq_comm]

theorem surplus_eq_nil {pairs : List (ItemType × String)} {values surplus : Bytes}
    {items : List Item}
    {skipped : List Unit} (hitems : readItems pairs [] values = .ok (items, surplus))
    (hskipped : Reader.untilEmpty Reader.skip surplus = .ok skipped)
    (hcount : items.length + skipped.length = pairs.length) : surplus = [] := by
  obtain ⟨read, _, hread, _, _, _, hend⟩ := readItems_eq_ok hitems
  rcases hend with hend | hall
  · exact hend
  · rw [List.reverse_nil, List.nil_append] at hread
    have hlen := congrArg List.length hall
    rw [List.length_map, ← hread] at hlen
    have hnone : skipped = [] := List.eq_nil_of_length_eq_zero (by omega)
    obtain ⟨parts, hparts, hflat⟩ := (untilEmpty_eq_ok_iff accepts_skip
      (fun _ _ ⟨_, _, h⟩ => h.ne_nil) surplus skipped).mp hskipped
    rw [hnone] at hparts
    cases hparts
    exact hflat

/-- A list of items is read in five steps, the last of which finds nothing left of the values. -/
theorem decode_eq_ok_iff_steps (bs : Bytes) (items : List Item) :
    decode bs = .ok items ↔ ∃ inner m rest values, content bs = .ok inner ∧
      readManifest inner = (.ok m, rest) ∧ Reader.sequence rest = (.ok values, []) ∧
      readItems (m.types.zip m.keys) [] values = .ok (items, []) ∧ items.length = m.size := by
  constructor
  · intro h
    unfold decode at h
    split at h
    · cases h
    next inner hcontent =>
    split at h
    · cases h
    next m rest hmanifest =>
    split at h
    · cases h
    next values last hvalues =>
    split at h
    · cases h
    next read surplus hitems =>
    split at h
    · cases h
    next skipped hskipped =>
    dsimp only at h
    split at h
    · cases h
    next hcount =>
    split at h
    · cases h
    next left hfinish =>
    cases h
    obtain ⟨_, ⟨hkeys, _⟩, _⟩ := (accepts_readManifest _ _ _).mp hmanifest
    have hpairs : (m.types.zip m.keys).length = m.size := by
      rw [List.length_zip, ← hkeys, Nat.min_self, Manifest.size]
    have hsize : items.length + skipped.length = m.size := by simpa using hcount
    have hsurplus := surplus_eq_nil hitems hskipped (hsize.trans hpairs.symm)
    obtain ⟨rfl, rfl⟩ := (finish_eq_ok_iff _ _).mp hfinish
    subst hsurplus
    cases hskipped
    exact ⟨inner, m, rest, values, hcontent, hmanifest, hvalues, hitems, hsize⟩
  · rintro ⟨inner, m, rest, values, hcontent, hmanifest, hvalues, hitems, hcount⟩
    have hnone : Reader.untilEmpty Reader.skip [] = .ok [] := rfl
    simp [decode, hcontent, hmanifest, hvalues, hitems, hnone, hcount, Reader.finish]

/-! ## The grammar -/

/-- The types and keys of a list of items. -/
def manifestOf (items : List Item) : Manifest := ⟨items.map (·.type), items.map (·.key)⟩

theorem code_range (v : Value) : 0 ≤ v.type.code.toInt ∧ v.type.code.toInt ≤ 4 := by
  cases v <;> simp only [Value.type] <;> decide

theorem map_entry_eq_zip (items : List Item) :
    items.map entry = (manifestOf items).types.zip (manifestOf items).keys :=
  List.zip_map'.symm

theorem sequenceForm_map_iff {α β : Type} (f : α → β) (part : β → Bytes → Prop) (xs : List α)
    (form : Bytes) : Grammar.SequenceForm part (xs.map f) form ↔
      Grammar.SequenceForm (fun x => part (f x)) xs form := by
  simp only [Grammar.SequenceForm, List.forall₂_map_left_iff]

theorem manifestForm_manifestOf_iff (items : List Item) (front : Bytes)
    (htyped : ∀ i ∈ items, i.value.type = i.type) :
    ManifestForm (manifestOf items) front ↔ ∃ types keys,
      Grammar.SequenceForm Grammar.ItemTypeForm items types ∧
      Grammar.SequenceForm Grammar.ItemKeyForm items keys ∧ front = types ++ keys := by
  have hrange : ∀ i ∈ items, 0 ≤ i.type.code.toInt ∧ i.type.code.toInt ≤ 4 := by
    intro i hi
    rw [← htyped i hi]
    exact code_range i.value
  have htypes : ∀ types, Grammar.SequenceForm Grammar.ItemTypeForm items types ↔
      Grammar.SequenceForm (fun i => Grammar.ValueForm (.integer i.type.code)) items types := by
    intro types
    refine exists_congr fun parts => and_congr_left fun _ => ?_
    exact (List.forall₂_and_left items parts).trans (and_iff_right hrange)
  simp only [ManifestForm, manifestOf, sequenceForm_map_iff, List.length_map, true_and, htypes]
  rfl

theorem typed_of_forms {items : List Item} {parts : List Bytes}
    (h : List.Forall₂ Grammar.ItemValueForm items parts) : ∀ i ∈ items, i.value.type = i.type :=
  ((List.forall₂_and_left items parts).mp h).1

theorem manifest_of_messageForm {items : List Item} {bs : Bytes}
    (h : Grammar.MessageForm items bs) :
    ∃ inner values, content bs = .ok inner ∧ readManifest inner = (.ok (manifestOf items), values) ∧
      Grammar.SequenceForm Grammar.ItemValueForm items values := by
  obtain ⟨types, keys, values, htypes, hkeys, hvalues, hbs⟩ := h
  have htyped := typed_of_forms hvalues.choose_spec.1
  refine ⟨_, values, (content_eq_ok_iff _ _).mpr hbs, ?_, hvalues⟩
  refine (accepts_readManifest _ _ _).mpr ⟨types ++ keys, ?_, (List.append_assoc _ _ _).symm⟩
  exact (manifestForm_manifestOf_iff items _ htyped).mpr ⟨types, keys, htypes, hkeys, rfl⟩

theorem decode_of_messageForm {items : List Item} {bs : Bytes} (h : Grammar.MessageForm items bs) :
    decode bs = .ok items := by
  obtain ⟨inner, rest, hcontent, hmanifest, parts, hparts, hrest⟩ := manifest_of_messageForm h
  have hvalues : Reader.sequence rest = (.ok parts.flatten, []) :=
    (accepts_sequence _ _ _).mpr ⟨rest, hrest, (List.append_nil rest).symm⟩
  have hitems := readItems_of_forms hparts [] []
  rw [List.append_nil, map_entry_eq_zip] at hitems
  exact (decode_eq_ok_iff_steps bs items).mpr
    ⟨inner, manifestOf items, rest, parts.flatten, hcontent, hmanifest, hvalues, hitems,
      (List.length_map _).symm⟩

theorem manifestOf_eq {m : Manifest} {items : List Item} (hkeys : m.types.length = m.keys.length)
    (h : items.map entry = m.types.zip m.keys) : manifestOf items = m := by
  have htypes := congrArg (List.map Prod.fst) h
  have hnames := congrArg (List.map Prod.snd) h
  rw [List.map_map, List.map_fst_zip (Nat.le_of_eq hkeys)] at htypes
  rw [List.map_map, List.map_snd_zip (Nat.le_of_eq hkeys.symm)] at hnames
  rw [← show Manifest.mk m.types m.keys = m from rfl, ← htypes, ← hnames]
  rfl

theorem messageForm_of_decode {items : List Item} {bs : Bytes} (h : decode bs = .ok items) :
    Grammar.MessageForm items bs := by
  obtain ⟨inner, m, rest, values, hcontent, hmanifest, hvalues, hitems, hcount⟩ :=
    (decode_eq_ok_iff_steps bs items).mp h
  obtain ⟨front, hfront, rfl⟩ := (accepts_readManifest _ _ _).mp hmanifest
  obtain ⟨tail, htail, rfl⟩ := (accepts_sequence _ _ _).mp hvalues
  obtain ⟨_, parts, rfl, hprefix, hparts, rfl, -⟩ := readItems_eq_ok hitems
  have hall : items.map entry = m.types.zip m.keys := by
    apply hprefix.eq_of_length
    rw [List.length_map, hcount, List.length_zip, ← hfront.1, Nat.min_self, Manifest.size]
  have hm : manifestOf items = m := manifestOf_eq hfront.1 hall
  rw [← hm] at hfront
  obtain ⟨types, keys, htypes, hkeys, rfl⟩ :=
    (manifestForm_manifestOf_iff items _ (typed_of_forms hparts)).mp hfront
  rw [List.append_nil] at htail
  refine ⟨types, keys, tail, htypes, hkeys, ⟨parts, hparts, htail⟩, ?_⟩
  rw [← List.append_assoc, ← content_eq_ok_iff, hcontent, List.append_nil]

/-- The messages that are read are those of the grammar. -/
theorem decode_eq_ok_iff_messageForm (bs : Bytes) (items : List Item) :
    decode bs = .ok items ↔ Grammar.MessageForm items bs :=
  ⟨messageForm_of_decode, decode_of_messageForm⟩

end PeerLink.Message
