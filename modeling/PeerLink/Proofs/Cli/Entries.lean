import PeerLink.Cli.Options
import PeerLink.Proofs.Cli.Hexadecimal
import PeerLink.Proofs.Message.Framing

/-! # Entries of a message

A message is given on the command line as one argument for each of its items: a key, the name of a
type and a value, with an equals sign after the key and a colon after the type. Only a key must
be without the sign that ends it; a value may hold both.

* `Entry`: a key and a value of one of the types that a text shows in full.
* `Entry.argument`, `Entry.item`: how it is given, and what is to be sent.
* `Argument.item_argument`: the one is read as the other.
* `Argument.items_ok_or_error`: the first argument that is no item decides.

Main statement: `PayloadOptions.entries_read_back`.
-/

namespace PeerLink
set_option autoImplicit false

/-! ## Numbers -/

namespace Numeral

theorem digits?_toDigits (n : Nat) : digits? (Nat.toDigits 10 n) = some n := by
  have hall : (Nat.toDigits 10 n).all Char.isDigit = true :=
    List.all_eq_true.mpr fun c hc => Nat.isDigit_of_mem_toDigits (by decide) (by decide) hc
  have hsome : (!(Nat.toDigits 10 n).isEmpty) = true := by
    rw [Bool.not_eq_true', List.isEmpty_eq_false_iff]
    exact Nat.toDigits_ne_nil
  have hvalue := Nat.ofDigitChars_ten_toDigits (n := n)
  rw [Nat.ofDigitChars_eq_foldl] at hvalue
  rw [digits?, if_pos (by rw [hsome, hall]; rfl)]
  simp only [Nat.mul_comm 10] at hvalue
  rw [hvalue]

theorem not_mem_of_digits? {cs : List Char} {n : Nat} {c : Char} (h : digits? cs = some n)
    (hc : c.isDigit = false) : c ∉ cs := by
  intro hmem
  unfold digits? at h
  split at h
  · next hdigits =>
    rw [Bool.and_eq_true, List.all_eq_true] at hdigits
    rw [hdigits.2 c hmem] at hc
    cases hc
  · cases h

/-- A number as an integer of 64 bits, if it is one. -/
def within? (i : Int) : Option Int64 :=
  ((some i).filter fun i => Int64.minValue.toInt ≤ i && i ≤ Int64.maxValue.toInt).map Int64.ofInt

theorem within?_toInt (v : Int64) : within? v.toInt = some v := by
  have hlow : Int64.minValue.toInt ≤ v.toInt := v.minValue_le_toInt
  have hhigh : v.toInt ≤ Int64.maxValue.toInt := v.toInt_le
  unfold within?
  rw [Option.filter_some_pos (by rw [decide_eq_true hlow, decide_eq_true hhigh]; rfl),
    Option.map_some, Int64.ofInt_toInt]

theorem integer?_of_digits? {cs : List Char} {n : Nat} (h : digits? cs = some n) :
    integer? cs = within? n := by
  unfold integer?
  split
  · next rest => exact absurd List.mem_cons_self (not_mem_of_digits? h (by decide))
  · next rest => exact absurd List.mem_cons_self (not_mem_of_digits? h (by decide))
  · rw [h]
    rfl

theorem integer?_minus {cs : List Char} {n : Nat} (h : digits? cs = some n) :
    integer? ('-' :: cs) = within? (-n) := by
  simp only [integer?, h]
  rfl

theorem integer?_toString (v : Int64) : integer? (toString v.toInt).toList = some v := by
  rw [Int.toString_eq_repr, Int.repr_eq_if]
  split
  · next hnonneg =>
    rw [Nat.toList_repr, integer?_of_digits? (digits?_toDigits _), Int.toNat_of_nonneg hnonneg]
    exact within?_toInt v
  · next hneg =>
    have hvalue : -((-v.toInt).toNat : Int) = v.toInt := by omega
    have hsign : "-".toList = ['-'] := rfl
    rw [String.toList_append, Nat.toList_repr, hsign, List.singleton_append,
      integer?_minus (digits?_toDigits _), hvalue]
    exact within?_toInt v

end Numeral

/-! ## Entries -/

/-- A value that is given as a text. -/
inductive Literal where
  | integer (v : Int64)
  | boolean (v : Bool)
  | text (v : String)
  | bytes (v : Bytes)
  deriving DecidableEq, Repr

namespace Literal

/-- The name of the type. -/
def kind : Literal → String
  | .integer _ => "int"
  | .boolean _ => "bool"
  | .text _ => "str"
  | .bytes _ => "hex"

theorem plain_kind (g : Literal) : ':' ∉ g.kind.toList := by
  unfold kind
  cases g with
  | integer | boolean | text | bytes => dsimp only; decide

/-- A number is given in decimal, and bytes as pairs of hexadecimal digits. -/
def rendered : Literal → String
  | .integer v => toString v.toInt
  | .boolean v => toString v
  | .text v => v
  | .bytes v => Hex.encode v

def value : Literal → Value
  | .integer v => .integer v
  | .boolean v => .boolean v
  | .text v => .string v
  | .bytes v => .binary v

end Literal

/-- A value under a key that has no equals sign. -/
structure Entry where
  key : String
  literal : Literal
  plain : '=' ∉ key.toList

namespace Entry

/-- The argument that gives an entry. -/
def argument (e : Entry) : String := e.key ++ "=" ++ e.literal.kind ++ ":" ++ e.literal.rendered

def item (e : Entry) : Item := .ofValue e.key e.literal.value

theorem toList_argument (e : Entry) : e.argument.toList =
    e.key.toList ++ '=' :: (e.literal.kind.toList ++ ':' :: e.literal.rendered.toList) := by
  simp [argument]

theorem dropZeroSign_item (e : Entry) : e.item.dropZeroSign = e.item := by
  unfold item Item.dropZeroSign
  cases e.literal with
  | integer | boolean | text | bytes => rfl

theorem encode_items_iff (entries : List Entry) (payload : Bytes) :
    Message.encode (entries.map item) = .ok payload ↔
      (Wire.body (entries.map item)).length < 2 ^ 32 ∧
        payload = Wire.message (entries.map item) := by
  have htyped : ∀ i ∈ entries.map item, i.value.type = i.type := by
    intro i hi
    obtain ⟨e, -, rfl⟩ := List.mem_map.mp hi
    rfl
  rw [Message.encode_eq_ok_iff]
  exact and_iff_right htyped

/-- No entry is a real, whose zero could lose its sign on the way. -/
theorem decode_of_encode_items {entries : List Entry} {payload : Bytes}
    (h : Message.encode (entries.map item) = .ok payload) :
    Message.decode payload = .ok (entries.map item) := by
  rw [Message.decode_of_encode h, List.map_map]
  exact congrArg Except.ok (List.map_congr_left fun e _ => e.dropZeroSign_item)

end Entry

/-! ## Arguments -/

namespace Argument

theorem splitAt?_append {mark : Char} {before after : List Char} (h : mark ∉ before) :
    splitAt? mark (before ++ mark :: after) = some (before, after) := by
  have hbefore : ∀ c ∈ before, (c != mark) = true := fun c hc =>
    bne_iff_ne.mpr fun heq => h (heq ▸ hc)
  have hcontains : (before ++ mark :: after).contains mark = true := by
    rw [List.contains_iff_mem]
    exact List.mem_append_right _ List.mem_cons_self
  rw [splitAt?, if_pos hcontains, List.takeWhile_append_of_pos hbefore,
    List.dropWhile_append_of_pos hbefore, List.takeWhile_cons_of_neg (by simp),
    List.dropWhile_cons_of_neg (by simp), List.append_nil, List.drop_one, List.tail_cons]

theorem itemParts_argument (e : Entry) :
    itemParts e.argument = .ok (e.key, e.literal.kind, e.literal.rendered) := by
  have hkind : ':' ∉ e.literal.kind.toList := e.literal.plain_kind
  unfold itemParts
  rw [Entry.toList_argument, splitAt?_append e.plain]
  dsimp only
  rw [splitAt?_append hkind]
  dsimp only
  rw [String.ofList_toList, String.ofList_toList, String.ofList_toList]

theorem value_rendered (g : Literal) : value g.kind g.rendered = .ok g.value := by
  cases g with
  | integer v =>
    rw [Literal.kind, Literal.rendered, value, Numeral.integer?_toString]
    rfl
  | boolean v => cases v <;> rfl
  | text v => rfl
  | bytes v =>
    rw [Literal.kind, Literal.rendered, value, hex?_encode]
    rfl

theorem item_argument (e : Entry) : item e.argument = .ok e.item := by
  unfold item item?
  rw [itemParts_argument]
  dsimp only
  rw [value_rendered]
  rfl

theorem items_argument (entries : List Entry) :
    items (entries.map Entry.argument) = .ok (entries.map Entry.item) := by
  induction entries with
  | nil => rfl
  | cons e rest ih =>
    rw [List.map_cons, List.map_cons, items, item_argument, ih]
    rfl

/-- The failure of an argument names it, and tells what is wrong with it. -/
theorem item_eq_error {input : String} {failure : Failure} (h : item input = .error failure) :
    ∃ reason, item? input = .error reason ∧
      failure = .usage ("invalid --item " ++ Quoted.quote input ++ ": " ++ reason) := by
  unfold item at h
  split at h
  · cases h
  · next reason hreason => exact ⟨reason, hreason, (Except.error.inj h).symm⟩

/-- Either every argument is an item, or the first that is none decides. -/
theorem items_ok_or_error (inputs : List String) :
    (∃ is, items inputs = .ok is ∧ ∀ input ∈ inputs, ∃ i, item input = .ok i) ∨
    ∃ before input after failure, inputs = before ++ input :: after ∧
      (∀ b ∈ before, ∃ i, item b = .ok i) ∧ item input = .error failure ∧
      items inputs = .error failure := by
  induction inputs with
  | nil => exact .inl ⟨[], rfl, fun input hmem => absurd hmem List.not_mem_nil⟩
  | cons first rest ih =>
    cases hfirst : item first with
    | error failure =>
      refine .inr ⟨[], first, rest, failure, rfl, ?_, hfirst, ?_⟩
      · exact fun b hb => absurd hb List.not_mem_nil
      · rw [items, hfirst]
        rfl
    | ok i =>
      rcases ih with
        ⟨is, hrest, hall⟩ | ⟨before, input, after, failure, rfl, hbefore, hinput, hrest⟩
      · refine .inl ⟨i :: is, ?_, ?_⟩
        · rw [items, hfirst, hrest]
          rfl
        · rw [List.forall_mem_cons]
          exact ⟨⟨i, hfirst⟩, hall⟩
      · refine .inr ⟨first :: before, input, after, failure, rfl, ?_, hinput, ?_⟩
        · rw [List.forall_mem_cons]
          exact ⟨⟨i, hfirst⟩, hbefore⟩
        · rw [items, hfirst, hrest]
          rfl

end Argument

/-! ## Payloads -/

namespace PayloadOptions

variable {readFile : String → Except IoError Bytes} {o : PayloadOptions}

theorem resolve_of_accepted {is : List Item} (hsome : o.items ≠ [])
    (h : Argument.items o.items = .ok is) (payload : Bytes) :
    o.resolve readFile = .ok payload ↔ Message.encode is = .ok payload := by
  unfold resolve
  rw [if_pos (by simpa using hsome), h]
  dsimp only [bind, Except.bind]
  cases Message.encode is with
  | ok bs =>
    dsimp only
    rw [Except.ok.injEq, Except.ok.injEq]
  | error e => exact ⟨nofun, nofun⟩

theorem resolve_of_refused {failure : Failure} (h : Argument.items o.items = .error failure) :
    o.resolve readFile = .error failure := by
  have hsome : o.items ≠ [] := by
    intro hnil
    rw [hnil] at h
    cases h
  unfold resolve
  rw [if_pos (by simpa using hsome), h]
  rfl

/-- Entries that are given one by one give a payload exactly if their message is not too long for
its length, and whoever receives it reads these entries and no others, in their order. If some
argument is no item, there is no payload, but the failure of the first that is none. -/
theorem entries_read_back (readFile : String → Except IoError Bytes) (o : PayloadOptions) :
    (∀ entries : List Entry, entries ≠ [] → o.items = entries.map Entry.argument →
      ((∃ payload, o.resolve readFile = .ok payload) ↔
        (Wire.body (entries.map Entry.item)).length < 2 ^ 32) ∧
      ∀ payload, o.resolve readFile = .ok payload →
        Message.decode payload = .ok (entries.map Entry.item)) ∧
    ((∃ input ∈ o.items, ∀ i, Argument.item input ≠ .ok i) →
      ∃ before input after reason, o.items = before ++ input :: after ∧
        (∀ b ∈ before, ∃ i, Argument.item b = .ok i) ∧ Argument.item? input = .error reason ∧
        o.resolve readFile =
          .error (.usage ("invalid --item " ++ Quoted.quote input ++ ": " ++ reason))) := by
  constructor
  · intro entries hsome hitems
    have hread : Argument.items o.items = .ok (entries.map Entry.item) := by
      rw [hitems, Argument.items_argument]
    have hgiven : o.items ≠ [] := by
      rw [hitems]
      exact fun hnil => hsome (List.map_eq_nil_iff.mp hnil)
    constructor
    · constructor
      · rintro ⟨payload, hpayload⟩
        rw [resolve_of_accepted hgiven hread, Entry.encode_items_iff] at hpayload
        exact hpayload.1
      · intro hsize
        refine ⟨Wire.message (entries.map Entry.item), ?_⟩
        rw [resolve_of_accepted hgiven hread, Entry.encode_items_iff]
        exact ⟨hsize, rfl⟩
    · intro payload hpayload
      rw [resolve_of_accepted hgiven hread] at hpayload
      exact Entry.decode_of_encode_items hpayload
  · intro hrefused
    rcases Argument.items_ok_or_error o.items with
      ⟨-, -, hall⟩ | ⟨before, input, after, failure, hitems, hbefore, hinput, hread⟩
    · obtain ⟨input, hmem, hno⟩ := hrefused
      obtain ⟨i, hi⟩ := hall input hmem
      exact absurd hi (hno i)
    · obtain ⟨reason, hreason, rfl⟩ := Argument.item_eq_error hinput
      exact ⟨before, input, after, reason, hitems, hbefore, hreason, resolve_of_refused hread⟩

/-- Signs in values, a key that is a sign, one that is empty, and the least number. -/
def signs : List Entry :=
  [⟨":", .text "a=b:c", by decide⟩, ⟨"", .integer Int64.minValue, by decide⟩,
    ⟨"yes", .boolean true, by decide⟩, ⟨"none", .bytes [], by decide⟩]

def ofSigns : PayloadOptions :=
  { items := [":=str:a=b:c", "=int:-9223372036854775808", "yes=bool:true", "none=hex:"] }

/-- The second argument and the third are no items. -/
def mistaken : PayloadOptions := { items := ["a=str:b", "c", "d=hex:abc"] }

theorem entries_read_back_signs :
    (signs ≠ [] ∧ ofSigns.items = signs.map Entry.argument) ∧
    (∃ payload, ofSigns.resolve (fun _ => .ok []) = .ok payload ∧
      Message.decode payload = .ok (signs.map Entry.item)) ∧
    (∃ input ∈ mistaken.items, ∀ i, Argument.item input ≠ .ok i) ∧
    ∃ before input after reason, mistaken.items = before ++ input :: after ∧
      (∀ b ∈ before, ∃ i, Argument.item b = .ok i) ∧ Argument.item? input = .error reason ∧
      mistaken.resolve (fun _ => .ok []) =
        .error (.usage ("invalid --item " ++ Quoted.quote input ++ ": " ++ reason)) := by
  have hsome : signs ≠ [] := by decide
  have hitems : ofSigns.items = signs.map Entry.argument := by decide +kernel
  have hsize : (Wire.body (signs.map Entry.item)).length < 2 ^ 32 := by decide +kernel
  have hrefused : ∃ input ∈ mistaken.items, ∀ i, Argument.item input ≠ .ok i := by
    have hitem : Argument.item "c" =
        .error (.usage "invalid --item \"c\": expected key=type:value") := by decide +kernel
    refine ⟨"c", by decide, fun i hi => ?_⟩
    rw [hitem] at hi
    cases hi
  obtain ⟨hsent, -⟩ := entries_read_back (fun _ => .ok []) ofSigns
  obtain ⟨hresolved, hdecoded⟩ := hsent signs hsome hitems
  obtain ⟨payload, hpayload⟩ := hresolved.mpr hsize
  obtain ⟨-, hfirst⟩ := entries_read_back (fun _ => .ok []) mistaken
  exact ⟨⟨hsome, hitems⟩, ⟨payload, hpayload, hdecoded payload hpayload⟩, hrefused,
    hfirst hrefused⟩

end PayloadOptions

end PeerLink
