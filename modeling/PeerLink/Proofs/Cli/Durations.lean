import Mathlib.Data.List.TakeWhile
import PeerLink.Cli.Argument

/-! # Durations of the command line

A duration is given as a number and perhaps a unit, with any white space around it. The reader takes
the white space off, then a unit, then reads the number; `ms` ends like `s`, and a number may have a
sign and leading zeros.

* `Argument.Within`: a text with white space around it; `Argument.within_trim` and
  `Argument.Within.trim_eq` say that this is what trimming finds.
* `Numeral.Denotes`, `Argument.DurationForm`: the numbers and the durations, without the reader.
* `Argument.splitUnit_form`: the unit of such a text is found.

Main statement: `Argument.duration_grammar`.
-/

namespace PeerLink
set_option autoImplicit false

/-! ## Numbers -/

namespace Numeral

/-- A number in decimal digits, perhaps with a plus sign before them. -/
def Denotes (cs : List Char) (n : Nat) : Prop :=
  ∃ sign digits, cs = sign ++ digits ∧ (sign = [] ∨ sign = ['+']) ∧ digits ≠ [] ∧
    (∀ c ∈ digits, c.isDigit = true) ∧ n = Nat.ofDigitChars 10 digits 0

theorem Denotes.isDigit_getLast? {cs : List Char} {n : Nat} (h : Denotes cs n) :
    ∀ c ∈ cs.getLast?, c.isDigit = true := by
  obtain ⟨sign, digits, rfl, -, hsome, hdigits, -⟩ := h
  intro c hc
  rw [List.getLast?_append, List.getLast?_eq_some_getLast hsome, Option.some_or] at hc
  obtain rfl := Option.some.inj hc
  exact hdigits _ (List.getLast_mem hsome)

theorem digits?_eq_some_iff {cs : List Char} {n : Nat} :
    digits? cs = some n ↔
      cs ≠ [] ∧ (∀ c ∈ cs, c.isDigit = true) ∧ n = Nat.ofDigitChars 10 cs 0 := by
  have hvalue : cs.foldl (fun n c => n * 10 + (c.toNat - '0'.toNat)) 0 =
      Nat.ofDigitChars 10 cs 0 := by
    rw [Nat.ofDigitChars_eq_foldl]
    simp only [Nat.mul_comm 10]
  unfold digits?
  rw [hvalue]
  split
  · next h =>
    rw [Bool.and_eq_true, List.all_eq_true, Bool.not_eq_true', List.isEmpty_eq_false_iff] at h
    constructor
    · intro hsome
      exact ⟨h.1, h.2, (Option.some.inj hsome).symm⟩
    · rintro ⟨-, -, rfl⟩
      rfl
  · next h =>
    rw [Bool.and_eq_true, List.all_eq_true, Bool.not_eq_true', List.isEmpty_eq_false_iff] at h
    constructor
    · nofun
    · intro hdigits
      exact absurd ⟨hdigits.1, hdigits.2.1⟩ h

theorem natural?_eq_some_iff {bound n : Nat} {cs : List Char} :
    natural? bound cs = some n ↔ Denotes cs n ∧ n < bound := by
  unfold natural?
  dsimp only
  rw [Option.filter_eq_some_iff, decide_eq_true_iff]
  refine and_congr_left fun _ => ?_
  unfold Denotes
  split
  · next rest =>
    rw [digits?_eq_some_iff]
    constructor
    · intro h
      exact ⟨['+'], rest, rfl, .inr rfl, h⟩
    · rintro ⟨sign, digits, hcs, rfl | rfl, hdigits⟩
      · -- a plus sign is no digit
        rw [List.nil_append] at hcs
        have hplus := hdigits.2.1 '+' (by simp [← hcs])
        exact absurd hplus (by decide)
      · cases hcs
        exact hdigits
  · next hsign =>
    rw [digits?_eq_some_iff]
    constructor
    · intro h
      exact ⟨[], cs, rfl, .inl rfl, h⟩
    · rintro ⟨sign, digits, rfl, rfl | rfl, hdigits⟩
      · exact hdigits
      · exact absurd rfl (hsign digits)

end Numeral

/-! ## White space -/

namespace Argument

/-- A text with white space around it. -/
def Within (core cs : List Char) : Prop :=
  ∃ before after, cs = before ++ core ++ after ∧ ∀ c ∈ before ++ after, Text.isBlank c = true

/-- A text that neither begins nor ends with white space. -/
def Tight (core : List Char) : Prop :=
  (∀ c ∈ core.head?, Text.isBlank c = false) ∧ ∀ c ∈ core.getLast?, Text.isBlank c = false

theorem dropWhile_blank {before core : List Char} (hbefore : ∀ c ∈ before, Text.isBlank c = true)
    (hcore : ∀ c ∈ core.head?, Text.isBlank c = false) :
    (before ++ core).dropWhile Text.isBlank = core := by
  rw [List.dropWhile_append_of_pos hbefore]
  cases core with
  | nil => rfl
  | cons c rest =>
    have hc : Text.isBlank c = false := hcore c rfl
    exact List.dropWhile_cons_of_neg (by simp [hc])

theorem Within.trim_eq {core cs : List Char} (h : Within core cs) (hcore : Tight core) :
    trim cs = core := by
  obtain ⟨before, after, rfl, hblank⟩ := h
  obtain ⟨hhead, hlast⟩ := hcore
  rw [List.forall_mem_append] at hblank
  have hafter : ∀ c ∈ after.reverse, Text.isBlank c = true := by simpa using hblank.2
  have hend : ∀ c ∈ core.reverse.head?, Text.isBlank c = false := by simpa using hlast
  unfold trim
  rw [List.append_assoc, List.dropWhile_append_of_pos hblank.1]
  by_cases hempty : core = []
  · subst hempty
    have hnone : after.dropWhile Text.isBlank = [] := List.dropWhile_eq_nil_iff.mpr hblank.2
    simp [hnone]
  · have hfront : (core ++ after).dropWhile Text.isBlank = core ++ after := by
      obtain ⟨c, rest, rfl⟩ := List.exists_cons_of_ne_nil hempty
      have hc : Text.isBlank c = false := hhead c rfl
      exact List.dropWhile_cons_of_neg (by simp [hc])
    rw [hfront, List.reverse_append, dropWhile_blank hafter hend, List.reverse_reverse]

theorem head?_dropWhile_blank (cs : List Char) :
    ∀ c ∈ (cs.dropWhile Text.isBlank).head?, Text.isBlank c = false := by
  intro c hc
  have hnot := List.head?_dropWhile_not Text.isBlank cs
  rw [Option.mem_def.mp hc] at hnot
  simpa using hnot

theorem within_trim (cs : List Char) : Within (trim cs) cs ∧ Tight (trim cs) := by
  let after := ((cs.dropWhile Text.isBlank).reverse.takeWhile Text.isBlank).reverse
  have hsplit : cs.dropWhile Text.isBlank = trim cs ++ after := by
    unfold trim
    rw [← List.reverse_append, List.takeWhile_append_dropWhile, List.reverse_reverse]
  refine ⟨⟨cs.takeWhile Text.isBlank, after, ?_, ?_⟩, ?_, ?_⟩
  · rw [List.append_assoc, ← hsplit, List.takeWhile_append_dropWhile]
  · rw [List.forall_mem_append]
    refine ⟨fun c hc => List.mem_takeWhile_imp hc, fun c hc => ?_⟩
    exact List.mem_takeWhile_imp (List.mem_reverse.mp hc)
  · intro c hc
    apply head?_dropWhile_blank cs
    rw [hsplit, List.head?_append, Option.mem_def.mp hc]
    rfl
  · intro c hc
    unfold trim at hc
    rw [List.getLast?_reverse] at hc
    exact head?_dropWhile_blank _ c hc

theorem trim_trim (cs : List Char) : trim (trim cs) = trim cs :=
  Within.trim_eq ⟨[], [], by simp, nofun⟩ (within_trim cs).2

/-- Where no character is white space, the text is what trimming leaves of it in white space. -/
theorem within_iff_trim_eq {core cs : List Char} (hcore : ∀ c ∈ core, Text.isBlank c = false) :
    Within core cs ↔ trim cs = core := by
  have htight : Tight core := by
    refine ⟨fun c hc => hcore c (List.mem_of_mem_head? hc), fun c hc => ?_⟩
    exact hcore c (List.mem_of_getLast? hc)
  constructor
  · intro h
    exact h.trim_eq htight
  · rintro rfl
    exact (within_trim cs).1

/-! ## Units -/

theorem withoutEnd?_eq_some_iff {ending cs number : List Char} :
    withoutEnd? ending cs = some number ↔ cs = number ++ ending := by
  unfold withoutEnd?
  constructor
  · intro h
    split at h
    · next hends =>
      obtain ⟨front, rfl⟩ := List.isSuffixOf_iff_suffix.mp hends
      simp only [List.length_append, Nat.add_sub_cancel, List.take_left', Option.some.injEq] at h
      rw [h]
    · cases h
  · rintro rfl
    rw [if_pos (List.isSuffixOf_iff_suffix.mpr (List.suffix_append number ending))]
    simp

theorem withoutEnd?_eq_none_iff {ending cs : List Char} :
    withoutEnd? ending cs = none ↔ ¬ ending <:+ cs := by
  unfold withoutEnd?
  rw [← List.isSuffixOf_iff_suffix]
  by_cases h : ending.isSuffixOf cs = true <;> simp [h]

/-- The ways to write a unit, with the span that it stands for. -/
def IsUnit (ending : List Char) (unit : Duration) : Prop :=
  (ending = [] ∨ ending = ['s']) ∧ unit = .ofSeconds 1 ∨ ending = ['m', 's'] ∧ unit = .ofMillis 1

theorem splitUnit_form (cs : List Char) :
    ∃ ending, cs = (splitUnit cs).1 ++ ending ∧ IsUnit ending (splitUnit cs).2 := by
  unfold splitUnit
  split
  · next number hmillis =>
    exact ⟨_, withoutEnd?_eq_some_iff.mp hmillis, .inr ⟨rfl, rfl⟩⟩
  · split
    · next number hseconds =>
      exact ⟨_, withoutEnd?_eq_some_iff.mp hseconds, .inl ⟨.inr rfl, rfl⟩⟩
    · exact ⟨[], (List.append_nil cs).symm, .inl ⟨.inl rfl, rfl⟩⟩

/-- Behind a digit, the unit that is written is the one that is found. -/
theorem splitUnit_append {number ending : List Char} {unit : Duration}
    (hdigit : ∀ c ∈ number.getLast?, c.isDigit = true) (hunit : IsUnit ending unit) :
    splitUnit (number ++ ending) = (number, unit) := by
  have hplain (c : Char) (ending' : List Char) (hc : c.isDigit = false) :
      ¬ (ending' ++ [c]) <:+ number := by
    rintro ⟨front, rfl⟩
    have hlast := hdigit c (by simp)
    rw [hc] at hlast
    cases hlast
  unfold splitUnit
  rcases hunit with ⟨rfl | rfl, rfl⟩ | ⟨rfl, rfl⟩
  · have hmillis : withoutEnd? ['m', 's'] (number ++ []) = none := by
      rw [List.append_nil, withoutEnd?_eq_none_iff]
      exact hplain 's' ['m'] (by decide)
    have hseconds : withoutEnd? ['s'] (number ++ []) = none := by
      rw [List.append_nil, withoutEnd?_eq_none_iff]
      exact hplain 's' [] (by decide)
    rw [hmillis, hseconds, List.append_nil]
  · have hmillis : withoutEnd? ['m', 's'] (number ++ ['s']) = none := by
      rw [withoutEnd?_eq_none_iff]
      rintro ⟨front, hfront⟩
      -- what stands before the `s` is the last of the number
      have hnumber : front ++ ['m'] = number := by
        have hcancel : front ++ ['m'] ++ ['s'] = number ++ ['s'] := by simpa using hfront
        exact List.append_cancel_right hcancel
      exact hplain 'm' [] (by decide) ⟨front, hnumber⟩
    rw [hmillis, withoutEnd?_eq_some_iff.mpr rfl]
  · rw [withoutEnd?_eq_some_iff.mpr rfl]

/-! ## Durations -/

theorem duration_eq_ok_iff {input : String} {d : Duration} :
    duration input = .ok d ↔
      ∃ n ≠ 0, Numeral.natural? UInt64.size (splitUnit (trim input.toList)).1 = some n ∧
        d = n * (splitUnit (trim input.toList)).2 := by
  unfold duration
  dsimp only
  generalize trim input.toList = cs
  by_cases hempty : cs = []
  · subst hempty
    have hnone : Numeral.natural? UInt64.size (splitUnit []).1 = none := by decide
    simp [hnone]
  · rw [if_neg (by simpa using hempty)]
    cases hnumber : Numeral.natural? UInt64.size (splitUnit cs).1 with
    | none => simp
    | some n =>
      cases n with
      | zero => simp
      | succ n => simp [eq_comm]

/-- A number that 64 bits hold and that is not zero, and perhaps a unit. -/
def DurationForm (cs : List Char) (d : Duration) : Prop :=
  ∃ number ending n, cs = number ++ ending ∧ Numeral.Denotes number n ∧ (1 ≤ n ∧ n < UInt64.size) ∧
    ((ending = [] ∨ ending = ['s']) ∧ d = .ofSeconds n ∨ ending = ['m', 's'] ∧ d = .ofMillis n)

theorem duration_eq_ok_iff_form {input : String} {d : Duration} :
    duration input = .ok d ↔ DurationForm (trim input.toList) d := by
  rw [duration_eq_ok_iff]
  generalize trim input.toList = cs
  constructor
  · rintro ⟨n, hpos, hnumber, rfl⟩
    obtain ⟨hdenotes, hlt⟩ := Numeral.natural?_eq_some_iff.mp hnumber
    obtain ⟨ending, hcs, hunit⟩ := splitUnit_form cs
    refine ⟨(splitUnit cs).1, ending, n, hcs, hdenotes, ⟨by omega, hlt⟩, ?_⟩
    rcases hunit with ⟨hending, hunit⟩ | ⟨hending, hunit⟩
    · left
      refine ⟨hending, ?_⟩
      rw [hunit]
      simp [Duration.ofSeconds]
    · right
      refine ⟨hending, ?_⟩
      rw [hunit]
      simp [Duration.ofMillis]
  · rintro ⟨number, ending, n, rfl, hdenotes, hbounds, hspan⟩
    have hnumber := Numeral.natural?_eq_some_iff.mpr ⟨hdenotes, hbounds.2⟩
    rcases hspan with ⟨hending, rfl⟩ | ⟨hending, rfl⟩
    · rw [splitUnit_append hdenotes.isDigit_getLast? (.inl ⟨hending, rfl⟩)]
      exact ⟨n, by omega, hnumber, by simp [Duration.ofSeconds]⟩
    · rw [splitUnit_append hdenotes.isDigit_getLast? (.inr ⟨hending, rfl⟩)]
      exact ⟨n, by omega, hnumber, by simp [Duration.ofMillis]⟩

theorem isBlank_of_isDigit {c : Char} (h : c.isDigit = true) : Text.isBlank c = false := by
  rw [Char.isDigit_iff_toNat] at h
  have hlow : 48 ≤ c.toNat := h.1
  have hhigh : c.toNat ≤ 57 := h.2
  unfold Text.isBlank
  simp only [Bool.or_eq_false_iff, Bool.and_eq_false_iff, decide_eq_false_iff_not, beq_eq_false_iff_ne]
  omega

/-- Whether a text is free of white space is decided one character after the other. -/
theorem isBlank_of_all {cs : List Char} (h : (cs.all fun c => !Text.isBlank c) = true) :
    ∀ c ∈ cs, Text.isBlank c = false := by
  simpa using h

theorem DurationForm.isBlank_eq_false {cs : List Char} {d : Duration} (h : DurationForm cs d) :
    ∀ c ∈ cs, Text.isBlank c = false := by
  obtain ⟨_, ending, n, rfl, ⟨sign, digits, rfl, hsign, -, hdigits, -⟩, -, hspan⟩ := h
  have hsigned : ∀ c ∈ sign, Text.isBlank c = false := by
    apply isBlank_of_all
    rcases hsign with rfl | rfl <;> decide
  have hending : ∀ c ∈ ending, Text.isBlank c = false := by
    apply isBlank_of_all
    rcases hspan with ⟨rfl | rfl, -⟩ | ⟨rfl, -⟩ <;> decide
  intro c hc
  rw [List.mem_append, List.mem_append] at hc
  rcases hc with (hc | hc) | hc
  · exact hsigned c hc
  · exact isBlank_of_isDigit (hdigits c hc)
  · exact hending c hc

theorem duration_trim (input : String) :
    duration (String.ofList (trim input.toList)) = duration input := by
  unfold duration
  rw [String.toList_ofList, trim_trim]

theorem optionalDuration_of_unlimited {input : String}
    (h : String.ofList (trim input.toList) ∈ unlimited) : optionalDuration input = .ok none := by
  unfold optionalDuration
  exact if_pos (List.contains_iff_mem.mpr h)

theorem optionalDuration_of_limited {input : String}
    (h : String.ofList (trim input.toList) ∉ unlimited) :
    optionalDuration input = (duration input).map some := by
  unfold optionalDuration
  rw [← duration_trim input]
  refine (if_neg fun hmem => h (List.contains_iff_mem.mp hmem)).trans ?_
  cases duration (String.ofList (trim input.toList)) <;> rfl

/-- A text is a duration if and only if, white space around it apart, it is a number from one to the
largest of 64 bits, with or without a plus sign, and no unit, `s` or `ms`; it is then so many
seconds, or milliseconds. There is no limit exactly for a single zero with or without a unit and
with any white space around it; what else is given as a limit is read as a duration, or refused as
one. -/
theorem duration_grammar (input : String) :
    (∀ d, duration input = .ok d ↔ ∃ core, Within core input.toList ∧ DurationForm core d) ∧
    (optionalDuration input = .ok none ↔
      ∃ core ∈ ["0", "0s", "0ms"], Within core.toList input.toList) ∧
    (optionalDuration input = .ok none ∨ optionalDuration input = (duration input).map some) := by
  have hnolimit : optionalDuration input = .ok none ↔
      String.ofList (trim input.toList) ∈ unlimited := by
    constructor
    · intro h
      by_contra hlimited
      rw [optionalDuration_of_limited hlimited] at h
      cases hd : duration input with
      | ok d => rw [hd] at h; cases h
      | error f => rw [hd] at h; cases h
    · exact optionalDuration_of_unlimited
  refine ⟨fun d => ?_, ?_, ?_⟩
  · rw [duration_eq_ok_iff_form]
    constructor
    · intro h
      exact ⟨_, (within_trim input.toList).1, h⟩
    · rintro ⟨core, hwithin, h⟩
      rwa [(within_iff_trim_eq h.isBlank_eq_false).mp hwithin]
  · rw [hnolimit]
    have hplain (core : String) (hcore : core ∈ unlimited) :
        ∀ c ∈ core.toList, Text.isBlank c = false := by
      have hall : (unlimited.all fun s => s.toList.all fun c => !Text.isBlank c) = true := by
        decide
      exact isBlank_of_all (List.all_eq_true.mp hall core hcore)
    constructor
    · intro h
      refine ⟨_, h, ?_⟩
      rw [String.toList_ofList]
      exact (within_trim input.toList).1
    · rintro ⟨core, hcore, hwithin⟩
      rw [(within_iff_trim_eq (hplain core hcore)).mp hwithin, String.ofList_toList]
      exact hcore
  · by_cases h : String.ofList (trim input.toList) ∈ unlimited
    · exact .inl (optionalDuration_of_unlimited h)
    · exact .inr (optionalDuration_of_limited h)

example : duration "\t+007ms " = .ok (.ofMillis 7) := by decide +kernel

end Argument

end PeerLink
