import PeerLink.Cli.Options
import PeerLink.Proofs.Cli.Durations
import PeerLink.Proofs.Host.Clock

/-! # Deadlines of the command line

Four spans are added to the time of day: the lock's and the worker's, which no option sets, and two
that are given as texts, the interval between attempts and the limit of a read. A text may give as
many seconds as 64 bits count, and no check stands between it and the sum.

* `LinkOptions.config_eq_ok`: where the spans of an endpoint's settings come from.
* `Argument.Moderate`: the texts whose spans fit into the second half of what clocks count.
* `LinkOptions.worker_remains_of_moderate`: no worker breaks off over such an interval.

Main statement: `LinkOptions.deadlines_exist_iff_moderate`.
-/

namespace PeerLink
set_option autoImplicit false

/-! ## Texts -/

namespace Argument

/-- Given in milliseconds, or as so few seconds. -/
def Moderate (input : String) : Prop :=
  (splitUnit (trim input.toList)).2 = .ofMillis 1 ∨
    ∃ n ≤ 2 ^ 62, Numeral.natural? UInt64.size (splitUnit (trim input.toList)).1 = some n

theorem le_half_iff_moderate {input : String} {d : Duration} (h : duration input = .ok d) :
    d ≤ .ofSeconds (2 ^ 62) ↔ Moderate input := by
  obtain ⟨n, -, hnumber, rfl⟩ := duration_eq_ok_iff.mp h
  have hsize : n < 2 ^ 64 := (Numeral.natural?_eq_some_iff.mp hnumber).2
  obtain ⟨ending, -, hunit⟩ := splitUnit_form (trim input.toList)
  rw [ClockReading.le_half_iff, Moderate, hnumber]
  rcases hunit with ⟨-, hunit⟩ | ⟨-, hunit⟩
  · have hspan : ((n * Duration.ofSeconds 1 : Duration) : Int) = n * 1000000000 :=
      Int.natCast_mul n 1000000000
    rw [hunit, hspan]
    constructor
    · intro hle
      exact .inr ⟨n, by omega, rfl⟩
    · rintro (hmillis | ⟨k, hle, hk⟩)
      · exact absurd hmillis (by decide)
      · cases hk
        omega
  · have hspan : ((n * Duration.ofMillis 1 : Duration) : Int) = n * 1000000 :=
      Int.natCast_mul n 1000000
    rw [hunit, hspan]
    exact iff_of_true (by omega) (.inl rfl)

end Argument

/-! ## Settings -/

theorem Failure.ok_of_bind {α β : Type} {result : Except Failure α} {next : α → Except Failure β}
    {b : β} (h : (result >>= next) = .ok b) : ∃ a, result = .ok a ∧ next a = .ok b := by
  cases result with
  | error f => cases h
  | ok a => exact ⟨a, rfl, h⟩

namespace LinkOptions

/-- The attempts are as far apart as the option says; the other two spans are set by no option. -/
theorem config_eq_ok {o : LinkOptions} {c : EndpointConfig} (h : o.config = .ok c) :
    Argument.duration o.reconnectInterval = .ok c.retryInterval ∧
      c.lockTimeout = .ofSeconds 1 ∧ c.checkInterval = .ofMillis 10 := by
  unfold config at h
  obtain ⟨threshold, -, h⟩ := Failure.ok_of_bind h
  obtain ⟨wait, -, h⟩ := Failure.ok_of_bind h
  obtain ⟨retry, hretry, h⟩ := Failure.ok_of_bind h
  dsimp only at h
  split at h
  · cases h
    exact ⟨hretry, rfl, rfl⟩
  · cases h

/-- For accepted options and an accepted limit of a read: in the first half of what clocks count,
the ends of a wait for the lock and of a worker's pause are always there. The next attempt and the
end of the read are there at all these times if and only if their texts are moderate. Instants are
added to as the readings of clocks are. -/
theorem deadlines_exist_iff_moderate {o : LinkOptions} {c : EndpointConfig} {limit : String}
    {timeout : Duration} (hconfig : o.config = .ok c)
    (hlimit : Argument.duration limit = .ok timeout) :
    (∀ now : ClockReading, now.Early →
      (now.plus? c.lockTimeout).isSome = true ∧ (now.plus? c.checkInterval).isSome = true) ∧
    ((∀ now : ClockReading, now.Early → (now.plus? c.retryInterval).isSome = true) ↔
      Argument.Moderate o.reconnectInterval) ∧
    ((∀ now : ClockReading, now.Early → (now.plus? timeout).isSome = true) ↔
      Argument.Moderate limit) ∧
    ∀ (now : ClockReading) (instant : Instant) (d : Duration), now.total = instant →
      (instant.after? d).map Int.ofNat = (now.plus? d).map ClockReading.total := by
  obtain ⟨hretry, hlock, hcheck⟩ := config_eq_ok hconfig
  refine ⟨?_, ?_, ?_, ?_⟩
  · intro now hnow
    rw [hlock, hcheck]
    exact ⟨ClockReading.plus?_isSome_of_early hnow (by decide),
      ClockReading.plus?_isSome_of_early hnow (by decide)⟩
  · rw [ClockReading.forall_early_iff]
    exact Argument.le_half_iff_moderate hretry
  · rw [ClockReading.forall_early_iff]
    exact Argument.le_half_iff_moderate hlimit
  · intro now instant d hinstant
    exact Instant.after?_eq_plus? hinstant d

/-- With a moderate interval, a worker goes on through the first half of what clocks count. -/
theorem worker_remains_of_moderate {o : LinkOptions} {c : EndpointConfig} {p : Process}
    {seats : List Seat} {host : Host} {id : String} {span : Duration}
    (hconfig : o.config = .ok c) (hmoderate : Argument.Moderate o.reconnectInterval)
    (h : host.Seated p seats) (hid : host.AtWork id c.retryInterval)
    (hearly : host.now + span < Duration.ofSeconds (2 ^ 62)) :
    (host.sleep span).AtWork id c.retryInterval := by
  have hhalf := (Argument.le_half_iff_moderate (config_eq_ok hconfig).1).mpr hmoderate
  have hlimit : Instant.limit = Duration.ofSeconds (2 ^ 62) + Duration.ofSeconds (2 ^ 62) := rfl
  have hfits : host.now + span + c.retryInterval < Instant.limit := by
    rw [hlimit]
    exact Nat.add_lt_add_of_lt_of_le hearly hhalf
  apply h.worker_remains hid
  unfold Instant.after?
  rw [if_pos hfits]
  exact Option.some_ne_none _

/-- The longest interval between attempts that a text can give. -/
def patient : LinkOptions := { name := "n", reconnectInterval := "18446744073709551615s" }

def patientConfig : EndpointConfig :=
  { name := "n", retryInterval := .ofSeconds 18446744073709551615 }

theorem deadlines_exist_iff_moderate_patient :
    (patient.config = .ok patientConfig ∧ Argument.duration "5s" = .ok (.ofSeconds 5)) ∧
    ¬ (∀ now : ClockReading, now.Early → (now.plus? patientConfig.retryInterval).isSome = true) ∧
    ∀ now : ClockReading, now.Early → (now.plus? (.ofSeconds 5)).isSome = true := by
  have hconfig : patient.config = .ok patientConfig := by decide +kernel
  have hlimit : Argument.duration "5s" = .ok (.ofSeconds 5) := by decide +kernel
  obtain ⟨-, hretry, hread, -⟩ := deadlines_exist_iff_moderate hconfig hlimit
  refine ⟨⟨hconfig, hlimit⟩, ?_, ?_⟩
  · rw [hretry, ← Argument.le_half_iff_moderate (config_eq_ok hconfig).1]
    decide
  · rw [hread, ← Argument.le_half_iff_moderate hlimit]
    decide

/-- At the origin of the clock, an accepted interval and an accepted limit of a read have no end. -/
theorem deadlines_missing_at_origin :
    ∃ origin : ClockReading, origin.seconds = 0 ∧ origin.nanos = 0 ∧ origin.Early ∧
      patient.config = .ok patientConfig ∧ origin.plus? patientConfig.retryInterval = none ∧
      Argument.duration "18446744073709551615s" = .ok (.ofSeconds 18446744073709551615) ∧
      origin.plus? (.ofSeconds 18446744073709551615) = none := by
  refine ⟨⟨0, 0, by decide⟩, rfl, rfl, ?_, ?_, ?_, ?_, ?_⟩
  · unfold ClockReading.Early
    decide
  · decide +kernel
  · decide +kernel
  · decide +kernel
  · decide +kernel

end LinkOptions

end PeerLink
