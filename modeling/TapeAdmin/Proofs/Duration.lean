import Mathlib.Algebra.Order.Field.Rat
import Mathlib.Data.Rat.Cast.Order
import Mathlib.Tactic.FieldSimp
import Mathlib.Tactic.Linarith
import TapeAdmin.Duration

/-!
# The fields of a printed duration

The fields of a duration add up to it but for the rounding of the seconds to a tenth. As the seconds
are rounded after the minutes have been cut off, a duration a twentieth of a second short of a full
minute is shown with sixty seconds instead of one more minute.
-/

namespace TapeAdmin

namespace Text

variable {numerator denominator : Nat}

/-- A number half-way between two whole numbers is rounded to the even one. -/
theorem roundHalfEven_of_half (positive : 0 < denominator) {quotient : Nat}
    (half : 2 * numerator = denominator * (2 * quotient + 1)) :
    roundHalfEven numerator denominator % 2 = 0 := by
  rw [Nat.mul_add, Nat.mul_one, Nat.mul_left_comm] at half
  have parts : numerator / denominator = quotient ∧
      numerator % denominator = numerator - denominator * quotient := by
    rw [Nat.div_mod_unique positive]
    omega
  have tie : 2 * (numerator % denominator) = denominator := by
    rw [parts.2]
    omega
  simp only [roundHalfEven, parts.1, tie, Nat.lt_irrefl, if_false]
  split <;> omega

/-- Rounding reaches an even number from half a unit below it on. -/
theorem le_roundHalfEven_iff (positive : 0 < denominator) {limit : Nat} (even : limit % 2 = 0) :
    limit ≤ roundHalfEven numerator denominator ↔
      denominator * (2 * limit) ≤ 2 * numerator + denominator := by
  rcases roundHalfEven_near numerator positive with ⟨low, high⟩
  constructor
  · intro reached
    calc
      denominator * (2 * limit) ≤ denominator * (2 * roundHalfEven numerator denominator) :=
        Nat.mul_le_mul_left _ (by omega)
      _ ≤ 2 * numerator + denominator := high
  · intro near
    by_contra below
    have reach : denominator * (2 * limit) ≤
        denominator * (2 * (roundHalfEven numerator denominator + 1)) := by
      rw [Nat.mul_add, Nat.mul_add, Nat.mul_one] at *
      omega
    have limit_eq : limit = roundHalfEven numerator denominator + 1 := by
      have le := Nat.le_of_mul_le_mul_left reach positive
      omega
    -- The odd number below the limit would have been chosen half a unit above it.
    have half : 2 * numerator = denominator * (2 * roundHalfEven numerator denominator + 1) := by
      rw [limit_eq, Nat.mul_add, Nat.mul_add] at near
      rw [Nat.mul_add, Nat.mul_one] at low ⊢
      omega
    have chosen_even := roundHalfEven_of_half positive half
    omega

end Text

namespace Duration

open Text (roundHalfEven roundHalfEven_near le_roundHalfEven_iff)

variable {numerator denominator : Nat}

/-- The text of seconds with one decimal place, given in tenths. -/
def secondsText (tenths : Nat) : String :=
  toString (tenths / 10) ++ "." ++ toString (tenths % 10) ++ "s"

/-- The tenths that are shown of the seconds that are left of a duration. -/
def shownTenths (numerator denominator : Nat) : Nat :=
  roundHalfEven (10 * (numerator % (60 * denominator))) denominator

theorem clockText_of_seconds (few : numerator < 60 * denominator) :
    clockText numerator denominator = secondsText (shownTenths numerator denominator) :=
  if_pos few

theorem clockText_of_minutes (some_minute : 60 * denominator ≤ numerator)
    (few : numerator < 3600 * denominator) :
    clockText numerator denominator = toString (numerator / (60 * denominator)) ++ "m " ++
      secondsText (shownTenths numerator denominator) :=
  (if_neg (Nat.not_lt.mpr some_minute)).trans (if_pos few)

theorem clockText_of_hours (some_hour : 3600 * denominator ≤ numerator)
    (short : numerator < 2 ^ 32 * (3600 * denominator)) :
    clockText numerator denominator = toString (numerator / (3600 * denominator)) ++ "h " ++
      toString (numerator % (3600 * denominator) / (60 * denominator)) ++ "m " ++
        secondsText (shownTenths numerator denominator) := by
  have some_minute : 60 * denominator ≤ numerator := by omega
  have hours_le : numerator / (3600 * denominator) ≤ hourLimit :=
    Nat.le_of_lt_succ (Nat.div_lt_of_lt_mul (by rwa [Nat.mul_comm]))
  rw [clockText, if_neg (Nat.not_lt.mpr some_minute), if_neg (Nat.not_lt.mpr some_hour),
    Nat.min_eq_left hours_le]
  rfl

theorem shownTenths_le (numerator : Nat) (positive : 0 < denominator) :
    shownTenths numerator denominator ≤ 600 := by
  have left_lt : numerator % (60 * denominator) < 60 * denominator := Nat.mod_lt _ (by omega)
  have near := (roundHalfEven_near (10 * (numerator % (60 * denominator))) positive).2
  have small : denominator * (2 * shownTenths numerator denominator) < denominator * 1201 := by
    rw [shownTenths]
    omega
  have := Nat.lt_of_mul_lt_mul_left small
  omega

/-- Sixty seconds are shown where at most a twentieth of a second is missing from a full minute. -/
theorem shownTenths_eq_iff (numerator : Nat) (positive : 0 < denominator) :
    shownTenths numerator denominator = 600 ↔
      5995 * denominator ≤ 100 * (numerator % (60 * denominator)) := by
  have reached : 600 ≤ shownTenths numerator denominator ↔
      denominator * (2 * 600) ≤ 2 * (10 * (numerator % (60 * denominator))) + denominator :=
    le_roundHalfEven_iff positive rfl
  have le := shownTenths_le numerator positive
  constructor
  · intro shown
    have := reached.mp (Nat.le_of_eq shown.symm)
    omega
  · intro near
    have := reached.mpr (by omega)
    omega

/-- The tenths that are shown are at most half a tenth away from the seconds that are left. -/
theorem shownTenths_near (numerator : Nat) (positive : 0 < denominator) :
    |(shownTenths numerator denominator / 10 : ℚ) -
      (numerator % (60 * denominator) : Nat) / denominator| ≤ 1 / 20 := by
  rcases roundHalfEven_near (10 * (numerator % (60 * denominator))) positive with ⟨low, high⟩
  have denominator_pos : (0 : ℚ) < denominator := by exact_mod_cast positive
  have low' : (2 * (10 * (numerator % (60 * denominator) : Nat)) : ℚ) ≤
      denominator * (2 * shownTenths numerator denominator + 1) := by exact_mod_cast low
  have high' : (denominator * (2 * shownTenths numerator denominator) : ℚ) ≤
      2 * (10 * (numerator % (60 * denominator) : Nat)) + denominator := by exact_mod_cast high
  have left_le : ((numerator % (60 * denominator) : Nat) / denominator : ℚ) ≤
      (2 * shownTenths numerator denominator + 1) / 20 := by
    rw [div_le_iff₀ denominator_pos]
    linarith
  have le_left : ((2 * shownTenths numerator denominator - 1) / 20 : ℚ) ≤
      (numerator % (60 * denominator) : Nat) / denominator := by
    rw [le_div_iff₀ denominator_pos]
    linarith
  rw [abs_le]
  constructor <;> linarith

/-- Fields with the seconds that are shown add up to the duration if they do with those that are
left. -/
theorem fields_near (positive : 0 < denominator) {hours minutes : Nat}
    (parts : numerator = 3600 * denominator * hours + 60 * denominator * minutes +
      numerator % (60 * denominator)) :
    |(3600 * hours + 60 * minutes + shownTenths numerator denominator / 10 : ℚ) -
      numerator / denominator| ≤ 1 / 20 := by
  have denominator_ne : (denominator : ℚ) ≠ 0 := by exact_mod_cast positive.ne'
  have duration_eq : (numerator / denominator : ℚ) =
      3600 * hours + 60 * minutes + (numerator % (60 * denominator) : Nat) / denominator := by
    have parts' : (numerator : ℚ) = 3600 * denominator * hours + 60 * denominator * minutes +
        (numerator % (60 * denominator) : Nat) := by exact_mod_cast parts
    rw [parts']
    field_simp
  rw [duration_eq, add_sub_add_left_eq_sub]
  exact shownTenths_near numerator positive

/--
A duration of `numerator / denominator` seconds, shorter than `2 ^ 32` hours, is printed as seconds
with one decimal place, behind minutes if it is a minute or longer, and behind hours and minutes if
it is an hour or longer. There are less than sixty minutes, and the fields add up to the duration
within a twentieth of a second. There are less than 60.0 seconds too, unless at most a twentieth of
a second is missing from a full minute: then there are 60.0 of them, and the minute is not counted.
-/
theorem clockText_fields (numerator : Nat) (positive : 0 < denominator)
    (short : numerator < 2 ^ 32 * (3600 * denominator)) :
    ∃ hours minutes tenths : Nat,
      (clockText numerator denominator = secondsText tenths ∧
          numerator < 60 * denominator ∧ hours = 0 ∧ minutes = 0 ∨
        clockText numerator denominator = toString minutes ++ "m " ++ secondsText tenths ∧
          60 * denominator ≤ numerator ∧ numerator < 3600 * denominator ∧ hours = 0 ∨
        clockText numerator denominator =
            toString hours ++ "h " ++ toString minutes ++ "m " ++ secondsText tenths ∧
          3600 * denominator ≤ numerator) ∧
      minutes < 60 ∧ tenths ≤ 600 ∧
      (tenths = 600 ↔ 5995 * denominator ≤ 100 * (numerator % (60 * denominator))) ∧
      |(3600 * hours + 60 * minutes + tenths / 10 : ℚ) - numerator / denominator| ≤ 1 / 20 := by
  have minute_pos : 0 < 60 * denominator := by omega
  have hour_pos : 0 < 3600 * denominator := by omega
  have hour_eq : 3600 * denominator = 60 * denominator * 60 := by omega
  have seconds_le := shownTenths_le numerator positive
  have seconds_iff := shownTenths_eq_iff numerator positive
  by_cases few_seconds : numerator < 60 * denominator
  · refine ⟨0, 0, shownTenths numerator denominator,
      .inl ⟨clockText_of_seconds few_seconds, few_seconds, rfl, rfl⟩, by decide, seconds_le,
      seconds_iff, fields_near positive ?_⟩
    rw [Nat.mod_eq_of_lt few_seconds]
    omega
  · rw [Nat.not_lt] at few_seconds
    by_cases few_minutes : numerator < 3600 * denominator
    · refine ⟨0, numerator / (60 * denominator), shownTenths numerator denominator,
        .inr (.inl ⟨clockText_of_minutes few_seconds few_minutes, few_seconds, few_minutes, rfl⟩),
        ?_, seconds_le, seconds_iff, fields_near positive ?_⟩
      · exact Nat.div_lt_of_lt_mul (by rwa [← hour_eq])
      · rw [Nat.mul_zero, Nat.zero_add, Nat.div_add_mod]
    · rw [Nat.not_lt] at few_minutes
      refine ⟨numerator / (3600 * denominator),
        numerator % (3600 * denominator) / (60 * denominator), shownTenths numerator denominator,
        .inr (.inr ⟨clockText_of_hours few_minutes short, few_minutes⟩), ?_, seconds_le,
        seconds_iff, fields_near positive ?_⟩
      · exact Nat.div_lt_of_lt_mul (by rw [← hour_eq]; exact Nat.mod_lt _ hour_pos)
      · have within_hour : numerator % (3600 * denominator) % (60 * denominator) =
            numerator % (60 * denominator) :=
          Nat.mod_mod_of_dvd _ (by rw [hour_eq]; exact Nat.dvd_mul_right _ _)
        rw [Nat.add_assoc, ← within_hour, Nat.div_add_mod, Nat.div_add_mod]

/-- An hour, a minute and 59.94 seconds, in nanoseconds. -/
theorem clockText_fields_hour :
    let nanoseconds := 3719940000000
    clockText nanoseconds 1000000000 = "1h 1m 59.9s" ∧
      ∃ hours minutes tenths : Nat, minutes < 60 ∧ tenths < 600 ∧
        |(3600 * hours + 60 * minutes + tenths / 10 : ℚ) -
          (nanoseconds : Nat) / (1000000000 : Nat)| ≤ 1 / 20 := by
  intro nanoseconds
  have positive : 0 < 1000000000 := by decide
  rcases clockText_fields nanoseconds positive (by decide) with
    ⟨hours, minutes, tenths, _, few_minutes, tenths_le, sixty_iff, near⟩
  have not_sixty : tenths ≠ 600 := fun sixty => absurd (sixty_iff.mp sixty) (by decide)
  exact ⟨by decide, hours, minutes, tenths, few_minutes, by omega, near⟩

/-- Less than a minute is shown as sixty seconds, though sixty seconds are shown as a minute. -/
theorem clockText_sixty_seconds :
    clockText 59960000000 1000000000 = "60.0s" ∧ clockText 60000000000 1000000000 = "1m 0.0s" := by
  decide

end Duration

end TapeAdmin
