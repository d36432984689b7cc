import Mathlib.Algebra.Order.Field.Power
import Mathlib.Data.Int.Log
import Mathlib.Data.Rat.Floor
import Mathlib.Tactic.Linarith
import Mathlib.Tactic.Positivity
import Mathlib.Tactic.Ring

/-!
Binary floating-point formats without an end to their exponents: the numbers of a format, and
the one that a rounding to integers picks for any number.
-/
namespace Rounding
/-- The digits of a significand, and the lowest place of its last digit. -/
structure Format where
  precision : Nat
  lowest : Int
  positive : 0 < precision

/-- The doubles, but for their largest exponent. -/
def binary64 : Format := ⟨53,-1074,by decide⟩

/-- The number is a significand in a place of the format. -/
def Format.Represents {K : Type*} [Field K] (format : Format) (value : K) : Prop :=
  ∃ significand place : Int, |significand| < 2 ^ format.precision ∧ format.lowest ≤ place ∧
    value = significand * 2 ^ place

theorem Format.represents_zero {K : Type*} [Field K] (format : Format) : format.Represents (0 : K) :=
  ⟨0,format.lowest,by simp,le_refl _,by simp⟩

variable {K : Type*} [Field K] [LinearOrder K] [IsStrictOrderedRing K]

/-- A rounding to integers: it keeps the order, and the integers. -/
structure Rounds (nearest : K → Int) : Prop where
  mono {less more : K} (ordered : less ≤ more) : nearest less ≤ nearest more
  whole : ∀ number : Int, nearest number = number

theorem Rounds.floor [FloorRing K] : Rounds (Int.floor : K → Int) := ⟨fun ordered => Int.floor_mono ordered,Int.floor_intCast⟩

namespace Format

/-- The least significand with one digit too many is one with a digit less, a place higher. -/
theorem represents_of_le {format : Format} {significand place : Int} (fits : |significand| ≤ 2 ^ format.precision) (high : format.lowest ≤ place) :
    format.Represents ((significand : K) * 2 ^ place) := by
  rcases lt_or_eq_of_le fits with less | full
  · exact ⟨significand,place,less,high,rfl⟩
  obtain ⟨digits,precision⟩ : ∃ digits, format.precision = digits + 1 := ⟨format.precision - 1,by have := format.positive; omega⟩
  have raised : ∀ sign : K, sign * 2 ^ format.precision * 2 ^ place = sign * 2 ^ digits * 2 ^ (place + 1) := by
    intro sign
    rw [precision,zpow_add_one₀ two_ne_zero,pow_succ]
    ring
  have fewer : (2 : Int) ^ digits < 2 ^ format.precision := by
    rw [precision]
    exact pow_lt_pow_right₀ one_lt_two (Nat.lt_succ_self digits)
  rcases eq_or_eq_neg_of_abs_eq full with same | same
  · refine ⟨2 ^ digits,place + 1,by rwa [abs_of_pos (by positivity)],by omega,?_⟩
    rw [same]
    push_cast
    simpa using raised 1
  · refine ⟨-2 ^ digits,place + 1,by rwa [abs_neg,abs_of_pos (by positivity)],by omega,?_⟩
    rw [same]
    push_cast
    simpa using raised (-1)

variable (format : Format) [FloorRing K]

/-- The place of the last digit of numbers as large as this one. -/
def lastPlace (value : K) : Int := max format.lowest (Int.log 2 |value| + 1 - format.precision)

/-- The number of the format that a rounding to integers picks. -/
def round (nearest : K → Int) (value : K) : K :=
  nearest (value / 2 ^ format.lastPlace value) * 2 ^ format.lastPlace value

theorem abs_lt_of_lastPlace (value : K) : |value| < 2 ^ format.precision * 2 ^ format.lastPlace value := by
  have below : |value| < ((2 : Nat) : K) ^ (Int.log 2 |value| + 1) := Int.lt_zpow_succ_log_self Nat.one_lt_two |value|
  have place : Int.log 2 |value| + 1 ≤ format.precision + format.lastPlace value := by
    have := le_max_right format.lowest (Int.log 2 |value| + 1 - format.precision)
    unfold lastPlace
    omega
  rw [Nat.cast_ofNat] at below
  calc |value| < 2 ^ (Int.log 2 |value| + 1) := below
    _ ≤ 2 ^ ((format.precision : Int) + format.lastPlace value) := zpow_le_zpow_right₀ one_le_two place
    _ = 2 ^ format.precision * 2 ^ format.lastPlace value := by rw [zpow_add₀ two_ne_zero,zpow_natCast]

variable {format} {nearest : K → Int}

/-- A rounded number is one of the format. -/
theorem represents_round (rounds : Rounds nearest) (value : K) : format.Represents (format.round nearest value) := by
  have positive : (0 : K) < 2 ^ format.lastPlace value := by positivity
  have within : |value / 2 ^ format.lastPlace value| ≤ 2 ^ format.precision := by
    rw [abs_div,abs_of_pos positive,div_le_iff₀ positive]
    exact le_of_lt (format.abs_lt_of_lastPlace value)
  obtain ⟨below,above⟩ := abs_le.mp within
  have bound : ∀ sign : Int, nearest ((sign : K) * 2 ^ format.precision) = sign * 2 ^ format.precision := by
    intro sign
    simpa using rounds.whole (sign * 2 ^ format.precision)
  refine represents_of_le (abs_le.mpr ⟨?_,?_⟩) (le_max_left _ _)
  · calc -2 ^ format.precision = nearest ((-1 : Int) * 2 ^ format.precision) := by rw [bound]; ring
      _ ≤ nearest (value / 2 ^ format.lastPlace value) := rounds.mono (by simpa using below)
  · calc nearest (value / 2 ^ format.lastPlace value) ≤ nearest ((1 : Int) * 2 ^ format.precision) :=
        rounds.mono (by simpa using above)
      _ = 2 ^ format.precision := by rw [bound]; ring

/-- The numbers of the format stay as they are. -/
theorem round_of_represents (rounds : Rounds nearest) {value : K} (represented : format.Represents value) :
    format.round nearest value = value := by
  obtain ⟨significand,place,fits,high,rfl⟩ := represented
  by_cases zero : significand = 0
  · simpa [round,zero] using Or.inl (rounds.whole 0)
  have positive : (0 : K) < |(significand : K) * 2 ^ place| := by positivity
  have below : |(significand : K) * 2 ^ place| < ((2 : Nat) : K) ^ ((format.precision : Int) + place) := by
    rw [abs_mul,abs_of_pos (show (0 : K) < 2 ^ place by positivity),Nat.cast_ofNat,zpow_add₀ two_ne_zero,zpow_natCast]
    exact mul_lt_mul_of_pos_right (by exact_mod_cast fits) (by positivity)
  have logarithm := (Int.lt_zpow_iff_log_lt Nat.one_lt_two positive).mp below
  have lower : format.lastPlace ((significand : K) * 2 ^ place) ≤ place := max_le high (by omega)
  obtain ⟨gap,place_eq⟩ := Int.le.dest lower
  have scaled : (significand : K) * 2 ^ place / 2 ^ format.lastPlace ((significand : K) * 2 ^ place) =
      ((significand * 2 ^ gap : Int) : K) := by
    rw [mul_div_assoc,← zpow_sub₀ two_ne_zero,show place - format.lastPlace ((significand : K) * 2 ^ place) = gap by omega,
      zpow_natCast]
    push_cast
    rfl
  rw [round,scaled,rounds.whole,← scaled]
  exact div_mul_cancel₀ _ (by positivity)

theorem round_eq_self_iff (rounds : Rounds nearest) {value : K} : format.round nearest value = value ↔ format.Represents value :=
  ⟨fun same => same ▸ represents_round rounds value,round_of_represents rounds⟩

theorem round_nonneg (rounds : Rounds nearest) {value : K} (nonneg : 0 ≤ value) : 0 ≤ format.round nearest value := by
  have whole : 0 ≤ nearest (value / 2 ^ format.lastPlace value) := by
    calc (0 : Int) = nearest ((0 : Int) : K) := (rounds.whole 0).symm
      _ ≤ nearest (value / 2 ^ format.lastPlace value) := rounds.mono (by rw [Int.cast_zero]; positivity)
  have exact : (0 : K) ≤ nearest (value / 2 ^ format.lastPlace value) := Int.cast_nonneg whole
  unfold round
  positivity

/-- A number whose last place is above every place of a number of the format is larger than it. -/
theorem separated {value limit : K} (represented : format.Represents limit) (nonzero : value ≠ 0)
    (coarse : ∀ significand place : Int, limit = significand * 2 ^ place → place < format.lastPlace value) :
    |limit| < 2 ^ (format.precision - 1) * 2 ^ format.lastPlace value ∧
      2 ^ (format.precision - 1) * 2 ^ format.lastPlace value ≤ |value| := by
  obtain ⟨significand,place,fits,high,rfl⟩ := represented
  have below := coarse significand place rfl
  have digits := format.positive
  have joined : (2 : K) ^ (format.precision - 1) * 2 ^ format.lastPlace value =
      2 ^ ((format.precision : Int) - 1 + format.lastPlace value) := by
    rw [← zpow_natCast,← zpow_add₀ two_ne_zero]
    congr 1
    omega
  constructor
  · have halves : (2 : K) ^ (format.precision : Int) * 2 ^ (format.lastPlace value - 1) =
        2 ^ ((format.precision : Int) - 1 + format.lastPlace value) := by
      rw [← zpow_add₀ two_ne_zero]
      congr 1
      omega
    rw [joined,← halves,zpow_natCast,abs_mul,abs_of_pos (show (0 : K) < 2 ^ place from zpow_pos two_pos place)]
    exact mul_lt_mul (by exact_mod_cast fits) (zpow_le_zpow_right₀ one_le_two (by omega)) (zpow_pos two_pos _) (by positivity)
  · have place_eq : format.lastPlace value = Int.log 2 |value| + 1 - format.precision := by
      unfold lastPlace at below ⊢
      omega
    have logarithm : ((2 : Nat) : K) ^ Int.log 2 |value| ≤ |value| :=
      Int.zpow_log_le_self Nat.one_lt_two (abs_pos.mpr nonzero)
    rw [Nat.cast_ofNat] at logarithm
    rw [joined,show (format.precision : Int) - 1 + format.lastPlace value = Int.log 2 |value| by omega]
    exact logarithm

/-- Rounding does not go beyond a number of the format. -/
theorem round_le (rounds : Rounds nearest) {value limit : K} (represented : format.Represents limit) (le : value ≤ limit) :
    format.round nearest value ≤ limit := by
  have positive : (0 : K) < 2 ^ format.lastPlace value := zpow_pos two_pos _
  have goal : ∀ number : Int, value ≤ number * 2 ^ format.lastPlace value → number * 2 ^ format.lastPlace value ≤ limit →
      format.round nearest value ≤ limit := by
    intro number above below
    refine le_trans (mul_le_mul_of_nonneg_right (Int.cast_le.mpr ?_) (le_of_lt positive)) below
    rw [← rounds.whole number]
    exact rounds.mono ((div_le_iff₀ positive).mpr above)
  by_cases fine : ∃ significand place : Int, limit = significand * 2 ^ place ∧ format.lastPlace value ≤ place
  · -- In the last place of the value the limit is a whole number.
    obtain ⟨significand,place,rfl,lower⟩ := fine
    obtain ⟨gap,same⟩ := Int.le.dest lower
    have scaled : (significand : K) * 2 ^ place = ((significand * 2 ^ gap : Int) : K) * 2 ^ format.lastPlace value := by
      rw [← same,zpow_add₀ two_ne_zero,zpow_natCast]
      push_cast
      ring
    exact goal _ (scaled ▸ le) (le_of_eq scaled.symm)
  · by_cases zero : value = 0
    · refine goal 0 (by simp [zero]) ?_
      simpa [zero] using le
    -- The limit is smaller than the value, so the value is negative.
    obtain ⟨small,large⟩ := separated represented zero fun significand place same =>
      lt_of_not_ge fun lower => fine ⟨significand,place,same,lower⟩
    obtain ⟨above,below⟩ := abs_lt.mp small
    refine goal (-2 ^ (format.precision - 1)) ?_ ?_
    · push_cast
      rcases le_abs.mp large with positive | negative
      · exact absurd (lt_of_lt_of_le below positive) (not_lt.mpr le)
      · linarith
    · push_cast
      linarith

instance (value : K) : Decidable (format.Represents value) := decidable_of_iff _ (round_eq_self_iff Rounds.floor)

end Format

end Rounding
