import ThreadLab.Limit
import ThreadLab.Proofs.Binary64.Monotone
import ThreadLab.Settings

namespace ThreadLab

theorem Number.truncate_eq_floor {value : ℚ} (positive : 0 ≤ value) : truncate value = ⌊value⌋ := by
  rw [truncate, Int.tdiv_eq_ediv_of_nonneg (Rat.num_nonneg.mpr positive)]
  exact (Rat.floor_def value).symm

theorem Number.truncate_nonpos {value : ℚ} (negative : value ≤ 0) : truncate value ≤ 0 := by
  have cut : value.num.tdiv value.den ≤ Int.tdiv 0 value.den :=
    Int.tdiv_le_tdiv (Int.natCast_pos.mpr value.den_pos) (Rat.num_nonpos.mpr negative)
  rwa [Int.zero_tdiv] at cut

theorem Number.truncate_neg (value : ℚ) : truncate (-value) = -truncate value := by
  rw [truncate, truncate, Rat.neg_num, Rat.neg_den, Int.neg_tdiv]

theorem Number.truncate_div_of_nonneg {number : Int} (positive : 0 ≤ number) (parts : Nat) :
    truncate ((number : ℚ) / parts) = number.tdiv parts := by
  have cast : (0 : ℚ) ≤ (number : ℚ) / parts := by positivity
  rw [truncate_eq_floor cast, Rat.floor_intCast_div_natCast, Int.tdiv_eq_ediv_of_nonneg positive]

theorem Number.truncate_div (number : Int) (parts : Nat) :
    truncate ((number : ℚ) / parts) = number.tdiv parts := by
  rcases Int.le_total 0 number with positive | negative
  · exact truncate_div_of_nonneg positive parts
  · have mirrored := truncate_div_of_nonneg (Int.neg_nonneg_of_nonpos negative) parts
    rw [Int.cast_neg, neg_div, truncate_neg, Int.neg_tdiv] at mirrored
    exact Int.neg_inj.mp mirrored

namespace Clock

theorem deadline_exact (start span : Int) :
    exact.deadline start (Rat.ofInt span) = .ok (start + span) := by
  have whole : (Rat.ofInt span).ceil = span := Rat.ceil_intCast span
  rw [← whole]
  rfl

theorem spanOfMillis_of_finite {millis : Int} {number : Binary64.Finite}
    (asked : seconds (Rat.ofInt millis) 1000 = .finite number) :
    spanOfMillis (.integer millis) = .ok (Rat.ofInt (1000 * millis)) := by
  have given : (Json.integer millis).number? = some (.finite (Rat.ofInt millis)) := rfl
  have product : Rat.ofInt millis * 1000 = Rat.ofInt (1000 * millis) := by
    change (millis : ℚ) * 1000 = ((1000 * millis : Int) : ℚ)
    push_cast
    ring
  rw [spanOfMillis, given]
  dsimp only
  rw [asked, ← product]

theorem abs_seconds_lt {span : Int} {bits : Nat} (below : |span| < 2 ^ bits) {perSecond : ℚ}
    (many : 1 ≤ perSecond) : |(span : ℚ) / perSecond| < 2 ^ (bits : Int) := by
  have cast := (@Int.cast_lt ℚ).mpr below
  rw [Int.cast_abs, Int.cast_pow, ← zpow_natCast] at cast
  rw [abs_div, abs_of_pos (one_pos.trans_le many)]
  exact (div_le_self (abs_nonneg _) many).trans_lt cast

theorem exists_seconds {millis : Int} (small : |millis| < 2 ^ 1000) :
    ∃ number, seconds (Rat.ofInt millis) 1000 = .finite number := by
  have wide : |millis| < 2 ^ 1023 := small.trans (pow_lt_pow_right₀ (by decide) (by decide))
  have thousand : (1 : ℚ) ≤ Rat.ofInt 1000 := by
    change (1 : ℚ) ≤ ((1000 : Int) : ℚ)
    norm_num
  exact Binary64.exists_finite (abs_seconds_lt wide thousand)

/-- On an exact clock a number of milliseconds counts exactly, or is too large for seconds of 64
bits. -/
theorem deadlineOfMillis_exact (start millis : Int) :
    exact.deadlineOfMillis start (.integer millis) = .ok (start + 1000 * millis) ∨
      2 ^ 1000 ≤ |millis| ∧ exact.deadlineOfMillis start (.integer millis) =
        .error (@Fault.longWait .seconds) := by
  have given : (Json.integer millis).number? = some (.finite (Rat.ofInt millis)) := rfl
  cases asked : seconds (Rat.ofInt millis) 1000 with
  | finite number =>
    left
    rw [deadlineOfMillis, spanOfMillis_of_finite asked]
    change (exact.deadline start (Rat.ofInt (1000 * millis))).mapError Fault.unbounded = _
    rw [deadline_exact]
    rfl
  | infinite | nan =>
    have large : 2 ^ 1000 ≤ |millis| := by
      by_contra small
      obtain ⟨number, found⟩ := exists_seconds (not_le.mp small)
      cases asked.symm.trans found
    refine .inr ⟨large, ?_⟩
    rw [deadlineOfMillis, spanOfMillis, given]
    dsimp only
    rw [asked]
    rfl

/-- Below 2^32 seconds the seconds are off by at most 2^-22 of one, which is less than a quarter of
a microsecond, and so is what the second rounding adds. -/
theorem exists_seconds_of_short {span : Int} (short : |span| < 2 ^ 32 * 1000000) :
    ∃ number, seconds (Rat.ofInt span) microsPerSecond = .finite number ∧
      micros (.finite number) = .ofInt span := by
  have limit : |(span : ℚ)| < 2 ^ 32 * 1000000 := by exact_mod_cast short
  have small : |(span : ℚ) / 1000000| < 2 ^ (32 : Int) := by
    rw [abs_div, abs_of_pos (by norm_num : (0 : ℚ) < 1000000), div_lt_iff₀ (by norm_num)]
    exact limit
  obtain ⟨number, asked, near⟩ := Binary64.exists_ofRat small (by decide) (by decide)
  have product : |number.value * 1000000 - span| ≤ 1000000 / 2 ^ 22 := by
    have scaled : number.value * 1000000 - span =
        (number.value - span / 1000000) * 1000000 := by ring
    rw [scaled, abs_mul, abs_of_pos (by norm_num : (0 : ℚ) < 1000000)]
    norm_num at near ⊢
    linarith
  have large : |number.value * 1000000| < 2 ^ (52 : Int) := by
    have sum := abs_sub_abs_le_abs_sub (number.value * 1000000) (span : ℚ)
    have power : (2 : ℚ) ^ (52 : Int) = 4503599627370496 := by norm_num
    rw [power]
    linarith
  obtain ⟨scaled, read, close⟩ := Binary64.exists_ofRat large (by decide) (by decide)
  have whole : |scaled.value - span| < 1 / 2 := by
    have sum := abs_sub_le scaled.value (number.value * 1000000) (span : ℚ)
    norm_num at product close ⊢
    linarith
  have inMicros : Binary64.ofRat (number.value * Rat.ofInt microsPerSecond) = .finite scaled := read
  refine ⟨number, asked, ?_⟩
  rw [micros, inMicros]
  exact congrArg Number.ofInt (Binary64.roundRat_eq whole)

theorem deadline_stepped {span : Int} (short : |span| < 2 ^ 32 * 1000000) (start : Int) :
    stepped.deadline start (Rat.ofInt span) = exact.deadline start (Rat.ofInt span) := by
  obtain ⟨number, asked, whole⟩ := exists_seconds_of_short short
  rw [deadline_exact]
  change ((micros (seconds _ _)).bounded >>= _) = _
  rw [asked, whole]
  rfl

theorem exists_micros {span : Int} (bounded : |span| < 2 ^ 1000) :
    ∃ number, seconds (Rat.ofInt span) microsPerSecond = .finite number ∧
      ∃ scaled, Binary64.ofRat (number.value * Rat.ofInt microsPerSecond) = .finite scaled := by
  have limit := abs_seconds_lt bounded (by norm_num : (1 : ℚ) ≤ 1000000)
  obtain ⟨number, asked, near⟩ := Binary64.exists_ofRat limit (by decide) (by decide)
  have close : |number.value - span / 1000000| ≤ (2 : ℚ) ^ (1000 : Int) :=
    near.trans (zpow_le_zpow_right₀ one_le_two (by decide))
  have large : |number.value * 1000000| < 2 ^ (1023 : Int) := by
    have sum := abs_sub_abs_le_abs_sub number.value ((span : ℚ) / 1000000)
    have top : (2 : ℚ) ^ (1023 : Int) = 2 ^ (1000 : Int) * 2 ^ (23 : Int) :=
      zpow_add₀ two_ne_zero 1000 23
    have unit : (0 : ℚ) < 2 ^ (1000 : Int) := by positivity
    rw [abs_mul, abs_of_pos (by norm_num : (0 : ℚ) < 1000000), top]
    change _ < (2 : ℚ) ^ (1000 : Int) at limit
    generalize (2 : ℚ) ^ (1000 : Int) = size at limit close unit ⊢
    norm_num
    linarith
  obtain ⟨scaled, read⟩ := Binary64.exists_finite large
  exact ⟨number, asked, scaled, read⟩

theorem deadline_of_scaled {span start : Int} {number scaled : Binary64.Finite}
    (asked : seconds (Rat.ofInt span) microsPerSecond = .finite number)
    (read : Binary64.ofRat (number.value * Rat.ofInt microsPerSecond) = .finite scaled) :
    stepped.deadline start (Rat.ofInt span) = .ok (start + Binary64.roundRat scaled.value) := by
  have counts : micros (.finite number) = .ofInt (Binary64.roundRat scaled.value) := by
    rw [micros, read]
  change ((micros (seconds _ _)).bounded >>= _) = _
  rw [asked, counts]
  rfl

theorem scaled_mono {left right : Int} {number number' scaled scaled' : Binary64.Finite}
    (ordered : left ≤ right)
    (asked : seconds (Rat.ofInt left) microsPerSecond = .finite number)
    (asked' : seconds (Rat.ofInt right) microsPerSecond = .finite number')
    (read : Binary64.ofRat (number.value * Rat.ofInt microsPerSecond) = .finite scaled)
    (read' : Binary64.ofRat (number'.value * Rat.ofInt microsPerSecond) = .finite scaled') :
    Binary64.roundRat scaled.value ≤ Binary64.roundRat scaled'.value := by
  have positive : (0 : ℚ) < Rat.ofInt microsPerSecond := by
    change (0 : ℚ) < ((1000000 : Int) : ℚ)
    norm_num
  have cast : Rat.ofInt left ≤ Rat.ofInt right := Rat.intCast_le_intCast.mpr ordered
  have inSeconds :=
    Binary64.value_ofRat_mono (div_le_div_of_nonneg_right cast positive.le) asked asked'
  have inMicros := mul_le_mul_of_nonneg_right inSeconds positive.le
  exact Binary64.roundRat_mono (Binary64.value_ofRat_mono inMicros read read')

/-- The clock has a deadline for every duration, and none earlier for a longer one. -/
def Orderly (clock : Clock) : Prop :=
  ∀ (start : Int) (limit longer : Duration), Duration.ofMicros limit.micros = .ok limit →
    Duration.ofMicros longer.micros = .ok longer → limit.micros ≤ longer.micros →
      ∃ deadline later, clock.deadline start (Rat.ofInt limit.micros) = .ok deadline ∧
        clock.deadline start (Rat.ofInt longer.micros) = .ok later ∧ deadline ≤ later

theorem orderly_exact : exact.Orderly := by
  intro start limit longer _ _ ordered
  exact ⟨_, _, deadline_exact start _, deadline_exact start _, Int.add_le_add_left ordered start⟩

end Clock

theorem Duration.micros_bounded {limit : Duration} (given : ofMicros limit.micros = .ok limit) :
    |limit.micros| < 2 ^ 1000 := by
  have range : -mostDays ≤ limit.micros / 86400000000 ∧ limit.micros / 86400000000 ≤ mostDays := by
    rw [ofMicros] at given
    split at given
    · assumption
    · cases given
  have days : mostDays = 999999999 := rfl
  have small : |limit.micros| < 2 ^ 70 := by
    rw [abs_lt]
    omega
  exact small.trans_le (pow_le_pow_right₀ (by decide) (by decide))

namespace Clock

theorem orderly_stepped : stepped.Orderly := by
  intro start limit longer given given' ordered
  obtain ⟨number, asked, scaled, read⟩ := exists_micros (Duration.micros_bounded given)
  obtain ⟨number', asked', scaled', read'⟩ := exists_micros (Duration.micros_bounded given')
  have counts := scaled_mono ordered asked asked' read read'
  exact ⟨_, _, deadline_of_scaled asked read, deadline_of_scaled asked' read',
    Int.add_le_add_left counts start⟩

section

variable {clock : Clock} {now : Int}

theorem millis_of_unrounded (plain : clock.round = id) (now : Int) :
    clock.millis now = now.tdiv 1000 := by
  have value : clock.round (clock.reading now * 1000) = (now : ℚ) / (1000 : Nat) := by
    rw [reading, plain]
    change (now : ℚ) / ((1000000 : Int) : ℚ) * 1000 = _
    push_cast
    ring
  rw [millis, value]
  exact Number.truncate_div now 1000

theorem millis_eq_ediv (plain : clock.round = id) (begun : 0 ≤ now) :
    clock.millis now = now / 1000 := by
  rw [millis_of_unrounded plain, Int.tdiv_eq_ediv_of_nonneg begun]

theorem millis_ne_permanent (plain : clock.round = id) (ends : now / 1000 ≠ Settings.permanent) :
    clock.millis now ≠ Settings.permanent := by
  rcases Int.le_total 0 now with begun | before
  · rwa [millis_eq_ediv plain begun]
  -- Before its zero the clock is cut to zero at most.
  · have past : now.tdiv 1000 ≤ Int.tdiv 0 1000 := Int.tdiv_le_tdiv (by decide) before
    have never : Settings.permanent = 0x7fffffffffffffff := rfl
    rw [Int.zero_tdiv] at past
    rw [millis_of_unrounded plain]
    omega

/-- The greatest number of 63 bits is odd, and so no number of 64 bits in the binary format. -/
theorem truncate_nearestRat_ne (value : ℚ) :
    Number.truncate (Binary64.nearestRat value) ≠ Settings.permanent := by
  intro same
  have most : Settings.permanent = 2 ^ 63 - 1 := rfl
  have positive : 0 ≤ Binary64.nearestRat value := by
    by_contra negative
    have cut := Number.truncate_nonpos (le_of_not_ge negative)
    omega
  rw [Number.truncate_eq_floor positive, most, Int.floor_eq_iff] at same
  cases found : Binary64.ofRat value with
  | finite number =>
    rw [Binary64.nearestRat_of_finite found] at same
    have large : (2 : ℚ) ^ 53 ≤ number.value := by
      norm_num at same ⊢
      linarith
    obtain ⟨half, even⟩ := Binary64.Finite.even_of_large large
    rw [even] at same
    have low : (2 : Int) ^ 63 - 1 ≤ 2 * half := by exact_mod_cast same.1
    have high : 2 * half < (2 : Int) ^ 63 - 1 + 1 := by exact_mod_cast same.2
    omega
  | infinite | nan =>
    have kept : Binary64.nearestRat value = value := by
      rw [Binary64.nearestRat, found]
    rw [kept] at same positive
    have below : value < 2 ^ 63 := by
      norm_num at same ⊢
      exact same.2
    obtain ⟨number, finite⟩ :=
      Binary64.exists_finite (Binary64.abs_lt_of_lt positive below (by decide))
    rw [found] at finite
    cases finite

theorem millis_ne_permanent_of_nearest (rounded : clock.round = Binary64.nearestRat) (now : Int) :
    clock.millis now ≠ Settings.permanent := by
  rw [millis, rounded]
  exact truncate_nearestRat_ne _

theorem millis_of_nearest (rounded : clock.round = Binary64.nearestRat)
    (begun : 0 ≤ clock.reading now) (small : clock.reading now * 1000 < 2 ^ 52) :
    ⌊clock.reading now * 1000⌋ ≤ clock.millis now ∧
      clock.millis now ≤ ⌊clock.reading now * 1000⌋ + 1 := by
  have positive : 0 ≤ clock.reading now * 1000 := by positivity
  rw [millis, rounded]
  generalize clock.reading now * 1000 = value at positive small
  obtain ⟨whole, same⟩ := Int.eq_ofNat_of_zero_le (Int.floor_nonneg.mpr positive)
  obtain ⟨low, high⟩ := Int.floor_eq_iff.mp same
  rw [Int.cast_natCast] at low high
  have size : whole + 1 < 2 ^ 53 := by
    have cast : (whole : ℚ) < 2 ^ 52 := low.trans_lt small
    have below : whole < 2 ^ 52 := by exact_mod_cast cast
    omega
  obtain ⟨floor, ceil⟩ := Binary64.nearestRat_between size low (by exact_mod_cast high.le)
  rw [Number.truncate_eq_floor ((Nat.cast_nonneg whole).trans floor), same]
  constructor
  · exact Int.le_floor.mpr (by exact_mod_cast floor)
  · have top := Int.floor_le_floor ceil
    rw [Int.floor_natCast] at top
    exact_mod_cast top

end

end Clock

end ThreadLab
