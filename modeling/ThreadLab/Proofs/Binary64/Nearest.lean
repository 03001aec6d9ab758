import Mathlib.Algebra.Order.Field.Power
import Mathlib.Data.Rat.Floor
import Mathlib.Tactic.FieldSimp
import Mathlib.Tactic.Linarith
import Mathlib.Tactic.NormNum
import Mathlib.Tactic.Positivity
import Mathlib.Tactic.Ring
import ThreadLab.Binary64.Nearest

namespace ThreadLab.Binary64

theorem shifted_quotient (numerator denominator : Nat) (exponent : Int) :
    ((numerator <<< (-exponent).toNat : Nat) : ℚ) / (denominator <<< exponent.toNat : Nat) =
      numerator / denominator / 2 ^ exponent := by
  obtain ⟨power, rfl | rfl⟩ := exponent.eq_nat_or_neg
  · simp [Nat.shiftLeft_eq, div_div]
  · simp [Nat.shiftLeft_eq]
    ring

theorem shiftLeft_pos {number : Nat} (positive : 0 < number) (places : Nat) :
    0 < number <<< places := by
  rw [Nat.shiftLeft_eq]
  positivity

theorem roundQuotient_bounds (numerator : Nat) {denominator : Nat} (positive : 0 < denominator) :
    2 * (denominator * roundQuotient numerator denominator) ≤ 2 * numerator + denominator ∧
      2 * numerator ≤ 2 * (denominator * roundQuotient numerator denominator) + denominator := by
  have split := Nat.div_add_mod numerator denominator
  have below := Nat.mod_lt numerator positive
  have next := Nat.mul_succ denominator (numerator / denominator)
  rw [Nat.succ_eq_add_one] at next
  rw [roundQuotient]
  split <;> omega

theorem roundQuotient_near (numerator : Nat) {denominator : Nat} (positive : 0 < denominator) :
    |(roundQuotient numerator denominator : ℚ) - numerator / denominator| ≤ 1 / 2 := by
  obtain ⟨above, below⟩ := roundQuotient_bounds numerator positive
  have size : (0 : ℚ) < denominator := Nat.cast_pos.mpr positive
  have above' : (2 * (denominator * roundQuotient numerator denominator) : ℚ) ≤
      2 * numerator + denominator := by exact_mod_cast above
  have below' : (2 * numerator : ℚ) ≤
      2 * (denominator * roundQuotient numerator denominator) + denominator := by
    exact_mod_cast below
  have high : (roundQuotient numerator denominator : ℚ) - 1 / 2 ≤ numerator / denominator := by
    rw [le_div_iff₀ size]
    linarith
  have low : (numerator / denominator : ℚ) ≤ roundQuotient numerator denominator + 1 / 2 := by
    rw [div_le_iff₀ size]
    linarith
  rw [abs_le]
  constructor <;> linarith

theorem shiftLeft_le_iff (numerator : Nat) {denominator : Nat} (positive : 0 < denominator)
    (power : Int) :
    denominator <<< power.toNat ≤ numerator <<< (-power).toNat ↔
      (2 : ℚ) ^ power ≤ numerator / denominator := by
  have scaled : (0 : ℚ) < (denominator <<< power.toNat : Nat) :=
    Nat.cast_pos.mpr (shiftLeft_pos positive _)
  have unit : (0 : ℚ) < 2 ^ power := by positivity
  rw [← one_le_div unit, ← shifted_quotient, one_le_div scaled, Nat.cast_le]

theorem quotient_between {numerator denominator : Nat} (above : 0 < numerator)
    (positive : 0 < denominator) :
    (2 : ℚ) ^ ((numerator.log2 : Int) - denominator.log2 - 1) < numerator / denominator ∧
      (numerator / denominator : ℚ) < 2 ^ ((numerator.log2 : Int) - denominator.log2 + 1) := by
  have size : (0 : ℚ) < denominator := Nat.cast_pos.mpr positive
  have low : (2 : ℚ) ^ (numerator.log2 : Int) ≤ numerator := by
    exact_mod_cast Nat.log2_self_le above.ne'
  have high : (numerator : ℚ) < 2 ^ ((numerator.log2 : Int) + 1) := by
    exact_mod_cast @Nat.lt_log2_self numerator
  have low' : (2 : ℚ) ^ (denominator.log2 : Int) ≤ denominator := by
    exact_mod_cast Nat.log2_self_le positive.ne'
  have high' : (denominator : ℚ) < 2 ^ ((denominator.log2 : Int) + 1) := by
    exact_mod_cast @Nat.lt_log2_self denominator
  have two : (2 : ℚ) ≠ 0 := by norm_num
  constructor
  · rw [lt_div_iff₀ size]
    calc (2 : ℚ) ^ ((numerator.log2 : Int) - denominator.log2 - 1) * denominator
        < 2 ^ ((numerator.log2 : Int) - denominator.log2 - 1) * 2 ^ ((denominator.log2 : Int) + 1) := by
          gcongr
      _ = 2 ^ (numerator.log2 : Int) := by
          rw [← zpow_add₀ two]
          congr 1
          omega
      _ ≤ numerator := low
  · rw [div_lt_iff₀ size]
    calc (numerator : ℚ) < 2 ^ ((numerator.log2 : Int) + 1) := high
      _ = 2 ^ ((numerator.log2 : Int) - denominator.log2 + 1) * 2 ^ (denominator.log2 : Int) := by
          rw [← zpow_add₀ two]
          congr 1
          omega
      _ ≤ 2 ^ ((numerator.log2 : Int) - denominator.log2 + 1) * denominator := by gcongr

/-- The leading power of two of a fraction is the greatest that is not above it. -/
theorem leadingPower_spec {numerator denominator : Nat} (above : 0 < numerator)
    (positive : 0 < denominator) :
    (2 : ℚ) ^ leadingPower numerator denominator ≤ numerator / denominator ∧
      (numerator / denominator : ℚ) < 2 ^ (leadingPower numerator denominator + 1) := by
  obtain ⟨low, high⟩ := quotient_between above positive
  have compared := shiftLeft_le_iff numerator positive
    ((numerator.log2 : Int) - denominator.log2)
  rw [leadingPower]
  split
  · rename_i reached
    exact ⟨compared.mp reached, high⟩
  · rename_i missed
    refine ⟨low.le, ?_⟩
    rw [sub_add_cancel]
    exact not_le.mp (mt compared.mpr missed)

def sign (negative : Bool) : ℚ := if negative then -1 else 1

theorem abs_sign (negative : Bool) : |sign negative| = 1 := by
  cases negative <;> simp [sign]

theorem sign_mul_abs (value : ℚ) : sign (decide (value < 0)) * |value| = value := by
  by_cases negative : value < 0
  · simp [sign, negative, abs_of_neg negative]
  · simp [sign, negative, abs_of_nonneg (not_lt.mp negative)]

theorem abs_eq_div (value : ℚ) : |value| = value.num.natAbs / value.den := by
  conv_lhs => rw [← Rat.num_div_den value]
  rw [abs_div, Nat.abs_cast, Nat.cast_natAbs, Int.cast_abs]

namespace Finite

theorem value_eq (number : Finite) :
    number.value = sign number.negative * (number.significand * 2 ^ number.exponent) := by
  have scaled := shifted_quotient number.significand 1 (-number.exponent)
  rw [neg_neg, Nat.cast_one, div_one, zpow_neg, div_inv_eq_mul] at scaled
  rw [value, Rat.mkRat_eq_div, ← scaled, signed, sign]
  generalize number.significand <<< number.exponent.toNat = size
  cases number.negative <;> simp [neg_div]

theorem ofParts?_value (negative : Bool) {significand : Nat} {exponent : Int}
    (below : significand < 1 <<< 53) (least : -1074 ≤ exponent) (greatest : exponent ≤ 971)
    (normal : 1 <<< 52 ≤ significand ∨ exponent = -1074) :
    ∃ number, ofParts? negative significand exponent = some number ∧
      number.value = sign negative * (significand * 2 ^ exponent) := by
  refine ⟨_, dif_pos ⟨below, least, greatest, normal⟩, ?_⟩
  exact value_eq _

end Finite

def exponentOf (numerator denominator : Nat) : Int :=
  max (leadingPower numerator denominator - 52) (-1074)

def significandOf (numerator denominator : Nat) : Nat :=
  roundQuotient (numerator <<< (-exponentOf numerator denominator).toNat)
    (denominator <<< (exponentOf numerator denominator).toNat)

theorem cast_one_shiftLeft (places : Nat) : ((1 <<< places : Nat) : ℚ) = 2 ^ (places : Int) := by
  rw [Nat.one_shiftLeft, Nat.cast_pow, Nat.cast_ofNat, zpow_natCast]

section

variable {numerator denominator : Nat}

variable (numerator) in
theorem significandOf_near (positive : 0 < denominator) :
    |(significandOf numerator denominator : ℚ) -
      numerator / denominator / 2 ^ exponentOf numerator denominator| ≤ 1 / 2 := by
  rw [← shifted_quotient]
  exact roundQuotient_near _ (shiftLeft_pos positive _)

theorem significandOf_le (above : 0 < numerator) (positive : 0 < denominator) :
    significandOf numerator denominator ≤ 1 <<< 53 := by
  obtain ⟨-, high⟩ := leadingPower_spec above positive
  have near := abs_le.mp (significandOf_near numerator positive)
  have unit : (0 : ℚ) < 2 ^ exponentOf numerator denominator := by positivity
  have scaled : (numerator / denominator / 2 ^ exponentOf numerator denominator : ℚ) <
      2 ^ (53 : Int) := by
    rw [div_lt_iff₀ unit, ← zpow_add₀ two_ne_zero]
    refine high.trans_le (zpow_le_zpow_right₀ one_le_two ?_)
    rw [exponentOf]
    omega
  have whole : ((1 <<< 53 : Nat) : ℚ) = 2 ^ (53 : Int) := cast_one_shiftLeft 53
  have below : (significandOf numerator denominator : ℚ) < (1 <<< 53 + 1 : Nat) := by
    rw [Nat.cast_succ, whole]
    linarith
  exact Nat.lt_succ_iff.mp (Nat.cast_lt.mp below)

theorem le_significandOf (above : 0 < numerator) (positive : 0 < denominator) :
    1 <<< 52 ≤ significandOf numerator denominator ∨
      exponentOf numerator denominator = -1074 := by
  obtain ⟨low, -⟩ := leadingPower_spec above positive
  have near := abs_le.mp (significandOf_near numerator positive)
  by_cases small : leadingPower numerator denominator - 52 ≤ -1074
  · exact .inr (max_eq_right small)
  · left
    have exponent : exponentOf numerator denominator = leadingPower numerator denominator - 52 :=
      max_eq_left (by omega)
    have unit : (0 : ℚ) < 2 ^ exponentOf numerator denominator := by positivity
    have scaled : (2 : ℚ) ^ (52 : Int) ≤
        numerator / denominator / 2 ^ exponentOf numerator denominator := by
      rw [le_div_iff₀ unit, ← zpow_add₀ two_ne_zero, exponent, add_sub_cancel]
      exact low
    have whole : ((1 <<< 52 : Nat) : ℚ) = 2 ^ (52 : Int) := cast_one_shiftLeft 52
    have reached : ((1 <<< 52 : Nat) : ℚ) < (significandOf numerator denominator + 1 : Nat) := by
      rw [Nat.cast_succ, whole]
      linarith
    exact Nat.lt_succ_iff.mp (Nat.cast_lt.mp reached)

theorem exponentOf_le {power : Int} (above : 0 < numerator) (positive : 0 < denominator)
    (below : (numerator / denominator : ℚ) < 2 ^ power) (least : -1021 ≤ power) :
    exponentOf numerator denominator ≤ power - 53 := by
  obtain ⟨low, -⟩ := leadingPower_spec above positive
  have smaller := (zpow_lt_zpow_iff_right₀ (one_lt_two : (1 : ℚ) < 2)).mp (low.trans_lt below)
  rw [exponentOf]
  omega

theorem exists_nearestFinite? (negative : Bool) (above : 0 < numerator) (positive : 0 < denominator)
    (greatest : exponentOf numerator denominator ≤ 970) :
    ∃ number, nearestFinite? negative numerator denominator = some number ∧
      number.value = sign negative * (significandOf numerator denominator *
        2 ^ exponentOf numerator denominator) := by
  have least : -1074 ≤ exponentOf numerator denominator := le_max_right _ _
  have within := significandOf_le above positive
  have normal := le_significandOf above positive
  rw [nearestFinite?, if_neg above.ne']
  change ∃ number, (if significandOf numerator denominator = 1 <<< 53 then
      Finite.ofParts? negative (1 <<< 52) (exponentOf numerator denominator + 1)
    else Finite.ofParts? negative (significandOf numerator denominator)
      (exponentOf numerator denominator)) = some number ∧ _
  -- A carry leaves a power of two, which the next exponent holds without loss.
  by_cases carry : significandOf numerator denominator = 1 <<< 53
  · obtain ⟨number, found, same⟩ := Finite.ofParts?_value negative
      (by decide : 1 <<< 52 < 1 <<< 53) (by omega : -1074 ≤ exponentOf numerator denominator + 1)
      (by omega) (.inl le_rfl)
    refine ⟨number, (if_pos carry).trans found, ?_⟩
    have doubled : ((1 <<< 53 : Nat) : ℚ) = (1 <<< 52 : Nat) * 2 := by norm_num [Nat.shiftLeft_eq]
    rw [same, carry, zpow_add_one₀ two_ne_zero, doubled]
    ring
  · rw [if_neg carry]
    exact Finite.ofParts?_value negative (by omega) least (by omega) normal

theorem nearestFinite?_near (negative : Bool) {power : Int}
    (positive : 0 < denominator) (below : (numerator / denominator : ℚ) < 2 ^ power)
    (least : -1021 ≤ power) (greatest : power ≤ 1023) :
    ∃ number, nearestFinite? negative numerator denominator = some number ∧
      |number.value - sign negative * (numerator / denominator)| ≤ 2 ^ (power - 54) := by
  by_cases zero : numerator = 0
  · obtain ⟨number, found, same⟩ := Finite.ofParts?_value negative (by decide : 0 < 1 <<< 53)
      le_rfl (by decide) (.inr rfl)
    refine ⟨number, ?_, ?_⟩
    · rw [nearestFinite?, if_pos zero, found]
    · rw [same, zero]
      simp
      positivity
  · have above := Nat.pos_of_ne_zero zero
    have exponent := exponentOf_le above positive below least
    obtain ⟨number, found, same⟩ := exists_nearestFinite? negative above positive (by omega)
    have unit : (0 : ℚ) < 2 ^ exponentOf numerator denominator := by positivity
    have factored : number.value - sign negative * (numerator / denominator) =
        sign negative * ((significandOf numerator denominator -
          numerator / denominator / 2 ^ exponentOf numerator denominator) *
            2 ^ exponentOf numerator denominator) := by
      rw [same]
      field_simp
    refine ⟨number, found, ?_⟩
    rw [factored, abs_mul, abs_sign, one_mul, abs_mul, abs_of_pos unit]
    calc _ ≤ 1 / 2 * 2 ^ exponentOf numerator denominator :=
          mul_le_mul_of_nonneg_right (significandOf_near numerator positive) unit.le
      _ ≤ 1 / 2 * 2 ^ (power - 53) := by gcongr; exact one_le_two
      _ = 2 ^ (power - 54) := by
          rw [show power - 53 = power - 54 + 1 by omega, zpow_add_one₀ two_ne_zero]
          ring

end

theorem exists_ofRat {value : ℚ} {power : Int} (below : |value| < 2 ^ power)
    (least : -1021 ≤ power) (greatest : power ≤ 1023) :
    ∃ number, ofRat value = finite number ∧ |number.value - value| ≤ 2 ^ (power - 54) := by
  have parts := abs_eq_div value
  rw [parts] at below
  obtain ⟨number, found, near⟩ :=
    nearestFinite?_near (decide (value < 0)) value.den_pos below least greatest
  rw [← parts, sign_mul_abs] at near
  refine ⟨number, ?_, near⟩
  rw [ofRat, nearest, found]

theorem roundRat_eq_sign (value : ℚ) : (roundRat value : ℚ) =
    sign (decide (value < 0)) * roundQuotient value.num.natAbs value.den := by
  rw [roundRat, sign]
  by_cases negative : value < 0 <;> simp [negative]

theorem roundRat_near (value : ℚ) : |(roundRat value : ℚ) - value| ≤ 1 / 2 := by
  have near := roundQuotient_near value.num.natAbs value.den_pos
  rw [← abs_eq_div] at near
  calc |(roundRat value : ℚ) - value|
      = |sign (decide (value < 0)) *
          (roundQuotient value.num.natAbs value.den - |value|)| := by
        rw [mul_sub, sign_mul_abs, roundRat_eq_sign]
    _ ≤ 1 / 2 := by rwa [abs_mul, abs_sign, one_mul]

theorem roundRat_eq {value : ℚ} {whole : Int} (near : |value - whole| < 1 / 2) :
    roundRat value = whole := by
  have rounded := roundRat_near value
  have apart : |(roundRat value : ℚ) - whole| < 1 := by
    have sum := abs_sub_le (roundRat value : ℚ) value whole
    linarith
  have within : |roundRat value - whole| < 1 := by exact_mod_cast apart
  exact sub_eq_zero.mp (Int.abs_lt_one_iff.mp within)

end ThreadLab.Binary64
