import ThreadLab.Proofs.Binary64.Nearest

namespace ThreadLab.Binary64

theorem even_roundQuotient_of_halfway {numerator denominator half : Nat}
    (positive : 0 < denominator) (halfway : 2 * numerator = (2 * half + 1) * denominator) :
    roundQuotient numerator denominator % 2 = 0 := by
  have split := Nat.div_add_mod numerator denominator
  have below := Nat.mod_lt numerator positive
  have expanded : (2 * half + 1) * denominator = 2 * (half * denominator) + denominator := by ring
  have quotient : numerator / denominator = half := by
    rw [Nat.div_eq_iff positive]
    omega
  have rest : 2 * (numerator % denominator) = denominator := by
    rw [quotient, Nat.mul_comm] at split
    omega
  rw [roundQuotient, quotient]
  split <;> omega

theorem twice_eq_of_halfway {numerator denominator half : Nat} (positive : 0 < denominator)
    (middle : (numerator / denominator : ℚ) = (2 * half + 1) / 2) :
    2 * numerator = (2 * half + 1) * denominator := by
  have size : (denominator : ℚ) ≠ 0 := Nat.cast_ne_zero.mpr positive.ne'
  rw [div_eq_div_iff size two_ne_zero] at middle
  have cast : (2 * numerator : ℚ) = (2 * half + 1) * denominator := by linarith
  exact_mod_cast cast

theorem roundQuotient_mono {numerator denominator numerator' denominator' : Nat}
    (positive : 0 < denominator) (positive' : 0 < denominator')
    (ordered : (numerator / denominator : ℚ) ≤ numerator' / denominator') :
    roundQuotient numerator denominator ≤ roundQuotient numerator' denominator' := by
  by_contra above
  -- The order could only be lost where both fractions are halfway between the same numbers, and
  -- there both go to the even one.
  have near := abs_le.mp (roundQuotient_near numerator positive)
  have near' := abs_le.mp (roundQuotient_near numerator' positive')
  have even := @even_roundQuotient_of_halfway numerator denominator
    (roundQuotient numerator' denominator') positive
  have even' := @even_roundQuotient_of_halfway numerator' denominator'
    (roundQuotient numerator' denominator') positive'
  generalize roundQuotient numerator denominator = high at *
  generalize roundQuotient numerator' denominator' = low at *
  have apart : (low + 1 : ℚ) ≤ high := by exact_mod_cast not_le.mp above
  have middle : (numerator / denominator : ℚ) = (2 * low + 1) / 2 := by linarith
  have middle' : (numerator' / denominator' : ℚ) = (2 * low + 1) / 2 := by linarith
  have next : high = low + 1 := by
    have cast : (high : ℚ) = low + 1 := by linarith
    exact_mod_cast cast
  have first := even (twice_eq_of_halfway positive middle)
  have second := even' (twice_eq_of_halfway positive' middle')
  omega

def magnitude (numerator denominator : Nat) : ℚ :=
  significandOf numerator denominator * 2 ^ exponentOf numerator denominator

theorem magnitude_nonneg (numerator denominator : Nat) : 0 ≤ magnitude numerator denominator := by
  unfold magnitude
  positivity

theorem roundQuotient_zero (denominator : Nat) : roundQuotient 0 denominator = 0 := by
  rw [roundQuotient, Nat.zero_div, Nat.zero_mod]
  split <;> omega

theorem magnitude_zero (denominator : Nat) : magnitude 0 denominator = 0 := by
  simp [magnitude, significandOf, roundQuotient_zero]

theorem leadingPower_mono {numerator denominator numerator' denominator' : Nat}
    (above : 0 < numerator) (positive : 0 < denominator) (above' : 0 < numerator')
    (positive' : 0 < denominator')
    (ordered : (numerator / denominator : ℚ) ≤ numerator' / denominator') :
    leadingPower numerator denominator ≤ leadingPower numerator' denominator' := by
  have low := (leadingPower_spec above positive).1
  have high := (leadingPower_spec above' positive').2
  have powers := (low.trans ordered).trans_lt high
  have less := (zpow_lt_zpow_iff_right₀ (one_lt_two : (1 : ℚ) < 2)).mp powers
  omega

theorem magnitude_le_of_same {numerator denominator numerator' denominator' : Nat}
    (positive : 0 < denominator) (positive' : 0 < denominator')
    (ordered : (numerator / denominator : ℚ) ≤ numerator' / denominator')
    (same : exponentOf numerator denominator = exponentOf numerator' denominator') :
    magnitude numerator denominator ≤ magnitude numerator' denominator' := by
  have unit : (0 : ℚ) < 2 ^ exponentOf numerator' denominator' := by positivity
  have scaled := div_le_div_of_nonneg_right ordered unit.le
  rw [← shifted_quotient numerator', ← same, ← shifted_quotient numerator] at scaled
  have significands : significandOf numerator denominator ≤
      significandOf numerator' denominator' := by
    unfold significandOf
    rw [← same]
    exact roundQuotient_mono (shiftLeft_pos positive _) (shiftLeft_pos positive' _) scaled
  unfold magnitude
  rw [same]
  gcongr

theorem magnitude_le_of_finer {numerator denominator numerator' denominator' : Nat}
    (above : 0 < numerator) (positive : 0 < denominator) (above' : 0 < numerator')
    (positive' : 0 < denominator')
    (finer : exponentOf numerator denominator < exponentOf numerator' denominator') :
    magnitude numerator denominator ≤ magnitude numerator' denominator' := by
  have next : exponentOf numerator denominator + 1 ≤ exponentOf numerator' denominator' := finer
  have least : -1074 ≤ exponentOf numerator denominator := le_max_right _ _
  have within := significandOf_le above positive
  have reached : 1 <<< 52 ≤ significandOf numerator' denominator' :=
    (le_significandOf above' positive').resolve_right (by omega)
  have unit : (0 : ℚ) < 2 ^ exponentOf numerator denominator := by positivity
  calc (significandOf numerator denominator : ℚ) * 2 ^ exponentOf numerator denominator
      ≤ ((1 <<< 53 : Nat) : ℚ) * 2 ^ exponentOf numerator denominator :=
        mul_le_mul_of_nonneg_right (Nat.cast_le.mpr within) unit.le
    _ = ((1 <<< 52 : Nat) : ℚ) * 2 ^ (exponentOf numerator denominator + 1) := by
        rw [cast_one_shiftLeft, cast_one_shiftLeft, ← zpow_add₀ two_ne_zero,
          ← zpow_add₀ two_ne_zero]
        congr 1
        push_cast
        omega
    _ ≤ (significandOf numerator' denominator' : ℚ) *
        2 ^ exponentOf numerator' denominator' := by
        gcongr
        exact one_le_two

theorem magnitude_mono {numerator denominator numerator' denominator' : Nat}
    (positive : 0 < denominator) (positive' : 0 < denominator')
    (ordered : (numerator / denominator : ℚ) ≤ numerator' / denominator') :
    magnitude numerator denominator ≤ magnitude numerator' denominator' := by
  have size : (0 : ℚ) < denominator := Nat.cast_pos.mpr positive
  by_cases zero : numerator = 0
  · rw [zero, magnitude_zero]
    exact magnitude_nonneg _ _
  have above := Nat.pos_of_ne_zero zero
  have above' : 0 < numerator' := by
    by_contra none
    have zero' : numerator' = 0 := by omega
    have fraction : (0 : ℚ) < numerator / denominator := by positivity
    rw [zero', Nat.cast_zero, zero_div] at ordered
    exact absurd ordered (not_le.mpr fraction)
  have powers := leadingPower_mono above positive above' positive' ordered
  have exponents : exponentOf numerator denominator ≤ exponentOf numerator' denominator' :=
    max_le_max_right _ (by omega)
  rcases exponents.eq_or_lt with same | finer
  · exact magnitude_le_of_same positive positive' ordered same
  · exact magnitude_le_of_finer above positive above' positive' finer

theorem Finite.value_of_ofParts? {negative : Bool} {significand : Nat} {exponent : Int}
    {number : Finite} (found : ofParts? negative significand exponent = some number) :
    number.value = sign negative * (significand * 2 ^ exponent) := by
  unfold ofParts? at found
  split at found
  · cases found
    exact value_eq _
  · cases found

theorem value_of_nearestFinite? {negative : Bool} {numerator denominator : Nat}
    {number : Finite} (found : nearestFinite? negative numerator denominator = some number) :
    number.value = sign negative * magnitude numerator denominator := by
  rw [nearestFinite?] at found
  split at found
  · rename_i zero
    rw [Finite.value_of_ofParts? found, zero, magnitude_zero]
    simp
  · change (if significandOf numerator denominator = 1 <<< 53 then
        Finite.ofParts? negative (1 <<< 52) (exponentOf numerator denominator + 1)
      else Finite.ofParts? negative (significandOf numerator denominator)
        (exponentOf numerator denominator)) = some number at found
    split at found
    · rename_i carry
      rw [Finite.value_of_ofParts? found, magnitude, carry, cast_one_shiftLeft, cast_one_shiftLeft,
        ← zpow_add₀ two_ne_zero, ← zpow_add₀ two_ne_zero]
      congr 2
      push_cast
      omega
    · exact Finite.value_of_ofParts? found

theorem value_of_ofRat {value : ℚ} {number : Finite} (found : ofRat value = finite number) :
    number.value = sign (decide (value < 0)) * magnitude value.num.natAbs value.den := by
  rw [ofRat, nearest] at found
  split at found
  · rename_i number' nearest
    cases found
    exact value_of_nearestFinite? nearest
  · cases found

theorem sign_mul_mono {left right size size' : ℚ} (ordered : left ≤ right) (some : 0 ≤ size)
    (some' : 0 ≤ size') (rises : |left| ≤ |right| → size ≤ size')
    (falls : |right| ≤ |left| → size' ≤ size) :
    sign (decide (left < 0)) * size ≤ sign (decide (right < 0)) * size' := by
  by_cases below : right < 0
  · have less := ordered.trans_lt below
    have smaller := falls (abs_le_abs_of_nonpos below.le ordered)
    simp [sign, below, less, smaller]
  · by_cases negative : left < 0
    · simp only [sign, below, negative, decide_true, decide_false, Bool.false_eq_true, if_true,
        if_false]
      linarith
    · have greater := rises (abs_le_abs_of_nonneg (not_lt.mp negative) ordered)
      simp [sign, below, negative, greater]

theorem value_ofRat_mono {left right : ℚ} {number number' : Finite} (ordered : left ≤ right)
    (found : ofRat left = finite number) (found' : ofRat right = finite number') :
    number.value ≤ number'.value := by
  rw [value_of_ofRat found, value_of_ofRat found']
  apply sign_mul_mono ordered (magnitude_nonneg _ _) (magnitude_nonneg _ _)
  · intro sizes
    rw [abs_eq_div, abs_eq_div] at sizes
    exact magnitude_mono left.den_pos right.den_pos sizes
  · intro sizes
    rw [abs_eq_div, abs_eq_div] at sizes
    exact magnitude_mono right.den_pos left.den_pos sizes

theorem roundRat_mono {left right : ℚ} (ordered : left ≤ right) : roundRat left ≤ roundRat right := by
  have cast : (roundRat left : ℚ) ≤ roundRat right := by
    rw [roundRat_eq_sign, roundRat_eq_sign]
    apply sign_mul_mono ordered (Nat.cast_nonneg _) (Nat.cast_nonneg _)
    · intro sizes
      rw [abs_eq_div, abs_eq_div] at sizes
      exact_mod_cast roundQuotient_mono left.den_pos right.den_pos sizes
    · intro sizes
      rw [abs_eq_div, abs_eq_div] at sizes
      exact_mod_cast roundQuotient_mono right.den_pos left.den_pos sizes
  exact_mod_cast cast

theorem nearestRat_of_finite {value : ℚ} {number : Finite} (found : ofRat value = finite number) :
    nearestRat value = number.value := by
  rw [nearestRat, found]

theorem exists_finite {value : ℚ} (below : |value| < 2 ^ (1023 : Int)) :
    ∃ number, ofRat value = finite number := by
  obtain ⟨number, found, -⟩ := exists_ofRat below (by decide) le_rfl
  exact ⟨number, found⟩

theorem abs_lt_of_lt {value : ℚ} {bits : Nat} (positive : 0 ≤ value) (below : value < 2 ^ bits)
    (small : bits ≤ 1023) : |value| < 2 ^ (1023 : Int) := by
  have power : (2 : ℚ) ^ bits ≤ 2 ^ 1023 := pow_le_pow_right₀ one_le_two small
  rw [abs_of_nonneg positive]
  exact below.trans_le power

theorem nearestRat_mono {left right : ℚ} (below : |left| < 2 ^ (1023 : Int))
    (below' : |right| < 2 ^ (1023 : Int)) (ordered : left ≤ right) :
    nearestRat left ≤ nearestRat right := by
  obtain ⟨number, found⟩ := exists_finite below
  obtain ⟨number', found'⟩ := exists_finite below'
  rw [nearestRat_of_finite found, nearestRat_of_finite found']
  exact value_ofRat_mono ordered found found'

theorem roundQuotient_one (numerator : Nat) : roundQuotient numerator 1 = numerator := by
  simp [roundQuotient, Nat.mod_one]

/-- Whole numbers of at most 53 bits are numbers of 64 bits. -/
theorem magnitude_of_whole {size : Nat} (above : 0 < size) (below : size < 2 ^ 53) :
    magnitude size 1 = size := by
  have limit : (size / (1 : Nat) : ℚ) < 2 ^ (53 : Int) := by
    rw [Nat.cast_one, div_one, zpow_ofNat]
    exact_mod_cast below
  have exponent := exponentOf_le above Nat.one_pos limit (by decide)
  have unshifted : (1 : Nat) <<< (exponentOf size 1).toNat = 1 := by
    rw [Int.toNat_eq_zero.mpr exponent]
    rfl
  have scaled := shifted_quotient size 1 (exponentOf size 1)
  rw [unshifted, Nat.cast_one, div_one, div_one] at scaled
  rw [magnitude, significandOf, unshifted, roundQuotient_one, scaled]
  exact div_mul_cancel₀ _ (zpow_ne_zero _ two_ne_zero)

theorem nearestRat_of_whole {size : Nat} (below : size < 2 ^ 53) : nearestRat size = size := by
  have cast : (size : ℚ) < 2 ^ 53 := by exact_mod_cast below
  obtain ⟨number, found⟩ := exists_finite (abs_lt_of_lt (Nat.cast_nonneg size) cast (by decide))
  have positive : ¬(size : ℚ) < 0 := not_lt.mpr (Nat.cast_nonneg size)
  rw [nearestRat_of_finite found, value_of_ofRat found, decide_eq_false positive, Rat.num_natCast,
    Rat.den_natCast, Int.natAbs_natCast, sign, if_neg (by decide), one_mul]
  rcases Nat.eq_zero_or_pos size with rfl | above
  · exact_mod_cast magnitude_zero 1
  · exact magnitude_of_whole above below

/-- Whole numbers of this size stay as they are, and rounding keeps the order. -/
theorem nearestRat_between {value : ℚ} {whole : Nat} (small : whole + 1 < 2 ^ 53)
    (low : (whole : ℚ) ≤ value) (high : value ≤ (whole + 1 : Nat)) :
    (whole : ℚ) ≤ nearestRat value ∧ nearestRat value ≤ (whole + 1 : Nat) := by
  have next : ((whole + 1 : Nat) : ℚ) < 2 ^ 53 := by exact_mod_cast small
  have positive : 0 ≤ value := (Nat.cast_nonneg whole).trans low
  have wide := abs_lt_of_lt positive (high.trans_lt next) (by decide)
  have down := abs_lt_of_lt (Nat.cast_nonneg whole) ((low.trans high).trans_lt next) (by decide)
  have up := abs_lt_of_lt (Nat.cast_nonneg (whole + 1)) next (by decide)
  have floor := nearestRat_mono down wide low
  have ceil := nearestRat_mono wide up high
  rw [nearestRat_of_whole (by omega)] at floor ceil
  exact ⟨floor, ceil⟩

theorem Finite.even_of_large {number : Finite} (large : 2 ^ 53 ≤ number.value) :
    ∃ half : Int, number.value = (2 * half : Int) := by
  have size : (number.significand : ℚ) < 2 ^ 53 := by exact_mod_cast number.significand_lt
  have value := value_eq number
  rcases Int.lt_or_le 0 number.exponent with positive | small
  · obtain ⟨power, same⟩ := Int.eq_ofNat_of_zero_le (Int.le_sub_one_of_lt positive)
    have exponent : number.exponent = (power + 1 : Nat) := by omega
    refine ⟨(if number.negative then -1 else 1) * (number.significand * 2 ^ power), ?_⟩
    rw [value, exponent, zpow_natCast, pow_succ, sign]
    push_cast
    ring
  · have least : (2 : ℚ) ^ number.exponent ≤ 1 := zpow_le_one_of_nonpos₀ one_le_two small
    have below : |number.value| ≤ number.significand := by
      rw [value, abs_mul, abs_sign, one_mul, abs_mul, Nat.abs_cast, abs_of_pos (by positivity)]
      exact mul_le_of_le_one_right (Nat.cast_nonneg _) least
    have close := le_abs_self number.value
    linarith

end ThreadLab.Binary64
