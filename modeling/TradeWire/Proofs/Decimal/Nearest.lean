import Mathlib.Data.Int.Log
import Mathlib.Tactic
import TradeWire.Proofs.Decimal.Rounding
import TradeWire.Proofs.Decimal.Written

/-!
# The double nearest to a value

The rank of a quotient depends on its value alone, however numerator and denominator are given
(`rankOfRatio_congr`), and so does the rank of a decimal (`rankOfDecimal_congr`): logarithms and
rounding are those of the rational number. A value that belongs to a rank has this rank
(`rankOfRatio_ratio`), so that the shortest decimal of a double is read as it
(`rankOfDecimal_shortest`).
-/

namespace TradeWire

namespace Double

/-! ## Logarithms -/

theorem log_eq_of_between {b : Nat} (base : 1 < b) {r : ℚ} {e : Int} (least : (b : ℚ) ^ e ≤ r)
    (most : r < (b : ℚ) ^ (e + 1)) : Int.log b r = e := by
  have positive : 0 < r := (zpow_pos (by exact_mod_cast Nat.zero_lt_of_lt base) e).trans_le least
  have low := (Int.zpow_le_iff_le_log base positive).mp least
  have high := (Int.lt_zpow_iff_log_lt base positive).mp most
  omega

/-- The comparison that decides between the two candidates of a binary logarithm. -/
theorem reached_iff {num den : Nat} (positive : 0 < den) (e : Int) :
    (if 0 ≤ e then den * Nat.pow 2 e.toNat ≤ num else den ≤ num * Nat.pow 2 (-e).toNat) ↔
      (2 : ℚ) ^ e ≤ num / den := by
  have some : (0 : ℚ) < den := by exact_mod_cast positive
  rw [le_div_iff₀ some]
  split_ifs with large
  · obtain ⟨k, rfl⟩ := Int.eq_ofNat_of_zero_le large
    rw [Int.toNat_natCast, zpow_natCast, mul_comm, ← Nat.cast_le (α := ℚ), Nat.cast_mul]
    simp
  · obtain ⟨k, rfl⟩ : ∃ k : Nat, e = -(k : Int) := ⟨(-e).toNat, by omega⟩
    rw [neg_neg, Int.toNat_natCast, zpow_neg, zpow_natCast, inv_mul_le_iff₀ (by positivity),
      mul_comm, ← Nat.cast_le (α := ℚ)]
    simp

theorem floorLog2_eq_log {num den : Nat} (some : 0 < num) (positive : 0 < den) :
    floorLog2 num den = Int.log 2 ((num : ℚ) / den) := by
  -- the logarithms of numerator and denominator leave two candidates
  have given : (0 : ℚ) < den := by exact_mod_cast positive
  have numLow : (2 : ℚ) ^ (Nat.log2 num : Int) ≤ num := by
    exact_mod_cast Nat.log2_self_le some.ne'
  have numHigh : (num : ℚ) < 2 ^ ((Nat.log2 num : Int) + 1) := by
    exact_mod_cast (Nat.lt_log2_self (n := num))
  have denLow : (2 : ℚ) ^ (Nat.log2 den : Int) ≤ den := by
    exact_mod_cast Nat.log2_self_le positive.ne'
  have denHigh : (den : ℚ) < 2 ^ ((Nat.log2 den : Int) + 1) := by
    exact_mod_cast (Nat.lt_log2_self (n := den))
  unfold floorLog2
  simp only [reached_iff positive]
  generalize (Nat.log2 num : Int) = a at *
  generalize (Nat.log2 den : Int) = b at *
  have least : (2 : ℚ) ^ (a - b - 1) ≤ num / den := by
    rw [le_div_iff₀ given]
    calc (2 : ℚ) ^ (a - b - 1) * den ≤ 2 ^ (a - b - 1) * 2 ^ (b + 1) := by gcongr
      _ = 2 ^ a := by rw [← zpow_add₀ two_ne_zero]; congr 1; ring
      _ ≤ num := numLow
  have most : (num : ℚ) / den < 2 ^ (a - b + 1) := by
    rw [div_lt_iff₀ given]
    calc (num : ℚ) < 2 ^ (a + 1) := numHigh
      _ = 2 ^ (a - b + 1) * 2 ^ b := by rw [← zpow_add₀ two_ne_zero]; congr 1; ring
      _ ≤ 2 ^ (a - b + 1) * den := by gcongr
  split_ifs with reached
  · exact (log_eq_of_between one_lt_two reached most).symm
  · rw [not_le, ← Int.sub_add_cancel (a - b) 1] at reached
    exact (log_eq_of_between one_lt_two least reached).symm

/-! ## Rounded quotients -/

theorem roundedQuotient_mul {num den k : Nat} (positive : 0 < k) :
    roundedQuotient (k * num) (k * den) = roundedQuotient num den := by
  have twice : 2 * (k * (num % den)) = k * (2 * (num % den)) := by ring
  unfold roundedQuotient
  simp only [Nat.mul_div_mul_left _ _ positive, Nat.mul_mod_mul_left, twice,
    Nat.mul_lt_mul_left positive, Nat.mul_right_inj positive.ne']

theorem roundedQuotient_congr {num den num' den' : Nat} (positive : 0 < den) (positive' : 0 < den')
    (same : num * den' = num' * den) : roundedQuotient num den = roundedQuotient num' den' := by
  rw [← roundedQuotient_mul positive', ← @roundedQuotient_mul num' den' den positive,
    Nat.mul_comm den' num, same, Nat.mul_comm den' den, Nat.mul_comm num' den]

theorem roundedQuotient_of_whole {m den : Nat} (positive : 0 < den) :
    roundedQuotient (m * den) den = m := by
  unfold roundedQuotient
  simp only [Nat.mul_div_cancel m positive, Nat.mul_mod_left, Nat.mul_zero]
  rw [if_pos (.inl positive)]

/-! ## Ranks of quotients -/

/-- The power of two of the least step between the doubles around a value. -/
def stepExponent (value : ℚ) : Int := max (-1074) (Int.log 2 value - 52)

theorem rankOfRatio_eq {num den : Nat} (some : 0 < num) (positive : 0 < den) :
    rankOfRatio num den =
      let q := stepExponent ((num : ℚ) / den)
      (q + 1074).toNat * fractions +
        roundedQuotient (num * Nat.pow 2 (-q).toNat) (den * Nat.pow 2 q.toNat) := by
  unfold rankOfRatio stepExponent
  simp only [floorLog2_eq_log some positive]
  generalize max (-1074) (Int.log 2 ((num : ℚ) / den) - 52) = q
  split_ifs with large
  · have none : (-q).toNat = 0 := by omega
    rw [none]
    exact congrArg _ (congrArg (roundedQuotient · _) (Nat.mul_one num).symm)
  · have none : q.toNat = 0 := by omega
    rw [none]
    exact congrArg _ (congrArg (roundedQuotient _) (Nat.mul_one den).symm)

theorem rankOfRatio_congr {num den num' den' : Nat} (some : 0 < num) (positive : 0 < den)
    (positive' : 0 < den') (same : num * den' = num' * den) :
    rankOfRatio num den = rankOfRatio num' den' := by
  have some' : 0 < num' := by
    have product := Nat.mul_pos some positive'
    rw [same] at product
    exact Nat.pos_of_mul_pos_right product
  have value : (num : ℚ) / den = num' / den' := by
    rw [div_eq_div_iff (by positivity) (by positivity)]
    exact_mod_cast same
  rw [rankOfRatio_eq some positive, rankOfRatio_eq some' positive', value]
  refine congrArg _ (roundedQuotient_congr (Nat.mul_pos positive (two_pow_pos _))
    (Nat.mul_pos positive' (two_pow_pos _)) ?_)
  generalize Nat.pow 2 _ = up
  generalize Nat.pow 2 _ = down
  linear_combination up * down * same

/-! ## Values of ranks -/

variable {rank : Nat}

def valueAt (rank : Nat) : ℚ := significand rank * (2 : ℚ) ^ exponent rank

theorem exponent_ge (rank : Nat) : -1074 ≤ exponent rank := by
  have unit : 0 < fractions := by decide
  unfold exponent
  split_ifs with small
  · exact le_rfl
  · have one : 1 ≤ rank / fractions := (Nat.one_le_div_iff unit).mpr (Nat.not_lt.mp small)
    omega

theorem significand_pos (some : 0 < rank) : 0 < significand rank := by
  have unit : 0 < fractions := by decide
  unfold significand
  split_ifs <;> omega

theorem ratio_den_pos (rank : Nat) : 0 < (ratio rank).2 := by
  unfold ratio
  simp only
  split_ifs
  · exact one_pos
  · exact two_pow_pos _

theorem ratio_num_pos (some : 0 < rank) : 0 < (ratio rank).1 := by
  unfold ratio
  simp only
  split_ifs
  · exact Nat.mul_pos (significand_pos some) (two_pow_pos _)
  · exact significand_pos some

theorem ratio_eq_valueAt (rank : Nat) : ((ratio rank).1 : ℚ) / (ratio rank).2 = valueAt rank := by
  unfold ratio valueAt
  simp only
  split_ifs with large
  · obtain ⟨k, exponent⟩ := Int.eq_ofNat_of_zero_le large
    rw [exponent]
    simp
  · obtain ⟨k, exponent⟩ : ∃ k : Nat, exponent rank = -(k : Int) :=
      ⟨(-exponent rank).toNat, by omega⟩
    rw [exponent]
    simp [div_eq_mul_inv]

theorem valueAt_pos (some : 0 < rank) : 0 < valueAt rank :=
  mul_pos (by exact_mod_cast significand_pos some) (zpow_pos two_pos _)

theorem stepExponent_valueAt (some : 0 < rank) : stepExponent (valueAt rank) = exponent rank := by
  have unit : fractions = 2 ^ 52 := by decide
  have factor : (0 : ℚ) < significand rank := by exact_mod_cast significand_pos some
  have small : (significand rank : ℚ) < 2 ^ (53 : Int) := by
    have bound := significand_lt rank
    rw [unit, ← pow_succ'] at bound
    exact_mod_cast bound
  have below : valueAt rank < 2 ^ (exponent rank + 53) := by
    rw [valueAt, Int.add_comm, zpow_add₀ two_ne_zero]
    gcongr
  have most := (Int.lt_zpow_iff_log_lt one_lt_two (valueAt_pos some)).mp below
  have least := exponent_ge rank
  unfold stepExponent
  by_cases normal : rank < fractions
  · have last : exponent rank = -1074 := if_pos normal
    omega
  · have large : (2 : ℚ) ^ (52 : Int) ≤ significand rank := by
      have bound : fractions ≤ significand rank := by
        rw [significand, if_neg normal]
        exact Nat.le_add_right ..
      rw [unit] at bound
      exact_mod_cast bound
    have above : (2 : ℚ) ^ (exponent rank + 52) ≤ valueAt rank := by
      rw [valueAt, Int.add_comm, zpow_add₀ two_ne_zero]
      gcongr
    have reached := (Int.zpow_le_iff_le_log one_lt_two (valueAt_pos some)).mp above
    omega

theorem rank_eq (rank : Nat) :
    (exponent rank + 1074).toNat * fractions + significand rank = rank := by
  have unit : 0 < fractions := by decide
  have split := Nat.div_add_mod rank fractions
  unfold exponent significand
  split_ifs with small
  · rw [show (-1074 + 1074 : Int).toNat = 0 by decide, Nat.zero_mul, Nat.zero_add]
  · have one : 1 ≤ rank / fractions := (Nat.one_le_div_iff unit).mpr (Nat.not_lt.mp small)
    obtain ⟨k, quotient⟩ := Nat.exists_eq_add_of_le' one
    rw [quotient] at split ⊢
    rw [show ((k + 1 : Nat) - 1075 + 1074 : Int).toNat = k by omega]
    linarith

/-- **A value that belongs to a rank is nearest to it.** -/
theorem rankOfRatio_ratio (some : 0 < rank) :
    rankOfRatio (ratio rank).1 (ratio rank).2 = rank := by
  rw [rankOfRatio_eq (ratio_num_pos some) (ratio_den_pos rank), ratio_eq_valueAt,
    stepExponent_valueAt some]
  conv_rhs => rw [← rank_eq rank]
  refine congrArg _ ?_
  unfold ratio
  simp only
  split_ifs with large
  · have none : (-exponent rank).toNat = 0 := by omega
    rw [none]
    simpa using roundedQuotient_of_whole (two_pow_pos (exponent rank).toNat)
  · have none : (exponent rank).toNat = 0 := by omega
    rw [none]
    simpa using roundedQuotient_of_whole (two_pow_pos (-exponent rank).toNat)

end Double

/-! ## Decimals -/

namespace Decimal

def value (d : Decimal) : ℚ := d.coefficient * (10 : ℚ) ^ d.power

end Decimal

namespace Double

theorem decimalLength_eq {n : Nat} (some : 0 < n) :
    (decimalLength n : Int) = Int.log 10 (n : ℚ) + 1 := by
  have given : 0 < (Nat.toDigits 10 n).length := Nat.length_toDigits_pos
  rw [decimalLength, if_neg some.ne']
  have high : n < 10 ^ (Nat.toDigits 10 n).length :=
    (Nat.length_toDigits_le_iff (by decide) given).mp le_rfl
  have low : 10 ^ ((Nat.toDigits 10 n).length - 1) ≤ n := by
    rcases Nat.eq_zero_or_pos ((Nat.toDigits 10 n).length - 1) with one | more
    · rw [one]
      exact some
    · by_contra small
      have few := (Nat.length_toDigits_le_iff (by decide) more).mpr (Nat.not_le.mp small)
      omega
  obtain ⟨k, length⟩ := Nat.exists_eq_add_of_le' given
  rw [length] at low high ⊢
  rw [@log_eq_of_between 10 (by decide) n k (by exact_mod_cast low) (by exact_mod_cast high)]
  rfl

theorem decimalLength_add {c : Nat} (some : 0 < c) (p : Int) :
    (decimalLength c : Int) + p = Int.log 10 (Decimal.value ⟨c, p⟩) + 1 := by
  have positive : (0 : ℚ) < c := by exact_mod_cast some
  have shifted : Int.log 10 (Decimal.value ⟨c, p⟩) = Int.log 10 (c : ℚ) + p := by
    have ten : (0 : ℚ) < 10 ^ p := zpow_pos (by norm_num) p
    refine log_eq_of_between (by decide) ?_ ?_
    · rw [Nat.cast_ofNat, zpow_add₀ (by norm_num)]
      exact mul_le_mul_of_nonneg_right (Int.zpow_log_le_self (by decide) positive) ten.le
    · rw [Nat.cast_ofNat, add_right_comm, zpow_add₀ (by norm_num)]
      exact mul_lt_mul_of_pos_right (Int.lt_zpow_succ_log_self (by decide) _) ten
  rw [decimalLength_eq some, shifted]
  ring

theorem zpow_neg_le {a b j k : Nat} (some : 0 < a) (h : Nat.pow a j ≤ Nat.pow b k) :
    (b : ℚ) ^ (-(k : Int)) ≤ (a : ℚ) ^ (-(j : Int)) := by
  rw [zpow_neg, zpow_neg, zpow_natCast, zpow_natCast]
  exact inv_anti₀ (pow_pos (by exact_mod_cast some) j) (by exact_mod_cast h)

theorem zpow_lt {a b j k : Nat} (h : Nat.pow a j < Nat.pow b k) :
    (a : ℚ) ^ (j : Int) < (b : ℚ) ^ (k : Int) := by
  rw [zpow_natCast, zpow_natCast]
  exact_mod_cast h

/-- The decimal exponents of the doubles, within those that `rankOfDecimal` looks at. -/
theorem log_valueAt_mem (some : 0 < rank) (finite : rank < rankLimit) :
    -324 ≤ Int.log 10 (valueAt rank) ∧ Int.log 10 (valueAt rank) < 309 := by
  have factor : (1 : ℚ) ≤ significand rank := by exact_mod_cast significand_pos some
  have bound : (significand rank : ℚ) ≤ 2 ^ (53 : Int) := by
    have small := significand_lt rank
    have unit : 2 * fractions = 2 ^ 53 := by decide
    rw [unit] at small
    exact_mod_cast small.le
  constructor
  · refine (Int.zpow_le_iff_le_log (by decide) (valueAt_pos some)).mp ?_
    calc ((10 : Nat) : ℚ) ^ (-324 : Int) ≤ (2 : ℚ) ^ (-1074 : Int) :=
          @zpow_neg_le 2 10 1074 324 two_pos (by decide +kernel)
      _ ≤ 2 ^ exponent rank := zpow_le_zpow_right₀ one_le_two (exponent_ge rank)
      _ ≤ valueAt rank := le_mul_of_one_le_left (zpow_pos two_pos _).le factor
  · refine (Int.lt_zpow_iff_log_lt (by decide) (valueAt_pos some)).mp ?_
    calc valueAt rank ≤ (2 : ℚ) ^ (53 : Int) * 2 ^ (971 : Int) :=
          mul_le_mul bound (zpow_le_zpow_right₀ one_le_two (exponent_le finite))
            (zpow_pos two_pos _).le (zpow_pos two_pos _).le
      _ = 2 ^ (1024 : Int) := by rw [← zpow_add₀ two_ne_zero]; rfl
      _ < ((10 : Nat) : ℚ) ^ (309 : Int) := @zpow_lt 2 10 1024 309 (by decide +kernel)

end Double

namespace Decimal

theorem value_eq_zero_iff {d : Decimal} : d.value = 0 ↔ d.coefficient = 0 := by
  rw [value, mul_eq_zero_iff_right (zpow_pos (by norm_num) _).ne']
  exact Nat.cast_eq_zero

theorem exists_value_eq_div (d : Decimal) : ∃ num den : Nat, 0 < den ∧ d.value = num / den := by
  rcases Int.eq_nat_or_neg d.power with ⟨k, whole | split⟩
  · exact ⟨d.coefficient * 10 ^ k, 1, one_pos, by rw [value, whole]; simp⟩
  · exact ⟨d.coefficient, 10 ^ k, by positivity, by rw [value, split]; simp [div_eq_mul_inv]⟩

/-- The nearest rank is that of the value as any quotient, unless the value is too small or too
large for every double. -/
theorem rankOfDecimal_eq {d : Decimal} {num den : Nat} (given : d.coefficient ≠ 0)
    (positive : 0 < den) (same : d.value = num / den) :
    Double.rankOfDecimal d.coefficient d.power =
      let length := Int.log 10 d.value + 1
      if length < -330 then 0
      else if 310 < length then Double.rankLimit
      else Double.rankOfRatio num den := by
  have denominator : (den : ℚ) ≠ 0 := by exact_mod_cast positive.ne'
  have product : (d.coefficient : ℚ) * 10 ^ d.power * den = num := by
    rwa [value, eq_div_iff denominator] at same
  have some := Nat.pos_of_ne_zero given
  have length := Double.decimalLength_add some d.power
  rw [Double.rankOfDecimal]
  simp only [given, false_or, length]
  refine if_congr Iff.rfl rfl (if_congr Iff.rfl rfl ?_)
  split_ifs with whole
  · refine Double.rankOfRatio_congr (Nat.mul_pos some (Nat.pow_pos (by decide))) one_pos
      positive ?_
    rw [← Int.toNat_of_nonneg whole, zpow_natCast] at product
    rw [Nat.mul_one]
    exact_mod_cast product
  · refine Double.rankOfRatio_congr some (Nat.pow_pos (by decide)) positive ?_
    have minus : d.power = -((-d.power).toNat : Int) := by omega
    rw [minus, zpow_neg, zpow_natCast, ← div_eq_mul_inv, div_mul_eq_mul_div,
      div_eq_iff (by positivity)] at product
    exact_mod_cast product

/-- **Decimals of the same value have the same nearest double, whatever their digits are.** -/
theorem rankOfDecimal_congr {d d' : Decimal} (same : d.value = d'.value) :
    Double.rankOfDecimal d.coefficient d.power = Double.rankOfDecimal d'.coefficient d'.power := by
  by_cases zero : d.value = 0
  · rw [value_eq_zero_iff.mp zero, value_eq_zero_iff.mp (same.symm.trans zero),
      rankOfDecimal_zero, rankOfDecimal_zero]
  · have zero' : d'.value ≠ 0 := same ▸ zero
    obtain ⟨num, den, positive, quotient⟩ := exists_value_eq_div d'
    rw [rankOfDecimal_eq (mt value_eq_zero_iff.mpr zero) positive (same.trans quotient),
      rankOfDecimal_eq (mt value_eq_zero_iff.mpr zero') positive quotient, same]

variable {rank : Nat}

theorem value_exact (rank : Nat) : (exact rank).value = Double.valueAt rank := by
  unfold exact
  simp only
  split_ifs with large
  · obtain ⟨k, exponent⟩ := Int.eq_ofNat_of_zero_le large
    rw [value, Double.valueAt, exponent]
    simp
  · obtain ⟨k, exponent⟩ : ∃ k : Nat, Double.exponent rank = -(k : Int) :=
      ⟨(-Double.exponent rank).toNat, by omega⟩
    have ten : (10 : ℚ) = 2 * 5 := by norm_num
    rw [value, Double.valueAt, exponent, ten, mul_zpow, neg_neg, Int.toNat_natCast, zpow_neg,
      zpow_neg, zpow_natCast, zpow_natCast]
    simp only [Nat.pow_eq, Nat.cast_mul, Nat.cast_pow, Nat.cast_ofNat]
    field_simp

theorem rankOfDecimal_exact (some : 0 < rank) (finite : rank < Double.rankLimit) :
    Double.rankOfDecimal (exact rank).coefficient (exact rank).power = rank := by
  obtain ⟨least, most⟩ := Double.log_valueAt_mem some finite
  rw [rankOfDecimal_eq (coefficient_exact_ne_zero some.ne') (Double.ratio_den_pos rank)
    ((value_exact rank).trans (Double.ratio_eq_valueAt rank).symm)]
  simp only [value_exact]
  rw [if_neg (by omega), if_neg (by omega)]
  exact Double.rankOfRatio_ratio some

/-- **The shortest decimal of a finite double is read as it.** -/
theorem rankOfDecimal_shortest (some : 0 < rank) (finite : rank < Double.rankLimit) :
    Double.rankOfDecimal (shortest rank).coefficient (shortest rank).power = rank := by
  have tried : Double.rankOfDecimal (shortest rank).coefficient (shortest rank).power = rank ∨
      shortest rank = exact rank := shortestFrom_cases ..
  refine tried.elim id fun all => ?_
  rw [all]
  exact rankOfDecimal_exact some finite

end Decimal

end TradeWire
