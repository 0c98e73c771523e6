import Mathlib.Tactic
import TradeWire.Decimal.Double

/-!
# Integers as doubles

An integer has a nearest double unless its magnitude reaches `integerLimit`, half a step above the
largest double (`ofInt_eq_error_iff`). From there on, the half included since the last significand
is odd, rounding would carry into an exponent that no double has.
-/

namespace TradeWire.Double

/-- The least magnitude of an integer with no nearest double. -/
def integerLimit : Nat := Nat.pow 2 1024 - Nat.pow 2 970

/-- The least power of two that is greater than all doubles. -/
def powerLimit : Nat := Nat.pow 2 1024

/-! ## Powers of two -/

theorem two_pow_succ (k : Nat) : Nat.pow 2 (k + 1) = 2 * Nat.pow 2 k := Nat.pow_succ'

theorem two_pow_pos (k : Nat) : 0 < Nat.pow 2 k := Nat.pow_pos two_pos

theorem two_pow_le {j k : Nat} (h : j ≤ k) : Nat.pow 2 j ≤ Nat.pow 2 k :=
  Nat.pow_le_pow_right two_pos h

theorem two_pow_le_integerLimit {k : Nat} (h : k ≤ 1023) : Nat.pow 2 k ≤ integerLimit := by
  -- the bound is made a variable, since its power is too large to be compared by evaluation
  generalize last : 1023 = e at h
  have limit : Nat.pow 2 e ≤ integerLimit := by
    subst last
    decide +kernel
  exact (two_pow_le h).trans limit

theorem powerLimit_le_two_pow {k : Nat} (h : 1024 ≤ k) : powerLimit ≤ Nat.pow 2 k := by
  generalize first : 1024 = e at h
  have limit : powerLimit ≤ Nat.pow 2 e := by
    subst first
    decide +kernel
  exact limit.trans (two_pow_le h)

/-! ## Quotients -/

theorem div_le_roundedQuotient (num den : Nat) : num / den ≤ roundedQuotient num den := by
  unfold roundedQuotient
  simp only
  split_ifs <;> omega

theorem roundedQuotient_le (num den : Nat) : roundedQuotient num den ≤ num / den + 1 := by
  unfold roundedQuotient
  simp only
  split_ifs <;> omega

theorem roundedQuotient_mem {num den low high : Nat} (positive : 0 < den) (least : low * den ≤ num)
    (most : num < high * den) :
    low ≤ roundedQuotient num den ∧ roundedQuotient num den ≤ high := by
  have above := (Nat.le_div_iff_mul_le positive).mpr least
  have below := (Nat.div_lt_iff_lt_mul positive).mpr most
  exact ⟨above.trans (div_le_roundedQuotient num den),
    (roundedQuotient_le num den).trans below⟩

theorem le_roundedQuotient_iff {num half bound : Nat} (positive : 0 < half)
    (even : bound % 2 = 0) :
    bound ≤ roundedQuotient num (2 * half) ↔ bound * (2 * half) ≤ num + half := by
  have split := Nat.div_add_mod num (2 * half)
  have small : num % (2 * half) < 2 * half := Nat.mod_lt _ (by omega)
  unfold roundedQuotient
  simp only
  generalize num / (2 * half) = whole at *
  generalize num % (2 * half) = rest at *
  subst split
  rcases Nat.lt_trichotomy (whole + 1) bound with below | rfl | above
  · have far : (whole + 2) * (2 * half) ≤ bound * (2 * half) := Nat.mul_le_mul_right _ below
    have expand : (whole + 2) * (2 * half) = 2 * half * whole + 4 * half := by ring
    split_ifs <;> omega
  · have expand : (whole + 1) * (2 * half) = 2 * half * whole + 2 * half := by ring
    split_ifs <;> omega
  · have near : bound * (2 * half) ≤ whole * (2 * half) := Nat.mul_le_mul_right _ (by omega)
    have swap : whole * (2 * half) = 2 * half * whole := Nat.mul_comm _ _
    split_ifs <;> omega

/-! ## Integers -/

theorem floorLog2_one {n : Nat} (positive : 0 < n) : floorLog2 n 1 = Nat.log2 n := by
  have one : Nat.log2 1 = 0 := by decide
  have reached : 1 * Nat.pow 2 (Nat.log2 n) ≤ n := by
    rw [Nat.one_mul]
    exact Nat.log2_self_le positive.ne'
  unfold floorLog2
  simp only [one, Int.natCast_zero, Int.sub_zero, Int.natCast_nonneg, if_true, Int.toNat_natCast]
  rw [if_pos reached]

theorem rankOfRatio_of_large {n : Nat} (large : 52 ≤ Nat.log2 n) :
    rankOfRatio n 1 =
      (Nat.log2 n + 1022) * fractions + roundedQuotient n (Nat.pow 2 (Nat.log2 n - 52)) := by
  have positive : 0 < n := by
    rcases Nat.eq_zero_or_pos n with rfl | h
    · exact absurd large (by decide)
    · exact h
  unfold rankOfRatio
  simp only [floorLog2_one positive]
  have exponent : max (-1074) ((Nat.log2 n : Int) - 52) = ((Nat.log2 n - 52 : Nat) : Int) := by
    omega
  rw [exponent, if_pos (Int.natCast_nonneg _), Int.toNat_natCast, Nat.one_mul]
  have shift : (((Nat.log2 n - 52 : Nat) : Int) + 1074).toNat = Nat.log2 n + 1022 := by omega
  rw [shift]

theorem rankOfRatio_of_small {n : Nat} (positive : 0 < n) (small : Nat.log2 n < 52) :
    rankOfRatio n 1 =
      (Nat.log2 n + 1022) * fractions +
        roundedQuotient (n * Nat.pow 2 (52 - Nat.log2 n)) 1 := by
  unfold rankOfRatio
  simp only [floorLog2_one positive]
  have exponent : max (-1074) ((Nat.log2 n : Int) - 52) = (Nat.log2 n : Int) - 52 := by omega
  have up : (-((Nat.log2 n : Int) - 52)).toNat = 52 - Nat.log2 n := by omega
  have shift : ((Nat.log2 n : Int) - 52 + 1074).toNat = Nat.log2 n + 1022 := by omega
  rw [exponent, if_neg (by omega), up, shift]

theorem rankOfRatio_one {n : Nat} (positive : 0 < n) :
    (Nat.log2 n + 1023) * fractions ≤ rankOfRatio n 1 ∧
      rankOfRatio n 1 ≤ (Nat.log2 n + 1024) * fractions := by
  have low : 2 ^ Nat.log2 n ≤ n := Nat.log2_self_le positive.ne'
  have high : n < 2 ^ (Nat.log2 n + 1) := Nat.lt_log2_self
  have unit : fractions = 2 ^ 52 := by decide
  have mem : ∃ m, rankOfRatio n 1 = (Nat.log2 n + 1022) * fractions + m ∧ fractions ≤ m ∧
      m ≤ 2 * fractions := by
    rcases Nat.lt_or_ge (Nat.log2 n) 52 with small | large
    · have scaled : fractions = 2 ^ Nat.log2 n * 2 ^ (52 - Nat.log2 n) := by
        rw [unit, ← pow_add, Nat.add_sub_cancel' small.le]
      refine ⟨_, rankOfRatio_of_small positive small, roundedQuotient_mem one_pos ?_ ?_⟩
      · rw [Nat.mul_one, scaled]
        exact Nat.mul_le_mul_right _ low
      · rw [Nat.mul_one, scaled, ← Nat.mul_assoc, ← pow_succ']
        exact Nat.mul_lt_mul_of_pos_right high (two_pow_pos _)
    · refine ⟨_, rankOfRatio_of_large large, roundedQuotient_mem (Nat.pow_pos two_pos) ?_ ?_⟩
      · show fractions * 2 ^ _ ≤ n
        rwa [unit, ← pow_add, Nat.add_sub_cancel' large]
      · show n < 2 * fractions * 2 ^ _
        rwa [unit, ← pow_succ', ← pow_add, Nat.succ_add, Nat.add_sub_cancel' large]
  obtain ⟨m, rank, least, most⟩ := mem
  rw [rank]
  constructor <;> nlinarith

theorem integerLimit_le_iff (n : Nat) :
    integerLimit ≤ n ↔ Nat.pow 2 1024 ≤ n + Nat.pow 2 970 := by
  unfold integerLimit
  generalize Nat.pow 2 1024 = top
  generalize Nat.pow 2 970 = half
  exact Nat.sub_le_iff_le_add

/-- In the last exponent, an integer is rounded out of the doubles from half a step below its end
on. -/
theorem rankLimit_le_iff_of_last {n : Nat} (last : Nat.log2 n = 1023) :
    rankLimit ≤ rankOfRatio n 1 ↔ integerLimit ≤ n := by
  have width : Nat.log2 n - 52 = Nat.log2 n - 53 + 1 := by omega
  have half : Nat.log2 n - 53 = 970 := by omega
  have top : 2 * fractions * (2 * Nat.pow 2 970) = Nat.pow 2 1024 := by decide +kernel
  rw [integerLimit_le_iff, ← top, rankOfRatio_of_large (by omega), width, two_pow_succ, ← half,
    ← le_roundedQuotient_iff (two_pow_pos _) (by decide), last]
  unfold rankLimit
  omega

theorem rankLimit_le_iff {n : Nat} (positive : 0 < n) :
    rankLimit ≤ rankOfRatio n 1 ↔ integerLimit ≤ n := by
  obtain ⟨least, most⟩ := rankOfRatio_one positive
  have low : Nat.pow 2 (Nat.log2 n) ≤ n := Nat.log2_self_le positive.ne'
  have high : n < Nat.pow 2 (Nat.log2 n + 1) := Nat.lt_log2_self
  rcases Nat.lt_trichotomy (Nat.log2 n) 1023 with below | last | above
  · have far : (Nat.log2 n + 1024) * fractions < 2047 * fractions :=
      Nat.mul_lt_mul_of_pos_right (by omega) (by decide)
    have short := high.trans_le (two_pow_le_integerLimit below)
    exact iff_of_false (most.trans_lt far).not_ge short.not_ge
  · exact rankLimit_le_iff_of_last last
  · have far : 2047 * fractions ≤ (Nat.log2 n + 1023) * fractions :=
      Nat.mul_le_mul_right _ (by omega)
    have limit : integerLimit ≤ powerLimit := by decide +kernel
    exact iff_of_true (far.trans least) (limit.trans ((powerLimit_le_two_pow above).trans low))

/-- **An integer has a nearest double unless its magnitude reaches the limit.** -/
theorem ofInt_eq_error_iff {n : Int} {error : ConversionError} :
    ofInt n = .error error ↔ error = .integerTooLarge ∧ integerLimit ≤ n.natAbs := by
  have rank : rankLimit ≤ (if n = 0 then 0 else rankOfRatio n.natAbs 1) ↔
      integerLimit ≤ n.natAbs := by
    split_ifs with zero
    · subst zero
      decide +kernel
    · exact rankLimit_le_iff (Int.natAbs_pos.mpr zero)
  unfold ofInt
  simp only
  rw [← rank]
  generalize (if n = 0 then 0 else rankOfRatio n.natAbs 1) = r
  split_ifs with finite
  · exact iff_of_false (by simp) (by omega)
  · rw [Except.error.injEq]
    constructor
    · rintro rfl
      exact ⟨rfl, by omega⟩
    · rintro ⟨rfl, -⟩
      rfl

/-! ## Integer parts -/

theorem significand_lt (rank : Nat) : significand rank < 2 * fractions := by
  have rest := Nat.mod_lt rank (show 0 < fractions by decide)
  unfold significand
  split_ifs <;> omega

theorem exponent_le {rank : Nat} (finite : rank < rankLimit) : exponent rank ≤ 971 := by
  have quotient : rank / fractions < 2047 := Nat.div_lt_of_lt_mul (by rwa [Nat.mul_comm])
  unfold exponent
  split_ifs <;> omega

theorem significand_scaled_lt (rank : Nat) {k : Nat} (h : k ≤ 971) :
    significand rank * Nat.pow 2 k < powerLimit := by
  generalize greatest : 971 = e at h
  have limit : 2 * fractions * Nat.pow 2 e ≤ powerLimit := by
    subst greatest
    decide +kernel
  calc significand rank * Nat.pow 2 k < 2 * fractions * Nat.pow 2 k :=
        Nat.mul_lt_mul_of_pos_right (significand_lt rank) (two_pow_pos k)
    _ ≤ 2 * fractions * Nat.pow 2 e := Nat.mul_le_mul_left _ (two_pow_le h)
    _ ≤ powerLimit := limit

theorem ratio_div_lt {rank : Nat} (finite : rank < rankLimit) :
    (ratio rank).1 / (ratio rank).2 < powerLimit := by
  have few := exponent_le finite
  unfold ratio
  simp only
  split_ifs with large
  · rw [Nat.div_one]
    exact significand_scaled_lt rank (by omega)
  · refine Nat.lt_of_le_of_lt (Nat.div_le_self _ _) ?_
    simpa using significand_scaled_lt rank (Nat.zero_le 971)

/-- The integer part of a double is less than 2 to the power of 1024, so it has no more digits than
that. -/
theorem length_toDigits_truncate_le {x : Double} {n : Int} (whole : x.truncate = .ok n)
    {digits : Nat} (many : 1024 ≤ digits) : (Nat.toDigits 10 n.natAbs).length ≤ digits := by
  have positive : 0 < digits := by omega
  refine (Nat.length_toDigits_le_iff (by decide) positive).mpr ?_
  have fits : powerLimit ≤ Nat.pow 10 digits :=
    (powerLimit_le_two_pow many).trans (Nat.pow_le_pow_left (by decide) digits)
  refine Nat.lt_of_lt_of_le ?_ fits
  cases x with
  | infinite negative => cases whole
  | notANumber => cases whole
  | finite negative rank =>
    have bound := ratio_div_lt rank.isLt
    have value : (if negative then -(((ratio rank).1 / (ratio rank).2 : Nat) : Int)
      else ((ratio rank).1 / (ratio rank).2 : Nat)) = n := Except.ok.inj whole
    rw [← value]
    split_ifs
    · rwa [Int.natAbs_neg, Int.natAbs_natCast]
    · rwa [Int.natAbs_natCast]

end TradeWire.Double
