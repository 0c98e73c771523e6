import Mathlib.Tactic
import TradeWire.Decimal.Written
import TradeWire.Proofs.Text.Numeral

/-!
# The characters of written doubles

A finite double is written with digits, a point and perhaps a minus (`mem_plainText`). Its shortest
decimal is not zero unless the double is (`coefficient_shortest_ne_zero`), so that the text alone
tells whether the double is positive (`isPositive_eq_looksPositive`).
-/

namespace TradeWire

/-! ## Shortest decimals -/

namespace Decimal

theorem rankOfDecimal_zero (power : Int) : Double.rankOfDecimal 0 power = 0 := by
  rw [Double.rankOfDecimal]
  exact if_pos (.inl rfl)

theorem rankOfDecimal_of_neighbour? {rank num den : Nat} {power : Int} {d : Decimal}
    (found : neighbour? rank num den power = some d) :
    Double.rankOfDecimal d.coefficient d.power = rank := by
  unfold neighbour? at found
  simp only at found
  split_ifs at found with low high <;> cases found
  · exact eq_of_beq (Bool.and_eq_true_iff.mp low).1
  · exact eq_of_beq high

/-- The digits that are tried give a decimal that is read back; otherwise all digits are taken. -/
theorem shortestFrom_cases (rank num den : Nat) (top : Int) (digits more : Nat) :
    let d := shortestFrom rank num den top digits more
    Double.rankOfDecimal d.coefficient d.power = rank ∨ d = exact rank := by
  induction more generalizing digits with
  | zero => exact .inr rfl
  | succ more ih =>
    rw [shortestFrom]
    cases found : neighbour? rank num den (top - digits + 1) with
    | some d => exact .inl (rankOfDecimal_of_neighbour? found)
    | none => exact ih (digits + 1)

theorem coefficient_exact_ne_zero {rank : Nat} (nonzero : rank ≠ 0) :
    (exact rank).coefficient ≠ 0 := by
  have factor : Double.significand rank ≠ 0 := by
    have some : 0 < Double.fractions := by decide
    unfold Double.significand
    split_ifs <;> omega
  unfold exact
  simp only
  split_ifs
  · exact Nat.mul_ne_zero factor (Nat.pow_pos (by decide)).ne'
  · exact Nat.mul_ne_zero factor (Nat.pow_pos (by decide)).ne'

theorem coefficient_shortest_ne_zero {rank : Nat} (nonzero : rank ≠ 0) :
    (shortest rank).coefficient ≠ 0 := by
  have tried : Double.rankOfDecimal (shortest rank).coefficient (shortest rank).power = rank ∨
      shortest rank = exact rank := shortestFrom_cases ..
  rcases tried with back | all
  · intro zero
    rw [zero, rankOfDecimal_zero] at back
    exact nonzero back.symm
  · rw [all]
    exact coefficient_exact_ne_zero nonzero

end Decimal

/-! ## Digits -/

namespace Digits

theorem isDigit_of_mem_ofDecimal {d : Decimal} {c : Char} (h : c ∈ (ofDecimal d).digits) :
    Text.isDigit c = true := by
  rw [ofDecimal, List.mem_reverse] at h
  exact Text.isDigit_of_mem_toDigits (List.mem_reverse.mp (List.dropWhile_subset _ h))

theorem exists_mem_ofDecimal {d : Decimal} (nonzero : d.coefficient ≠ 0) :
    ∃ c ∈ (ofDecimal d).digits, c ≠ '0' := by
  by_contra none
  push Not at none
  have zeros : ∀ c ∈ Nat.toDigits 10 d.coefficient, c = '0' := by
    intro c hc
    by_contra other
    -- a digit that is not zero is not among the last zeros, which are dropped
    have split := List.takeWhile_append_dropWhile (p := fun c => decide (c = '0'))
      (l := (Nat.toDigits 10 d.coefficient).reverse)
    rw [← List.mem_reverse, ← split, List.mem_append] at hc
    rcases hc with dropped | kept
    · have zero := List.mem_takeWhile_imp dropped
      exact other (of_decide_eq_true zero)
    · exact other (none c (List.mem_reverse.mpr kept))
  have value := Text.digitsValue_toDigits d.coefficient
  rw [Text.digitsValue_of_zeros zeros] at value
  exact nonzero value.symm

variable {d : Digits} {c : Char}

theorem mem_whole (h : c ∈ d.whole) : c = '0' ∨ c ∈ d.digits := by
  unfold whole at h
  split_ifs at h
  · exact .inl (List.mem_singleton.mp h)
  · rcases List.mem_append.mp h with digit | zero
    · exact .inr (List.mem_of_mem_take digit)
    · exact .inl (List.eq_of_mem_replicate zero)

theorem mem_fraction (h : c ∈ d.fraction) : c = '0' ∨ c ∈ d.digits := by
  unfold fraction at h
  split_ifs at h
  · rcases List.mem_append.mp h with zero | digit
    · exact .inl (List.eq_of_mem_replicate zero)
    · exact .inr digit
  · exact .inr (List.mem_of_mem_drop h)

theorem mem_whole_or_fraction (h : c ∈ d.digits) : c ∈ d.whole ∨ c ∈ d.fraction := by
  unfold whole fraction
  split_ifs
  · exact .inr (List.mem_append_right _ h)
  · rw [← List.take_append_drop d.point.toNat d.digits, List.mem_append] at h
    exact h.imp_left (List.mem_append_left _)

theorem mem_positional (h : c ∈ d.positional) : c = '.' ∨ c = '0' ∨ c ∈ d.digits := by
  unfold positional at h
  split_ifs at h
  · exact .inr (mem_whole h)
  · rcases List.mem_append.mp h with whole | h
    · exact .inr (mem_whole whole)
    · exact (List.mem_cons.mp h).imp_right mem_fraction

theorem mem_pointed (h : c ∈ d.pointed) : c = '.' ∨ c = '0' ∨ c ∈ d.digits := by
  rcases List.mem_append.mp h with whole | h
  · exact .inr (mem_whole whole)
  · refine (List.mem_cons.mp h).imp_right fun fraction => ?_
    split_ifs at fraction
    · exact .inl (List.mem_singleton.mp fraction)
    · exact mem_fraction fraction

theorem mem_positional_of_mem (h : c ∈ d.digits) : c ∈ d.positional := by
  unfold positional
  rcases mem_whole_or_fraction h with whole | fraction
  · split_ifs
    · exact whole
    · exact List.mem_append_left _ whole
  · rw [if_neg (List.ne_nil_of_mem fraction)]
    exact List.mem_append_right _ (List.mem_cons_of_mem _ fraction)

theorem mem_pointed_of_mem (h : c ∈ d.digits) : c ∈ d.pointed := by
  rcases mem_whole_or_fraction h with whole | fraction
  · exact List.mem_append_left _ whole
  · refine List.mem_append_right _ (List.mem_cons_of_mem _ ?_)
    rw [if_neg (List.ne_nil_of_mem fraction)]
    exact fraction

end Digits

/-! ## Doubles -/

namespace Double

def plainChars (x : Double) : List Char :=
  x.written fun d => if positionalExponent d.exponent then d.pointed else d.positional

theorem toList_plainText (x : Double) : x.plainText.toList = x.plainChars := String.toList_ofList

theorem mem_plainChars {negative : Bool} {rank : Fin rankLimit} {c : Char}
    (h : c ∈ (finite negative rank).plainChars) :
    (c = '-' ∧ negative = true) ∨ c = '.' ∨ Text.isDigit c = true := by
  have zero : Text.isDigit '0' = true := by decide
  have magnitude {d : Decimal} (h : c = '.' ∨ c = '0' ∨ c ∈ (Digits.ofDecimal d).digits) :
      c = '.' ∨ Text.isDigit c = true :=
    h.imp_right fun h => h.elim (fun h => h ▸ zero) Digits.isDigit_of_mem_ofDecimal
  rcases List.mem_append.mp h with sign | h
  · cases negative
    · cases sign
    · exact .inl ⟨List.mem_singleton.mp sign, rfl⟩
  · refine .inr ?_
    split_ifs at h
    · simp only [List.mem_cons, List.not_mem_nil, or_false] at h
      rcases h with rfl | rfl | rfl
      · exact .inr zero
      · exact .inl rfl
      · exact .inr zero
    · dsimp only at h
      split_ifs at h
      · exact magnitude (Digits.mem_pointed h)
      · exact magnitude (Digits.mem_positional h)

theorem notMem_plainChars {rank : Fin rankLimit} {c : Char} (point : c ≠ '.')
    (other : Text.isDigit c = false) : c ∉ (finite false rank).plainChars := fun h => by
  rcases mem_plainChars h with ⟨-, signed⟩ | same | digit
  · cases signed
  · exact point same
  · exact ne_true_of_eq_false other digit

theorem exists_mem_plainChars {negative : Bool} {rank : Fin rankLimit} (nonzero : rank.val ≠ 0) :
    ∃ c ∈ (finite negative rank).plainChars, c ≠ '0' ∧ c ≠ '.' := by
  obtain ⟨c, digit, other⟩ :=
    Digits.exists_mem_ofDecimal (Decimal.coefficient_shortest_ne_zero nonzero)
  refine ⟨c, List.mem_append_right _ ?_, other, ?_⟩
  · rw [if_neg nonzero]
    dsimp only
    split_ifs
    · exact Digits.mem_pointed_of_mem digit
    · exact Digits.mem_positional_of_mem digit
  · rintro rfl
    exact absurd (Digits.isDigit_of_mem_ofDecimal digit) (by decide)

theorem zero_notMem_plainText (x : Double) : '\x00' ∉ x.plainText.toList := by
  rw [toList_plainText]
  intro h
  cases x with
  | finite negative rank =>
    rcases mem_plainChars h with ⟨minus, -⟩ | point | digit
    · exact absurd minus (by decide)
    · exact absurd point (by decide)
    · exact absurd digit (by decide)
  | infinite negative =>
    cases negative <;> exact absurd h (by decide)
  | notANumber => exact absurd h (by decide)

/-! ## Positive numbers -/

/-- The text of a positive number: no minus, and something else than zeros and a point. -/
def looksPositive (text : String) : Bool :=
  '-' ∉ text.toList && text.toList ≠ ['n', 'a', 'n'] &&
    text.toList.any fun c => c ≠ '0' && c ≠ '.'

theorem place_zero : zero.place = some 0 := rfl

theorem isPositive_finite (negative : Bool) (rank : Fin rankLimit) :
    (finite negative rank).isPositive = (!negative && rank.val ≠ 0) := by
  rw [isPositive, below, place_zero]
  cases negative <;> simp [place, Nat.pos_iff_ne_zero]

/-- **The text of a double tells whether it is positive.** -/
theorem isPositive_eq_looksPositive (x : Double) : x.isPositive = looksPositive x.plainText := by
  rw [looksPositive, toList_plainText]
  cases x with
  | finite negative rank =>
    rw [isPositive_finite]
    by_cases zero : rank.val = 0
    · have chars : (finite negative rank).plainChars =
          (if negative then ['-'] else []) ++ ['0', '.', '0'] := by
        rw [plainChars, written, if_pos zero]
      rw [chars, zero]
      cases negative <;> rfl
    · cases negative with
      | true =>
        have minus : '-' ∈ (finite true rank).plainChars := List.mem_append_left _ (.head _)
        rw [decide_eq_false (not_not.mpr minus)]
        rfl
      | false =>
        have unsigned : '-' ∉ (finite false rank).plainChars :=
          notMem_plainChars (by decide) (by decide)
        have unnamed : 'n' ∉ (finite false rank).plainChars :=
          notMem_plainChars (by decide) (by decide)
        have number : (finite false rank).plainChars ≠ ['n', 'a', 'n'] := fun name => by
          rw [name] at unnamed
          exact unnamed (List.mem_cons_self ..)
        have digit := @exists_mem_plainChars false rank zero
        simpa [unsigned, number, zero] using digit
  | infinite negative => cases negative <;> decide
  | notANumber => decide

end Double

end TradeWire
