import Mathlib.Data.List.TakeWhile
import Mathlib.Tactic
import TradeWire.Text.Numeral

/-!
# Integers, read back

An integer that has a text is read back from it (`readInt_of_writtenInt?`), so different integers
have different texts. It has one if its decimal digits are at most 4300 (`exists_writtenInt?_iff`).
-/

namespace TradeWire.Text

/-! ## Lists of digits -/

theorem isDigit_eq (c : Char) : isDigit c = c.isDigit := by
  rw [Bool.eq_iff_iff, Char.isDigit_iff_toNat, isDigit, Bool.and_eq_true, decide_eq_true_eq,
    decide_eq_true_eq]
  rfl

theorem isDigit_of_mem_toDigits {n : Nat} {c : Char} (h : c ∈ Nat.toDigits 10 n) :
    isDigit c = true := by
  rw [isDigit_eq]
  exact Nat.isDigit_of_mem_toDigits (by decide) (by decide) h

theorem digitsValue_toDigits (n : Nat) : digitsValue (Nat.toDigits 10 n) = n := by
  have value : digitsValue (Nat.toDigits 10 n) = Nat.ofDigitChars 10 (Nat.toDigits 10 n) 0 := by
    rw [Nat.ofDigitChars_eq_foldl, digitsValue]
    simp only [Nat.mul_comm 10]
  rw [value, Nat.ofDigitChars_ten_toDigits]

theorem digitsValue_of_zeros {cs : List Char} (zeros : ∀ c ∈ cs, c = '0') : digitsValue cs = 0 := by
  rw [digitsValue]
  induction cs with
  | nil => rfl
  | cons c cs ih =>
    obtain ⟨rfl, others⟩ := List.forall_mem_cons.mp zeros
    exact ih others

theorem toNat_of_numeral {c : Char} (h : isDigit c = true ∨ c = '-') :
    45 ≤ c.toNat ∧ c.toNat ≤ 57 := by
  rcases h with digit | rfl
  · rw [isDigit_eq, Char.isDigit_iff_toNat] at digit
    have low : '0'.toNat = 48 := rfl
    have high : '9'.toNat = 57 := rfl
    omega
  · decide

theorem numeralChar_of_numeral {c : Char} (h : isDigit c = true ∨ c = '-') : numeralChar c = c := by
  have bounds := toNat_of_numeral h
  rw [numeralChar, if_pos (by omega)]

theorem not_isNumeralBlank {c : Char} (h : isDigit c = true ∨ c = '-') :
    isNumeralBlank c = false := by
  have bounds := toNat_of_numeral h
  have space : c ≠ ' ' := by
    rintro rfl
    exact absurd bounds.1 (by decide)
  rw [isNumeralBlank, decide_eq_false space, Bool.false_or, Bool.and_eq_false_iff]
  exact .inr (decide_eq_false (by omega))

theorem trimmed_eq_self {cs : List Char} (h : ∀ c ∈ cs, isNumeralBlank c = false) :
    trimmed cs = cs := by
  have kept {cs : List Char} (h : ∀ c ∈ cs, isNumeralBlank c = false) :
      cs.dropWhile isNumeralBlank = cs := by
    rw [List.dropWhile_eq_self_iff]
    intro given
    rw [h _ (List.getElem_mem given)]
    exact Bool.false_ne_true
  rw [trimmed, kept h, kept (fun c hc => h c (List.mem_reverse.mp hc)), List.reverse_reverse]

theorem underscoresBetweenDigits_of_digits {cs : List Char} (digits : ∀ c ∈ cs, isDigit c = true)
    (previous : Bool) : underscoresBetweenDigits previous cs = true := by
  induction cs generalizing previous with
  | nil => rfl
  | cons c cs ih =>
    obtain ⟨digit, others⟩ := List.forall_mem_cons.mp digits
    rw [underscoresBetweenDigits]
    · exact ih others _
    · rintro rfl
      exact absurd digit (by decide)

theorem splitSign_of_digit {c : Char} (digit : isDigit c = true) (cs : List Char) :
    splitSign (c :: cs) = (false, c :: cs) := by
  unfold splitSign
  split
  · rename_i minus
    obtain ⟨rfl, -⟩ := List.cons.inj minus
    exact absurd digit (by decide)
  · rename_i plus
    obtain ⟨rfl, -⟩ := List.cons.inj plus
    exact absurd digit (by decide)
  · rfl

/-! ## Integers -/

theorem readSigned_digits {digits : List Char} (given : digits ≠ [])
    (all : ∀ c ∈ digits, isDigit c = true) (few : digits.length ≤ maxDigits) (negative : Bool) :
    readSigned (if negative then '-' :: digits else digits) =
      .ok (if negative then -(digitsValue digits : Int) else digitsValue digits) := by
  have plain : trimmed (if negative then '-' :: digits else digits) =
      if negative then '-' :: digits else digits := by
    refine trimmed_eq_self fun c hc => not_isNumeralBlank ?_
    split_ifs at hc
    · rcases List.mem_cons.mp hc with minus | hc
      · exact .inr minus
      · exact .inl (all c hc)
    · exact .inl (all c hc)
  have sign : splitSign (if negative then '-' :: digits else digits) = (negative, digits) := by
    cases negative
    · obtain ⟨c, cs, rfl⟩ := List.exists_cons_of_ne_nil given
      exact splitSign_of_digit (all c (List.mem_cons_self ..)) cs
    · rfl
  have run : digits.span (fun c => isDigit c || c = '_') = (digits, []) := by
    rw [List.span_eq_takeWhile_dropWhile]
    refine Prod.ext (List.takeWhile_eq_self_iff.mpr ?_) (List.dropWhile_eq_nil_iff.mpr ?_) <;>
    · intro c hc
      rw [all c hc, Bool.true_or]
  unfold readSigned
  simp only [plain, sign, run, List.filter_eq_self.mpr all, underscoresBetweenDigits_of_digits all,
    List.isEmpty_eq_false_iff.mpr given, if_neg (Nat.not_lt.mpr few), List.isEmpty_nil,
    Bool.not_true, Bool.or_self, Bool.false_eq_true, if_false]

/-- **An integer is read back from its text.** -/
theorem readInt_of_writtenInt? {n : Int} {text : String} (written : writtenInt? n = some text) :
    readInt text = .ok n := by
  unfold writtenInt? at written
  simp only at written
  split_ifs at written with long negative <;> cases written
  all_goals
    have all : ∀ c ∈ Nat.toDigits 10 n.natAbs, isDigit c = true := fun c hc =>
      isDigit_of_mem_toDigits hc
    have same : ∀ c ∈ Nat.toDigits 10 n.natAbs, numeralChar c = c := fun c hc =>
      numeralChar_of_numeral (.inl (all c hc))
    have reading := readSigned_digits Nat.toDigits_ne_nil all (Nat.not_lt.mp long)
    rw [digitsValue_toDigits] at reading
    rw [readInt, String.toList_ofList]
  · rw [List.map_cons, List.map_congr_left same, List.map_id', numeralChar_of_numeral (.inr rfl)]
    refine (reading true).trans (congrArg _ ?_)
    rw [if_pos rfl]
    omega
  · rw [List.map_congr_left same, List.map_id']
    refine (reading false).trans (congrArg _ ?_)
    rw [if_neg Bool.false_ne_true]
    omega

theorem exists_writtenInt?_iff {n : Int} :
    (∃ text, writtenInt? n = some text) ↔ (Nat.toDigits 10 n.natAbs).length ≤ maxDigits := by
  unfold writtenInt?
  simp only
  split_ifs with long
  · exact iff_of_false nofun (Nat.not_le.mpr long)
  · exact iff_of_true ⟨_, rfl⟩ (Nat.not_lt.mp long)
  · exact iff_of_true ⟨_, rfl⟩ (Nat.not_lt.mp long)

theorem toString_int (n : Int) :
    toString n = String.ofList
      (if n < 0 then '-' :: Nat.toDigits 10 n.natAbs else Nat.toDigits 10 n.natAbs) := by
  cases n with
  | ofNat m =>
    have natural : ¬ Int.ofNat m < 0 := Int.not_lt.mpr (Int.natCast_nonneg m)
    rw [if_neg natural]
    rfl
  | negSucc m =>
    rw [if_pos (Int.negSucc_lt_zero m)]
    show "-" ++ toString (m + 1) = String.ofList (['-'] ++ Nat.toDigits 10 (m + 1))
    rw [String.ofList_append]
    rfl

theorem toString_int_inj {m n : Int} : toString m = toString n ↔ m = n := by
  refine ⟨fun same => ?_, congrArg toString⟩
  have value {m n : Int} (h : Nat.toDigits 10 m.natAbs = Nat.toDigits 10 n.natAbs) :
      m.natAbs = n.natAbs := by
    rw [← digitsValue_toDigits m.natAbs, h, digitsValue_toDigits]
  -- a minus is no digit, so the signs are the same
  have signed {m n : Int} : '-' :: Nat.toDigits 10 m.natAbs ≠ Nat.toDigits 10 n.natAbs :=
    fun h => absurd (isDigit_of_mem_toDigits (h ▸ List.mem_cons_self)) (by decide)
  rw [toString_int, toString_int] at same
  replace same := String.ofList_injective same
  split_ifs at same with left right right
  · have := value (List.tail_eq_of_cons_eq same)
    omega
  · exact absurd same signed
  · exact absurd same.symm signed
  · have := value same
    omega

theorem eq_toString_of_writtenInt? {n : Int} {text : String} (written : writtenInt? n = some text) :
    text = toString n := by
  rw [toString_int]
  unfold writtenInt? at written
  simp only at written
  split_ifs at written ⊢ <;> exact (Option.some.inj written).symm

theorem mem_writtenInt? {n : Int} {text : String} (written : writtenInt? n = some text) {c : Char}
    (h : c ∈ text.toList) : isDigit c = true ∨ c = '-' := by
  unfold writtenInt? at written
  simp only at written
  split_ifs at written <;> cases written <;> rw [String.toList_ofList] at h
  · rcases List.mem_cons.mp h with minus | h
    · exact .inr minus
    · exact .inl (isDigit_of_mem_toDigits h)
  · exact .inl (isDigit_of_mem_toDigits h)

end TradeWire.Text
