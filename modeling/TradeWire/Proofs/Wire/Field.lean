import Mathlib.Tactic
import TradeWire.Wire.Number

/-!
# Empty fields

Numbers are written with at least one character, so a field of a number is empty exactly when the
number is not set (`wire_int_eq_empty_iff`, `wire_real_eq_empty_iff`).
-/

namespace TradeWire

/-! ## Written numbers -/

theorem Digits.whole_ne_nil (d : Digits) : d.whole ≠ [] := by
  unfold whole
  split_ifs with small
  · exact List.cons_ne_nil _ _
  · intro empty
    have length := congrArg List.length empty
    simp only [List.length_append, List.length_take, List.length_replicate, List.length_nil]
      at length
    omega

theorem Double.plainText_ne_empty (x : Double) : x.plainText ≠ "" := by
  have written : x.written (fun d =>
      if positionalExponent d.exponent then d.pointed else d.positional) ≠ [] := by
    cases x with
    | finite negative rank =>
      unfold Double.written Digits.pointed Digits.positional
      simp only
      split_ifs <;> simp [Digits.whole_ne_nil]
    | infinite negative => cases negative <;> exact List.cons_ne_nil _ _
    | notANumber => exact List.cons_ne_nil _ _
  rw [Double.plainText, Ne, String.ofList_eq_empty_iff]
  exact written

theorem Text.writtenInt?_ne_empty (n : Int) : Text.writtenInt? n ≠ some "" := by
  unfold Text.writtenInt?
  simp only
  split_ifs
  · exact nofun
  · simp
  · simp [String.ofList_eq_empty_iff, Nat.toDigits_ne_nil]

/-! ## Numbers that are not set -/

theorem rankLimit_pos : Double.rankLimit - 1 < Double.rankLimit := by decide

theorem unsetDouble_eq : unsetDouble = .finite false ⟨Double.rankLimit - 1, rankLimit_pos⟩ := by
  unfold unsetDouble Double.largest Double.ofRank
  rw [dif_pos rankLimit_pos]

theorem eq_unset_of_same {x : Double} (h : x.same unsetDouble = true) : x = unsetDouble := by
  have limit : 0 < Double.rankLimit - 1 := by decide
  rw [unsetDouble_eq] at h ⊢
  cases x with
  | finite negative rank =>
    cases negative
    · have same : (rank.val : Int) = ((Double.rankLimit - 1 : Nat) : Int) := by
        simpa [Double.same, Double.place] using h
      exact congrArg (Double.finite false) (Fin.ext (Int.natCast_inj.mp same))
    · have same : -(rank.val : Int) = ((Double.rankLimit - 1 : Nat) : Int) := by
        simpa [Double.same, Double.place] using h
      omega
  | infinite negative =>
    cases negative
    · have same : (Double.rankLimit : Int) = ((Double.rankLimit - 1 : Nat) : Int) := by
        simpa [Double.same, Double.place] using h
      omega
    · have same : -(Double.rankLimit : Int) = ((Double.rankLimit - 1 : Nat) : Int) := by
        simpa [Double.same, Double.place] using h
      omega
  | notANumber => cases h

/-! ## Empty fields -/

theorem wire_int_eq_empty_iff (n : Int) :
    (Field.int n).wire = .ok "" ↔ n = unsetInt ∨ n = unsetLong := by
  have other := Text.writtenInt?_ne_empty n
  rw [Field.wire]
  split_ifs with unset
  · exact iff_of_true rfl unset
  · refine iff_of_false ?_ unset
    cases written : Text.writtenInt? n with
    | none => exact nofun
    | some text =>
      rintro ⟨⟩
      exact other written

theorem wire_real_eq_empty_iff (x : Double) :
    (Field.real x).wire = .ok "" ↔ x.same unsetDouble = true := by
  rw [Field.wire]
  split_ifs with unset
  · exact iff_of_true rfl unset
  · refine iff_of_false ?_ unset
    rw [Except.ok.injEq]
    exact x.plainText_ne_empty

end TradeWire
