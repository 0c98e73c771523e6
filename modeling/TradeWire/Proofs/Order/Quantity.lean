import TradeWire.Proofs.Request.Plan
import TradeWire.Proofs.Wire.Field

/-!
# The quantity of an order

Newer servers read a double where older ones read an integer, and the numbers that stand for "not
set" are sent as an empty field. So the quantity that is sent denotes the one that was asked for
only if that has a counterpart of its own on the other side (`denotes_sentQuantity`).
-/

namespace TradeWire

/-! ## Fields that denote a number -/

/-- A field denotes a number. -/
structure Field.Denotes (sent : Field) (number : Number) : Prop where
  /-- It holds the number, or one of the same value. -/
  value : sent = number.field ∨ sent.same number.field = true
  /-- It is sent empty only if the number is not set. -/
  unset : sent.wire = .ok "" → number.isUnset = true

/-- An integer whose field is empty. -/
def isSentinel (n : Int) : Bool := n == unsetInt || n == unsetLong

theorem isSentinel_iff {n : Int} : isSentinel n = true ↔ (Field.int n).wire = .ok "" := by
  rw [wire_int_eq_empty_iff, isSentinel, Bool.or_eq_true, beq_iff_eq, beq_iff_eq]

theorem not_sameInt_of_isSentinel {n : Int} (h : isSentinel n = true) :
    unsetDouble.sameInt n = false := by
  rw [isSentinel, Bool.or_eq_true, beq_iff_eq, beq_iff_eq] at h
  rcases h with rfl | rfl <;> decide +kernel

theorem denotes_of_eq {sent : Field} {number : Number} (eq : sent = number.field)
    (set : sent.wire = .ok "" → number.isUnset = true) : sent.Denotes number :=
  ⟨.inl eq, set⟩

theorem not_denotes_empty (number : Number) : ¬ Field.empty.Denotes number := by
  rintro ⟨eq | same, -⟩
  · cases number <;> cases eq
  · cases number <;> cases same

theorem denotes_real_int {x : Double} {n : Int} :
    (Field.real x).Denotes (.int n) ↔ x.sameInt n = true := by
  constructor
  · rintro ⟨eq | same, -⟩
    · cases eq
    · exact same
  · intro same
    refine ⟨.inr same, fun empty => ?_⟩
    -- only the unset double is sent empty, so the integer is the one that equals it
    rw [wire_real_eq_empty_iff] at empty
    rw [eq_unset_of_same empty] at same
    exact same

theorem denotes_int_real {n : Int} {x : Double} :
    (Field.int n).Denotes (.real x) ↔ x.sameInt n = true ∧ isSentinel n = false := by
  constructor
  · rintro ⟨eq | same, set⟩
    · cases eq
    · have same : x.sameInt n = true := same
      refine ⟨same, Bool.eq_false_iff.mpr fun sentinel => ?_⟩
      have unset := eq_unset_of_same (set (isSentinel_iff.mp sentinel))
      rw [unset, not_sameInt_of_isSentinel sentinel] at same
      cases same
  · rintro ⟨same, plain⟩
    refine ⟨.inr same, fun empty => ?_⟩
    rw [isSentinel_iff.mpr empty] at plain
    cases plain

theorem denotes_int_int {n : Int} : (Field.int n).Denotes (.int n) ↔ isSentinel n = false := by
  constructor
  · rintro ⟨-, set⟩
    refine Bool.eq_false_iff.mpr fun sentinel => ?_
    have unset : unsetDouble.sameInt n = true := set (isSentinel_iff.mp sentinel)
    rw [not_sameInt_of_isSentinel sentinel] at unset
    cases unset
  · intro plain
    refine denotes_of_eq rfl fun empty => ?_
    rw [isSentinel_iff.mpr empty] at plain
    cases plain

/-! ## The quantity -/

/-- The field of the quantity at a version. -/
def sentQuantity (version : Int) (quantity : Number) : Field :=
  if Feature.fractionalPositions ≤ version then Order.doubleField quantity
  else Order.integerField quantity

/-- Whether a quantity is sent exactly. Newer servers get the nearest double of an integer; older
ones get the integer part of a double, and no number at all for the integers that are not set. -/
def Number.isExact (version : Int) : Number → Bool
  | .int n =>
    if Feature.fractionalPositions ≤ version then (Double.ofInt n).toOption.any (·.sameInt n)
    else !isSentinel n
  | .real x =>
    decide (Feature.fractionalPositions ≤ version) ||
      x.truncate.toOption.any fun n => x.sameInt n && !isSentinel n

theorem denotes_doubleField {version : Int} (new : Feature.fractionalPositions ≤ version)
    (quantity : Number) :
    (Order.doubleField quantity).Denotes quantity ↔ quantity.isExact version = true := by
  cases quantity with
  | int n =>
    rw [Number.isExact, if_pos new, Order.doubleField, Number.toDouble]
    cases Double.ofInt n with
    | ok x => exact denotes_real_int
    | error error => exact iff_of_false (not_denotes_empty _) Bool.false_ne_true
  | real x =>
    refine iff_of_true (denotes_of_eq rfl fun empty => (wire_real_eq_empty_iff x).mp empty) ?_
    rw [Number.isExact, decide_eq_true new, Bool.true_or]

theorem denotes_integerField {version : Int} (old : version < Feature.fractionalPositions)
    (quantity : Number) :
    (Order.integerField quantity).Denotes quantity ↔ quantity.isExact version = true := by
  have old := Int.not_le.mpr old
  cases quantity with
  | int n =>
    rw [Number.isExact, if_neg old, Bool.not_eq_true']
    exact denotes_int_int
  | real x =>
    rw [Number.isExact, decide_eq_false old, Bool.false_or, Order.integerField, Number.truncate]
    cases x.truncate with
    | ok n =>
      rw [denotes_int_real]
      simp [Except.toOption]
    | error error => exact iff_of_false (not_denotes_empty _) Bool.false_ne_true

theorem denotes_sentQuantity (version : Int) (quantity : Number) :
    (sentQuantity version quantity).Denotes quantity ↔ quantity.isExact version = true := by
  unfold sentQuantity
  split_ifs with new
  · exact denotes_doubleField new quantity
  · exact denotes_integerField (Int.not_le.mp new) quantity

theorem fieldsAt_terms (version : Int) (terms : Order.Terms) :
    Step.fieldsAt version terms.steps =
      terms.action.field :: sentQuantity version terms.totalQuantity :: terms.orderType.field ::
        (Step.fieldsAt version (Order.priceSteps terms.limitPrice Feature.orderComboLegsPrice) ++
          Step.fieldsAt version (Order.priceSteps terms.auxPrice Feature.trailingPercent)) := by
  have quantity : Step.fieldsAt version (Order.quantitySteps terms.totalQuantity) =
      [sentQuantity version terms.totalQuantity] := by
    rw [Order.quantitySteps, Step.fieldsAt_cons, Step.fieldsAt_cons, sentQuantity]
    by_cases new : Feature.fractionalPositions ≤ version <;>
      simp [Step.since, Step.before, Span.contains, Step.fieldsAt, new, Int.not_lt.mpr, not_le.mp]
  simp only [Order.Terms.steps, Step.fieldsAt_append, Step.fieldsAt_cons, quantity, Step.always,
    Span.contains, if_true, List.cons_append, List.nil_append, List.append_assoc]

/-! ## Quantities that cannot be converted -/

/-- What stops an order whose quantity cannot be converted. -/
def quantityProblem? (version : Int) (quantity : Number) : Option Problem :=
  if Feature.fractionalPositions ≤ version then Order.conversionProblem quantity.toDouble
  else Order.conversionProblem quantity.truncate

theorem first?_quantity (version : Int) (quantity : Number) :
    Check.first? version (Order.quantityChecks quantity) = quantityProblem? version quantity := by
  rw [Order.quantityChecks, Check.first?_cons, Check.first?_cons, Check.first?_nil,
    quantityProblem?]
  by_cases new : Feature.fractionalPositions ≤ version <;>
    simp [Span.contains, new, Int.not_lt.mpr, not_le.mp]

theorem quantityProblem?_eq_some {version : Int} {quantity : Number} {problem : Problem}
    (stopped : quantityProblem? version quantity = some problem) :
    ∃ error, problem = .failed (.conversion error) := by
  unfold quantityProblem? at stopped
  split_ifs at stopped
  · cases converted : quantity.toDouble with
    | ok x => rw [converted] at stopped; cases stopped
    | error error => rw [converted] at stopped; exact ⟨error, (Option.some.inj stopped).symm⟩
  · cases converted : quantity.truncate with
    | ok n => rw [converted] at stopped; cases stopped
    | error error => rw [converted] at stopped; exact ⟨error, (Option.some.inj stopped).symm⟩

theorem quantityProblem?_of_isExact {version : Int} {quantity : Number}
    (exact : quantity.isExact version = true) : quantityProblem? version quantity = none := by
  unfold quantityProblem?
  split_ifs with new
  · cases quantity with
    | int n =>
      rw [Number.isExact, if_pos new] at exact
      rw [Number.toDouble]
      cases converted : Double.ofInt n with
      | ok x => rfl
      | error error =>
        rw [converted] at exact
        cases exact
    | real x => rfl
  · cases quantity with
    | int n => rfl
    | real x =>
      rw [Number.isExact, decide_eq_false new, Bool.false_or] at exact
      rw [Number.truncate]
      cases converted : x.truncate with
      | ok n => rfl
      | error error =>
        rw [converted] at exact
        cases exact

end TradeWire
