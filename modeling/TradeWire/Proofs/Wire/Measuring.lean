import TradeWire.Message.Basic
import TradeWire.Proofs.Decimal.Rounding
import TradeWire.Proofs.Wire.Reading

/-!
# Readings with quantities

A reading with quantities fails to convert a number just if it gets as far as an integer that is too
large for a double, and servers send such integers only before fractional positions. `Overflows`
says for which fields that is; it is put together from the parts of a reading like the reading
itself.
-/

namespace TradeWire

/-- Whether the first of some fields is an integer that is too large for a double. -/
def tooLarge : List String → Bool
  | [] => false
  | token :: _ => (intOf? token).any fun n => decide (Double.integerLimit ≤ n.natAbs)

/-- Whether they hold such an integer where a server of some version sends a quantity. -/
def oversized (version : Int) (fields : List String) : Bool :=
  decide (version < Feature.fractionalPositions) && tooLarge fields

theorem oversized_of_new {version : Int} (new : Feature.fractionalPositions ≤ version) :
    oversized version = fun _ => false := by
  funext fields
  rw [oversized, decide_eq_false (Int.not_lt.mpr new), Bool.false_and]

namespace Measuring

variable {α β : Type}

theorem start_pure (value : α) (c : Cursor) :
    (pure value : Measuring α).start c = (.ok value, c) := rfl

theorem start_lift (r : Reading α) (c : Cursor) : (liftM r : Measuring α).start c = r.start c := by
  show (Measuring.mk (r >>= fun value => pure (.ok value))).start c = _
  rw [start, Reading.start_bind]
  rcases r.start c with ⟨fault | value, left⟩ <;> rfl

theorem start_bind (m : Measuring α) (more : α → Measuring β) (c : Cursor) :
    (m >>= more).start c = match m.start c with
      | (.ok value, c) => (more value).start c
      | (.error fault, c) => (.error fault, c) := by
  show (Measuring.mk (m.run >>= _)).start c = _
  rw [start, start, Reading.start_bind]
  rcases m.run.start c with ⟨fault | ⟨error | value⟩, left⟩ <;> rfl

/-- Fails to convert a number just for some fields. -/
def Overflows (overflow : List String → Bool) (m : Measuring α) : Prop :=
  ∀ c error, (m.start c).1 = .error (.conversion error) ↔
    error = .integerTooLarge ∧ overflow c.rest = true

abbrev Converts (m : Measuring α) : Prop := m.Overflows fun _ => false

theorem Overflows.congr {overflow overflow' : List String → Bool} {m : Measuring α}
    (h : m.Overflows overflow) (same : ∀ fields, overflow fields = overflow' fields) :
    m.Overflows overflow' := by
  rwa [← funext same]

theorem converts_lift (r : Reading α) : Converts (liftM r) := by
  intro c error
  rw [start_lift]
  exact iff_of_false (r.start_ne_conversion c error) (by simp)

theorem converts_pure (value : α) : Converts (pure value) := by
  intro c error
  exact iff_of_false nofun (by simp)

theorem overflows_bind {overflow : List String → Bool} {m : Measuring α} {more : α → Measuring β}
    (h : m.Overflows overflow) (hm : ∀ value, (more value).Converts) :
    (m >>= more).Overflows overflow := by
  intro c error
  rw [start_bind, ← h c error]
  rcases m.start c with ⟨fault | value, left⟩
  · simp only [Except.error.injEq]
  · exact iff_of_false (by simpa using (hm value left error).not.mpr (by simp)) nofun

theorem overflows_lift_bind {slots : List Slot} {overflow : List String → Bool} {r : Reading α}
    {more : α → Measuring β} (h : r.Takes slots) (hm : ∀ value, (more value).Overflows overflow) :
    (liftM r >>= more).Overflows fun fields => (Slot.strip slots fields).any overflow := by
  intro c error
  simp only [start_bind, start_lift, h c]
  rcases found : r.start c with ⟨fault | value, left⟩
  · have other := r.start_ne_conversion c error
    rw [found] at other
    exact iff_of_false (by simpa using other) (by simp)
  · exact hm value left error

/-- What is asked of the fields behind an integer, which it may depend on. -/
def afterInt (overflow : Int → List String → Bool) : List String → Bool
  | [] => false
  | token :: rest => (intOf? token).any (overflow · rest)

theorem overflows_int_bind {overflow : Int → List String → Bool} {more : Int → Measuring β}
    (hm : ∀ value, (more value).Overflows (overflow value)) :
    (liftM Reading.int >>= more).Overflows (afterInt overflow) := by
  intro c error
  rw [start_bind, start_lift]
  cases h : c.rest with
  | nil =>
    rw [Reading.int, Reading.intOr, Reading.converted, Reading.start, h]
    exact iff_of_false (by rintro ⟨⟩) (by simp [afterInt])
  | cons token rest =>
    rw [Reading.start_int h]
    cases found : intOf? token with
    | none => exact iff_of_false (by rintro ⟨⟩) (by simp [afterInt, found])
    | some value =>
      have later := hm value ⟨c.position + 1, rest⟩ error
      simpa only [afterInt, found, Option.any_some] using later

theorem overflows_ownVersion_bind {overflow : Int → List String → Bool}
    {more : Int → Measuring β} (hm : ∀ own, (more own).Overflows (overflow own)) (sent : Bool)
    (otherwise : Int) :
    (liftM (Reading.ownVersion sent otherwise) >>= more).Overflows
      (if sent then afterInt overflow else overflow otherwise) := by
  cases sent
  · exact hm otherwise
  · exact overflows_int_bind hm

theorem overflows_doubleFromInt : doubleFromInt.Overflows tooLarge := by
  intro c error
  show ((Measuring.mk (Reading.int >>= fun n => pure (Double.ofInt n))).start c).1 = _ ↔ _
  rw [start, Reading.start_bind]
  cases h : c.rest with
  | nil =>
    rw [Reading.int, Reading.intOr, Reading.converted, Reading.start, h]
    exact iff_of_false (by rintro ⟨⟩) (by simp [tooLarge])
  | cons token rest =>
    rw [Reading.start_int h, tooLarge]
    cases intOf? token with
    | none => exact iff_of_false (by rintro ⟨⟩) (by simp)
    | some n =>
      simp only [Reading.start_pure, Option.any_some, decide_eq_true_eq]
      rw [← Double.ofInt_eq_error_iff]
      cases Double.ofInt n <;> simp

theorem overflows_quantity (version : Int) : (quantity version).Overflows (oversized version) := by
  unfold quantity oversized
  split_ifs with new
  · simpa only [Int.not_lt.mpr new, decide_false, Bool.false_and] using converts_lift Reading.double
  · simpa only [Int.not_le.mp new, decide_true, Bool.true_and] using overflows_doubleFromInt

theorem overflows_quantity_bind {version : Int} {overflow : List String → Bool}
    {more : Double → Measuring α} (old : version < Feature.fractionalPositions)
    (hm : ∀ value, (more value).Overflows overflow) :
    (quantity version >>= more).Overflows fun fields =>
      oversized version fields || (Slot.strip [.int] fields).any overflow := by
  intro c error
  rw [start_bind, Bool.or_eq_true, and_or_left, ← overflows_quantity version c error]
  unfold quantity
  rw [if_neg (Int.not_le.mpr old), doubleFromInt, start, Reading.start_bind, Reading.takes_int c]
  rcases Reading.int.start c with ⟨fault | n, left⟩
  · simp
  · simp only [Reading.start_pure, Option.any_some]
    cases h : Double.ofInt n with
    | ok value => simpa using hm value left error
    | error other =>
      obtain ⟨rfl, -⟩ := Double.ofInt_eq_error_iff.mp h
      simp only [Except.error.injEq, Fault.conversion.injEq]
      tauto

end Measuring

end TradeWire
