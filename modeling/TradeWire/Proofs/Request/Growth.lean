import TradeWire.Proofs.Request.Arguments
import TradeWire.Proofs.Request.Plan

/-!
# Plans at newer versions

What a newer server changes in a plan is read off the spans of its checks and steps. From version
101 on, checks only end, so a request that nothing stops at a version is stopped at no later one
(`first?_of_onlyEnds`). A step either is settled by then or begins at some later version for good;
so the fields of a version stay in their order while others come in between (`fieldsAt_sublist`),
and they can still be written if those that begin later can (`isWritable_fieldsAt`).
-/

namespace TradeWire

/-! ## Spans from version 101 on -/

namespace Span

/-- A span has all versions from 101 on or none of them. -/
def isSettled : Span → Bool
  | .always | .never => true
  | .since first => first ≤ 101
  | .before next | .between _ next => next ≤ 101

/-- From version 101 on, a span may end but does not begin. -/
def onlyEnds : Span → Bool
  | .always | .never | .before _ => true
  | .since first | .between first _ => first ≤ 101

variable {span : Span} {v w : Int} (known : 101 ≤ v) (later : v ≤ w)
include known later

theorem contains_of_isSettled (settled : span.isSettled = true) :
    span.contains w = span.contains v := by
  cases span <;> simp only [isSettled, decide_eq_true_eq, contains] at settled ⊢ <;> grind

theorem contains_of_onlyEnds (ends : span.onlyEnds = true) (h : span.contains w = true) :
    span.contains v = true := by
  cases span <;> simp only [onlyEnds, decide_eq_true_eq, contains] at ends h ⊢ <;> grind

end Span

/-! ## Steps and checks -/

def Step.AllWritable (steps : List Step) : Prop :=
  ∀ step ∈ steps, ∀ field ∈ step.fields, field.IsWritable

namespace Step

@[simp]
theorem allWritable_nil : AllWritable [] := nofun

@[simp]
theorem allWritable_cons {step : Step} {steps : List Step} :
    AllWritable (step :: steps) ↔
      (∀ field ∈ step.fields, field.IsWritable) ∧ AllWritable steps :=
  List.forall_mem_cons

@[simp]
theorem allWritable_append {steps more : List Step} :
    AllWritable (steps ++ more) ↔ AllWritable steps ∧ AllWritable more :=
  List.forall_mem_append

theorem AllWritable.fieldsAt {steps : List Step} (writable : AllWritable steps) (version : Int) :
    ∀ field ∈ fieldsAt version steps, field.IsWritable := by
  intro field member
  obtain ⟨step, kept, member⟩ := List.mem_flatMap.mp member
  exact writable step (List.mem_of_mem_filter kept) field member

end Step

section

variable {v w : Int} (known : 101 ≤ v) (later : v ≤ w)

/-- A step is written at all versions from 101 on, at none of them, or from some later one on, and
then its fields can be written. -/
def Step.Grows (step : Step) : Prop :=
  step.span.isSettled = true ∨
    (∃ first, step.span = .since first) ∧ ∀ field ∈ step.fields, field.IsWritable

theorem grows_since {first : Int} {fields : List Field}
    (writable : ∀ field ∈ fields, field.IsWritable) : (Step.since first fields).Grows :=
  .inr ⟨⟨first, rfl⟩, writable⟩

theorem grow_of_allWritable {steps : List Step} (writable : Step.AllWritable steps)
    (since : ∀ step ∈ steps, ∃ first, step.span = .since first) : ∀ step ∈ steps, step.Grows :=
  fun step h => .inr ⟨since step h, writable step h⟩

theorem grows_of_all {steps : List Step} (settled : steps.all (·.span.isSettled) = true) :
    ∀ step ∈ steps, step.Grows :=
  fun step h => .inl (List.all_eq_true.mp settled step h)

include known later

theorem Step.Grows.contains {step : Step} (grows : step.Grows) (h : step.span.contains v = true) :
    step.span.contains w = true := by
  rcases grows with settled | ⟨⟨first, since⟩, -⟩
  · rw [Span.contains_of_isSettled known later settled, h]
  · rw [since, Span.contains, decide_eq_true_eq] at h ⊢
    exact h.trans later

theorem Step.Grows.isWritable {step : Step} (grows : step.Grows)
    (old : step.span.contains v = true → ∀ field ∈ step.fields, field.IsWritable)
    (h : step.span.contains w = true) : ∀ field ∈ step.fields, field.IsWritable := by
  rcases grows with settled | ⟨-, writable⟩
  · rw [Span.contains_of_isSettled known later settled] at h
    exact old h
  · exact writable

theorem fieldsAt_sublist {steps : List Step} (grow : ∀ step ∈ steps, step.Grows) :
    (Step.fieldsAt v steps).Sublist (Step.fieldsAt w steps) := by
  induction steps with
  | nil => exact .slnil
  | cons step steps ih =>
    obtain ⟨first, others⟩ := List.forall_mem_cons.mp grow
    rw [Step.fieldsAt_cons, Step.fieldsAt_cons]
    refine List.Sublist.append ?_ (ih others)
    by_cases h : step.span.contains v = true
    · rw [if_pos h, if_pos (first.contains known later h)]
    · rw [if_neg h]
      exact List.nil_sublist _

theorem isWritable_fieldsAt {steps : List Step} (grow : ∀ step ∈ steps, step.Grows)
    (old : ∀ field ∈ Step.fieldsAt v steps, field.IsWritable) :
    ∀ field ∈ Step.fieldsAt w steps, field.IsWritable := by
  induction steps with
  | nil => exact nofun
  | cons step steps ih =>
    obtain ⟨first, others⟩ := List.forall_mem_cons.mp grow
    rw [Step.fieldsAt_cons, List.forall_mem_append] at old ⊢
    refine ⟨?_, ih others old.2⟩
    by_cases h : step.span.contains w = true
    · rw [if_pos h]
      -- a settled step was written at `v` already; the fields of any other can be written
      refine first.isWritable known later (fun h => ?_) h
      rw [if_pos h] at old
      exact old.1
    · rw [if_neg h]
      exact nofun

theorem first?_of_onlyEnds {checks : List Check}
    (ends : ∀ check ∈ checks, check.span.onlyEnds = true) (free : Check.first? v checks = none) :
    Check.first? w checks = none := by
  induction checks with
  | nil => rfl
  | cons check checks ih =>
    obtain ⟨first, others⟩ := List.forall_mem_cons.mp ends
    rw [Check.first?_cons, Option.or_eq_none_iff] at free ⊢
    refine ⟨?_, ih others free.2⟩
    by_cases h : check.span.contains w = true
    · rw [if_pos (Span.contains_of_onlyEnds known later first h)] at free
      rw [if_pos h, free.1]
    · rw [if_neg h]

end

end TradeWire
