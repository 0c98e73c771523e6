import Mathlib.Tactic
import TradeWire.Wire.Reading

/-!
# Readings

How the start of a reading is put together from the starts of its parts (`start_bind`), with and
without quantities. A reading without quantities never fails to convert a number
(`start_ne_conversion`), and one that always takes the same kinds of fields has a value just if the
fields are of these kinds (`Takes`).
-/

namespace TradeWire

namespace Reading

variable {α β : Type}

/-! ## Starting -/

theorem bind_eq (r : Reading α) (more : α → Reading β) : r >>= more = r.bind more := rfl

theorem bind_done (r : Reading α) : r.bind done = r := by
  induction r with
  | done value => rfl
  | unreadable error => rfl
  | unknownCondition kind => rfl
  | take next ih => simp only [bind, ih]

theorem bind_assoc {γ : Type} (r : Reading α) (first : α → Reading β) (second : β → Reading γ) :
    (r.bind first).bind second = r.bind fun value => (first value).bind second := by
  induction r with
  | done value => rfl
  | unreadable error => rfl
  | unknownCondition kind => rfl
  | take next ih => simp only [bind, ih]

instance : LawfulMonad Reading :=
  LawfulMonad.mk' Reading (fun r => bind_done r) (fun _ _ => rfl) bind_assoc

theorem start_pure (value : α) (c : Cursor) : (pure value : Reading α).start c = (.ok value, c) :=
  rfl

theorem start_bind (r : Reading α) (more : α → Reading β) (c : Cursor) :
    (r >>= more).start c = match r.start c with
      | (.ok value, c) => (more value).start c
      | (.error fault, c) => (.error fault, c) := by
  rw [bind_eq]
  induction r generalizing c with
  | done value => rfl
  | unreadable error => rfl
  | unknownCondition kind => rfl
  | take next ih =>
    rw [bind, start, start]
    cases c.rest with
    | nil => rfl
    | cons token rest => exact ih c.position token ⟨c.position + 1, rest⟩

theorem start_ne_conversion (r : Reading α) (c : Cursor) (error : Double.ConversionError) :
    (r.start c).1 ≠ .error (.conversion error) := by
  induction r generalizing c with
  | done value => exact nofun
  | unreadable error => exact nofun
  | unknownCondition kind => exact nofun
  | take next ih =>
    rw [start]
    cases c.rest with
    | nil => exact nofun
    | cons token rest => exact ih c.position token ⟨c.position + 1, rest⟩

end Reading

/-! ## Kinds of fields -/

/-- The integer of a field, which is not set if the field is empty. -/
def intOf? (token : String) : Option Int :=
  if token = "" then some unsetInt else (Text.readInt token).toOption

/-- What a place in a message asks for. -/
inductive Slot where
  | int
  | double
  | text

namespace Slot

def accepts : Slot → String → Bool
  | .int, token => (intOf? token).isSome
  | .double, token => token = "" || (Text.readDouble? token).isSome
  | .text, _ => true

/-- The fields behind some places, if all of these can be read. -/
def strip : List Slot → List String → Option (List String)
  | [], fields => some fields
  | _ :: _, [] => none
  | slot :: slots, token :: rest => bif slot.accepts token then strip slots rest else none

/-- Places that are there under some condition only. -/
def only (condition : Bool) (slots : List Slot) : List Slot := if condition then slots else []

theorem strip_append (first second : List Slot) (fields : List String) :
    strip (first ++ second) fields = (strip first fields).bind (strip second) := by
  induction first generalizing fields with
  | nil => rfl
  | cons slot slots ih =>
    cases fields with
    | nil => rfl
    | cons token rest =>
      rw [List.cons_append, strip, strip]
      cases slot.accepts token
      · rfl
      · exact ih rest

end Slot

namespace Reading

variable {α β : Type}

/-- Takes fields for some places, and has a value just if they can be read there. -/
def Takes (slots : List Slot) (r : Reading α) : Prop :=
  ∀ c, Slot.strip slots c.rest = match r.start c with
    | (.ok _, left) => some left.rest
    | (.error _, _) => none

theorem takes_pure (value : α) : Takes [] (pure value) := fun _ => rfl

theorem takes_bind {first second : List Slot} {r : Reading α} {more : α → Reading β}
    (h : Takes first r) (hm : ∀ value, Takes second (more value)) :
    Takes (first ++ second) (r >>= more) := by
  intro c
  rw [start_bind, Slot.strip_append, h c]
  rcases r.start c with ⟨fault | value, left⟩
  · rfl
  · exact hm value left

theorem takes_cons {slot : Slot} {slots : List Slot} {r : Reading α} {more : α → Reading β}
    (h : Takes [slot] r) (hm : ∀ value, Takes slots (more value)) :
    Takes (slot :: slots) (r >>= more) := takes_bind h hm

theorem takes_map {slots : List Slot} {r : Reading α} (h : Takes slots r) (f : α → β) :
    Takes slots (r >>= fun value => pure (f value)) := by
  rw [← List.append_nil slots]
  exact takes_bind h fun value => takes_pure (f value)

theorem takes_onlyIf {slots : List Slot} {r : Reading α} (h : Takes slots r) (condition : Bool)
    (default : α) : Takes (Slot.only condition slots) (onlyIf condition default r) := by
  cases condition
  · exact takes_pure default
  · exact h

theorem takes_converted {slot : Slot} {reason : DecodeError.Reason} {convert : String → Option α}
    (h : ∀ token, slot.accepts token = (convert token).isSome) :
    Takes [slot] (converted reason convert) := by
  intro c
  rw [converted, start]
  cases c.rest with
  | nil => rfl
  | cons token rest =>
    simp only [Slot.strip, h token]
    cases convert token <;> rfl

theorem takes_int : Takes [.int] int := takes_converted fun _ => rfl

theorem takes_double : Takes [.double] double := takes_converted fun token => by
  simp only [Slot.accepts]
  split_ifs with empty <;> simp [empty]

theorem takes_next : Takes [.text] next := by
  intro c
  rw [next, start]
  cases c.rest <;> rfl

theorem takes_text : Takes [.text] text := takes_map takes_next some

theorem takes_skip : Takes [.text] skip :=
  takes_map (takes_map takes_next fun first => [first]) fun _ => ()

theorem start_int {c : Cursor} {token : String} {rest : List String} (h : c.rest = token :: rest) :
    int.start c = match intOf? token with
      | some value => (.ok value, ⟨c.position + 1, rest⟩)
      | none =>
        (.error (.field ⟨some token, c.position, .expectedInt⟩), ⟨c.position + 1, rest⟩) := by
  rw [int, intOr, converted, start, h]
  simp only
  rw [intOf?]
  split <;> rename_i found <;> rw [found] <;> rfl

end Reading

end TradeWire
