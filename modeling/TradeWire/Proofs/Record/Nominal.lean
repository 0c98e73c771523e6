import Mathlib.Tactic
import TradeWire.Order.Attributes

/-!
# Nominal records

An attribute may hold other kinds of data than the one it is meant for: an integer for a price, or
nothing for a text. In a nominal record every attribute holds data of the kind that it starts with
(`Holder.IsNominal`).
-/

namespace TradeWire

/-- A number that is held as a double. -/
def Number.isReal : Number → Bool
  | .real _ => true
  | .int _ => false

/-! ## Kinds -/

theorem isReal_of_kind {n : Number} (h : (describe n : Datum).kindName = "float") :
    n.isReal = true := by
  cases n with
  | int value => simp [describe, Number.field, Datum.kindName, Field.kind] at h
  | real x => rfl

theorem isSome_of_kind {label : Label} (h : (describe label : Datum).kindName = "str") :
    label.isSome = true := by
  cases label with
  | none => simp [describe, Datum.kindName, Field.kind] at h
  | some text => rfl

theorem isSome_of_kind_list {α : Type} [Described α] {items : Option (List α)}
    (h : (describe items : Datum).kindName = "list") : items.isSome = true := by
  cases items with
  | none => simp [describe, Datum.kindName, Field.kind] at h
  | some items => rfl

theorem exists_int_of_kind {field : Field} (h : (describe field : Datum).kindName = "int") :
    ∃ n, field = .int n := by
  cases field <;> simp [describe, Datum.kindName, Field.kind] at h ⊢

theorem exists_real_of_kind {field : Field} (h : (describe field : Datum).kindName = "float") :
    ∃ x, field = .real x := by
  cases field <;> simp [describe, Datum.kindName, Field.kind] at h ⊢

theorem exists_flag_of_kind {field : Field} (h : (describe field : Datum).kindName = "bool") :
    ∃ b, field = .flag b := by
  cases field <;> simp [describe, Datum.kindName, Field.kind] at h ⊢

/-! ## Records -/

namespace Holder

variable {α : Type} [Inhabited α] [Holder α] {value : α}

/-- Every attribute has the kind of data that it starts with, unless it starts as missing. -/
def IsNominal (value : α) : Prop :=
  ∀ a ∈ attributes (α := α),
    (a.get default).kindName = "NoneType" ∨
      (a.get value).kindName = (a.get default).kindName

instance (value : α) : Decidable (IsNominal value) :=
  inferInstanceAs (Decidable (∀ a ∈ attributes (α := α), _))

theorem IsNominal.kind (nominal : IsNominal value) (name : String) {given initial : Datum}
    (member : (name, given, initial) ∈
      attributes.map fun a : Attribute α => (a.name, a.get value, a.get default))
    (known : initial.kindName ≠ "NoneType") : given.kindName = initial.kindName := by
  obtain ⟨a, mem, eq⟩ := List.mem_map.mp member
  cases eq
  exact (nominal a mem).resolve_left known

end Holder

end TradeWire
