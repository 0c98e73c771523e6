import TradeWire.Record.Datum

/-!
# Records by their attributes

A holder is a structure with a list of its attributes: their names, in the order in which they are
shown, and how each is read and replaced. From that list come the view of a holder as data, and the
holder that differs from the default in some named attributes.
-/

namespace TradeWire

/-- One attribute of a structure. -/
structure Attribute (σ : Type) where
  name : String
  get : σ → Datum
  set : σ → Datum → Option σ

/-- An attribute of a described type. -/
def Attribute.of {σ β : Type} [Described β] (name : String) (get : σ → β) (set : σ → β → σ) :
    Attribute σ where
  name := name
  get s := describe (get s)
  set s datum := (recognise datum).map (set s)

/-- Structures with a list of attributes. -/
class Holder (α : Type) [Inhabited α] where
  kind : String
  attributes : List (Attribute α)

namespace Holder

variable {α : Type} [Inhabited α] [Holder α]

/-- Replaces the named attributes one after another. -/
def update (value : α) : List (String × Datum) → Option α
  | [] => some value
  | (name, datum) :: rest => do
    let found ← (attributes (α := α)).find? (·.name == name)
    update (← found.set value datum) rest

instance : Described α where
  describe value := .record (kind α) (attributes.map fun a => (a.name, a.get value))
  recognise
    | .record found given => if found == kind α then update default given else none
    | _ => none

end Holder

end TradeWire
