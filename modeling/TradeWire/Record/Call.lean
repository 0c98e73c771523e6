import TradeWire.Record.Datum

/-!
# Calls

A call gives arguments in order, by name, or both. What is called takes them parameter by parameter;
a parameter with a default need not be given.
-/

namespace TradeWire

/-- The arguments of a call. -/
structure Arguments where
  positional : List Datum := []
  named : List (String × Datum) := []

/-- A reading of arguments, parameter by parameter. -/
abbrev Call (α : Type) := StateT Arguments Option α

namespace Call

/-- The argument for the next parameter, if it is given. -/
def next? (name : String) : Call (Option Datum) := do
  let given ← get
  match given.positional with
  | value :: rest =>
    set { given with positional := rest }
    return some value
  | [] => return given.named.lookup name

/-- A parameter that must be given. -/
def need {α : Type} [Described α] (name : String) : Call α := do
  match ← next? name with
  | some value => (recognise value : Option α)
  | none => failure

/-- A parameter with a default. -/
def getD {α : Type} [Described α] (name : String) (default : α) : Call α := do
  match ← next? name with
  | some value => (recognise value : Option α)
  | none => return default

/-- A parameter that asks whether something holds. -/
def holds (name : String) (default : Bool) : Call Bool := do
  return ((← next? name).map Datum.isGiven).getD default

/-- The result of a reading that uses all arguments. -/
def result? {α : Type} (call : Call α) (arguments : Arguments) : Option α :=
  match call.run arguments with
  | some (value, rest) => if rest.positional.isEmpty then some value else none
  | none => none

end Call

end TradeWire
