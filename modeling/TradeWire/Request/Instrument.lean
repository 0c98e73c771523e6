import TradeWire.Instrument.Contract
import TradeWire.Request.Plan

/-!
# Contracts in requests

The steps that write a contract, its legs and its hedge, which many requests share, and the checks
on the parts of a contract that older servers do not know.
-/

namespace TradeWire

namespace Contract

/-- The description of a contract, some parts of which are written at some versions only. -/
def steps (c : Contract) (contractId primaryExchange tradingClass : Span) : List Step := [
  ⟨contractId, [.int c.contractId]⟩,
  .always [c.symbol.field, c.secType.field, c.lastTradeDate.field, c.strike.field, c.right.field,
    c.multiplier.field, c.exchange.field],
  ⟨primaryExchange, [c.primaryExchange.field]⟩,
  .always [c.currency.field, c.localSymbol.field],
  ⟨tradingClass, [c.tradingClass.field]⟩]

/-- What identifies a leg in requests for data. -/
def legFields (leg : ComboLeg) : List Field :=
  [.int leg.contractId, .int leg.ratio, leg.action.field, leg.exchange.field]

/-- The legs of a combination, in short form. -/
def legSteps (c : Contract) : List Step :=
  if c.isCombo then [.always (countField c.legs :: c.legs.flatMap legFields)] else []

/-- Whether there is a hedging contract, and its description. -/
def neutralFields (c : Contract) : List Field :=
  match c.deltaNeutral with
  | none => [.flag false]
  | some neutral => [.flag true, .int neutral.contractId, neutral.delta.field, neutral.price.field]

end Contract

end TradeWire
