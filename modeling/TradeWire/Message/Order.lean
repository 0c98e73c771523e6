import TradeWire.Message.OrderReport

/-!
# Messages about orders

The state of orders, reports of open and completed orders, and fills.
-/

namespace TradeWire.Message

open Reading
open Measuring (quantity)

/-! ## Orders -/

def orderStatus (version : Int) : Measuring (List Event) := do
  let hasCap : Bool := Feature.marketCapPrice ≤ version
  onlyIf (!hasCap) () skip
  return [.orderStatus (← int) (← next) (← quantity version) (← quantity version) (← double)
    (← int) (← int) (← double) (← int) (← next) (← onlyIf hasCap .zero double)]

def openOrder (version : Int) : Measuring (List Event) := do
  let report ← OrderReport.readOpen version
  return [.openOrder report.order.identity.orderId report.contract report.order report.state]

def openOrderEnd : Reading (List Event) := return [.openOrderEnd]

def completedOrder (version : Int) : Measuring (List Event) := do
  let report ← OrderReport.readCompleted version
  return [.completedOrder report.contract report.order report.state]

def completedOrdersEnd : Reading (List Event) := return [.completedOrdersEnd]

def nextValidId : Reading (List Event) := do
  skip
  return [.nextValidId (← int)]

def orderBound : Reading (List Event) := do
  return [.orderBound (← long) (← int) (← int)]

def deltaNeutralValidation : Reading (List Event) := do
  skip
  return [.deltaNeutralValidation (← int) (← deltaNeutral)]

/-! ## Fills -/

/-- One fill of an order with an id. -/
def execution (version own orderId : Int) : Measuring Execution := do
  let executionId ← text
  let time ← text
  let account ← text
  let exchange ← text
  let side ← text
  let shares ← quantity version
  let price ← number
  let permanentId ← int
  let clientId ← int
  let liquidation ← int
  let cumulativeQuantity ← onlyIf (6 ≤ own) .zero number
  let averagePrice ← onlyIf (6 ≤ own) .zero number
  let orderReference ← onlyIf (8 ≤ own) Label.blank text
  let evRule ← onlyIf (9 ≤ own) Label.blank text
  let evMultiplier ← onlyIf (9 ≤ own) .zero number
  let modelCode ← onlyIf (Feature.modelsSupport ≤ version) Label.blank text
  let lastLiquidity ← onlyIf (Feature.lastLiquidity ≤ version) 0 int
  return {
    executionId, time, account, exchange, side, shares := .real shares, price, permanentId,
    clientId, orderId, liquidation, cumulativeQuantity, averagePrice, orderReference, evRule,
    evMultiplier, modelCode, lastLiquidity }

/-- A fill; newer servers send no version with the message. -/
def executionDetails (version : Int) : Measuring (List Event) := do
  let own ← ownVersion (version < Feature.lastLiquidity) version
  let id ← onlyIf (7 ≤ own) noId int
  let orderId ← int
  let contract ← contract (9 ≤ own) (10 ≤ own)
  let execution ← execution version own orderId
  return [.executionDetails id contract execution]

def executionDetailsEnd : Reading (List Event) := do
  skip
  return [.executionDetailsEnd (← int)]

def commissionReport : Reading (List Event) := do
  skip
  let executionId ← text
  let commission ← number
  let currency ← text
  let realizedPnl ← number
  let yieldRate ← number
  let yieldRedemptionDate ← int
  return [.commissionReport
    { executionId, commission, currency, realizedPnl, yieldRate, yieldRedemptionDate }]

end TradeWire.Message
