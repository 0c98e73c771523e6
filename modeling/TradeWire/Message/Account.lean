import TradeWire.Message.Basic

/-!
# Messages about accounts

Account values, positions, profit and loss, and what financial advisors manage.
-/

namespace TradeWire.Message

open Reading
open Measuring (quantity)

/-! ## Account values -/

def accountValue : Reading (List Event) := do
  skip
  return [.accountValue (← next) (← next) (← next) (← next)]

def accountTime : Reading (List Event) := do
  skip
  return [.accountTime (← next)]

def accountDownloadEnd : Reading (List Event) := do
  skip
  return [.accountDownloadEnd (← next)]

def managedAccounts : Reading (List Event) := do
  skip
  return [.managedAccounts (← next)]

def accountSummary : Reading (List Event) := do
  skip
  return [.accountSummary (← int) (← next) (← next) (← next) (← next)]

def accountSummaryEnd : Reading (List Event) := do
  skip
  return [.accountSummaryEnd (← int)]

def accountUpdateMulti : Reading (List Event) := do
  skip
  return [.accountUpdateMulti (← int) (← next) (← next) (← next) (← next) (← next)]

def accountUpdateMultiEnd : Reading (List Event) := do
  skip
  return [.accountUpdateMultiEnd (← int)]

/-! ## Positions -/

/-- The one server version that sends the primary exchange after everything else. -/
def lateExchangeVersion : Int := 39

/-- The contract of a portfolio entry, which has no exchange but a primary one. -/
def portfolioContract (own : Int) : Reading Contract := do
  let contractId ← int
  let symbol ← text
  let secType ← text
  let lastTradeDate ← text
  let strike ← number
  let right ← text
  let multiplier ← onlyIf (7 ≤ own) Label.blank text
  let primaryExchange ← onlyIf (7 ≤ own) Label.blank text
  let currency ← text
  let localSymbol ← text
  let tradingClass ← onlyIf (8 ≤ own) Label.blank text
  return {
    contractId, symbol, secType, lastTradeDate, strike, right, multiplier, primaryExchange,
    currency, localSymbol, tradingClass }

def portfolioValue (version : Int) : Measuring (List Event) := do
  let own ← int
  let contract ← portfolioContract own
  let held ← quantity version
  let marketPrice ← double
  let marketValue ← double
  let averageCost ← double
  let unrealizedPnl ← double
  let realizedPnl ← double
  let account ← next
  let primaryExchange ←
    onlyIf (own == 6 && version == lateExchangeVersion) contract.primaryExchange text
  return [.portfolioValue { contract with primaryExchange } held marketPrice marketValue
    averageCost unrealizedPnl realizedPnl account]

def positionHeld (version : Int) : Measuring (List Event) := do
  let own ← int
  let account ← next
  let contract ← contract true (2 ≤ own)
  let held ← quantity version
  let averageCost ← onlyIf (3 ≤ own) .zero double
  return [.positionHeld account contract held averageCost]

def positionEnd : Reading (List Event) := return [.positionEnd]

def positionMulti : Reading (List Event) := do
  skip
  let id ← int
  let account ← next
  let contract ← contract
  let held ← double
  let averageCost ← double
  let modelCode ← next
  return [.positionMulti id account modelCode contract held averageCost]

def positionMultiEnd : Reading (List Event) := do
  skip
  return [.positionMultiEnd (← int)]

/-! ## Profit and loss -/

def pnl (version : Int) : Reading (List Event) := do
  return [.pnl (← int) (← double) (← doubleSince Feature.unrealizedPnl version)
    (← doubleSince Feature.realizedPnl version)]

def pnlSingle (version : Int) : Reading (List Event) := do
  return [.pnlSingle (← int) (← int) (← double) (← doubleSince Feature.unrealizedPnl version)
    (← doubleSince Feature.realizedPnl version) (← double)]

/-! ## Families and advisors -/

def familyCode : Reading FamilyCode := do
  let accountId ← text
  let familyCode ← text
  return { accountId, familyCode }

def familyCodes : Reading (List Event) := do
  return [.familyCodes (← listOf familyCode)]

def advisorData : Reading (List Event) := do
  skip
  return [.advisorData (← int) (← next)]

def softDollarTier : Reading SoftDollarTier := do
  let name ← text
  let value ← text
  let displayName ← text
  return { name, value, displayName }

def softDollarTiers : Reading (List Event) := do
  return [.softDollarTiers (← int) (← listOf softDollarTier)]

end TradeWire.Message
