import TradeWire.Message.Basic
import TradeWire.Text.Blank

/-!
# Messages about instruments

Contract details, option parameters, matching symbols, market rules, and scanners.
-/

namespace TradeWire.Message

open Reading

/-! ## Contract details -/

/-- The id of the request, which old messages do not hold. -/
def detailsId (own : Int) : Reading Int := onlyIf (3 ≤ own) noId int

/-- The last trade date and time, which share one field. -/
def withLastTradeDate (field : String) (details : ContractDetails) : ContractDetails :=
  match Text.words field with
  | [] => details
  | [date] => { details with contract.lastTradeDate := some date }
  | date :: time :: _ =>
    { details with contract.lastTradeDate := some date, lastTradeTime := some time }

/-- The maturity of a bond, the time, and the time zone, which share one field. -/
def withMaturity (field : String) (details : ContractDetails) : ContractDetails :=
  match Text.words field with
  | [] => details
  | [date] => { details with maturity := some date }
  | [date, time] => { details with maturity := some date, lastTradeTime := some time }
  | date :: time :: zone :: _ =>
    { details with maturity := some date, lastTradeTime := some time, timeZone := some zone }

def contractDetails (version : Int) : Reading (List Event) := do
  let own ← int
  let id ← detailsId own
  let symbol ← text
  let secType ← text
  let lastTrade ← next
  let strike ← number
  let right ← text
  let exchange ← text
  let currency ← text
  let localSymbol ← text
  let marketName ← text
  let tradingClass ← text
  let contractId ← int
  let minTick ← number
  let sizeMultiplier ← onlyIf (Feature.mdSizeMultiplier ≤ version) 0 int
  let multiplier ← text
  let orderTypes ← text
  let validExchanges ← text
  let priceMagnifier ← int
  let underlyingId ← onlyIf (4 ≤ own) 0 int
  let longName ← onlyIf (5 ≤ own) Label.blank text
  let primaryExchange ← onlyIf (5 ≤ own) Label.blank text
  let contractMonth ← onlyIf (6 ≤ own) Label.blank text
  let industry ← onlyIf (6 ≤ own) Label.blank text
  let category ← onlyIf (6 ≤ own) Label.blank text
  let subcategory ← onlyIf (6 ≤ own) Label.blank text
  let timeZone ← onlyIf (6 ≤ own) Label.blank text
  let tradingHours ← onlyIf (6 ≤ own) Label.blank text
  let liquidHours ← onlyIf (6 ≤ own) Label.blank text
  let evRule ← onlyIf (8 ≤ own) Label.blank text
  let evMultiplier ← onlyIf (8 ≤ own) .zero number
  let secIdList ← onlyIf (7 ≤ own) [] pairs
  let aggregateGroup ← onlyIf (Feature.aggGroup ≤ version) 0 int
  let underlyingSymbol ← onlyIf (Feature.underlyingInfo ≤ version) Label.blank text
  let underlyingSecType ← onlyIf (Feature.underlyingInfo ≤ version) Label.blank text
  let marketRuleIds ← onlyIf (Feature.marketRules ≤ version) Label.blank text
  let realExpirationDate ← onlyIf (Feature.realExpirationDate ≤ version) Label.blank text
  let contract : Contract := {
    contractId, symbol, secType, strike, right, multiplier, exchange, primaryExchange, currency,
    localSymbol, tradingClass }
  return [.contractDetails id <| withLastTradeDate lastTrade {
    contract, marketName, minTick, orderTypes, validExchanges, priceMagnifier, underlyingId,
    longName, contractMonth, industry, category, subcategory, timeZone, tradingHours, liquidHours,
    evRule, evMultiplier, sizeMultiplier, aggregateGroup, underlyingSymbol, underlyingSecType,
    marketRuleIds, secIdList := some secIdList, realExpirationDate }]

def bondDetails (version : Int) : Reading (List Event) := do
  let own ← int
  let id ← detailsId own
  let symbol ← text
  let secType ← text
  let cusip ← text
  let coupon ← number
  let lastTrade ← next
  let issueDate ← text
  let ratings ← text
  let bondType ← text
  let couponType ← text
  let convertible ← flag
  let callable ← flag
  let putable ← flag
  let description ← text
  let exchange ← text
  let currency ← text
  let marketName ← text
  let tradingClass ← text
  let contractId ← int
  let minTick ← number
  let sizeMultiplier ← onlyIf (Feature.mdSizeMultiplier ≤ version) 0 int
  let orderTypes ← text
  let validExchanges ← text
  let nextOptionDate ← onlyIf (2 ≤ own) Label.blank text
  let nextOptionType ← onlyIf (2 ≤ own) Label.blank text
  let nextOptionPartial ← onlyIf (2 ≤ own) false flag
  let notes ← onlyIf (2 ≤ own) Label.blank text
  let longName ← onlyIf (4 ≤ own) Label.blank text
  let evRule ← onlyIf (6 ≤ own) Label.blank text
  let evMultiplier ← onlyIf (6 ≤ own) .zero number
  let secIdList ← onlyIf (5 ≤ own) [] pairs
  let aggregateGroup ← onlyIf (Feature.aggGroup ≤ version) 0 int
  let marketRuleIds ← onlyIf (Feature.marketRules ≤ version) Label.blank text
  let contract : Contract := { contractId, symbol, secType, exchange, currency, tradingClass }
  return [.bondContractDetails id <| withMaturity lastTrade {
    contract, marketName, minTick, orderTypes, validExchanges, longName, evRule, evMultiplier,
    sizeMultiplier, aggregateGroup, marketRuleIds, secIdList := some secIdList, cusip, ratings,
    description, bondType, couponType, callable, putable, coupon, convertible, issueDate,
    nextOptionDate, nextOptionType, nextOptionPartial, notes }]

def contractDetailsEnd : Reading (List Event) := do
  skip
  return [.contractDetailsEnd (← int)]

/-! ## Searches -/

/-- Option parameters; expirations and strikes are sets. -/
def optionParameters : Reading (List Event) := do
  let id ← int
  let exchange ← next
  let underlyingId ← int
  let tradingClass ← next
  let multiplier ← next
  let expirations ← listOf next
  let strikes ← listOf double
  return [.optionParameters id exchange underlyingId tradingClass multiplier
    (distinctBy (· == ·) expirations) (distinctBy Double.same strikes)]

def optionParametersEnd : Reading (List Event) := do
  return [.optionParametersEnd (← int)]

/-- A matching contract, and the kinds of derivatives that exist on it. -/
def symbolSample : Reading ContractDescription := do
  let contractId ← int
  let symbol ← text
  let secType ← text
  let primaryExchange ← text
  let currency ← text
  let derivatives ← listOf next
  return {
    contract := { contractId, symbol, secType, primaryExchange, currency }
    derivativeSecTypes := some derivatives }

def symbolSamples : Reading (List Event) := do
  return [.symbolSamples (← int) (← listOf symbolSample)]

def priceIncrement : Reading PriceIncrement := do
  let lowEdge ← number
  let increment ← number
  return { lowEdge, increment }

def marketRule : Reading (List Event) := do
  return [.marketRule (← int) (← listOf priceIncrement)]

/-! ## Scanners -/

def scannerParameters : Reading (List Event) := do
  skip
  return [.scannerParameters (← next)]

def scannerRow (own : Int) : Reading ScannerRow := do
  let rank ← int
  let contractId ← onlyIf (3 ≤ own) 0 int
  let symbol ← text
  let secType ← text
  let lastTradeDate ← text
  let strike ← number
  let right ← text
  let exchange ← text
  let currency ← text
  let localSymbol ← text
  let marketName ← text
  let tradingClass ← text
  let distance ← text
  let benchmark ← text
  let projection ← text
  let legs ← onlyIf (2 ≤ own) Label.blank text
  let contract : Contract := {
    contractId, symbol, secType, lastTradeDate, strike, right, exchange, currency, localSymbol,
    tradingClass }
  return { details := { contract, marketName }, rank, distance, benchmark, projection, legs }

/-- The rows of a scanner, told one by one. -/
def scannerRows : Reading Rows := do
  let own ← int
  let id ← int
  let count ← int
  return { count, row := do return .scannerRow id (← scannerRow own), last := .scannerEnd id }

end TradeWire.Message
