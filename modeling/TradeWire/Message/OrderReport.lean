import TradeWire.Message.Basic

/-!
# Reports of orders

The messages about open and completed orders hold a contract, an order, and what the server says
about it, in one long sequence of fields. The sequence is a list of segments; a segment reads some
fields and adds them to the report, and attributes that it does not read stay as they are. Which
fields there are depends on the version of the message and on the version of the server; a completed
order has no version of its own and counts as new.
-/

namespace TradeWire

/-- What is told about an order. -/
structure OrderReport where
  contract : Contract := {}
  order : Order := {}
  state : OrderState := {}

/-- A part of the message that adds to a report. -/
abbrev Segment := OrderReport → Reading OrderReport

/-- The versions on which the fields of a report depend. -/
structure ReportVersions where
  message : Int
  server : Int

open Reading

namespace Segment

/-- Reads one thing and puts it into the report. -/
def of {α : Type} (read : Reading α) (put : OrderReport → α → OrderReport) : Segment :=
  fun report => do return put report (← read)

/-- Reads into a part of the report, of which some attributes may stay as they are. -/
def into {α : Type} (part : OrderReport → α) (read : α → Reading α)
    (put : OrderReport → α → OrderReport) : Segment :=
  fun report => do return put report (← read (part report))

/-- A segment that is there under some condition only. -/
def onlyIf (condition : Bool) (segment : Segment) : Segment :=
  fun report => if condition then segment report else pure report

/-- Fields that are not used. -/
def ignored (count : Int := 1) : Segment := fun report => do
  skip count
  return report

/-- One segment after another. -/
def all (segments : List Segment) : Segment := fun report =>
  segments.foldlM (fun report segment => segment report) report

end Segment

/-! ## Groups of attributes -/

namespace Order

/-- A volatility order, and its hedge if it has one; open orders tell more about the hedge. -/
def Volatility.read (version : Int) (isOpen : Bool) (before : Volatility) :
    Reading Volatility := do
  let level ← number
  let levelType ← int
  let hedgeOrderType ← text
  let hedgeAuxPrice ← number
  let start : Volatility := { before with level, levelType, hedgeOrderType, hedgeAuxPrice }
  let hasIds : Bool := 27 ≤ version && start.isHedged
  let hedgeContractId ← onlyIf hasIds before.hedgeContractId int
  let hedgeSettlingFirm ← onlyIf (hasIds && isOpen) before.hedgeSettlingFirm text
  let hedgeClearingAccount ← onlyIf (hasIds && isOpen) before.hedgeClearingAccount text
  let hedgeClearingIntent ← onlyIf (hasIds && isOpen) before.hedgeClearingIntent text
  let hasSale : Bool := 31 ≤ version && start.isHedged
  let hedgeOpenClose ← onlyIf (hasSale && isOpen) before.hedgeOpenClose text
  let hedgeShortSale ← onlyIf hasSale before.hedgeShortSale flag
  let hedgeShortSaleSlot ← onlyIf hasSale before.hedgeShortSaleSlot int
  let hedgeLocation ← onlyIf hasSale before.hedgeLocation text
  let continuousUpdate ← flag
  let referencePriceType ← int
  return { start with
    hedgeContractId, hedgeSettlingFirm, hedgeClearingAccount, hedgeClearingIntent, hedgeOpenClose,
    hedgeShortSale, hedgeShortSaleSlot, hedgeLocation, continuousUpdate, referencePriceType }

def Trail.read (version : Int) (before : Trail) : Reading Trail := do
  let stopPrice ← number
  let percent ← onlyIf (30 ≤ version) before.percent number
  return { stopPrice, percent }

/-- A scale, and its details if there is an increment. -/
def Scale.read (version : Int) (before : Scale) : Reading Scale := do
  let hasLevels : Bool := 20 ≤ version
  onlyIf (!hasLevels) () skip
  let initialLevelSize ← int
  let subsequentLevelSize ← onlyIf hasLevels before.subsequentLevelSize (Field.int <$> int)
  let priceIncrement ← double
  let start : Scale := { before with
    initialLevelSize := .int initialLevelSize
    subsequentLevelSize
    priceIncrement := .real priceIncrement }
  if 28 ≤ version && start.hasIncrement then
    let priceAdjustValue ← double
    let priceAdjustInterval ← int
    let profitOffset ← double
    let autoReset ← flag
    let initialPosition ← int
    let initialFillQuantity ← int
    let randomPercent ← flag
    return { start with
      priceAdjustValue := .real priceAdjustValue
      priceAdjustInterval := .int priceAdjustInterval
      profitOffset := .real profitOffset
      autoReset := .flag autoReset
      initialPosition := .int initialPosition
      initialFillQuantity := .int initialFillQuantity
      randomPercent := .flag randomPercent }
  else return start

def Hedge.read (before : Hedge) : Reading Hedge := do
  let kind : Label ← text
  let param ← onlyIf kind.isGiven before.param text
  return { kind, param }

/-- The strategy and its parameters, which leave the id of the algorithm as it is. -/
def Algo.read (before : Algo) : Reading Algo := do
  let strategy : Label ← text
  let params ← if strategy.isGiven then some <$> pairs else pure before.params
  return { before with strategy, params }

def Benchmark.read : Reading Benchmark := do
  let referenceContractId ← int
  let isDecrease ← flag
  let peggedChangeAmount ← number
  let referenceChangeAmount ← number
  let referenceExchange ← text
  return {
    referenceContractId, isDecrease, peggedChangeAmount, referenceChangeAmount, referenceExchange }

/-- The conditions, and what they do if there are any. -/
def Conditional.read (before : Conditional) : Reading Conditional := do
  let count ← int
  if 0 < count then
    let conditions ← counted count Condition.read
    let ignoreRegularHours ← flag
    let cancelOrder ← flag
    return { conditions := some conditions, ignoreRegularHours, cancelOrder }
  else return before

end Order

/-- A leg in the long form. -/
def ComboLeg.read : Reading ComboLeg := do
  let contractId ← int
  let ratio ← int
  let action ← text
  let exchange ← text
  let openClose ← int
  let shortSaleSlot ← int
  let designatedLocation ← text
  let exemptCode ← int
  return {
    contractId, ratio, action, exchange, openClose, shortSaleSlot, designatedLocation, exemptCode }

def OrderLeg.read : Reading OrderLeg := do return { price := ← number }

namespace OrderReport

/-- The underlying of an instrument that is hedged by one. -/
def readNeutral (before : Option DeltaNeutralContract) :
    Reading (Option DeltaNeutralContract) := do
  if ← flag then return some (← deltaNeutral) else return before

/-- A price that old messages leave empty for zero. -/
def readPrice (zeroIfEmpty : Bool) : Reading Number := do
  let price ← double
  return .real (if zeroIfEmpty && price.same unsetDouble then .zero else price)

/-! ## Segments -/

variable (v : ReportVersions)

def contractSegments : List Segment := [
  .of int fun r x => { r with contract.contractId := x },
  .of text fun r x => { r with contract.symbol := x },
  .of text fun r x => { r with contract.secType := x },
  .of text fun r x => { r with contract.lastTradeDate := x },
  .of number fun r x => { r with contract.strike := x },
  .of text fun r x => { r with contract.right := x },
  .onlyIf (32 ≤ v.message) <| .of text fun r x => { r with contract.multiplier := x },
  .of text fun r x => { r with contract.exchange := x },
  .of text fun r x => { r with contract.currency := x },
  .of text fun r x => { r with contract.localSymbol := x },
  .onlyIf (32 ≤ v.message) <| .of text fun r x => { r with contract.tradingClass := x }]

def actionSegment : Segment := .of text fun r x => { r with order.terms.action := x }

/-- How it is traded, from behind the quantity up to the reference of the order. -/
def termSegments : List Segment := [
  .of text fun r x => { r with order.terms.orderType := x },
  .of (readPrice (v.message < 29)) fun r x => { r with order.terms.limitPrice := x },
  .of (readPrice (v.message < 30)) fun r x => { r with order.terms.auxPrice := x },
  .of text fun r x => { r with order.handling.timeInForce := x },
  .of text fun r x => { r with order.handling.ocaGroup := x },
  .of text fun r x => { r with order.clearing.account := x },
  .of text fun r x => { r with order.institution.openClose := x },
  .of int fun r x => { r with order.institution.origin := x },
  .of text fun r x => { r with order.handling.reference := x }]

/-- Who placed the order, and when it is active. -/
def activitySegments : List Segment := [
  .of int fun r x => { r with order.identity.permanentId := x },
  .of flag fun r x => { r with order.handling.outsideRegularHours := x },
  .of flag fun r x => { r with order.handling.hidden := x },
  .of number fun r x => { r with order.routing.discretionaryAmount := x },
  .of text fun r x => { r with order.handling.goodAfterTime := x }]

/-- One server version sends an exempt code that means nothing. -/
def exemptCode : Segment :=
  if v.server = Feature.sshortxOld then .ignored
  else .onlyIf (23 ≤ v.message) <| .of int fun r x => { r with order.institution.exemptCode := x }

/-- The allotment, and short sales. -/
def allotmentSegments : List Segment := [
  .of text fun r x => { r with order.advisor.group := x },
  .of text fun r x => { r with order.advisor.method := x },
  .of text fun r x => { r with order.advisor.percentage := x },
  .of text fun r x => { r with order.advisor.profile := x },
  .onlyIf (Feature.modelsSupport ≤ v.server) <| .of text fun r x =>
    { r with order.modelCode := x },
  .of text fun r x => { r with order.handling.goodTillDate := x },
  .of text fun r x => { r with order.handling.rule80a := x },
  .of number fun r x => { r with order.handling.percentOffset := x },
  .of text fun r x => { r with order.clearing.settlingFirm := x },
  .of int fun r x => { r with order.institution.shortSaleSlot := x },
  .of text fun r x => { r with order.institution.designatedLocation := x },
  exemptCode v]

/-- Prices of auctions and the range of the stock price. -/
def rangeSegments : List Segment := [
  .of number fun r x => { r with order.auction.startingPrice := x },
  .of number fun r x => { r with order.auction.stockPrice := x },
  .of number fun r x => { r with order.auction.delta := x },
  .of number fun r x => { r with order.range.lower := x },
  .of number fun r x => { r with order.range.upper := x },
  .of int fun r x => { r with order.handling.displaySize := x }]

def sweepSegment : Segment := .of flag fun r x => { r with order.handling.sweepToFill := x }

def sizeSegments : List Segment := [
  .of flag fun r x => { r with order.handling.allOrNone := x },
  .of int fun r x => { r with order.handling.minQuantity := x },
  .of int fun r x => { r with order.handling.ocaType := x }]

def triggerSegment : Segment := .of int fun r x => { r with order.handling.triggerMethod := x }

def volatilitySegments (isOpen : Bool) : List Segment := [
  .into (·.order.volatility) (Order.Volatility.read v.message isOpen) fun r x =>
    { r with order.volatility := x },
  .into (·.order.trail) (Order.Trail.read v.message) fun r x => { r with order.trail := x }]

/-- The legs of a combination with their prices; old messages only describe it. -/
def comboSegments : List Segment := [
  .of text fun r x => { r with contract.comboDescription := x },
  .onlyIf (29 ≤ v.message) <| .of (listOf ComboLeg.read) fun r x =>
    { r with contract.comboLegs := some x },
  .onlyIf (29 ≤ v.message) <| .of (listOf OrderLeg.read) fun r x =>
    { r with order.combo.legs := some x },
  .onlyIf (26 ≤ v.message) <| .of pairs fun r x =>
    { r with order.combo.routingParams := some x }]

def scaleSegment : Segment :=
  .into (·.order.scale) (Order.Scale.read v.message) fun r x => { r with order.scale := x }

def hedgeSegment : Segment :=
  .onlyIf (24 ≤ v.message) <| .into (·.order.hedge) Order.Hedge.read fun r x =>
    { r with order.hedge := x }

/-- The hedge by the underlying. -/
def neutralSegment : Segment :=
  .onlyIf (20 ≤ v.message) <| .into (·.contract.deltaNeutral) readNeutral fun r x =>
    { r with contract.deltaNeutral := x }

def algoSegment : Segment :=
  .onlyIf (21 ≤ v.message) <| .into (·.order.algo) Order.Algo.read fun r x =>
    { r with order.algo := x }

/-- Clearing, hedging by the underlying, and the strategy. -/
def strategySegments : List Segment := [
  .of text fun r x => { r with order.clearing.clearingAccount := x },
  .of text fun r x => { r with order.clearing.clearingIntent := x },
  .onlyIf (22 ≤ v.message) <| .of flag fun r x => { r with order.notHeld := x },
  neutralSegment v, algoSegment v,
  .onlyIf (33 ≤ v.message) <| .of flag fun r x => { r with order.solicited := x }]

def statusSegment : Segment := .of text fun r x => { r with state.status := x }

/-- The benchmark of an order that is pegged to one. -/
def benchmarkSegment : Segment :=
  .onlyIf (Feature.peggedToBenchmark ≤ v.server) fun r =>
    if Order.isPeggedToBenchmark r.order.terms.orderType then
      do return { r with order.benchmark := ← Order.Benchmark.read }
    else pure r

def conditionalSegment : Segment :=
  .onlyIf (Feature.peggedToBenchmark ≤ v.server) <|
    .into (·.order.conditional) Order.Conditional.read fun r x => { r with order.conditional := x }

/-- What is random, the benchmark, and the conditions. -/
def conditionSegments : List Segment := [
  .onlyIf (34 ≤ v.message) <| .of flag fun r x => { r with order.range.randomizeSize := x },
  .onlyIf (34 ≤ v.message) <| .of flag fun r x => { r with order.range.randomizePrice := x },
  benchmarkSegment v, conditionalSegment v]

def stopSegments : List Segment := [
  .of number fun r x => { r with order.trail.stopPrice := x },
  .of number fun r x => { r with order.adjustment.limitPriceOffset := x }]

/-- Cash quantity and the flags that came after it. -/
def cashSegments : List Segment := [
  .onlyIf (Feature.cashQty ≤ v.server) <| .of number fun r x => { r with order.cashQuantity := x },
  .onlyIf (Feature.autoPriceForHedge ≤ v.server) <| .of flag fun r x =>
    { r with order.noAutoPriceForHedge := x },
  .onlyIf (Feature.orderContainer ≤ v.server) <| .of flag fun r x =>
    { r with order.isOmsContainer := x }]

/-! ## Open orders -/

/-- The margins before and through the order, which only newer servers send. -/
def marginSegments : List Segment :=
  let segment (put : OrderReport → Label → OrderReport) : Segment :=
    .onlyIf (Feature.whatIfExtFields ≤ v.server) (.of text put)
  [segment fun r x => { r with state.initMarginBefore := x },
    segment fun r x => { r with state.maintMarginBefore := x },
    segment fun r x => { r with state.equityWithLoanBefore := x },
    segment fun r x => { r with state.initMarginChange := x },
    segment fun r x => { r with state.maintMarginChange := x },
    segment fun r x => { r with state.equityWithLoanChange := x }]

/-- What the order would do to the account, and its commission. -/
def whatIfSegments : List Segment :=
  .of flag (fun r x => { r with order.whatIf := x }) :: statusSegment :: marginSegments v ++ [
  .of text fun r x => { r with state.initMarginAfter := x },
  .of text fun r x => { r with state.maintMarginAfter := x },
  .of text fun r x => { r with state.equityWithLoanAfter := x },
  .of number fun r x => { r with state.commission := x },
  .of number fun r x => { r with state.minCommission := x },
  .of number fun r x => { r with state.maxCommission := x },
  .of text fun r x => { r with state.commissionCurrency := x },
  .of text fun r x => { r with state.warningText := x }]

/-- How the order is adjusted once a price is reached. -/
def adjustmentSegments : List Segment :=
  [.of text fun r x => { r with order.adjustment.orderType := x },
    .of number fun r x => { r with order.adjustment.triggerPrice := x }] ++ stopSegments ++ [
    .of number fun r x => { r with order.adjustment.stopPrice := x },
    .of number fun r x => { r with order.adjustment.stopLimitPrice := x },
    .of number fun r x => { r with order.adjustment.trailingAmount := x },
    .of int fun r x => { r with order.adjustment.trailingUnit := x }]

def tierSegment : Segment :=
  .onlyIf (Feature.softDollarTier ≤ v.server) <| .of (do
    let name ← text
    let value ← text
    let displayName ← text
    return ({ name, value, displayName } : SoftDollarTier)) fun r x =>
      { r with order.softDollarTier := x }

/-- The parts of an open order up to its quantity. -/
def openLead : List Segment :=
  .of int (fun r x => { r with order.identity.orderId := x }) :: contractSegments v ++
  [actionSegment]

/-- The parts of an open order between its quantity and its combination. -/
def openTerms : List Segment :=
  termSegments v ++ .of int (fun r x => { r with order.identity.clientId := x }) ::
  activitySegments ++ .ignored :: allotmentSegments v ++
  .of int (fun r x => { r with order.auction.strategy := x }) :: rangeSegments ++
  .of flag (fun r x => { r with order.handling.blockOrder := x }) :: sweepSegment ::
  sizeSegments ++ [
    .of flag fun r x => { r with order.routing.eTradeOnly := x },
    .of flag fun r x => { r with order.routing.firmQuoteOnly := x },
    .of number fun r x => { r with order.routing.nbboPriceCap := x },
    .of int fun r x => { r with order.handling.parentId := x },
    triggerSegment] ++
  volatilitySegments v true ++ [
    .of number fun r x => { r with order.combo.basisPoints := x },
    .of int fun r x => { r with order.combo.basisPointsType := x }]

def optOutSegment : Segment :=
  .onlyIf (25 ≤ v.message) <| .of flag fun r x => { r with order.routing.optOutSmartRouting := x }

/-- The parts of an open order behind its conditions. -/
def openExtras : List Segment :=
  .onlyIf (Feature.peggedToBenchmark ≤ v.server) (.all adjustmentSegments) ::
  tierSegment v :: cashSegments v ++ [
    .onlyIf (Feature.dPegOrders ≤ v.server) <| .of flag fun r x =>
      { r with order.discretionaryUpToLimitPrice := x },
    .onlyIf (Feature.priceMgmtAlgo ≤ v.server) <| .of flag fun r x =>
      { r with order.usePriceManagement := some x }]

/-- The parts of an open order from behind its quantity, in their order. -/
def openSegments : List Segment :=
  openTerms v ++ comboSegments v ++ [scaleSegment v, hedgeSegment v, optOutSegment v] ++
  strategySegments v ++ whatIfSegments v ++ conditionSegments v ++ openExtras v

/-! ## Completed orders -/

def completionSegments : List Segment := [
  .of text fun r x => { r with order.completion.autoCancelDate := x },
  .of number fun r x => { r with order.completion.filledQuantity := x },
  .of int fun r x => { r with order.completion.futuresContractId := x },
  .of flag fun r x => { r with order.completion.autoCancelParent := x },
  .of text fun r x => { r with order.completion.shareholder := x },
  .of flag fun r x => { r with order.completion.imbalanceOnly := x },
  .of flag fun r x => { r with order.completion.routeMarketableToBbo := x },
  .of long fun r x => { r with order.completion.parentPermanentId := x },
  .of text fun r x => { r with state.completedTime := x },
  .of text fun r x => { r with state.completedStatus := x }]

/-- The parts of a completed order up to its quantity. -/
def completedLead : List Segment := contractSegments v ++ [actionSegment]

/-- The parts of a completed order between its quantity and its combination. -/
def completedTerms : List Segment :=
  termSegments v ++ activitySegments ++ allotmentSegments v ++ rangeSegments ++
  sweepSegment :: sizeSegments ++ triggerSegment :: volatilitySegments v false

/-- The parts of a completed order behind its conditions. -/
def completedExtras : List Segment := stopSegments ++ cashSegments v ++ completionSegments

/-- The parts of a completed order from behind its quantity, in their order. -/
def completedSegments : List Segment :=
  completedTerms v ++ comboSegments v ++ [scaleSegment v, hedgeSegment v] ++
  strategySegments v ++ [statusSegment] ++ conditionSegments v ++ completedExtras v

/-! ## Reading a report -/

/-- A report whose quantity stands between its first and its last parts. -/
def read (lead rest : List Segment) : Measuring OrderReport := do
  let report ← Segment.all lead {}
  let quantity ← Measuring.quantity v.server
  Segment.all rest { report with order.terms.totalQuantity := .real quantity }

/-- An open order; newer servers send no version with the message. -/
def readOpen (version : Int) : Measuring OrderReport := do
  let own ← ownVersion (version < Feature.orderContainer) version
  let v : ReportVersions := ⟨own, version⟩
  read v (openLead v) (openSegments v)

/-- A completed order, whose message has no version. -/
def readCompleted (version : Int) : Measuring OrderReport :=
  let v : ReportVersions := ⟨unsetInt, version⟩
  read v (completedLead v) (completedSegments v)

end OrderReport

end TradeWire
