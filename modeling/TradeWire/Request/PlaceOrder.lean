import TradeWire.Order.Basic
import TradeWire.Request.Instrument

/-!
# Placing an order

The longest request. Its checks refuse attributes that the server does not know; its steps write the
contract and then the attributes of the order in groups, some of which are there only for certain
orders: legs, the hedge of a volatility order, the details of a scale, the parameters of a strategy,
a benchmark, conditions.
-/

namespace TradeWire

/-! ## Groups of fields -/

/-- A tag and its value as two fields. -/
def TagValue.pairFields (pair : TagValue) : List Field := [.text pair.tag, .text pair.value]

/-- A list of pairs: how many there are, and two fields for each. -/
def countedPairs (pairs : Option (List TagValue)) : List Field :=
  countField (pairs.getD []) :: (pairs.getD []).flatMap TagValue.pairFields

/-- A condition with the number of its kind. -/
def Condition.numberedFields (c : Condition) : List Field := c.numberField :: c.fields

namespace Contract

/-- A leg in the long form, with the exempt code only at some versions. -/
def orderLegSteps (leg : ComboLeg) : List Step := [
  .always [.int leg.contractId, .int leg.ratio, leg.action.field, leg.exchange.field,
    .int leg.openClose, .int leg.shortSaleSlot, leg.designatedLocation.field],
  .since Feature.sshortxOld [.int leg.exemptCode]]

end Contract

namespace Order

/-- The legs of a combination with their prices, and how to route them. -/
def comboSteps (contract : Contract) (combo : Combo) : List Step :=
  if contract.isCombo then
    .always [countField contract.legs] :: contract.legs.flatMap Contract.orderLegSteps ++ [
    .since Feature.orderComboLegsPrice
      (countField combo.orderLegs :: combo.orderLegs.map (·.price.field)),
    .since Feature.smartComboRoutingParams (countedPairs combo.routingParams)]
  else []

/-- A group of fields that is written for hedged orders only. -/
def Volatility.hedgeFields (v : Volatility) (fields : List Field) : List Field :=
  if v.isHedged then fields else []

def Volatility.steps (v : Volatility) : List Step := [
  .always [v.level.field, .int v.levelType, v.hedgeOrderType.field, v.hedgeAuxPrice.field],
  .since Feature.deltaNeutralConid <| v.hedgeFields
    [.int v.hedgeContractId, v.hedgeSettlingFirm.field, v.hedgeClearingAccount.field,
      v.hedgeClearingIntent.field],
  .since Feature.deltaNeutralOpenClose <| v.hedgeFields
    [v.hedgeOpenClose.field, .flag v.hedgeShortSale, .int v.hedgeShortSaleSlot,
      v.hedgeLocation.field],
  .always [.flag v.continuousUpdate, .int v.referencePriceType]]

def Trail.steps (t : Trail) : List Step := [
  .always [t.stopPrice.field],
  .since Feature.trailingPercent [t.percent.field]]

/-- The details of a scale, which are written only if there is an increment. -/
def Scale.detailFields (s : Scale) : List Field :=
  if s.hasIncrement then
    [s.priceAdjustValue, s.priceAdjustInterval, s.profitOffset, s.autoReset, s.initialPosition,
      s.initialFillQuantity, s.randomPercent]
  else []

/-- The scale; servers before it had a second level size read a component count in its place. -/
def Scale.steps (s : Scale) : List Step := [
  .since Feature.scaleOrders2 [s.initialLevelSize, s.subsequentLevelSize],
  .before Feature.scaleOrders2 [.text "", s.initialLevelSize],
  .always [s.priceIncrement],
  .since Feature.scaleOrders3 s.detailFields]

/-- The kind of a hedge order, and its parameter if there is a kind. -/
def Hedge.fields (h : Hedge) : List Field :=
  h.kind.field :: if h.kind.isGiven then [h.param.field] else []

/-- The strategy, and its parameters if there is one. -/
def Algo.fields (a : Algo) : List Field :=
  a.strategy.field :: if a.strategy.isGiven then countedPairs a.params else []

/-- The benchmark, which is written only for orders that are pegged to one. -/
def Benchmark.fields (orderType : Label) (b : Benchmark) : List Field :=
  if isPeggedToBenchmark orderType then
    [.int b.referenceContractId, .flag b.isDecrease, b.peggedChangeAmount.field,
      b.referenceChangeAmount.field, b.referenceExchange.field]
  else []

/-- The conditions, and what they do if there are any. -/
def Conditional.fields (c : Conditional) : List Field :=
  let conditions := c.conditions.getD []
  countField conditions :: conditions.flatMap Condition.numberedFields ++
    if conditions.isEmpty then [] else [.flag c.ignoreRegularHours, .flag c.cancelOrder]

def Adjustment.fields (a : Adjustment) : List Field :=
  [a.orderType.field, a.triggerPrice.field, a.limitPriceOffset.field, a.stopPrice.field,
    a.stopLimitPrice.field, a.trailingAmount.field, .int a.trailingUnit]

/-! ## The quantity -/

/-- A number where the server reads doubles; a check refuses those that are none. -/
def doubleField (n : Number) : Field :=
  match n.toDouble with
  | .ok value => .real value
  | .error _ => .empty

/-- A number where the server reads integers; a check refuses those that have no integer part. -/
def integerField (n : Number) : Field :=
  match n.truncate with
  | .ok value => .int value
  | .error _ => .empty

/-- A number that cannot be converted. -/
def conversionProblem {α : Type} : Except Double.ConversionError α → Option Problem
  | .ok _ => none
  | .error error => some (.failed (.conversion error))

/-- Servers before fractional positions read an integer quantity. -/
def quantitySteps (quantity : Number) : List Step := [
  .since Feature.fractionalPositions [doubleField quantity],
  .before Feature.fractionalPositions [integerField quantity]]

def quantityChecks (quantity : Number) : List Check := [
  ⟨.since Feature.fractionalPositions, conversionProblem quantity.toDouble⟩,
  ⟨.before Feature.fractionalPositions, conversionProblem quantity.truncate⟩]

/-- A price; servers before some version read zero for one that is not set. -/
def priceSteps (price : Number) (version : Int) : List Step := [
  .before version [if price.isUnset then .int 0 else price.field],
  .since version [price.field]]

/-! ## The request -/

/-- Details of a scale order that older servers do not know. -/
def Scale.usesDetails (s : Scale) : Bool :=
  s.hasIncrement &&
    (!s.priceAdjustValue.same (.real unsetDouble) || !s.priceAdjustInterval.same (.int unsetInt) ||
      !s.profitOffset.same (.real unsetDouble) || s.autoReset.isGiven ||
      !s.initialPosition.same (.int unsetInt) || !s.initialFillQuantity.same (.int unsetInt) ||
      s.randomPercent.isGiven)

/-- An increment must be a number, because it is compared with zero. -/
def Scale.comparison (s : Scale) : Check where
  span := .always
  problem? :=
    if isNumeric s.priceIncrement then none
    else some (.failed (.incomparable s.priceIncrement.kind))

/-- What older servers do not know about an order, in the order in which it is reported. -/
def checks (id : Int) (contract : Contract) (o : Order) : List Check :=
  let v := o.volatility
  [
    .needs Feature.deltaNeutral id " It does not support delta-neutral orders."
      contract.deltaNeutral.isSome,
    .needs Feature.scaleOrders2 id " It does not support Subsequent Level Size for Scale orders."
      (!o.scale.subsequentLevelSize.same (.int unsetInt)),
    .needs Feature.algoOrders id " It does not support algo orders." o.algo.strategy.isGiven,
    .needs Feature.notHeld id " It does not support notHeld parameter." o.notHeld,
    .needs Feature.secIdType id " It does not support secIdType and secId parameters."
      (contract.secIdType.isGiven || contract.secId.isGiven),
    .needs Feature.placeOrderConid id " It does not support conId parameter."
      (0 < contract.contractId),
    .needs Feature.sshortx id " It does not support exemptCode parameter."
      (o.institution.exemptCode != -1 || contract.legs.any (·.exemptCode != -1)),
    .needs Feature.hedgeOrders id " It does not support hedge orders." o.hedge.kind.isGiven,
    .needs Feature.optOutSmartRouting id " It does not support optOutSmartRouting parameter."
      o.routing.optOutSmartRouting,
    .needs Feature.deltaNeutralConid id
      (" It does not support deltaNeutral parameters: ConId, SettlingFirm, " ++
        "ClearingAccount, ClearingIntent.")
      (0 < v.hedgeContractId || v.hedgeSettlingFirm.isGiven || v.hedgeClearingAccount.isGiven ||
        v.hedgeClearingIntent.isGiven),
    .needs Feature.deltaNeutralOpenClose id
      (" It does not support deltaNeutral parameters: OpenClose, ShortSale, " ++
        "ShortSaleSlot, DesignatedLocation.")
      (v.hedgeOpenClose.isGiven || v.hedgeShortSale || 0 < v.hedgeShortSaleSlot ||
        v.hedgeLocation.isGiven),
    o.scale.comparison,
    .needs Feature.scaleOrders3 id
      (" It does not support Scale order parameters: PriceAdjustValue, " ++
        "PriceAdjustInterval, ProfitOffset, AutoReset, InitPosition, " ++
        "InitFillQty and RandomPercent")
      o.scale.usesDetails,
    .needs Feature.orderComboLegsPrice id
      " It does not support per-leg prices for order combo legs."
      (contract.isCombo && o.combo.orderLegs.any (!·.price.isUnset)),
    .needs Feature.trailingPercent id " It does not support trailing percent parameter."
      (!o.trail.percent.isUnset),
    .needs Feature.tradingClass id " It does not support tradingClass parameter in placeOrder."
      contract.tradingClass.isGiven,
    .needs Feature.scaleTable id
      " It does not support scaleTable, activeStartTime and activeStopTime parameters."
      (o.scale.table.isGiven || o.handling.activeStartTime.isGiven ||
        o.handling.activeStopTime.isGiven),
    .needs Feature.algoId id " It does not support algoId parameter." o.algo.algoId.isGiven,
    .needs Feature.orderSolicited id " It does not support order solicited parameter."
      o.solicited,
    .needs Feature.modelsSupport id " It does not support model code parameter."
      o.modelCode.isGiven,
    .needs Feature.extOperator id " It does not support ext operator parameter."
      o.externalOperator.isGiven,
    .needs Feature.softDollarTier id " It does not support soft dollar tier."
      (o.softDollarTier.name.isGiven || o.softDollarTier.value.isGiven),
    .needs Feature.cashQty id " It does not support cash quantity parameter."
      (!o.cashQuantity.isUnset),
    .needs Feature.decisionMaker id " It does not support MIFID II decision maker parameters."
      (o.mifid.decisionMaker.isGiven || o.mifid.decisionAlgo.isGiven),
    .needs Feature.mifidExecution id " It does not support MIFID II execution parameters."
      (o.mifid.executionTrader.isGiven || o.mifid.executionAlgo.isGiven),
    .needs Feature.autoPriceForHedge id
      " It does not support dontUseAutoPriceForHedge parameter." o.noAutoPriceForHedge,
    .needs Feature.orderContainer id " It does not support oms container parameter."
      o.isOmsContainer,
    .needs Feature.priceMgmtAlgo id
      " It does not support Use price management algo requests." o.usePriceManagement.isSome,
    .needs Feature.duration id " It does not support duration attribute."
      (o.duration != unsetInt),
    .needs Feature.postToAts id " It does not support postToAts attribute."
      (o.postToAts != unsetInt)]

/-- The version of the message, which newer servers do not read. -/
def messageVersion : List Step := [
  .before Feature.notHeld [.int 27],
  .between Feature.notHeld Feature.orderContainer [.int 45]]

/-- The contract of an order. -/
def contractSteps (contract : Contract) : List Step :=
  contract.steps (.since Feature.placeOrderConid) .always (.since Feature.tradingClass) ++
    [.since Feature.secIdType [contract.secIdType.field, contract.secId.field]]

/-- What is to be traded, and at which price. -/
def Terms.steps (t : Terms) : List Step :=
  .always [t.action.field] :: quantitySteps t.totalQuantity ++
  .always [t.orderType.field] ::
  priceSteps t.limitPrice Feature.orderComboLegsPrice ++
  priceSteps t.auxPrice Feature.trailingPercent

/-- How the order is worked, up to the legs. -/
def handlingFields (o : Order) : List Field :=
  let h := o.handling
  [h.timeInForce.field, h.ocaGroup.field, o.clearing.account.field, o.institution.openClose.field,
    .int o.institution.origin, h.reference.field, .flag h.transmit, .int h.parentId,
    .flag h.blockOrder, .flag h.sweepToFill, .int h.displaySize, .int h.triggerMethod,
    .flag h.outsideRegularHours, .flag h.hidden]

/-- The allotment to accounts, and the model. The empty field is an allotment of shares, which is
no longer in use. -/
def allotmentSteps (o : Order) : List Step := [
  .always [.text "", o.routing.discretionaryAmount.field, o.handling.goodAfterTime.field,
    o.handling.goodTillDate.field, o.advisor.group.field, o.advisor.method.field,
    o.advisor.percentage.field, o.advisor.profile.field],
  .since Feature.modelsSupport [o.modelCode.field]]

/-- Short sales, and what limits the price. -/
def restrictionSteps (o : Order) : List Step := [
  .always [.int o.institution.shortSaleSlot, o.institution.designatedLocation.field],
  .since Feature.sshortxOld [.int o.institution.exemptCode],
  .always [.int o.handling.ocaType, o.handling.rule80a.field, o.clearing.settlingFirm.field,
    .flag o.handling.allOrNone, .int o.handling.minQuantity, o.handling.percentOffset.field,
    .flag o.routing.eTradeOnly, .flag o.routing.firmQuoteOnly, o.routing.nbboPriceCap.field,
    .int o.auction.strategy, o.auction.startingPrice.field, o.auction.stockPrice.field,
    o.auction.delta.field, o.range.lower.field, o.range.upper.field,
    .flag o.handling.overridePercentageConstraints]]

/-- The scale with the table and the times at which it is active. -/
def scaleSteps (o : Order) : List Step :=
  o.scale.steps ++ [
  .since Feature.scaleTable [o.scale.table.field, o.handling.activeStartTime.field,
    o.handling.activeStopTime.field]]

/-- Hedging, clearing and the strategy. -/
def strategySteps (contract : Contract) (o : Order) : List Step := [
  .since Feature.hedgeOrders o.hedge.fields,
  .since Feature.optOutSmartRouting [.flag o.routing.optOutSmartRouting],
  .since Feature.ptaOrders [o.clearing.clearingAccount.field, o.clearing.clearingIntent.field],
  .since Feature.notHeld [.flag o.notHeld],
  .since Feature.deltaNeutral contract.neutralFields,
  .since Feature.algoOrders o.algo.fields,
  .since Feature.algoId [o.algo.algoId.field],
  .always [.flag o.whatIf],
  .since Feature.linking [joinedField o.miscOptions],
  .since Feature.orderSolicited [.flag o.solicited],
  .since Feature.randomizeSizeAndPrice [.flag o.range.randomizeSize, .flag o.range.randomizePrice]]

/-- The benchmark, the conditions and the adjustment. -/
def peggedSteps (o : Order) : List Step := [
  .since Feature.peggedToBenchmark (o.benchmark.fields o.terms.orderType),
  .since Feature.peggedToBenchmark o.conditional.fields,
  .since Feature.peggedToBenchmark o.adjustment.fields]

/-- The attributes that were added last. -/
def laterSteps (o : Order) : List Step := [
  .since Feature.extOperator [o.externalOperator.field],
  .since Feature.softDollarTier [o.softDollarTier.name.field, o.softDollarTier.value.field],
  .since Feature.cashQty [o.cashQuantity.field],
  .since Feature.decisionMaker [o.mifid.decisionMaker.field, o.mifid.decisionAlgo.field],
  .since Feature.mifidExecution [o.mifid.executionTrader.field, o.mifid.executionAlgo.field],
  .since Feature.autoPriceForHedge [.flag o.noAutoPriceForHedge],
  .since Feature.orderContainer [.flag o.isOmsContainer],
  .since Feature.dPegOrders [.flag o.discretionaryUpToLimitPrice],
  .since Feature.priceMgmtAlgo [o.usePriceManagement.elim .empty .flag],
  .since Feature.duration [.int o.duration],
  .since Feature.postToAts [.int o.postToAts]]

/-- All fields of the request, after the kind of message. -/
def steps (id : Int) (contract : Contract) (o : Order) : List Step :=
  messageVersion ++ .always [.int id] :: contractSteps contract ++ o.terms.steps ++
  .always o.handlingFields :: comboSteps contract o.combo ++ o.allotmentSteps ++
  o.restrictionSteps ++ o.volatility.steps ++ o.trail.steps ++ o.scaleSteps ++
  o.strategySteps contract ++ o.peggedSteps ++ o.laterSteps

end Order

/-- Places a new order, or changes an open one that has the same id. -/
def Plan.placeOrder (id : Int) (contract : Contract) (order : Order) : Plan where
  kind := .placeOrder
  subject := id
  checks := order.checks id contract ++ Order.quantityChecks order.terms.totalQuantity
  steps := order.steps id contract

end TradeWire
