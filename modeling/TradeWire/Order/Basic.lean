import TradeWire.Account.Basic
import TradeWire.Order.Condition
import TradeWire.Record.TagValue

/-!
# Orders

An order has a great many attributes, nearly all of them optional. They are grouped by what they are
for; a numeric attribute for which zero has a meaning starts as not set.
-/

namespace TradeWire

/-- The price of one leg of a combination. -/
structure OrderLeg where
  price : Number := Number.unset

instance : Inhabited OrderLeg := ⟨{}⟩

instance : Holder OrderLeg where
  kind := "OrderComboLeg"
  attributes := [.of "price" (·.price) fun s v => { s with price := v }]

/-- The ids of an order. -/
structure Order.Identity where
  orderId : Int := 0
  clientId : Int := 0
  permanentId : Int := 0

/-- What is to be traded, and at which price. -/
structure Order.Terms where
  action : Label := Label.blank
  totalQuantity : Number := Number.zero
  orderType : Label := Label.blank
  limitPrice : Number := Number.unset
  auxPrice : Number := Number.unset

/-- When and how an order is worked. -/
structure Order.Handling where
  timeInForce : Label := Label.blank
  activeStartTime : Label := Label.blank
  activeStopTime : Label := Label.blank
  ocaGroup : Label := Label.blank
  ocaType : Int := 0
  reference : Label := Label.blank
  transmit : Bool := true
  parentId : Int := 0
  blockOrder : Bool := false
  sweepToFill : Bool := false
  displaySize : Int := 0
  triggerMethod : Int := 0
  outsideRegularHours : Bool := false
  hidden : Bool := false
  goodAfterTime : Label := Label.blank
  goodTillDate : Label := Label.blank
  rule80a : Label := Label.blank
  allOrNone : Bool := false
  minQuantity : Int := unsetInt
  percentOffset : Number := Number.unset
  overridePercentageConstraints : Bool := false

/-- The stop of a trailing order. -/
structure Order.Trail where
  stopPrice : Number := Number.unset
  percent : Number := Number.unset

/-- How an advisor allots an order to accounts. -/
structure Order.Advisor where
  group : Label := Label.blank
  profile : Label := Label.blank
  method : Label := Label.blank
  percentage : Label := Label.blank

/-- Attributes of institutional orders that are not cleared. -/
structure Order.Institution where
  designatedLocation : Label := Label.blank
  openClose : Label := some "O"
  origin : Int := 0
  shortSaleSlot : Int := 0
  exemptCode : Int := -1

/-- Attributes for smart routing. -/
structure Order.Routing where
  discretionaryAmount : Number := Number.zero
  eTradeOnly : Bool := true
  firmQuoteOnly : Bool := true
  nbboPriceCap : Number := Number.unset
  optOutSmartRouting : Bool := false

/-- Attributes of orders for an auction. -/
structure Order.Auction where
  strategy : Int := 0
  startingPrice : Number := Number.unset
  stockPrice : Number := Number.unset
  delta : Number := Number.unset

/-- The stock price range of pegged and volatility orders, and what is randomised. -/
structure Order.Range where
  lower : Number := Number.unset
  upper : Number := Number.unset
  randomizePrice : Bool := false
  randomizeSize : Bool := false

/-- Attributes of volatility orders and of their hedge. -/
structure Order.Volatility where
  level : Number := Number.unset
  levelType : Int := unsetInt
  hedgeOrderType : Label := Label.blank
  hedgeAuxPrice : Number := Number.unset
  hedgeContractId : Int := 0
  hedgeSettlingFirm : Label := Label.blank
  hedgeClearingAccount : Label := Label.blank
  hedgeClearingIntent : Label := Label.blank
  hedgeOpenClose : Label := Label.blank
  hedgeShortSale : Bool := false
  hedgeShortSaleSlot : Int := 0
  hedgeLocation : Label := Label.blank
  continuousUpdate : Bool := false
  referencePriceType : Int := unsetInt

/-- Attributes of orders for a combination. -/
structure Order.Combo where
  basisPoints : Number := Number.unset
  basisPointsType : Int := unsetInt
  routingParams : Option (List TagValue) := some []
  legs : Option (List OrderLeg) := some []

/-- Attributes of scale orders. All but the table take any scalar that they are filled with. -/
structure Order.Scale where
  initialLevelSize : Field := .int unsetInt
  subsequentLevelSize : Field := .int unsetInt
  priceIncrement : Field := .real unsetDouble
  priceAdjustValue : Field := .real unsetDouble
  priceAdjustInterval : Field := .int unsetInt
  profitOffset : Field := .real unsetDouble
  autoReset : Field := .flag false
  initialPosition : Field := .int unsetInt
  initialFillQuantity : Field := .int unsetInt
  randomPercent : Field := .flag false
  table : Label := Label.blank

/-- The kind and parameter of a hedge order. -/
structure Order.Hedge where
  kind : Label := Label.blank
  param : Label := Label.blank

/-- Who clears an order. -/
structure Order.Clearing where
  account : Label := Label.blank
  settlingFirm : Label := Label.blank
  clearingAccount : Label := Label.blank
  clearingIntent : Label := Label.blank

/-- The algorithmic strategy of an order. -/
structure Order.Algo where
  strategy : Label := Label.blank
  params : Option (List TagValue) := some []
  algoId : Label := Label.blank

/-- Attributes of orders that are pegged to a benchmark. -/
structure Order.Benchmark where
  referenceContractId : Int := 0
  peggedChangeAmount : Number := Number.zero
  isDecrease : Bool := false
  referenceChangeAmount : Number := Number.zero
  referenceExchange : Label := Label.blank

/-- How an order is adjusted once a price is reached. -/
structure Order.Adjustment where
  orderType : Label := Label.blank
  triggerPrice : Number := Number.unset
  stopPrice : Number := Number.unset
  stopLimitPrice : Number := Number.unset
  trailingAmount : Number := Number.unset
  trailingUnit : Int := 0
  limitPriceOffset : Number := Number.unset

/-- The conditions of an order, and what they do. -/
structure Order.Conditional where
  conditions : Option (List Condition) := some []
  cancelOrder : Bool := false
  ignoreRegularHours : Bool := false

/-- Who decided on an order and who executes it. -/
structure Order.Mifid where
  decisionMaker : Label := Label.blank
  decisionAlgo : Label := Label.blank
  executionTrader : Label := Label.blank
  executionAlgo : Label := Label.blank

/-- What is known about an order that is completed. -/
structure Order.Completion where
  autoCancelDate : Label := Label.blank
  filledQuantity : Number := Number.unset
  futuresContractId : Int := 0
  autoCancelParent : Bool := false
  shareholder : Label := Label.blank
  imbalanceOnly : Bool := false
  routeMarketableToBbo : Bool := false
  parentPermanentId : Int := 0

/-- An order. Numbers for which zero has a meaning are not set at first. -/
structure Order where
  identity : Order.Identity := {}
  terms : Order.Terms := {}
  handling : Order.Handling := {}
  trail : Order.Trail := {}
  advisor : Order.Advisor := {}
  institution : Order.Institution := {}
  routing : Order.Routing := {}
  auction : Order.Auction := {}
  range : Order.Range := {}
  volatility : Order.Volatility := {}
  combo : Order.Combo := {}
  scale : Order.Scale := {}
  hedge : Order.Hedge := {}
  clearing : Order.Clearing := {}
  algo : Order.Algo := {}
  benchmark : Order.Benchmark := {}
  adjustment : Order.Adjustment := {}
  conditional : Order.Conditional := {}
  mifid : Order.Mifid := {}
  completion : Order.Completion := {}
  whatIf : Bool := false
  notHeld : Bool := false
  solicited : Bool := false
  modelCode : Label := Label.blank
  miscOptions : Option (List TagValue) := some []
  externalOperator : Label := Label.blank
  softDollarTier : SoftDollarTier := {}
  cashQuantity : Number := Number.unset
  noAutoPriceForHedge : Bool := false
  isOmsContainer : Bool := false
  discretionaryUpToLimitPrice : Bool := false
  usePriceManagement : Option Bool := none
  duration : Int := unsetInt
  postToAts : Int := unsetInt

instance : Inhabited Order := ⟨{}⟩

namespace Order

/-! ## Kinds of order -/

/-- A volatility order is hedged when its hedge has an order type. -/
def Volatility.isHedged (v : Volatility) : Bool := v.hedgeOrderType.isGiven

/-- Scalars that can be compared with zero. -/
def isNumeric : Field → Bool
  | .empty | .text _ => false
  | _ => true

/-- A number above zero. -/
def isPositive : Field → Bool
  | .flag value => value
  | .int value => 0 < value
  | .real value => value.isPositive
  | _ => false

/-- A scale order is one with a price increment that is set and above zero. -/
def Scale.hasIncrement (s : Scale) : Bool :=
  !s.priceIncrement.same (.real unsetDouble) && isPositive s.priceIncrement

/-- Orders that are pegged to a benchmark. -/
def isPeggedToBenchmark (orderType : Label) : Bool := orderType == some "PEG BENCH"

/-- The prices of the legs of a combination. -/
def Combo.orderLegs (combo : Combo) : List OrderLeg := combo.legs.getD []

/-- The order on one line: its ids, and what is to be traded. -/
def summary (o : Order) : String :=
  toString o.identity.orderId ++ "," ++ toString o.identity.clientId ++ "," ++
    toString o.identity.permanentId ++ ": " ++ o.terms.orderType.field.display ++ " " ++
    o.terms.action.field.display ++ " " ++ o.terms.totalQuantity.field.display ++ "@" ++
    o.terms.limitPrice.field.display

end Order

end TradeWire
