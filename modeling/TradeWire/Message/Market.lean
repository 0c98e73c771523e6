import TradeWire.Catalog.Tick
import TradeWire.Message.Basic

/-!
# Messages about market data

Ticks, market depth, and tick-by-tick data.
-/

namespace TradeWire.Message

open Reading

/-! ## Ticks -/

/-- The flags of a price; servers before some version send a number instead of a mask. -/
def tickAttributes (version mask : Int) : TickAttributes :=
  if Feature.pastLimit ≤ version then {
    canAutoExecute := bitIsSet mask 0
    pastLimit := bitIsSet mask 1
    preOpen := decide (Feature.preOpenBidAsk ≤ version) && bitIsSet mask 2 }
  else { canAutoExecute := mask == 1 }

/-- A price, and its size for prices that have one. -/
def tickPrice (version : Int) : Reading (List Event) := do
  skip
  let id ← int
  let tickType ← int
  let price ← double
  let size ← int
  let mask ← int
  let sizes := (TickType.sizeOf? tickType).toList.map (Event.tickSize id · size)
  return .tickPrice id tickType price (tickAttributes version mask) :: sizes

def tickSize : Reading (List Event) := do
  skip
  return [.tickSize (← int) (← int) (← int)]

def tickGeneric : Reading (List Event) := do
  skip
  return [.tickGeneric (← int) (← int) (← double)]

def tickString : Reading (List Event) := do
  skip
  return [.tickString (← int) (← int) (← next)]

def tickEfp : Reading (List Event) := do
  skip
  return [.tickEfp (← int) (← int) (← double) (← next) (← double) (← int) (← next) (← double)
    (← double)]

/-- A value that is computed by the server; a mark stands for one that is not. -/
def computed (mark : Int) : Reading Double := do
  let value ← double
  return if value.sameInt mark then unsetDouble else value

/-- What is computed for an option. Older messages hold less, but for the model's prices. -/
def tickOptionComputation : Reading (List Event) := do
  let version ← int
  let id ← int
  let tickType ← int
  let impliedVolatility ← computed (-1)
  let delta ← computed (-2)
  let isFull : Bool := 6 ≤ version
  let hasPrice := isFull || TickType.isModel tickType
  let optionPrice ← onlyIf hasPrice unsetDouble (computed (-1))
  let pvDividend ← onlyIf hasPrice unsetDouble (computed (-1))
  let gamma ← onlyIf isFull unsetDouble (computed (-2))
  let vega ← onlyIf isFull unsetDouble (computed (-2))
  let theta ← onlyIf isFull unsetDouble (computed (-2))
  let underlyingPrice ← onlyIf isFull unsetDouble (computed (-1))
  return [.tickOptionComputation id tickType impliedVolatility delta optionPrice pvDividend gamma
    vega theta underlyingPrice]

def tickSnapshotEnd : Reading (List Event) := do
  skip
  return [.tickSnapshotEnd (← int)]

def tickParameters : Reading (List Event) := do
  return [.tickParameters (← int) (← double) (← next) (← int)]

def tickNews : Reading (List Event) := do
  return [.tickNews (← int) (← long) (← next) (← next) (← next) (← next)]

def marketDataType : Reading (List Event) := do
  skip
  return [.marketDataType (← int) (← int)]

def rerouteMarketData : Reading (List Event) := do
  return [.rerouteMarketData (← int) (← int) (← next)]

def rerouteMarketDepth : Reading (List Event) := do
  return [.rerouteMarketDepth (← int) (← int) (← next)]

/-! ## Market depth -/

def marketDepth : Reading (List Event) := do
  skip
  return [.marketDepth (← int) (← int) (← int) (← int) (← double) (← int)]

def marketDepthByMaker (version : Int) : Reading (List Event) := do
  skip
  return [.marketDepthByMaker (← int) (← int) (← next) (← int) (← int) (← double) (← int)
    (← onlyIf (Feature.smartDepth ≤ version) false flag)]

/-- An exchange with market depth; older servers only tell whether it has the second level. -/
def depthExchange (version : Int) : Reading DepthExchange := do
  let exchange ← text
  let secType ← text
  if Feature.serviceDataType ≤ version then
    let listingExchange ← text
    let serviceDataType ← text
    let aggregateGroup ← int
    return { exchange, secType, listingExchange, serviceDataType, aggregateGroup }
  else
    let isDeep ← flag
    return { exchange, secType, serviceDataType := some (if isDeep then "Deep" else "Top") }

def depthExchanges (version : Int) : Reading (List Event) := do
  return [.depthExchanges (← listOf (depthExchange version))]

def smartComponent : Reading SmartComponent := do
  let bitNumber ← int
  let exchange ← text
  let exchangeLetter ← text
  return { bitNumber, exchange, exchangeLetter }

/-- Components by bit number. -/
def smartComponents : Reading (List Event) := do
  let id ← int
  let components ← listOf smartComponent
  return [.smartComponents id (lastByKey (components.map fun c => (c.bitNumber, c)))]

/-! ## Tick-by-tick data -/

def tradeAttributes (mask : Int) : LastAttributes where
  pastLimit := bitIsSet mask 0
  unreported := bitIsSet mask 1

def tickByTickTrade (id tickType time : Int) : Reading (List Event) := do
  let price ← double
  let size ← int
  let mask ← int
  let exchange ← next
  let specialConditions ← next
  return [.tickByTickTrade id tickType time price size (tradeAttributes mask) exchange
    specialConditions]

def tickByTickBidAsk (id time : Int) : Reading (List Event) := do
  let bidPrice ← double
  let askPrice ← double
  let bidSize ← int
  let askSize ← int
  let mask ← int
  return [.tickByTickBidAsk id time bidPrice askPrice bidSize askSize
    { bidPastLow := bitIsSet mask 0, askPastHigh := bitIsSet mask 1 }]

def tickByTickMidPoint (id time : Int) : Reading (List Event) := do
  return [.tickByTickMidPoint id time (← double)]

/-- One tick; kinds that are not known are not told. -/
def tickByTick : Reading (List Event) := do
  let id ← int
  let tickType ← int
  let time ← long
  match tickType with
  | 1 | 2 => tickByTickTrade id tickType time
  | 3 => tickByTickBidAsk id time
  | 4 => tickByTickMidPoint id time
  | _ => return []

end TradeWire.Message
