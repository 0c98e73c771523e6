import TradeWire.Message.Market

/-!
# Messages with historical data

Bars, histograms and ticks of the past, and five second bars.
-/

namespace TradeWire.Message

open Reading

/-! ## Bars -/

/-- Servers before bars that are kept up to date send other fields with a bar. -/
def isEarlyBar (version : Int) : Bool := version < Feature.syntRealtimeBars

def historicalBar (version : Int) : Reading Bar := do
  let date ← text
  let opening ← number
  let high ← number
  let low ← number
  let closing ← number
  let volume ← if isEarlyBar version then int else long
  let average ← number
  onlyIf (isEarlyBar version) () skip
  let barCount ← int
  return { date, opening, high, low, closing, volume, barCount, average }

/-- Historical bars, told one by one. -/
def historicalBars (version : Int) : Reading Rows := do
  onlyIf (isEarlyBar version) () skip
  let id ← int
  let first ← next
  let last ← next
  let count ← int
  return {
    count
    row := do return .historicalBar id (← historicalBar version)
    last := .historicalBarsEnd id first last }

def historicalBarUpdate : Reading (List Event) := do
  let id ← int
  let barCount ← int
  let date ← text
  let opening ← number
  let closing ← number
  let high ← number
  let low ← number
  let average ← number
  let volume ← long
  return [.historicalBarUpdate id
    { date, opening, high, low, closing, volume, barCount, average }]

def realTimeBar : Reading (List Event) := do
  skip
  return [.realTimeBar (← int) (← long) (← double) (← double) (← double) (← double) (← long)
    (← double) (← int)]

/-! ## Other data -/

def headTimestamp : Reading (List Event) := do
  return [.headTimestamp (← int) (← next)]

def histogramEntry : Reading HistogramEntry := do
  let price ← number
  let count ← long
  return { price, count }

def histogram : Reading (List Event) := do
  return [.histogram (← int) (← listOf histogramEntry)]

/-! ## Ticks -/

def historicalTick : Reading HistoricalTick := do
  let time ← long
  skip
  let price ← number
  let size ← int
  return { time, price, size }

def historicalTicks : Reading (List Event) := do
  return [.historicalTicks (← int) (← listOf historicalTick) (← flag)]

def historicalBidAsk : Reading HistoricalBidAsk := do
  let time ← long
  let mask ← int
  let priceBid ← number
  let priceAsk ← number
  let sizeBid ← int
  let sizeAsk ← int
  let attributes := { askPastHigh := bitIsSet mask 0, bidPastLow := bitIsSet mask 1 }
  return { time, attributes, priceBid, priceAsk, sizeBid, sizeAsk }

def historicalTicksBidAsk : Reading (List Event) := do
  return [.historicalTicksBidAsk (← int) (← listOf historicalBidAsk) (← flag)]

def historicalTrade : Reading HistoricalTrade := do
  let time ← long
  let mask ← int
  let price ← number
  let size ← int
  let exchange ← text
  let specialConditions ← text
  return {
    time, attributes := tradeAttributes mask, price, size, exchange, specialConditions }

def historicalTrades : Reading (List Event) := do
  return [.historicalTrades (← int) (← listOf historicalTrade) (← flag)]

end TradeWire.Message
