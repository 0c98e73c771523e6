import TradeWire.Request.Instrument

/-!
# Requests for historical data

Bars, the time of the earliest data, histograms, and ticks.
-/

namespace TradeWire.Plan

/-! ## Bars -/

/-- What a request for historical bars asks for, apart from the contract. -/
structure BarQuery where
  stop : Label
  duration : Label
  barSize : Label
  whatToShow : Label
  regularHours : Int
  dateFormat : Int
  keepUpToDate : Bool := false
  chartOptions : Option (List TagValue) := none

def historicalData (id : Int) (contract : Contract) (query : BarQuery) : Plan where
  kind := .reqHistoricalData
  subject := id
  checks := [.needs Feature.tradingClass id
    (" It does not support conId and tradingClass parameters " ++ "in reqHistoricalData.")
    (contract.tradingClass.isGiven || 0 < contract.contractId)]
  steps :=
    .before Feature.syntRealtimeBars [.int 6] :: .always [.int id] ::
    contract.steps (.since Feature.tradingClass) .always (.since Feature.tradingClass) ++
    .always [.flag contract.includeExpired, query.stop.field, query.barSize.field,
      query.duration.field, .int query.regularHours, query.whatToShow.field,
      .int query.dateFormat] ::
    contract.legSteps ++ [
    .since Feature.syntRealtimeBars [.flag query.keepUpToDate],
    .since Feature.linking [joinedField query.chartOptions]]

def cancelHistoricalData (id : Int) : Plan where
  kind := .cancelHistoricalData
  subject := id
  steps := [.always [.int 1, .int id]]

/-! ## The earliest data -/

def headTimestamp (id : Int) (contract : Contract) (whatToShow : Label)
    (regularHours dateFormat : Int) : Plan where
  kind := .reqHeadTimestamp
  subject := id
  checks := [.needs Feature.reqHeadTimestamp id
    " It does not support head time stamp requests."]
  steps :=
    .always [.int id] :: contract.steps .always .always .always ++ [
    .always [.flag contract.includeExpired, .int regularHours, whatToShow.field,
      .int dateFormat]]

def cancelHeadTimestamp (id : Int) : Plan where
  kind := .cancelHeadTimestamp
  subject := id
  checks := [.needs Feature.cancelHeadtimestamp id
    " It does not support head time stamp requests."]
  steps := [.always [.int id]]

/-! ## Histograms -/

def needsHistogram (id : Int) : Check :=
  .needs Feature.reqHistogram id " It does not support histogram requests."

def histogram (id : Int) (contract : Contract) (regularHours : Bool) (period : Label) : Plan where
  kind := .reqHistogramData
  subject := id
  checks := [needsHistogram id]
  steps :=
    .always [.int id] :: contract.steps .always .always .always ++ [
    .always [.flag contract.includeExpired, .flag regularHours, period.field]]

def cancelHistogram (id : Int) : Plan where
  kind := .cancelHistogramData
  subject := id
  checks := [needsHistogram id]
  steps := [.always [.int id]]

/-! ## Ticks -/

/-- What a request for historical ticks asks for, apart from the contract. -/
structure TickQuery where
  start : Label
  stop : Label
  count : Int
  whatToShow : Label
  regularHours : Int
  ignoreSize : Bool
  options : Option (List TagValue) := none

def historicalTicks (id : Int) (contract : Contract) (query : TickQuery) : Plan where
  kind := .reqHistoricalTicks
  subject := id
  checks := [.needs Feature.historicalTicks id
    " It does not support historical ticks requests."]
  steps :=
    .always [.int id] :: contract.steps .always .always .always ++ [
    .always [.flag contract.includeExpired, query.start.field, query.stop.field, .int query.count,
      query.whatToShow.field, .int query.regularHours, .flag query.ignoreSize,
      joinedField query.options]]

end TradeWire.Plan
