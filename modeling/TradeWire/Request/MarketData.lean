import TradeWire.Request.Instrument

/-!
# Requests for market data

Streaming data and snapshots, tick-by-tick data, what is computed for options, market depth, and
five second bars.
-/

namespace TradeWire.Plan

/-! ## Market data -/

def marketData (id : Int) (contract : Contract) (genericTicks : Label)
    (snapshot regulatorySnapshot : Bool) (options : Option (List TagValue)) : Plan where
  kind := .reqMktData
  subject := id
  checks := [
    .needs Feature.deltaNeutral id " It does not support delta-neutral orders."
      contract.deltaNeutral.isSome,
    .needs Feature.reqMktDataConid id " It does not support conId parameter."
      (0 < contract.contractId),
    .needs Feature.tradingClass id " It does not support tradingClass parameter in reqMktData."
      contract.tradingClass.isGiven,
    .internal id options "mkt_data_options"]
  steps :=
    .always [.int 11, .int id] ::
    contract.steps (.since Feature.reqMktDataConid) .always (.since Feature.tradingClass) ++
    contract.legSteps ++ [
    .since Feature.deltaNeutral contract.neutralFields,
    .always [genericTicks.field, .flag snapshot],
    .since Feature.reqSmartComponents [.flag regulatorySnapshot],
    .since Feature.linking [.text ""]]

def cancelMarketData (id : Int) : Plan where
  kind := .cancelMktData
  subject := id
  steps := [.always [.int 2, .int id]]

def marketDataType (type : Int) : Plan where
  kind := .reqMarketDataType
  checks := [.needs Feature.reqMarketDataType noId
    " It does not support market data type requests."]
  steps := [.always [.int 1, .int type]]

def smartComponents (id : Int) (exchange : Label) : Plan where
  kind := .reqSmartComponents
  subject := id
  checks := [.needs Feature.reqSmartComponents id
    " It does not support smart components request."]
  steps := [.always [.int id, exchange.field]]

def marketRule (ruleId : Int) : Plan where
  kind := .reqMarketRule
  checks := [.needs Feature.marketRules noId " It does not support market rule requests."]
  steps := [.always [.int ruleId]]

/-- What servers without tick-by-tick data are missing. -/
def needsTickByTick (id : Int) : Check :=
  .needs Feature.tickByTick id " It does not support tick-by-tick data requests."

def tickByTick (id : Int) (contract : Contract) (type : Label) (count : Int)
    (ignoreSize : Bool) : Plan where
  kind := .reqTickByTickData
  subject := id
  checks := [
    needsTickByTick id,
    .needs Feature.tickByTickIgnoreSize id
      (" It does not support ignoreSize and numberOfTicks parameters " ++
        "in tick-by-tick data requests.")
      (ignoreSize || count != 0)]
  steps :=
    .always [.int id] :: contract.steps .always .always .always ++ [
    .always [type.field],
    .since Feature.tickByTickIgnoreSize [.int count, .flag ignoreSize]]

def cancelTickByTick (id : Int) : Plan where
  kind := .cancelTickByTickData
  subject := id
  checks := [needsTickByTick id]
  steps := [.always [.int id]]

/-! ## Options -/

/-- Computes one of two option values from the other and the price of the underlying. -/
def optionSteps (id : Int) (contract : Contract) (given underlying : Number)
    (options : Option (List TagValue)) : List Step :=
  .always [.int 3, .int id] :: contract.steps .always .always (.since Feature.tradingClass) ++ [
  .always [given.field, underlying.field],
  .since Feature.linking [countField (options.getD []), joinedField options]]

def impliedVolatility (id : Int) (contract : Contract) (optionPrice underlying : Number)
    (options : Option (List TagValue)) : Plan where
  kind := .reqCalcImpliedVolat
  subject := id
  checks := [
    .needs Feature.reqCalcImpliedVolat id
      " It does not support calculateImpliedVolatility req.",
    .needs Feature.tradingClass id
      " It does not support tradingClass parameter in calculateImpliedVolatility."
      contract.tradingClass.isGiven]
  steps := optionSteps id contract optionPrice underlying options

def optionPrice (id : Int) (contract : Contract) (volatility underlying : Number)
    (options : Option (List TagValue)) : Plan where
  kind := .reqCalcOptionPrice
  subject := id
  checks := [
    .needs Feature.reqCalcOptionPrice id " It does not support calculateOptionPrice req.",
    .needs Feature.tradingClass id
      " It does not support tradingClass parameter in calculateOptionPrice."
      contract.tradingClass.isGiven]
  steps := optionSteps id contract volatility underlying options

def cancelImpliedVolatility (id : Int) : Plan where
  kind := .cancelCalcImpliedVolat
  subject := id
  checks := [.needs Feature.reqCalcImpliedVolat id
    " It does not support calculateImpliedVolatility req."]
  steps := [.always [.int 1, .int id]]

def cancelOptionPrice (id : Int) : Plan where
  kind := .cancelCalcOptionPrice
  subject := id
  checks := [.needs Feature.reqCalcOptionPrice id
    " It does not support calculateOptionPrice req."]
  steps := [.always [.int 1, .int id]]

def exerciseOptions (id : Int) (contract : Contract) (action quantity : Int) (account : Label)
    (override : Int) : Plan where
  kind := .exerciseOptions
  subject := id
  checks := [.needs Feature.tradingClass id
    (" It does not support conId, multiplier, tradingClass parameter " ++ "in exerciseOptions.")
    (contract.tradingClass.isGiven || 0 < contract.contractId)]
  steps :=
    .always [.int 2, .int id] ::
    contract.steps (.since Feature.tradingClass) .never (.since Feature.tradingClass) ++ [
    .always [.int action, .int quantity, account.field, .int override]]

/-! ## Market depth -/

def depthExchanges : Plan where
  kind := .reqMktDepthExchanges
  checks := [.needs Feature.reqMktDepthExchanges noId
    " It does not support market depth exchanges request."]
  steps := []

def marketDepth (id : Int) (contract : Contract) (rows : Int) (isSmart : Bool)
    (options : Option (List TagValue)) : Plan where
  kind := .reqMktDepth
  subject := id
  checks := [
    .needs Feature.tradingClass id
      " It does not support conId and tradingClass parameters in reqMktDepth."
      (contract.tradingClass.isGiven || 0 < contract.contractId),
    .needs Feature.smartDepth id " It does not support SMART depth request." isSmart,
    .needs Feature.mktDepthPrimExchange id
      " It does not support primaryExch parameter in reqMktDepth."
      contract.primaryExchange.isGiven,
    .internal id options "mkt_depth_options"]
  steps :=
    .always [.int 5, .int id] ::
    contract.steps (.since Feature.tradingClass) (.since Feature.mktDepthPrimExchange)
      (.since Feature.tradingClass) ++ [
    .always [.int rows],
    .since Feature.smartDepth [.flag isSmart],
    .since Feature.linking [.text ""]]

def cancelMarketDepth (id : Int) (isSmart : Bool) : Plan where
  kind := .cancelMktDepth
  subject := id
  checks := [.needs Feature.smartDepth id " It does not support SMART depth cancel." isSmart]
  steps := [.always [.int 1, .int id], .since Feature.smartDepth [.flag isSmart]]

/-! ## Five second bars -/

def realTimeBars (id : Int) (contract : Contract) (barSize : Int) (whatToShow : Label)
    (regularHours : Bool) (options : Option (List TagValue)) : Plan where
  kind := .reqRealTimeBars
  subject := id
  checks := [.needs Feature.tradingClass id
    " It does not support conId and tradingClass parameter in reqRealTimeBars."
    contract.tradingClass.isGiven]
  steps :=
    .always [.int 3, .int id] ::
    contract.steps (.since Feature.tradingClass) .always (.since Feature.tradingClass) ++ [
    .always [.int barSize, whatToShow.field, .flag regularHours],
    .since Feature.linking [joinedField options]]

def cancelRealTimeBars (id : Int) : Plan where
  kind := .cancelRealTimeBars
  subject := id
  steps := [.always [.int 1, .int id]]

end TradeWire.Plan
