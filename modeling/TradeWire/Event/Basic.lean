import TradeWire.Account.Execution
import TradeWire.Instrument.Details
import TradeWire.Market.Bar
import TradeWire.Market.Depth
import TradeWire.Market.Scanner
import TradeWire.Market.Tick
import TradeWire.Order.Attributes

/-!
# Events

What an application is told: the content of messages, problems, and the end of a connection. Every
event has a name and a list of arguments as data.
-/

namespace TradeWire

/-- Something that the application is told. -/
inductive Event where
  | error (id code : Int) (text : String)
  | connectionClosed
  | tickPrice (id tickType : Int) (price : Double) (attributes : TickAttributes)
  | tickSize (id tickType size : Int)
  | tickSnapshotEnd (id : Int)
  | tickGeneric (id tickType : Int) (value : Double)
  | tickString (id tickType : Int) (value : String)
  | tickEfp (id tickType : Int) (basisPoints : Double) (formattedBasisPoints : String)
    (impliedFuturesPrice : Double) (holdDays : Int) (futureLastTradeDate : String)
    (dividendImpact dividendsToLastTradeDate : Double)
  | tickOptionComputation (id tickType : Int)
    (impliedVolatility delta optionPrice pvDividend gamma vega theta underlyingPrice : Double)
  | tickParameters (id : Int) (minTick : Double) (exchange : String) (snapshotPermissions : Int)
  | tickNews (id time : Int) (provider articleId headline extraData : String)
  | marketDataType (id kind : Int)
  | rerouteMarketData (id contractId : Int) (exchange : String)
  | rerouteMarketDepth (id contractId : Int) (exchange : String)
  | marketDepth (id row operation side : Int) (price : Double) (size : Int)
  | marketDepthByMaker (id row : Int) (marketMaker : String) (operation side : Int)
    (price : Double) (size : Int) (isSmartDepth : Bool)
  | depthExchanges (exchanges : List DepthExchange)
  | smartComponents (id : Int) (components : List (Int × SmartComponent))
  | tickByTickTrade (id tickType time : Int) (price : Double) (size : Int)
    (attributes : LastAttributes) (exchange specialConditions : String)
  | tickByTickBidAsk (id time : Int) (bidPrice askPrice : Double) (bidSize askSize : Int)
    (attributes : BidAskAttributes)
  | tickByTickMidPoint (id time : Int) (midPoint : Double)
  | orderStatus (id : Int) (status : String) (filled remaining averagePrice : Double)
    (permanentId parentId : Int) (lastPrice : Double) (clientId : Int) (whyHeld : String)
    (capPrice : Double)
  | openOrder (id : Int) (contract : Contract) (order : Order) (state : OrderState)
  | openOrderEnd
  | nextValidId (id : Int)
  | orderBound (id clientId orderId : Int)
  | completedOrder (contract : Contract) (order : Order) (state : OrderState)
  | completedOrdersEnd
  | executionDetails (id : Int) (contract : Contract) (execution : Execution)
  | executionDetailsEnd (id : Int)
  | commissionReport (report : CommissionReport)
  | deltaNeutralValidation (id : Int) (contract : DeltaNeutralContract)
  | softDollarTiers (id : Int) (tiers : List SoftDollarTier)
  | accountValue (key value currency account : String)
  | portfolioValue (contract : Contract)
    (quantity marketPrice marketValue averageCost unrealizedPnl realizedPnl : Double)
    (account : String)
  | accountTime (time : String)
  | accountDownloadEnd (account : String)
  | managedAccounts (accounts : String)
  | positionHeld (account : String) (contract : Contract) (quantity averageCost : Double)
  | positionEnd
  | accountSummary (id : Int) (account tag value currency : String)
  | accountSummaryEnd (id : Int)
  | positionMulti (id : Int) (account modelCode : String) (contract : Contract)
    (quantity averageCost : Double)
  | positionMultiEnd (id : Int)
  | accountUpdateMulti (id : Int) (account modelCode key value currency : String)
  | accountUpdateMultiEnd (id : Int)
  | pnl (id : Int) (daily unrealized realized : Double)
  | pnlSingle (id quantity : Int) (daily unrealized realized value : Double)
  | familyCodes (codes : List FamilyCode)
  | advisorData (kind : Int) (xml : String)
  | contractDetails (id : Int) (details : ContractDetails)
  | bondContractDetails (id : Int) (details : ContractDetails)
  | contractDetailsEnd (id : Int)
  | optionParameters (id : Int) (exchange : String) (underlyingId : Int)
    (tradingClass multiplier : String) (expirations : List String) (strikes : List Double)
  | optionParametersEnd (id : Int)
  | symbolSamples (id : Int) (descriptions : List ContractDescription)
  | marketRule (ruleId : Int) (increments : List PriceIncrement)
  | historicalBar (id : Int) (bar : Bar)
  | historicalBarsEnd (id : Int) (first last : String)
  | historicalBarUpdate (id : Int) (bar : Bar)
  | realTimeBar (id time : Int) (opening high low closing : Double) (volume : Int) (wap : Double)
    (count : Int)
  | headTimestamp (id : Int) (time : String)
  | histogram (id : Int) (entries : List HistogramEntry)
  | historicalTicks (id : Int) (ticks : List HistoricalTick) (done : Bool)
  | historicalTicksBidAsk (id : Int) (ticks : List HistoricalBidAsk) (done : Bool)
  | historicalTrades (id : Int) (ticks : List HistoricalTrade) (done : Bool)
  | scannerParameters (xml : String)
  | scannerRow (id : Int) (row : ScannerRow)
  | scannerEnd (id : Int)
  | newsBulletin (id kind : Int) (message exchange : String)
  | newsProviders (providers : List NewsProvider)
  | newsArticle (id kind : Int) (text : String)
  | historicalNews (id : Int) (time provider articleId headline : String)
  | historicalNewsEnd (id : Int) (hasMore : Bool)
  | fundamentalData (id : Int) (data : String)
  | currentTime (time : Int)
  | verifyMessage (data : String)
  | verifyCompleted (successful : Bool) (text : String)
  | verifyAndAuthMessage (data challenge : String)
  | verifyAndAuthCompleted (successful : Bool) (text : String)
  | displayGroupList (id : Int) (groups : String)
  | displayGroupUpdated (id : Int) (contractInfo : String)

namespace Event

/-- The name under which the application is told. -/
def name : Event → String
  | .error .. => "error"
  | .connectionClosed => "connection_closed"
  | .tickPrice .. => "tick_price"
  | .tickSize .. => "tick_size"
  | .tickSnapshotEnd .. => "tick_snapshot_end"
  | .tickGeneric .. => "tick_generic"
  | .tickString .. => "tick_string"
  | .tickEfp .. => "tick_efp"
  | .tickOptionComputation .. => "tick_option_computation"
  | .tickParameters .. => "tick_req_params"
  | .tickNews .. => "tick_news"
  | .marketDataType .. => "market_data_type"
  | .rerouteMarketData .. => "reroute_mkt_data_req"
  | .rerouteMarketDepth .. => "reroute_mkt_depth_req"
  | .marketDepth .. => "update_mkt_depth"
  | .marketDepthByMaker .. => "update_mkt_depth_l2"
  | .depthExchanges .. => "mkt_depth_exchanges"
  | .smartComponents .. => "smart_components"
  | .tickByTickTrade .. => "tick_by_tick_all_last"
  | .tickByTickBidAsk .. => "tick_by_tick_bid_ask"
  | .tickByTickMidPoint .. => "tick_by_tick_mid_point"
  | .orderStatus .. => "order_status"
  | .openOrder .. => "open_order"
  | .openOrderEnd => "open_order_end"
  | .nextValidId .. => "next_valid_id"
  | .orderBound .. => "order_bound"
  | .completedOrder .. => "completed_order"
  | .completedOrdersEnd => "completed_orders_end"
  | .executionDetails .. => "exec_details"
  | .executionDetailsEnd .. => "exec_details_end"
  | .commissionReport .. => "commission_report"
  | .deltaNeutralValidation .. => "delta_neutral_validation"
  | .softDollarTiers .. => "soft_dollar_tiers"
  | .accountValue .. => "update_account_value"
  | .portfolioValue .. => "update_portfolio"
  | .accountTime .. => "update_account_time"
  | .accountDownloadEnd .. => "account_download_end"
  | .managedAccounts .. => "managed_accounts"
  | .positionHeld .. => "position"
  | .positionEnd => "position_end"
  | .accountSummary .. => "account_summary"
  | .accountSummaryEnd .. => "account_summary_end"
  | .positionMulti .. => "position_multi"
  | .positionMultiEnd .. => "position_multi_end"
  | .accountUpdateMulti .. => "account_update_multi"
  | .accountUpdateMultiEnd .. => "account_update_multi_end"
  | .pnl .. => "pnl"
  | .pnlSingle .. => "pnl_single"
  | .familyCodes .. => "family_codes"
  | .advisorData .. => "receive_fa"
  | .contractDetails .. => "contract_details"
  | .bondContractDetails .. => "bond_contract_details"
  | .contractDetailsEnd .. => "contract_details_end"
  | .optionParameters .. => "security_definition_option_parameter"
  | .optionParametersEnd .. => "security_definition_option_parameter_end"
  | .symbolSamples .. => "symbol_samples"
  | .marketRule .. => "market_rule"
  | .historicalBar .. => "historical_data"
  | .historicalBarsEnd .. => "historical_data_end"
  | .historicalBarUpdate .. => "historical_data_update"
  | .realTimeBar .. => "realtime_bar"
  | .headTimestamp .. => "head_timestamp"
  | .histogram .. => "histogram_data"
  | .historicalTicks .. => "historical_ticks"
  | .historicalTicksBidAsk .. => "historical_ticks_bid_ask"
  | .historicalTrades .. => "historical_ticks_last"
  | .scannerParameters .. => "scanner_parameters"
  | .scannerRow .. => "scanner_data"
  | .scannerEnd .. => "scanner_data_end"
  | .newsBulletin .. => "update_news_bulletin"
  | .newsProviders .. => "news_providers"
  | .newsArticle .. => "news_article"
  | .historicalNews .. => "historical_news"
  | .historicalNewsEnd .. => "historical_news_end"
  | .fundamentalData .. => "fundamental_data"
  | .currentTime .. => "current_time"
  | .verifyMessage .. => "verify_message_api"
  | .verifyCompleted .. => "verify_completed"
  | .verifyAndAuthMessage .. => "verify_and_auth_message_api"
  | .verifyAndAuthCompleted .. => "verify_and_auth_completed"
  | .displayGroupList .. => "display_group_list"
  | .displayGroupUpdated .. => "display_group_updated"

/-- What the application is told. -/
def arguments : Event → List Datum
  | .error id code text => [describe id, describe code, describe text]
  | .connectionClosed => []
  | .tickPrice id tickType price attributes =>
    [describe id, describe tickType, describe price, describe attributes]
  | .tickSize id tickType size => [describe id, describe tickType, describe size]
  | .tickSnapshotEnd id => [describe id]
  | .tickGeneric id tickType value => [describe id, describe tickType, describe value]
  | .tickString id tickType value => [describe id, describe tickType, describe value]
  | .tickEfp id tickType basisPoints formattedBasisPoints impliedFuturesPrice holdDays
      futureLastTradeDate dividendImpact dividendsToLastTradeDate =>
    [describe id, describe tickType, describe basisPoints, describe formattedBasisPoints,
      describe impliedFuturesPrice, describe holdDays, describe futureLastTradeDate,
      describe dividendImpact, describe dividendsToLastTradeDate]
  | .tickOptionComputation id tickType impliedVolatility delta optionPrice pvDividend gamma
      vega theta underlyingPrice =>
    [describe id, describe tickType, describe impliedVolatility, describe delta,
      describe optionPrice, describe pvDividend, describe gamma, describe vega, describe theta,
      describe underlyingPrice]
  | .tickParameters id minTick exchange snapshotPermissions =>
    [describe id, describe minTick, describe exchange, describe snapshotPermissions]
  | .tickNews id time provider articleId headline extraData =>
    [describe id, describe time, describe provider, describe articleId, describe headline,
      describe extraData]
  | .marketDataType id kind => [describe id, describe kind]
  | .rerouteMarketData id contractId exchange =>
    [describe id, describe contractId, describe exchange]
  | .rerouteMarketDepth id contractId exchange =>
    [describe id, describe contractId, describe exchange]
  | .marketDepth id row operation side price size =>
    [describe id, describe row, describe operation, describe side, describe price, describe size]
  | .marketDepthByMaker id row marketMaker operation side price size isSmartDepth =>
    [describe id, describe row, describe marketMaker, describe operation, describe side,
      describe price, describe size, describe isSmartDepth]
  | .depthExchanges exchanges => [describe exchanges]
  | .smartComponents id components =>
    [describe id, .table (components.map fun entry => (entry.1, describe entry.2))]
  | .tickByTickTrade id tickType time price size attributes exchange specialConditions =>
    [describe id, describe tickType, describe time, describe price, describe size,
      describe attributes, describe exchange, describe specialConditions]
  | .tickByTickBidAsk id time bidPrice askPrice bidSize askSize attributes =>
    [describe id, describe time, describe bidPrice, describe askPrice, describe bidSize,
      describe askSize, describe attributes]
  | .tickByTickMidPoint id time midPoint => [describe id, describe time, describe midPoint]
  | .orderStatus id status filled remaining averagePrice permanentId parentId lastPrice
      clientId whyHeld capPrice =>
    [describe id, describe status, describe filled, describe remaining, describe averagePrice,
      describe permanentId, describe parentId, describe lastPrice, describe clientId,
      describe whyHeld, describe capPrice]
  | .openOrder id contract order state =>
    [describe id, describe contract, describe order, describe state]
  | .openOrderEnd => []
  | .nextValidId id => [describe id]
  | .orderBound id clientId orderId => [describe id, describe clientId, describe orderId]
  | .completedOrder contract order state => [describe contract, describe order, describe state]
  | .completedOrdersEnd => []
  | .executionDetails id contract execution =>
    [describe id, describe contract, describe execution]
  | .executionDetailsEnd id => [describe id]
  | .commissionReport report => [describe report]
  | .deltaNeutralValidation id contract => [describe id, describe contract]
  | .softDollarTiers id tiers => [describe id, describe tiers]
  | .accountValue key value currency account =>
    [describe key, describe value, describe currency, describe account]
  | .portfolioValue contract quantity marketPrice marketValue averageCost unrealizedPnl
      realizedPnl account =>
    [describe contract, describe quantity, describe marketPrice, describe marketValue,
      describe averageCost, describe unrealizedPnl, describe realizedPnl, describe account]
  | .accountTime time => [describe time]
  | .accountDownloadEnd account => [describe account]
  | .managedAccounts accounts => [describe accounts]
  | .positionHeld account contract quantity averageCost =>
    [describe account, describe contract, describe quantity, describe averageCost]
  | .positionEnd => []
  | .accountSummary id account tag value currency =>
    [describe id, describe account, describe tag, describe value, describe currency]
  | .accountSummaryEnd id => [describe id]
  | .positionMulti id account modelCode contract quantity averageCost =>
    [describe id, describe account, describe modelCode, describe contract, describe quantity,
      describe averageCost]
  | .positionMultiEnd id => [describe id]
  | .accountUpdateMulti id account modelCode key value currency =>
    [describe id, describe account, describe modelCode, describe key, describe value,
      describe currency]
  | .accountUpdateMultiEnd id => [describe id]
  | .pnl id daily unrealized realized =>
    [describe id, describe daily, describe unrealized, describe realized]
  | .pnlSingle id quantity daily unrealized realized value =>
    [describe id, describe quantity, describe daily, describe unrealized, describe realized,
      describe value]
  | .familyCodes codes => [describe codes]
  | .advisorData kind xml => [describe kind, describe xml]
  | .contractDetails id details => [describe id, describe details]
  | .bondContractDetails id details => [describe id, describe details]
  | .contractDetailsEnd id => [describe id]
  | .optionParameters id exchange underlyingId tradingClass multiplier expirations strikes =>
    [describe id, describe exchange, describe underlyingId, describe tradingClass,
      describe multiplier, .set (expirations.map describe), .set (strikes.map describe)]
  | .optionParametersEnd id => [describe id]
  | .symbolSamples id descriptions => [describe id, describe descriptions]
  | .marketRule ruleId increments => [describe ruleId, describe increments]
  | .historicalBar id bar => [describe id, describe bar]
  | .historicalBarsEnd id first last => [describe id, describe first, describe last]
  | .historicalBarUpdate id bar => [describe id, describe bar]
  | .realTimeBar id time opening high low closing volume wap count =>
    [describe id, describe time, describe opening, describe high, describe low, describe closing,
      describe volume, describe wap, describe count]
  | .headTimestamp id time => [describe id, describe time]
  | .histogram id entries => [describe id, describe entries]
  | .historicalTicks id ticks done => [describe id, describe ticks, describe done]
  | .historicalTicksBidAsk id ticks done => [describe id, describe ticks, describe done]
  | .historicalTrades id ticks done => [describe id, describe ticks, describe done]
  | .scannerParameters xml => [describe xml]
  | .scannerRow id row =>
    [describe id, describe row.rank, describe row.details, describe row.distance,
      describe row.benchmark, describe row.projection, describe row.legs]
  | .scannerEnd id => [describe id]
  | .newsBulletin id kind message exchange =>
    [describe id, describe kind, describe message, describe exchange]
  | .newsProviders providers => [describe providers]
  | .newsArticle id kind text => [describe id, describe kind, describe text]
  | .historicalNews id time provider articleId headline =>
    [describe id, describe time, describe provider, describe articleId, describe headline]
  | .historicalNewsEnd id hasMore => [describe id, describe hasMore]
  | .fundamentalData id data => [describe id, describe data]
  | .currentTime time => [describe time]
  | .verifyMessage data => [describe data]
  | .verifyCompleted successful text => [describe successful, describe text]
  | .verifyAndAuthMessage data challenge => [describe data, describe challenge]
  | .verifyAndAuthCompleted successful text => [describe successful, describe text]
  | .displayGroupList id groups => [describe id, describe groups]
  | .displayGroupUpdated id contractInfo => [describe id, describe contractInfo]

end Event

end TradeWire
