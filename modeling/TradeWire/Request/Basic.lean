import TradeWire.Request.Account
import TradeWire.Request.History
import TradeWire.Request.MarketData
import TradeWire.Request.OpenOrders
import TradeWire.Request.PlaceOrder
import TradeWire.Request.Reference
import TradeWire.Request.Service

/-!
# Requests

Everything that a client can ask of a server, with what each request is about. Every request has a
plan; whether authentication was announced on connecting matters to two of them only.
-/

namespace TradeWire

/-- Something that a client asks of a server. -/
inductive Request where
  -- Market data
  | marketData (id : Int) (contract : Contract) (genericTicks : Label)
      (snapshot regulatorySnapshot : Bool) (options : Option (List TagValue))
  | cancelMarketData (id : Int)
  | marketDataType (type : Int)
  | smartComponents (id : Int) (exchange : Label)
  | marketRule (ruleId : Int)
  | tickByTick (id : Int) (contract : Contract) (type : Label) (count : Int) (ignoreSize : Bool)
  | cancelTickByTick (id : Int)
  -- Options
  | impliedVolatility (id : Int) (contract : Contract) (optionPrice underlying : Number)
      (options : Option (List TagValue))
  | optionPrice (id : Int) (contract : Contract) (volatility underlying : Number)
      (options : Option (List TagValue))
  | cancelImpliedVolatility (id : Int)
  | cancelOptionPrice (id : Int)
  | exerciseOptions (id : Int) (contract : Contract) (action quantity : Int) (account : Label)
      (override : Int)
  -- Market depth and five second bars
  | depthExchanges
  | marketDepth (id : Int) (contract : Contract) (rows : Int) (isSmart : Bool)
      (options : Option (List TagValue))
  | cancelMarketDepth (id : Int) (isSmart : Bool)
  | realTimeBars (id : Int) (contract : Contract) (barSize : Int) (whatToShow : Label)
      (regularHours : Bool) (options : Option (List TagValue))
  | cancelRealTimeBars (id : Int)
  -- Orders
  | placeOrder (id : Int) (contract : Contract) (order : Order)
  | cancelOrder (id : Int)
  | cancelAll
  | openOrders
  | bindOpenOrders (bind : Bool)
  | allOpenOrders
  | orderIds (count : Int)
  | completedOrders (apiOnly : Bool)
  -- Accounts
  | accountUpdates (subscribe : Bool) (account : Label)
  | accountSummary (id : Int) (group tags : Label)
  | cancelAccountSummary (id : Int)
  | accountUpdatesMulti (id : Int) (account model : Label) (ledgerAndValue : Bool)
  | cancelAccountUpdatesMulti (id : Int)
  | positions
  | cancelPositions
  | positionsMulti (id : Int) (account model : Label)
  | cancelPositionsMulti (id : Int)
  | pnl (id : Int) (account model : Label)
  | cancelPnl (id : Int)
  | pnlSingle (id : Int) (account model : Label) (contractId : Int)
  | cancelPnlSingle (id : Int)
  | executions (id : Int) (filter : ExecutionFilter)
  | managedAccounts
  | advisorData (part : Int)
  | replaceAdvisorData (id : Int) (part : Int) (content : Label)
  -- Reference data
  | contractDetails (id : Int) (contract : Contract)
  | matchingSymbols (id : Int) (pattern : Label)
  | optionParameters (id : Int) (symbol exchange secType : Label) (contractId : Int)
  | familyCodes
  | softDollarTiers (id : Int)
  | scannerParameters
  | scannerSubscription (id : Int) (subscription : ScannerSubscription)
      (options filters : Option (List TagValue))
  | cancelScanner (id : Int)
  | fundamentalData (id : Int) (contract : Contract) (report : Label)
      (options : Option (List TagValue))
  | cancelFundamentalData (id : Int)
  | newsBulletins (all : Bool)
  | cancelNewsBulletins
  | newsProviders
  | newsArticle (id : Int) (provider article : Label) (options : Option (List TagValue))
  | historicalNews (id contractId : Int) (providers start stop : Label) (limit : Int)
      (options : Option (List TagValue))
  -- Historical data
  | historicalData (id : Int) (contract : Contract) (query : Plan.BarQuery)
  | cancelHistoricalData (id : Int)
  | headTimestamp (id : Int) (contract : Contract) (whatToShow : Label)
      (regularHours dateFormat : Int)
  | cancelHeadTimestamp (id : Int)
  | histogram (id : Int) (contract : Contract) (regularHours : Bool) (period : Label)
  | cancelHistogram (id : Int)
  | historicalTicks (id : Int) (contract : Contract) (query : Plan.TickQuery)
  -- The service
  | displayGroups (id : Int)
  | subscribeGroup (id group : Int)
  | updateGroup (id : Int) (contractInfo : Label)
  | unsubscribeGroup (id : Int)
  | verify (name version : Label)
  | verifyMessage (data : Label)
  | authenticate (name version key : Label)
  | authenticateMessage (data response : Label)
  | currentTime
  | logLevel (level : Int)

namespace Request

/-- What a request does, given whether authentication was announced. -/
def plan (announced : Bool) : Request → Plan
  | marketData id c ticks snapshot regulatory options =>
    .marketData id c ticks snapshot regulatory options
  | cancelMarketData id => .cancelMarketData id
  | marketDataType type => .marketDataType type
  | smartComponents id exchange => .smartComponents id exchange
  | marketRule ruleId => .marketRule ruleId
  | tickByTick id c type count ignoreSize => .tickByTick id c type count ignoreSize
  | cancelTickByTick id => .cancelTickByTick id
  | impliedVolatility id c price underlying options =>
    .impliedVolatility id c price underlying options
  | optionPrice id c volatility underlying options =>
    .optionPrice id c volatility underlying options
  | cancelImpliedVolatility id => .cancelImpliedVolatility id
  | cancelOptionPrice id => .cancelOptionPrice id
  | exerciseOptions id c action quantity account override =>
    .exerciseOptions id c action quantity account override
  | depthExchanges => .depthExchanges
  | marketDepth id c rows isSmart options => .marketDepth id c rows isSmart options
  | cancelMarketDepth id isSmart => .cancelMarketDepth id isSmart
  | realTimeBars id c barSize what regularHours options =>
    .realTimeBars id c barSize what regularHours options
  | cancelRealTimeBars id => .cancelRealTimeBars id
  | placeOrder id c order => .placeOrder id c order
  | cancelOrder id => .cancelOrder id
  | cancelAll => .cancelAll
  | openOrders => .openOrders
  | bindOpenOrders bind => .bindOpenOrders bind
  | allOpenOrders => .allOpenOrders
  | orderIds count => .orderIds count
  | completedOrders apiOnly => .completedOrders apiOnly
  | accountUpdates subscribe account => .accountUpdates subscribe account
  | accountSummary id group tags => .accountSummary id group tags
  | cancelAccountSummary id => .cancelAccountSummary id
  | accountUpdatesMulti id account model ledger => .accountUpdatesMulti id account model ledger
  | cancelAccountUpdatesMulti id => .cancelAccountUpdatesMulti id
  | positions => .positions
  | cancelPositions => .cancelPositions
  | positionsMulti id account model => .positionsMulti id account model
  | cancelPositionsMulti id => .cancelPositionsMulti id
  | pnl id account model => .pnl id account model
  | cancelPnl id => .cancelPnl id
  | pnlSingle id account model contractId => .pnlSingle id account model contractId
  | cancelPnlSingle id => .cancelPnlSingle id
  | executions id filter => .executions id filter
  | managedAccounts => .managedAccounts
  | advisorData part => .advisorData part
  | replaceAdvisorData id part content => .replaceAdvisorData id part content
  | contractDetails id c => .contractDetails id c
  | matchingSymbols id pattern => .matchingSymbols id pattern
  | optionParameters id symbol exchange secType contractId =>
    .optionParameters id symbol exchange secType contractId
  | familyCodes => .familyCodes
  | softDollarTiers id => .softDollarTiers id
  | scannerParameters => .scannerParameters
  | scannerSubscription id subscription options filters =>
    .scannerSubscription id subscription options filters
  | cancelScanner id => .cancelScanner id
  | fundamentalData id c report options => .fundamentalData id c report options
  | cancelFundamentalData id => .cancelFundamentalData id
  | newsBulletins all => .newsBulletins all
  | cancelNewsBulletins => .cancelNewsBulletins
  | newsProviders => .newsProviders
  | newsArticle id provider article options => .newsArticle id provider article options
  | historicalNews id contractId providers start stop limit options =>
    .historicalNews id contractId providers start stop limit options
  | historicalData id c query => .historicalData id c query
  | cancelHistoricalData id => .cancelHistoricalData id
  | headTimestamp id c what regularHours dateFormat =>
    .headTimestamp id c what regularHours dateFormat
  | cancelHeadTimestamp id => .cancelHeadTimestamp id
  | histogram id c regularHours period => .histogram id c regularHours period
  | cancelHistogram id => .cancelHistogram id
  | historicalTicks id c query => .historicalTicks id c query
  | displayGroups id => .displayGroups id
  | subscribeGroup id group => .subscribeGroup id group
  | updateGroup id contractInfo => .updateGroup id contractInfo
  | unsubscribeGroup id => .unsubscribeGroup id
  | verify name version => .verify announced name version
  | verifyMessage data => .verifyMessage data
  | authenticate name version key => .authenticate announced name version key
  | authenticateMessage data response => .authenticateMessage data response
  | currentTime => .currentTime
  | logLevel level => .logLevel level

end Request

end TradeWire
