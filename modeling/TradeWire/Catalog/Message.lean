
/-!
# Kinds of message

Messages are numbered by kind, separately for each direction.
-/

namespace TradeWire

/-- The kinds of message that a server sends. -/
inductive Incoming where
  | tickPrice
  | tickSize
  | orderStatus
  | errMsg
  | openOrder
  | acctValue
  | portfolioValue
  | acctUpdateTime
  | nextValidId
  | contractData
  | executionData
  | marketDepth
  | marketDepthL2
  | newsBulletins
  | managedAccts
  | receiveFa
  | historicalData
  | bondContractData
  | scannerParameters
  | scannerData
  | tickOptionComputation
  | tickGeneric
  | tickString
  | tickEfp
  | currentTime
  | realTimeBars
  | fundamentalData
  | contractDataEnd
  | openOrderEnd
  | acctDownloadEnd
  | executionDataEnd
  | deltaNeutralValidation
  | tickSnapshotEnd
  | marketDataType
  | commissionReport
  | positionData
  | positionEnd
  | accountSummary
  | accountSummaryEnd
  | verifyMessageApi
  | verifyCompleted
  | displayGroupList
  | displayGroupUpdated
  | verifyAndAuthMessageApi
  | verifyAndAuthCompleted
  | positionMulti
  | positionMultiEnd
  | accountUpdateMulti
  | accountUpdateMultiEnd
  | securityDefinitionOptionParameter
  | securityDefinitionOptionParameterEnd
  | softDollarTiers
  | familyCodes
  | symbolSamples
  | mktDepthExchanges
  | tickReqParams
  | smartComponents
  | newsArticle
  | tickNews
  | newsProviders
  | historicalNews
  | historicalNewsEnd
  | headTimestamp
  | histogramData
  | historicalDataUpdate
  | rerouteMktDataReq
  | rerouteMktDepthReq
  | marketRule
  | pnl
  | pnlSingle
  | historicalTicks
  | historicalTicksBidAsk
  | historicalTicksLast
  | tickByTick
  | orderBound
  | completedOrder
  | completedOrdersEnd
  deriving DecidableEq

namespace Incoming

/-- The number that a message of the kind starts with. -/
def number : Incoming → Int
  | .tickPrice => 1
  | .tickSize => 2
  | .orderStatus => 3
  | .errMsg => 4
  | .openOrder => 5
  | .acctValue => 6
  | .portfolioValue => 7
  | .acctUpdateTime => 8
  | .nextValidId => 9
  | .contractData => 10
  | .executionData => 11
  | .marketDepth => 12
  | .marketDepthL2 => 13
  | .newsBulletins => 14
  | .managedAccts => 15
  | .receiveFa => 16
  | .historicalData => 17
  | .bondContractData => 18
  | .scannerParameters => 19
  | .scannerData => 20
  | .tickOptionComputation => 21
  | .tickGeneric => 45
  | .tickString => 46
  | .tickEfp => 47
  | .currentTime => 49
  | .realTimeBars => 50
  | .fundamentalData => 51
  | .contractDataEnd => 52
  | .openOrderEnd => 53
  | .acctDownloadEnd => 54
  | .executionDataEnd => 55
  | .deltaNeutralValidation => 56
  | .tickSnapshotEnd => 57
  | .marketDataType => 58
  | .commissionReport => 59
  | .positionData => 61
  | .positionEnd => 62
  | .accountSummary => 63
  | .accountSummaryEnd => 64
  | .verifyMessageApi => 65
  | .verifyCompleted => 66
  | .displayGroupList => 67
  | .displayGroupUpdated => 68
  | .verifyAndAuthMessageApi => 69
  | .verifyAndAuthCompleted => 70
  | .positionMulti => 71
  | .positionMultiEnd => 72
  | .accountUpdateMulti => 73
  | .accountUpdateMultiEnd => 74
  | .securityDefinitionOptionParameter => 75
  | .securityDefinitionOptionParameterEnd => 76
  | .softDollarTiers => 77
  | .familyCodes => 78
  | .symbolSamples => 79
  | .mktDepthExchanges => 80
  | .tickReqParams => 81
  | .smartComponents => 82
  | .newsArticle => 83
  | .tickNews => 84
  | .newsProviders => 85
  | .historicalNews => 86
  | .historicalNewsEnd => 87
  | .headTimestamp => 88
  | .histogramData => 89
  | .historicalDataUpdate => 90
  | .rerouteMktDataReq => 91
  | .rerouteMktDepthReq => 92
  | .marketRule => 93
  | .pnl => 94
  | .pnlSingle => 95
  | .historicalTicks => 96
  | .historicalTicksBidAsk => 97
  | .historicalTicksLast => 98
  | .tickByTick => 99
  | .orderBound => 100
  | .completedOrder => 101
  | .completedOrdersEnd => 102

def name : Incoming → String
  | .tickPrice => "TICK_PRICE"
  | .tickSize => "TICK_SIZE"
  | .orderStatus => "ORDER_STATUS"
  | .errMsg => "ERR_MSG"
  | .openOrder => "OPEN_ORDER"
  | .acctValue => "ACCT_VALUE"
  | .portfolioValue => "PORTFOLIO_VALUE"
  | .acctUpdateTime => "ACCT_UPDATE_TIME"
  | .nextValidId => "NEXT_VALID_ID"
  | .contractData => "CONTRACT_DATA"
  | .executionData => "EXECUTION_DATA"
  | .marketDepth => "MARKET_DEPTH"
  | .marketDepthL2 => "MARKET_DEPTH_L2"
  | .newsBulletins => "NEWS_BULLETINS"
  | .managedAccts => "MANAGED_ACCTS"
  | .receiveFa => "RECEIVE_FA"
  | .historicalData => "HISTORICAL_DATA"
  | .bondContractData => "BOND_CONTRACT_DATA"
  | .scannerParameters => "SCANNER_PARAMETERS"
  | .scannerData => "SCANNER_DATA"
  | .tickOptionComputation => "TICK_OPTION_COMPUTATION"
  | .tickGeneric => "TICK_GENERIC"
  | .tickString => "TICK_STRING"
  | .tickEfp => "TICK_EFP"
  | .currentTime => "CURRENT_TIME"
  | .realTimeBars => "REAL_TIME_BARS"
  | .fundamentalData => "FUNDAMENTAL_DATA"
  | .contractDataEnd => "CONTRACT_DATA_END"
  | .openOrderEnd => "OPEN_ORDER_END"
  | .acctDownloadEnd => "ACCT_DOWNLOAD_END"
  | .executionDataEnd => "EXECUTION_DATA_END"
  | .deltaNeutralValidation => "DELTA_NEUTRAL_VALIDATION"
  | .tickSnapshotEnd => "TICK_SNAPSHOT_END"
  | .marketDataType => "MARKET_DATA_TYPE"
  | .commissionReport => "COMMISSION_REPORT"
  | .positionData => "POSITION_DATA"
  | .positionEnd => "POSITION_END"
  | .accountSummary => "ACCOUNT_SUMMARY"
  | .accountSummaryEnd => "ACCOUNT_SUMMARY_END"
  | .verifyMessageApi => "VERIFY_MESSAGE_API"
  | .verifyCompleted => "VERIFY_COMPLETED"
  | .displayGroupList => "DISPLAY_GROUP_LIST"
  | .displayGroupUpdated => "DISPLAY_GROUP_UPDATED"
  | .verifyAndAuthMessageApi => "VERIFY_AND_AUTH_MESSAGE_API"
  | .verifyAndAuthCompleted => "VERIFY_AND_AUTH_COMPLETED"
  | .positionMulti => "POSITION_MULTI"
  | .positionMultiEnd => "POSITION_MULTI_END"
  | .accountUpdateMulti => "ACCOUNT_UPDATE_MULTI"
  | .accountUpdateMultiEnd => "ACCOUNT_UPDATE_MULTI_END"
  | .securityDefinitionOptionParameter => "SECURITY_DEFINITION_OPTION_PARAMETER"
  | .securityDefinitionOptionParameterEnd => "SECURITY_DEFINITION_OPTION_PARAMETER_END"
  | .softDollarTiers => "SOFT_DOLLAR_TIERS"
  | .familyCodes => "FAMILY_CODES"
  | .symbolSamples => "SYMBOL_SAMPLES"
  | .mktDepthExchanges => "MKT_DEPTH_EXCHANGES"
  | .tickReqParams => "TICK_REQ_PARAMS"
  | .smartComponents => "SMART_COMPONENTS"
  | .newsArticle => "NEWS_ARTICLE"
  | .tickNews => "TICK_NEWS"
  | .newsProviders => "NEWS_PROVIDERS"
  | .historicalNews => "HISTORICAL_NEWS"
  | .historicalNewsEnd => "HISTORICAL_NEWS_END"
  | .headTimestamp => "HEAD_TIMESTAMP"
  | .histogramData => "HISTOGRAM_DATA"
  | .historicalDataUpdate => "HISTORICAL_DATA_UPDATE"
  | .rerouteMktDataReq => "REROUTE_MKT_DATA_REQ"
  | .rerouteMktDepthReq => "REROUTE_MKT_DEPTH_REQ"
  | .marketRule => "MARKET_RULE"
  | .pnl => "PNL"
  | .pnlSingle => "PNL_SINGLE"
  | .historicalTicks => "HISTORICAL_TICKS"
  | .historicalTicksBidAsk => "HISTORICAL_TICKS_BID_ASK"
  | .historicalTicksLast => "HISTORICAL_TICKS_LAST"
  | .tickByTick => "TICK_BY_TICK"
  | .orderBound => "ORDER_BOUND"
  | .completedOrder => "COMPLETED_ORDER"
  | .completedOrdersEnd => "COMPLETED_ORDERS_END"

/-- All kinds in the order of their numbers. -/
def all : List Incoming := [
  .tickPrice, .tickSize, .orderStatus, .errMsg, .openOrder, .acctValue, .portfolioValue,
  .acctUpdateTime, .nextValidId, .contractData, .executionData, .marketDepth, .marketDepthL2,
  .newsBulletins, .managedAccts, .receiveFa, .historicalData, .bondContractData, .scannerParameters,
  .scannerData, .tickOptionComputation, .tickGeneric, .tickString, .tickEfp, .currentTime,
  .realTimeBars, .fundamentalData, .contractDataEnd, .openOrderEnd, .acctDownloadEnd,
  .executionDataEnd, .deltaNeutralValidation, .tickSnapshotEnd, .marketDataType, .commissionReport,
  .positionData, .positionEnd, .accountSummary, .accountSummaryEnd, .verifyMessageApi,
  .verifyCompleted, .displayGroupList, .displayGroupUpdated, .verifyAndAuthMessageApi,
  .verifyAndAuthCompleted, .positionMulti, .positionMultiEnd, .accountUpdateMulti,
  .accountUpdateMultiEnd, .securityDefinitionOptionParameter, .securityDefinitionOptionParameterEnd,
  .softDollarTiers, .familyCodes, .symbolSamples, .mktDepthExchanges, .tickReqParams,
  .smartComponents, .newsArticle, .tickNews, .newsProviders, .historicalNews, .historicalNewsEnd,
  .headTimestamp, .histogramData, .historicalDataUpdate, .rerouteMktDataReq, .rerouteMktDepthReq,
  .marketRule, .pnl, .pnlSingle, .historicalTicks, .historicalTicksBidAsk, .historicalTicksLast,
  .tickByTick, .orderBound, .completedOrder, .completedOrdersEnd]

/-- The kind with a number, if there is one. -/
def ofNumber? (n : Int) : Option Incoming := all.find? (·.number == n)

end Incoming

/-- The kinds of message that a client sends. -/
inductive Outgoing where
  | reqMktData
  | cancelMktData
  | placeOrder
  | cancelOrder
  | reqOpenOrders
  | reqAcctData
  | reqExecutions
  | reqIds
  | reqContractData
  | reqMktDepth
  | cancelMktDepth
  | reqNewsBulletins
  | cancelNewsBulletins
  | setServerLoglevel
  | reqAutoOpenOrders
  | reqAllOpenOrders
  | reqManagedAccts
  | reqFa
  | replaceFa
  | reqHistoricalData
  | exerciseOptions
  | reqScannerSubscription
  | cancelScannerSubscription
  | reqScannerParameters
  | cancelHistoricalData
  | reqCurrentTime
  | reqRealTimeBars
  | cancelRealTimeBars
  | reqFundamentalData
  | cancelFundamentalData
  | reqCalcImpliedVolat
  | reqCalcOptionPrice
  | cancelCalcImpliedVolat
  | cancelCalcOptionPrice
  | reqGlobalCancel
  | reqMarketDataType
  | reqPositions
  | reqAccountSummary
  | cancelAccountSummary
  | cancelPositions
  | verifyRequest
  | verifyMessage
  | queryDisplayGroups
  | subscribeToGroupEvents
  | updateDisplayGroup
  | unsubscribeFromGroupEvents
  | startApi
  | verifyAndAuthRequest
  | verifyAndAuthMessage
  | reqPositionsMulti
  | cancelPositionsMulti
  | reqAccountUpdatesMulti
  | cancelAccountUpdatesMulti
  | reqSecDefOptParams
  | reqSoftDollarTiers
  | reqFamilyCodes
  | reqMatchingSymbols
  | reqMktDepthExchanges
  | reqSmartComponents
  | reqNewsArticle
  | reqNewsProviders
  | reqHistoricalNews
  | reqHeadTimestamp
  | reqHistogramData
  | cancelHistogramData
  | cancelHeadTimestamp
  | reqMarketRule
  | reqPnl
  | cancelPnl
  | reqPnlSingle
  | cancelPnlSingle
  | reqHistoricalTicks
  | reqTickByTickData
  | cancelTickByTickData
  | reqCompletedOrders
  deriving DecidableEq

namespace Outgoing

/-- The number that a message of the kind starts with. -/
def number : Outgoing → Int
  | .reqMktData => 1
  | .cancelMktData => 2
  | .placeOrder => 3
  | .cancelOrder => 4
  | .reqOpenOrders => 5
  | .reqAcctData => 6
  | .reqExecutions => 7
  | .reqIds => 8
  | .reqContractData => 9
  | .reqMktDepth => 10
  | .cancelMktDepth => 11
  | .reqNewsBulletins => 12
  | .cancelNewsBulletins => 13
  | .setServerLoglevel => 14
  | .reqAutoOpenOrders => 15
  | .reqAllOpenOrders => 16
  | .reqManagedAccts => 17
  | .reqFa => 18
  | .replaceFa => 19
  | .reqHistoricalData => 20
  | .exerciseOptions => 21
  | .reqScannerSubscription => 22
  | .cancelScannerSubscription => 23
  | .reqScannerParameters => 24
  | .cancelHistoricalData => 25
  | .reqCurrentTime => 49
  | .reqRealTimeBars => 50
  | .cancelRealTimeBars => 51
  | .reqFundamentalData => 52
  | .cancelFundamentalData => 53
  | .reqCalcImpliedVolat => 54
  | .reqCalcOptionPrice => 55
  | .cancelCalcImpliedVolat => 56
  | .cancelCalcOptionPrice => 57
  | .reqGlobalCancel => 58
  | .reqMarketDataType => 59
  | .reqPositions => 61
  | .reqAccountSummary => 62
  | .cancelAccountSummary => 63
  | .cancelPositions => 64
  | .verifyRequest => 65
  | .verifyMessage => 66
  | .queryDisplayGroups => 67
  | .subscribeToGroupEvents => 68
  | .updateDisplayGroup => 69
  | .unsubscribeFromGroupEvents => 70
  | .startApi => 71
  | .verifyAndAuthRequest => 72
  | .verifyAndAuthMessage => 73
  | .reqPositionsMulti => 74
  | .cancelPositionsMulti => 75
  | .reqAccountUpdatesMulti => 76
  | .cancelAccountUpdatesMulti => 77
  | .reqSecDefOptParams => 78
  | .reqSoftDollarTiers => 79
  | .reqFamilyCodes => 80
  | .reqMatchingSymbols => 81
  | .reqMktDepthExchanges => 82
  | .reqSmartComponents => 83
  | .reqNewsArticle => 84
  | .reqNewsProviders => 85
  | .reqHistoricalNews => 86
  | .reqHeadTimestamp => 87
  | .reqHistogramData => 88
  | .cancelHistogramData => 89
  | .cancelHeadTimestamp => 90
  | .reqMarketRule => 91
  | .reqPnl => 92
  | .cancelPnl => 93
  | .reqPnlSingle => 94
  | .cancelPnlSingle => 95
  | .reqHistoricalTicks => 96
  | .reqTickByTickData => 97
  | .cancelTickByTickData => 98
  | .reqCompletedOrders => 99

def name : Outgoing → String
  | .reqMktData => "REQ_MKT_DATA"
  | .cancelMktData => "CANCEL_MKT_DATA"
  | .placeOrder => "PLACE_ORDER"
  | .cancelOrder => "CANCEL_ORDER"
  | .reqOpenOrders => "REQ_OPEN_ORDERS"
  | .reqAcctData => "REQ_ACCT_DATA"
  | .reqExecutions => "REQ_EXECUTIONS"
  | .reqIds => "REQ_IDS"
  | .reqContractData => "REQ_CONTRACT_DATA"
  | .reqMktDepth => "REQ_MKT_DEPTH"
  | .cancelMktDepth => "CANCEL_MKT_DEPTH"
  | .reqNewsBulletins => "REQ_NEWS_BULLETINS"
  | .cancelNewsBulletins => "CANCEL_NEWS_BULLETINS"
  | .setServerLoglevel => "SET_SERVER_LOGLEVEL"
  | .reqAutoOpenOrders => "REQ_AUTO_OPEN_ORDERS"
  | .reqAllOpenOrders => "REQ_ALL_OPEN_ORDERS"
  | .reqManagedAccts => "REQ_MANAGED_ACCTS"
  | .reqFa => "REQ_FA"
  | .replaceFa => "REPLACE_FA"
  | .reqHistoricalData => "REQ_HISTORICAL_DATA"
  | .exerciseOptions => "EXERCISE_OPTIONS"
  | .reqScannerSubscription => "REQ_SCANNER_SUBSCRIPTION"
  | .cancelScannerSubscription => "CANCEL_SCANNER_SUBSCRIPTION"
  | .reqScannerParameters => "REQ_SCANNER_PARAMETERS"
  | .cancelHistoricalData => "CANCEL_HISTORICAL_DATA"
  | .reqCurrentTime => "REQ_CURRENT_TIME"
  | .reqRealTimeBars => "REQ_REAL_TIME_BARS"
  | .cancelRealTimeBars => "CANCEL_REAL_TIME_BARS"
  | .reqFundamentalData => "REQ_FUNDAMENTAL_DATA"
  | .cancelFundamentalData => "CANCEL_FUNDAMENTAL_DATA"
  | .reqCalcImpliedVolat => "REQ_CALC_IMPLIED_VOLAT"
  | .reqCalcOptionPrice => "REQ_CALC_OPTION_PRICE"
  | .cancelCalcImpliedVolat => "CANCEL_CALC_IMPLIED_VOLAT"
  | .cancelCalcOptionPrice => "CANCEL_CALC_OPTION_PRICE"
  | .reqGlobalCancel => "REQ_GLOBAL_CANCEL"
  | .reqMarketDataType => "REQ_MARKET_DATA_TYPE"
  | .reqPositions => "REQ_POSITIONS"
  | .reqAccountSummary => "REQ_ACCOUNT_SUMMARY"
  | .cancelAccountSummary => "CANCEL_ACCOUNT_SUMMARY"
  | .cancelPositions => "CANCEL_POSITIONS"
  | .verifyRequest => "VERIFY_REQUEST"
  | .verifyMessage => "VERIFY_MESSAGE"
  | .queryDisplayGroups => "QUERY_DISPLAY_GROUPS"
  | .subscribeToGroupEvents => "SUBSCRIBE_TO_GROUP_EVENTS"
  | .updateDisplayGroup => "UPDATE_DISPLAY_GROUP"
  | .unsubscribeFromGroupEvents => "UNSUBSCRIBE_FROM_GROUP_EVENTS"
  | .startApi => "START_API"
  | .verifyAndAuthRequest => "VERIFY_AND_AUTH_REQUEST"
  | .verifyAndAuthMessage => "VERIFY_AND_AUTH_MESSAGE"
  | .reqPositionsMulti => "REQ_POSITIONS_MULTI"
  | .cancelPositionsMulti => "CANCEL_POSITIONS_MULTI"
  | .reqAccountUpdatesMulti => "REQ_ACCOUNT_UPDATES_MULTI"
  | .cancelAccountUpdatesMulti => "CANCEL_ACCOUNT_UPDATES_MULTI"
  | .reqSecDefOptParams => "REQ_SEC_DEF_OPT_PARAMS"
  | .reqSoftDollarTiers => "REQ_SOFT_DOLLAR_TIERS"
  | .reqFamilyCodes => "REQ_FAMILY_CODES"
  | .reqMatchingSymbols => "REQ_MATCHING_SYMBOLS"
  | .reqMktDepthExchanges => "REQ_MKT_DEPTH_EXCHANGES"
  | .reqSmartComponents => "REQ_SMART_COMPONENTS"
  | .reqNewsArticle => "REQ_NEWS_ARTICLE"
  | .reqNewsProviders => "REQ_NEWS_PROVIDERS"
  | .reqHistoricalNews => "REQ_HISTORICAL_NEWS"
  | .reqHeadTimestamp => "REQ_HEAD_TIMESTAMP"
  | .reqHistogramData => "REQ_HISTOGRAM_DATA"
  | .cancelHistogramData => "CANCEL_HISTOGRAM_DATA"
  | .cancelHeadTimestamp => "CANCEL_HEAD_TIMESTAMP"
  | .reqMarketRule => "REQ_MARKET_RULE"
  | .reqPnl => "REQ_PNL"
  | .cancelPnl => "CANCEL_PNL"
  | .reqPnlSingle => "REQ_PNL_SINGLE"
  | .cancelPnlSingle => "CANCEL_PNL_SINGLE"
  | .reqHistoricalTicks => "REQ_HISTORICAL_TICKS"
  | .reqTickByTickData => "REQ_TICK_BY_TICK_DATA"
  | .cancelTickByTickData => "CANCEL_TICK_BY_TICK_DATA"
  | .reqCompletedOrders => "REQ_COMPLETED_ORDERS"

/-- All kinds in the order of their numbers. -/
def all : List Outgoing := [
  .reqMktData, .cancelMktData, .placeOrder, .cancelOrder, .reqOpenOrders, .reqAcctData,
  .reqExecutions, .reqIds, .reqContractData, .reqMktDepth, .cancelMktDepth, .reqNewsBulletins,
  .cancelNewsBulletins, .setServerLoglevel, .reqAutoOpenOrders, .reqAllOpenOrders, .reqManagedAccts,
  .reqFa, .replaceFa, .reqHistoricalData, .exerciseOptions, .reqScannerSubscription,
  .cancelScannerSubscription, .reqScannerParameters, .cancelHistoricalData, .reqCurrentTime,
  .reqRealTimeBars, .cancelRealTimeBars, .reqFundamentalData, .cancelFundamentalData,
  .reqCalcImpliedVolat, .reqCalcOptionPrice, .cancelCalcImpliedVolat, .cancelCalcOptionPrice,
  .reqGlobalCancel, .reqMarketDataType, .reqPositions, .reqAccountSummary, .cancelAccountSummary,
  .cancelPositions, .verifyRequest, .verifyMessage, .queryDisplayGroups, .subscribeToGroupEvents,
  .updateDisplayGroup, .unsubscribeFromGroupEvents, .startApi, .verifyAndAuthRequest,
  .verifyAndAuthMessage, .reqPositionsMulti, .cancelPositionsMulti, .reqAccountUpdatesMulti,
  .cancelAccountUpdatesMulti, .reqSecDefOptParams, .reqSoftDollarTiers, .reqFamilyCodes,
  .reqMatchingSymbols, .reqMktDepthExchanges, .reqSmartComponents, .reqNewsArticle,
  .reqNewsProviders, .reqHistoricalNews, .reqHeadTimestamp, .reqHistogramData, .cancelHistogramData,
  .cancelHeadTimestamp, .reqMarketRule, .reqPnl, .cancelPnl, .reqPnlSingle, .cancelPnlSingle,
  .reqHistoricalTicks, .reqTickByTickData, .cancelTickByTickData, .reqCompletedOrders]

end Outgoing

end TradeWire
