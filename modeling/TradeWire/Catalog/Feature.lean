
/-!
# Features of server versions

A server announces its version once per connection. Each optional feature is there from some version
on, and decides which fields are written and which are expected.
-/

namespace TradeWire

/-- The oldest server version that a client announces. -/
def leastVersion : Int := 100

namespace Feature

abbrev realTimeBars : Int := 34
abbrev scaleOrders : Int := 35
abbrev snapshotMktData : Int := 35
abbrev sshortComboLegs : Int := 35
abbrev whatIfOrders : Int := 36
abbrev contractConid : Int := 37
abbrev ptaOrders : Int := 39
abbrev fundamentalData : Int := 40
abbrev deltaNeutral : Int := 40
abbrev contractDataChain : Int := 40
abbrev scaleOrders2 : Int := 40
abbrev algoOrders : Int := 41
abbrev executionDataChain : Int := 42
abbrev notHeld : Int := 44
abbrev secIdType : Int := 45
abbrev placeOrderConid : Int := 46
abbrev reqMktDataConid : Int := 47
abbrev reqCalcImpliedVolat : Int := 49
abbrev reqCalcOptionPrice : Int := 50
abbrev sshortxOld : Int := 51
abbrev sshortx : Int := 52
abbrev reqGlobalCancel : Int := 53
abbrev hedgeOrders : Int := 54
abbrev reqMarketDataType : Int := 55
abbrev optOutSmartRouting : Int := 56
abbrev smartComboRoutingParams : Int := 57
abbrev deltaNeutralConid : Int := 58
abbrev scaleOrders3 : Int := 60
abbrev orderComboLegsPrice : Int := 61
abbrev trailingPercent : Int := 62
abbrev deltaNeutralOpenClose : Int := 66
abbrev positions : Int := 67
abbrev accountSummary : Int := 67
abbrev tradingClass : Int := 68
abbrev scaleTable : Int := 69
abbrev linking : Int := 70
abbrev algoId : Int := 71
abbrev optionalCapabilities : Int := 72
abbrev orderSolicited : Int := 73
abbrev linkingAuth : Int := 74
abbrev primaryexch : Int := 75
abbrev randomizeSizeAndPrice : Int := 76
abbrev fractionalPositions : Int := 101
abbrev peggedToBenchmark : Int := 102
abbrev modelsSupport : Int := 103
abbrev secDefOptParamsReq : Int := 104
abbrev extOperator : Int := 105
abbrev softDollarTier : Int := 106
abbrev reqFamilyCodes : Int := 107
abbrev reqMatchingSymbols : Int := 108
abbrev pastLimit : Int := 109
abbrev mdSizeMultiplier : Int := 110
abbrev cashQty : Int := 111
abbrev reqMktDepthExchanges : Int := 112
abbrev tickNews : Int := 113
abbrev reqSmartComponents : Int := 114
abbrev reqNewsProviders : Int := 115
abbrev reqNewsArticle : Int := 116
abbrev reqHistoricalNews : Int := 117
abbrev reqHeadTimestamp : Int := 118
abbrev reqHistogram : Int := 119
abbrev serviceDataType : Int := 120
abbrev aggGroup : Int := 121
abbrev underlyingInfo : Int := 122
abbrev cancelHeadtimestamp : Int := 123
abbrev syntRealtimeBars : Int := 124
abbrev cfdReroute : Int := 125
abbrev marketRules : Int := 126
abbrev pnl : Int := 127
abbrev newsQueryOrigins : Int := 128
abbrev unrealizedPnl : Int := 129
abbrev historicalTicks : Int := 130
abbrev marketCapPrice : Int := 131
abbrev preOpenBidAsk : Int := 132
abbrev realExpirationDate : Int := 134
abbrev realizedPnl : Int := 135
abbrev lastLiquidity : Int := 136
abbrev tickByTick : Int := 137
abbrev decisionMaker : Int := 138
abbrev mifidExecution : Int := 139
abbrev tickByTickIgnoreSize : Int := 140
abbrev autoPriceForHedge : Int := 141
abbrev whatIfExtFields : Int := 142
abbrev scannerGenericOpts : Int := 143
abbrev apiBindOrder : Int := 144
abbrev orderContainer : Int := 145
abbrev smartDepth : Int := 146
abbrev removeNullAllCasting : Int := 147
abbrev dPegOrders : Int := 148
abbrev mktDepthPrimExchange : Int := 149
abbrev completedOrders : Int := 150
abbrev priceMgmtAlgo : Int := 151
abbrev stockType : Int := 152
abbrev encodeMsgAscii7 : Int := 153
abbrev sendAllFamilyCodes : Int := 154
abbrev noDefaultOpenClose : Int := 155
abbrev priceBasedVolatility : Int := 156
abbrev replaceFaEnd : Int := 157
abbrev duration : Int := 158
abbrev marketDataInShares : Int := 159
abbrev postToAts : Int := 160
abbrev wsheCalendar : Int := 161

/-- The features by name. -/
def all : List (String × Int) := [
  ("REAL_TIME_BARS", realTimeBars),
  ("SCALE_ORDERS", scaleOrders),
  ("SNAPSHOT_MKT_DATA", snapshotMktData),
  ("SSHORT_COMBO_LEGS", sshortComboLegs),
  ("WHAT_IF_ORDERS", whatIfOrders),
  ("CONTRACT_CONID", contractConid),
  ("PTA_ORDERS", ptaOrders),
  ("FUNDAMENTAL_DATA", fundamentalData),
  ("DELTA_NEUTRAL", deltaNeutral),
  ("CONTRACT_DATA_CHAIN", contractDataChain),
  ("SCALE_ORDERS2", scaleOrders2),
  ("ALGO_ORDERS", algoOrders),
  ("EXECUTION_DATA_CHAIN", executionDataChain),
  ("NOT_HELD", notHeld),
  ("SEC_ID_TYPE", secIdType),
  ("PLACE_ORDER_CONID", placeOrderConid),
  ("REQ_MKT_DATA_CONID", reqMktDataConid),
  ("REQ_CALC_IMPLIED_VOLAT", reqCalcImpliedVolat),
  ("REQ_CALC_OPTION_PRICE", reqCalcOptionPrice),
  ("SSHORTX_OLD", sshortxOld),
  ("SSHORTX", sshortx),
  ("REQ_GLOBAL_CANCEL", reqGlobalCancel),
  ("HEDGE_ORDERS", hedgeOrders),
  ("REQ_MARKET_DATA_TYPE", reqMarketDataType),
  ("OPT_OUT_SMART_ROUTING", optOutSmartRouting),
  ("SMART_COMBO_ROUTING_PARAMS", smartComboRoutingParams),
  ("DELTA_NEUTRAL_CONID", deltaNeutralConid),
  ("SCALE_ORDERS3", scaleOrders3),
  ("ORDER_COMBO_LEGS_PRICE", orderComboLegsPrice),
  ("TRAILING_PERCENT", trailingPercent),
  ("DELTA_NEUTRAL_OPEN_CLOSE", deltaNeutralOpenClose),
  ("POSITIONS", positions),
  ("ACCOUNT_SUMMARY", accountSummary),
  ("TRADING_CLASS", tradingClass),
  ("SCALE_TABLE", scaleTable),
  ("LINKING", linking),
  ("ALGO_ID", algoId),
  ("OPTIONAL_CAPABILITIES", optionalCapabilities),
  ("ORDER_SOLICITED", orderSolicited),
  ("LINKING_AUTH", linkingAuth),
  ("PRIMARYEXCH", primaryexch),
  ("RANDOMIZE_SIZE_AND_PRICE", randomizeSizeAndPrice),
  ("FRACTIONAL_POSITIONS", fractionalPositions),
  ("PEGGED_TO_BENCHMARK", peggedToBenchmark),
  ("MODELS_SUPPORT", modelsSupport),
  ("SEC_DEF_OPT_PARAMS_REQ", secDefOptParamsReq),
  ("EXT_OPERATOR", extOperator),
  ("SOFT_DOLLAR_TIER", softDollarTier),
  ("REQ_FAMILY_CODES", reqFamilyCodes),
  ("REQ_MATCHING_SYMBOLS", reqMatchingSymbols),
  ("PAST_LIMIT", pastLimit),
  ("MD_SIZE_MULTIPLIER", mdSizeMultiplier),
  ("CASH_QTY", cashQty),
  ("REQ_MKT_DEPTH_EXCHANGES", reqMktDepthExchanges),
  ("TICK_NEWS", tickNews),
  ("REQ_SMART_COMPONENTS", reqSmartComponents),
  ("REQ_NEWS_PROVIDERS", reqNewsProviders),
  ("REQ_NEWS_ARTICLE", reqNewsArticle),
  ("REQ_HISTORICAL_NEWS", reqHistoricalNews),
  ("REQ_HEAD_TIMESTAMP", reqHeadTimestamp),
  ("REQ_HISTOGRAM", reqHistogram),
  ("SERVICE_DATA_TYPE", serviceDataType),
  ("AGG_GROUP", aggGroup),
  ("UNDERLYING_INFO", underlyingInfo),
  ("CANCEL_HEADTIMESTAMP", cancelHeadtimestamp),
  ("SYNT_REALTIME_BARS", syntRealtimeBars),
  ("CFD_REROUTE", cfdReroute),
  ("MARKET_RULES", marketRules),
  ("PNL", pnl),
  ("NEWS_QUERY_ORIGINS", newsQueryOrigins),
  ("UNREALIZED_PNL", unrealizedPnl),
  ("HISTORICAL_TICKS", historicalTicks),
  ("MARKET_CAP_PRICE", marketCapPrice),
  ("PRE_OPEN_BID_ASK", preOpenBidAsk),
  ("REAL_EXPIRATION_DATE", realExpirationDate),
  ("REALIZED_PNL", realizedPnl),
  ("LAST_LIQUIDITY", lastLiquidity),
  ("TICK_BY_TICK", tickByTick),
  ("DECISION_MAKER", decisionMaker),
  ("MIFID_EXECUTION", mifidExecution),
  ("TICK_BY_TICK_IGNORE_SIZE", tickByTickIgnoreSize),
  ("AUTO_PRICE_FOR_HEDGE", autoPriceForHedge),
  ("WHAT_IF_EXT_FIELDS", whatIfExtFields),
  ("SCANNER_GENERIC_OPTS", scannerGenericOpts),
  ("API_BIND_ORDER", apiBindOrder),
  ("ORDER_CONTAINER", orderContainer),
  ("SMART_DEPTH", smartDepth),
  ("REMOVE_NULL_ALL_CASTING", removeNullAllCasting),
  ("D_PEG_ORDERS", dPegOrders),
  ("MKT_DEPTH_PRIM_EXCHANGE", mktDepthPrimExchange),
  ("COMPLETED_ORDERS", completedOrders),
  ("PRICE_MGMT_ALGO", priceMgmtAlgo),
  ("STOCK_TYPE", stockType),
  ("ENCODE_MSG_ASCII7", encodeMsgAscii7),
  ("SEND_ALL_FAMILY_CODES", sendAllFamilyCodes),
  ("NO_DEFAULT_OPEN_CLOSE", noDefaultOpenClose),
  ("PRICE_BASED_VOLATILITY", priceBasedVolatility),
  ("REPLACE_FA_END", replaceFaEnd),
  ("DURATION", duration),
  ("MARKET_DATA_IN_SHARES", marketDataInShares),
  ("POST_TO_ATS", postToAts),
  ("WSHE_CALENDAR", wsheCalendar)]

end Feature

/-- The newest server version that a client announces; features above it are never negotiated. -/
def mostVersion : Int := Feature.priceMgmtAlgo

end TradeWire
