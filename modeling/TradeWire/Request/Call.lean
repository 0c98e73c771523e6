import TradeWire.Catalog.Tick
import TradeWire.Order.Attributes
import TradeWire.Record.Call
import TradeWire.Request.Basic

/-!
# Requests by name

The table of calls lists the parameters of every request in their order.
-/

namespace TradeWire

namespace Call

/-- A list of options, which is none unless it is given. -/
def options (name : String) : Call (Option (List TagValue)) := getD name none

def reqId : Call Int := need "req_id"

def contract : Call Contract := need "contract"

def flag (name : String) : Call Bool := need name

def int (name : String) : Call Int := need name

def number (name : String) : Call Number := need name

def label (name : String) : Call Label := need name

/-- A kind of tick-by-tick data, by its text or as a member of the enumeration. -/
def tickKind (name : String) : Call Label := do
  match ← next? name with
  | some (.member "TickByTickType" _ (.text kind)) => return some kind
  | some value => (recognise value : Option Label)
  | none => failure

end Call

namespace Request

open Call

/-- Calls about market data, options and market depth. -/
def marketCalls : List (String × Call Request) := [
  ("req_mkt_data",
    marketData <$> reqId <*> contract <*> getD "generic_tick_list" Label.blank <*>
      getD "snapshot" false <*> getD "regulatory_snapshot" false <*> options "mkt_data_options"),
  ("cancel_mkt_data", cancelMarketData <$> reqId),
  ("req_market_data_type", marketDataType <$> int "market_data_type"),
  ("req_smart_components", smartComponents <$> reqId <*> label "bbo_exchange"),
  ("req_market_rule", marketRule <$> int "market_rule_id"),
  ("req_tick_by_tick_data",
    tickByTick <$> reqId <*> contract <*> tickKind "tick_type" <*> getD "number_of_ticks" 0 <*>
      getD "ignore_size" false),
  ("cancel_tick_by_tick_data", cancelTickByTick <$> reqId),
  ("calculate_implied_volatility",
    impliedVolatility <$> reqId <*> contract <*> number "option_price" <*> number "under_price" <*>
      options "options"),
  ("calculate_option_price",
    optionPrice <$> reqId <*> contract <*> number "volatility" <*> number "under_price" <*>
      options "options"),
  ("cancel_calculate_implied_volatility", cancelImpliedVolatility <$> reqId),
  ("cancel_calculate_option_price", cancelOptionPrice <$> reqId),
  ("exercise_options",
    exerciseOptions <$> reqId <*> contract <*> int "exercise_action" <*> int "exercise_quantity" <*>
      label "account" <*> int "override"),
  ("req_mkt_depth_exchanges", pure depthExchanges),
  ("req_mkt_depth",
    marketDepth <$> reqId <*> contract <*> int "num_rows" <*> getD "is_smart_depth" false <*>
      options "mkt_depth_options"),
  ("cancel_mkt_depth", cancelMarketDepth <$> reqId <*> getD "is_smart_depth" false),
  ("req_real_time_bars",
    realTimeBars <$> reqId <*> contract <*> int "bar_size" <*> label "what_to_show" <*>
      flag "use_rth" <*> options "real_time_bars_options"),
  ("cancel_real_time_bars", cancelRealTimeBars <$> reqId)]

/-- Calls about orders. -/
def orderCalls : List (String × Call Request) := [
  ("place_order", placeOrder <$> int "order_id" <*> contract <*> need "order"),
  ("cancel_order", cancelOrder <$> int "order_id"),
  ("req_global_cancel", pure cancelAll),
  ("req_open_orders", pure openOrders),
  ("req_auto_open_orders", bindOpenOrders <$> flag "auto_bind"),
  ("req_all_open_orders", pure allOpenOrders),
  ("req_ids", orderIds <$> getD "num_ids" 1),
  ("req_completed_orders", completedOrders <$> flag "api_only")]

/-- Calls about accounts. -/
def accountCalls : List (String × Call Request) := [
  ("req_account_updates", accountUpdates <$> flag "subscribe" <*> label "acct_code"),
  ("req_account_summary", accountSummary <$> reqId <*> label "group_name" <*> label "tags"),
  ("cancel_account_summary", cancelAccountSummary <$> reqId),
  ("req_account_updates_multi",
    accountUpdatesMulti <$> reqId <*> label "account" <*> label "model_code" <*>
      flag "ledger_and_nlv"),
  ("cancel_account_updates_multi", cancelAccountUpdatesMulti <$> reqId),
  ("req_positions", pure positions),
  ("cancel_positions", pure cancelPositions),
  ("req_positions_multi", positionsMulti <$> reqId <*> label "account" <*> label "model_code"),
  ("cancel_positions_multi", cancelPositionsMulti <$> reqId),
  ("req_pnl", pnl <$> reqId <*> label "account" <*> label "model_code"),
  ("cancel_pnl", cancelPnl <$> reqId),
  ("req_pnl_single",
    pnlSingle <$> reqId <*> label "account" <*> label "model_code" <*> int "con_id"),
  ("cancel_pnl_single", cancelPnlSingle <$> reqId),
  ("req_executions", executions <$> reqId <*> need "exec_filter"),
  ("req_managed_accts", pure managedAccounts),
  ("request_fa", advisorData <$> int "fa_data"),
  ("replace_fa", replaceAdvisorData <$> reqId <*> int "fa_data" <*> label "cxml")]

/-- Calls about reference data. -/
def referenceCalls : List (String × Call Request) := [
  ("req_contract_details", contractDetails <$> reqId <*> contract),
  ("req_matching_symbols", matchingSymbols <$> reqId <*> label "pattern"),
  ("req_sec_def_opt_params",
    optionParameters <$> reqId <*> label "underlying_symbol" <*> label "fut_fop_exchange" <*>
      label "underlying_sec_type" <*> int "underlying_con_id"),
  ("req_family_codes", pure familyCodes),
  ("req_soft_dollar_tiers", softDollarTiers <$> reqId),
  ("req_scanner_parameters", pure scannerParameters),
  ("req_scanner_subscription",
    scannerSubscription <$> reqId <*> need "subscription" <*>
      options "scanner_subscription_options" <*> options "scanner_subscription_filter_options"),
  ("cancel_scanner_subscription", cancelScanner <$> reqId),
  ("req_fundamental_data",
    fundamentalData <$> reqId <*> contract <*> label "report_type" <*>
      options "fundamental_data_options"),
  ("cancel_fundamental_data", cancelFundamentalData <$> reqId),
  ("req_news_bulletins", newsBulletins <$> flag "all_msgs"),
  ("cancel_news_bulletins", pure cancelNewsBulletins),
  ("req_news_providers", pure newsProviders),
  ("req_news_article",
    newsArticle <$> reqId <*> label "provider_code" <*> label "article_id" <*>
      options "news_article_options"),
  ("req_historical_news",
    historicalNews <$> reqId <*> int "con_id" <*> label "provider_codes" <*>
      label "start_date_time" <*> label "end_date_time" <*> int "total_results" <*>
      options "historical_news_options")]

/-- Calls about historical data. -/
def historyCalls : List (String × Call Request) := [
  ("req_historical_data",
    historicalData <$> reqId <*> contract <*> (Plan.BarQuery.mk <$> label "end_date_time" <*>
      label "duration_str" <*> label "bar_size_setting" <*> label "what_to_show" <*>
      int "use_rth" <*> int "format_date" <*> getD "keep_up_to_date" false <*>
      options "chart_options")),
  ("cancel_historical_data", cancelHistoricalData <$> reqId),
  ("req_head_time_stamp",
    headTimestamp <$> reqId <*> contract <*> label "what_to_show" <*> int "use_rth" <*>
      int "format_date"),
  ("cancel_head_time_stamp", cancelHeadTimestamp <$> reqId),
  ("req_histogram_data",
    histogram <$> reqId <*> contract <*> flag "use_rth" <*> label "time_period"),
  ("cancel_histogram_data", cancelHistogram <$> reqId),
  ("req_historical_ticks",
    historicalTicks <$> reqId <*> contract <*> (Plan.TickQuery.mk <$> label "start_date_time" <*>
      label "end_date_time" <*> int "number_of_ticks" <*> label "what_to_show" <*> int "use_rth" <*>
      flag "ignore_size" <*> options "misc_options"))]

/-- Calls about the service itself. -/
def serviceCalls : List (String × Call Request) := [
  ("query_display_groups", displayGroups <$> reqId),
  ("subscribe_to_group_events", subscribeGroup <$> reqId <*> int "group_id"),
  ("update_display_group", updateGroup <$> reqId <*> label "contract_info"),
  ("unsubscribe_from_group_events", unsubscribeGroup <$> reqId),
  ("verify_request", verify <$> label "api_name" <*> label "api_version"),
  ("verify_message", verifyMessage <$> label "api_data"),
  ("verify_and_auth_request",
    authenticate <$> label "api_name" <*> label "api_version" <*> label "opaque_isv_key"),
  ("verify_and_auth_message", authenticateMessage <$> label "api_data" <*> label "xyz_response"),
  ("req_current_time", pure currentTime),
  ("set_server_log_level", logLevel <$> int "log_level")]

/-- All calls by name. -/
def calls : List (String × Call Request) :=
  marketCalls ++ orderCalls ++ accountCalls ++ referenceCalls ++ historyCalls ++ serviceCalls

/-- The request that a call makes. -/
def ofCall? (name : String) (arguments : Arguments) : Option Request := do
  (← calls.lookup name).result? arguments

end Request

end TradeWire
