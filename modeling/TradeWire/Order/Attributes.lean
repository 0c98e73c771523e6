import TradeWire.Order.Basic

/-!
# Order attributes

The attributes of an order in the order in which they are shown, and the state of an order.
-/

namespace TradeWire

instance : Holder Order where
  kind := "Order"
  attributes := [
    .of "order_id" (·.identity.orderId) fun s v => { s with identity.orderId := v },
    .of "client_id" (·.identity.clientId) fun s v => { s with identity.clientId := v },
    .of "perm_id" (·.identity.permanentId) fun s v => { s with identity.permanentId := v },
    .of "action" (·.terms.action) fun s v => { s with terms.action := v },
    .of "total_quantity" (·.terms.totalQuantity) fun s v => { s with terms.totalQuantity := v },
    .of "order_type" (·.terms.orderType) fun s v => { s with terms.orderType := v },
    .of "lmt_price" (·.terms.limitPrice) fun s v => { s with terms.limitPrice := v },
    .of "aux_price" (·.terms.auxPrice) fun s v => { s with terms.auxPrice := v },
    .of "tif" (·.handling.timeInForce) fun s v => { s with handling.timeInForce := v },
    .of "active_start_time" (·.handling.activeStartTime)
      fun s v => { s with handling.activeStartTime := v },
    .of "active_stop_time" (·.handling.activeStopTime)
      fun s v => { s with handling.activeStopTime := v },
    .of "oca_group" (·.handling.ocaGroup) fun s v => { s with handling.ocaGroup := v },
    .of "oca_type" (·.handling.ocaType) fun s v => { s with handling.ocaType := v },
    .of "order_ref" (·.handling.reference) fun s v => { s with handling.reference := v },
    .of "transmit" (·.handling.transmit) fun s v => { s with handling.transmit := v },
    .of "parent_id" (·.handling.parentId) fun s v => { s with handling.parentId := v },
    .of "block_order" (·.handling.blockOrder) fun s v => { s with handling.blockOrder := v },
    .of "sweep_to_fill" (·.handling.sweepToFill) fun s v => { s with handling.sweepToFill := v },
    .of "display_size" (·.handling.displaySize) fun s v => { s with handling.displaySize := v },
    .of "trigger_method" (·.handling.triggerMethod)
      fun s v => { s with handling.triggerMethod := v },
    .of "outside_rth" (·.handling.outsideRegularHours)
      fun s v => { s with handling.outsideRegularHours := v },
    .of "hidden" (·.handling.hidden) fun s v => { s with handling.hidden := v },
    .of "good_after_time" (·.handling.goodAfterTime)
      fun s v => { s with handling.goodAfterTime := v },
    .of "good_till_date" (·.handling.goodTillDate)
      fun s v => { s with handling.goodTillDate := v },
    .of "rule80a" (·.handling.rule80a) fun s v => { s with handling.rule80a := v },
    .of "all_or_none" (·.handling.allOrNone) fun s v => { s with handling.allOrNone := v },
    .of "min_qty" (·.handling.minQuantity) fun s v => { s with handling.minQuantity := v },
    .of "percent_offset" (·.handling.percentOffset)
      fun s v => { s with handling.percentOffset := v },
    .of "override_percentage_constraints" (·.handling.overridePercentageConstraints)
      fun s v => { s with handling.overridePercentageConstraints := v },
    .of "trail_stop_price" (·.trail.stopPrice) fun s v => { s with trail.stopPrice := v },
    .of "trailing_percent" (·.trail.percent) fun s v => { s with trail.percent := v },
    .of "fa_group" (·.advisor.group) fun s v => { s with advisor.group := v },
    .of "fa_profile" (·.advisor.profile) fun s v => { s with advisor.profile := v },
    .of "fa_method" (·.advisor.method) fun s v => { s with advisor.method := v },
    .of "fa_percentage" (·.advisor.percentage) fun s v => { s with advisor.percentage := v },
    .of "designated_location" (·.institution.designatedLocation)
      fun s v => { s with institution.designatedLocation := v },
    .of "open_close" (·.institution.openClose) fun s v => { s with institution.openClose := v },
    .of "origin" (·.institution.origin) fun s v => { s with institution.origin := v },
    .of "short_sale_slot" (·.institution.shortSaleSlot)
      fun s v => { s with institution.shortSaleSlot := v },
    .of "exempt_code" (·.institution.exemptCode) fun s v => { s with institution.exemptCode := v },
    .of "discretionary_amt" (·.routing.discretionaryAmount)
      fun s v => { s with routing.discretionaryAmount := v },
    .of "e_trade_only" (·.routing.eTradeOnly) fun s v => { s with routing.eTradeOnly := v },
    .of "firm_quote_only" (·.routing.firmQuoteOnly)
      fun s v => { s with routing.firmQuoteOnly := v },
    .of "nbbo_price_cap" (·.routing.nbboPriceCap) fun s v => { s with routing.nbboPriceCap := v },
    .of "opt_out_smart_routing" (·.routing.optOutSmartRouting)
      fun s v => { s with routing.optOutSmartRouting := v },
    .of "auction_strategy" (·.auction.strategy) fun s v => { s with auction.strategy := v },
    .of "starting_price" (·.auction.startingPrice)
      fun s v => { s with auction.startingPrice := v },
    .of "stock_ref_price" (·.auction.stockPrice) fun s v => { s with auction.stockPrice := v },
    .of "delta" (·.auction.delta) fun s v => { s with auction.delta := v },
    .of "stock_range_lower" (·.range.lower) fun s v => { s with range.lower := v },
    .of "stock_range_upper" (·.range.upper) fun s v => { s with range.upper := v },
    .of "randomize_price" (·.range.randomizePrice) fun s v => { s with range.randomizePrice := v },
    .of "randomize_size" (·.range.randomizeSize) fun s v => { s with range.randomizeSize := v },
    .of "volatility" (·.volatility.level) fun s v => { s with volatility.level := v },
    .of "volatility_type" (·.volatility.levelType) fun s v => { s with volatility.levelType := v },
    .of "delta_neutral_order_type" (·.volatility.hedgeOrderType)
      fun s v => { s with volatility.hedgeOrderType := v },
    .of "delta_neutral_aux_price" (·.volatility.hedgeAuxPrice)
      fun s v => { s with volatility.hedgeAuxPrice := v },
    .of "delta_neutral_con_id" (·.volatility.hedgeContractId)
      fun s v => { s with volatility.hedgeContractId := v },
    .of "delta_neutral_settling_firm" (·.volatility.hedgeSettlingFirm)
      fun s v => { s with volatility.hedgeSettlingFirm := v },
    .of "delta_neutral_clearing_account" (·.volatility.hedgeClearingAccount)
      fun s v => { s with volatility.hedgeClearingAccount := v },
    .of "delta_neutral_clearing_intent" (·.volatility.hedgeClearingIntent)
      fun s v => { s with volatility.hedgeClearingIntent := v },
    .of "delta_neutral_open_close" (·.volatility.hedgeOpenClose)
      fun s v => { s with volatility.hedgeOpenClose := v },
    .of "delta_neutral_short_sale" (·.volatility.hedgeShortSale)
      fun s v => { s with volatility.hedgeShortSale := v },
    .of "delta_neutral_short_sale_slot" (·.volatility.hedgeShortSaleSlot)
      fun s v => { s with volatility.hedgeShortSaleSlot := v },
    .of "delta_neutral_designated_location" (·.volatility.hedgeLocation)
      fun s v => { s with volatility.hedgeLocation := v },
    .of "continuous_update" (·.volatility.continuousUpdate)
      fun s v => { s with volatility.continuousUpdate := v },
    .of "reference_price_type" (·.volatility.referencePriceType)
      fun s v => { s with volatility.referencePriceType := v },
    .of "basis_points" (·.combo.basisPoints) fun s v => { s with combo.basisPoints := v },
    .of "basis_points_type" (·.combo.basisPointsType)
      fun s v => { s with combo.basisPointsType := v },
    .of "scale_init_level_size" (·.scale.initialLevelSize)
      fun s v => { s with scale.initialLevelSize := v },
    .of "scale_subs_level_size" (·.scale.subsequentLevelSize)
      fun s v => { s with scale.subsequentLevelSize := v },
    .of "scale_price_increment" (·.scale.priceIncrement)
      fun s v => { s with scale.priceIncrement := v },
    .of "scale_price_adjust_value" (·.scale.priceAdjustValue)
      fun s v => { s with scale.priceAdjustValue := v },
    .of "scale_price_adjust_interval" (·.scale.priceAdjustInterval)
      fun s v => { s with scale.priceAdjustInterval := v },
    .of "scale_profit_offset" (·.scale.profitOffset) fun s v => { s with scale.profitOffset := v },
    .of "scale_auto_reset" (·.scale.autoReset) fun s v => { s with scale.autoReset := v },
    .of "scale_init_position" (·.scale.initialPosition)
      fun s v => { s with scale.initialPosition := v },
    .of "scale_init_fill_qty" (·.scale.initialFillQuantity)
      fun s v => { s with scale.initialFillQuantity := v },
    .of "scale_random_percent" (·.scale.randomPercent)
      fun s v => { s with scale.randomPercent := v },
    .of "scale_table" (·.scale.table) fun s v => { s with scale.table := v },
    .of "hedge_type" (·.hedge.kind) fun s v => { s with hedge.kind := v },
    .of "hedge_param" (·.hedge.param) fun s v => { s with hedge.param := v },
    .of "account" (·.clearing.account) fun s v => { s with clearing.account := v },
    .of "settling_firm" (·.clearing.settlingFirm) fun s v => { s with clearing.settlingFirm := v },
    .of "clearing_account" (·.clearing.clearingAccount)
      fun s v => { s with clearing.clearingAccount := v },
    .of "clearing_intent" (·.clearing.clearingIntent)
      fun s v => { s with clearing.clearingIntent := v },
    .of "algo_strategy" (·.algo.strategy) fun s v => { s with algo.strategy := v },
    .of "algo_params" (·.algo.params) fun s v => { s with algo.params := v },
    .of "smart_combo_routing_params" (·.combo.routingParams)
      fun s v => { s with combo.routingParams := v },
    .of "algo_id" (·.algo.algoId) fun s v => { s with algo.algoId := v },
    .of "what_if" (·.whatIf) fun s v => { s with whatIf := v },
    .of "not_held" (·.notHeld) fun s v => { s with notHeld := v },
    .of "solicited" (·.solicited) fun s v => { s with solicited := v },
    .of "model_code" (·.modelCode) fun s v => { s with modelCode := v },
    .of "order_combo_legs" (·.combo.legs) fun s v => { s with combo.legs := v },
    .of "order_misc_options" (·.miscOptions) fun s v => { s with miscOptions := v },
    .of "reference_contract_id" (·.benchmark.referenceContractId)
      fun s v => { s with benchmark.referenceContractId := v },
    .of "pegged_change_amount" (·.benchmark.peggedChangeAmount)
      fun s v => { s with benchmark.peggedChangeAmount := v },
    .of "is_pegged_change_amount_decrease" (·.benchmark.isDecrease)
      fun s v => { s with benchmark.isDecrease := v },
    .of "reference_change_amount" (·.benchmark.referenceChangeAmount)
      fun s v => { s with benchmark.referenceChangeAmount := v },
    .of "reference_exchange_id" (·.benchmark.referenceExchange)
      fun s v => { s with benchmark.referenceExchange := v },
    .of "adjusted_order_type" (·.adjustment.orderType)
      fun s v => { s with adjustment.orderType := v },
    .of "trigger_price" (·.adjustment.triggerPrice)
      fun s v => { s with adjustment.triggerPrice := v },
    .of "adjusted_stop_price" (·.adjustment.stopPrice)
      fun s v => { s with adjustment.stopPrice := v },
    .of "adjusted_stop_limit_price" (·.adjustment.stopLimitPrice)
      fun s v => { s with adjustment.stopLimitPrice := v },
    .of "adjusted_trailing_amount" (·.adjustment.trailingAmount)
      fun s v => { s with adjustment.trailingAmount := v },
    .of "adjustable_trailing_unit" (·.adjustment.trailingUnit)
      fun s v => { s with adjustment.trailingUnit := v },
    .of "lmt_price_offset" (·.adjustment.limitPriceOffset)
      fun s v => { s with adjustment.limitPriceOffset := v },
    .of "conditions" (·.conditional.conditions) fun s v => { s with conditional.conditions := v },
    .of "conditions_cancel_order" (·.conditional.cancelOrder)
      fun s v => { s with conditional.cancelOrder := v },
    .of "conditions_ignore_rth" (·.conditional.ignoreRegularHours)
      fun s v => { s with conditional.ignoreRegularHours := v },
    .of "ext_operator" (·.externalOperator) fun s v => { s with externalOperator := v },
    .of "soft_dollar_tier" (·.softDollarTier) fun s v => { s with softDollarTier := v },
    .of "cash_qty" (·.cashQuantity) fun s v => { s with cashQuantity := v },
    .of "mifid2_decision_maker" (·.mifid.decisionMaker)
      fun s v => { s with mifid.decisionMaker := v },
    .of "mifid2_decision_algo" (·.mifid.decisionAlgo)
      fun s v => { s with mifid.decisionAlgo := v },
    .of "mifid2_execution_trader" (·.mifid.executionTrader)
      fun s v => { s with mifid.executionTrader := v },
    .of "mifid2_execution_algo" (·.mifid.executionAlgo)
      fun s v => { s with mifid.executionAlgo := v },
    .of "dont_use_auto_price_for_hedge" (·.noAutoPriceForHedge)
      fun s v => { s with noAutoPriceForHedge := v },
    .of "is_oms_container" (·.isOmsContainer) fun s v => { s with isOmsContainer := v },
    .of "discretionary_up_to_limit_price" (·.discretionaryUpToLimitPrice)
      fun s v => { s with discretionaryUpToLimitPrice := v },
    .of "auto_cancel_date" (·.completion.autoCancelDate)
      fun s v => { s with completion.autoCancelDate := v },
    .of "filled_quantity" (·.completion.filledQuantity)
      fun s v => { s with completion.filledQuantity := v },
    .of "ref_futures_con_id" (·.completion.futuresContractId)
      fun s v => { s with completion.futuresContractId := v },
    .of "auto_cancel_parent" (·.completion.autoCancelParent)
      fun s v => { s with completion.autoCancelParent := v },
    .of "shareholder" (·.completion.shareholder) fun s v => { s with completion.shareholder := v },
    .of "imbalance_only" (·.completion.imbalanceOnly)
      fun s v => { s with completion.imbalanceOnly := v },
    .of "route_marketable_to_bbo" (·.completion.routeMarketableToBbo)
      fun s v => { s with completion.routeMarketableToBbo := v },
    .of "parent_perm_id" (·.completion.parentPermanentId)
      fun s v => { s with completion.parentPermanentId := v },
    .of "use_price_mgmt_algo" (·.usePriceManagement) fun s v => { s with usePriceManagement := v },
    .of "duration" (·.duration) fun s v => { s with duration := v },
    .of "post_to_ats" (·.postToAts) fun s v => { s with postToAts := v }]

/-- Margins and commissions that come with an open order, and how a completed one ended. -/
structure OrderState where
  status : Label := Label.blank
  initMarginBefore : Label := Label.blank
  maintMarginBefore : Label := Label.blank
  equityWithLoanBefore : Label := Label.blank
  initMarginChange : Label := Label.blank
  maintMarginChange : Label := Label.blank
  equityWithLoanChange : Label := Label.blank
  initMarginAfter : Label := Label.blank
  maintMarginAfter : Label := Label.blank
  equityWithLoanAfter : Label := Label.blank
  commission : Number := Number.unset
  minCommission : Number := Number.unset
  maxCommission : Number := Number.unset
  commissionCurrency : Label := Label.blank
  warningText : Label := Label.blank
  completedTime : Label := Label.blank
  completedStatus : Label := Label.blank

instance : Inhabited OrderState := ⟨{}⟩

instance : Holder OrderState where
  kind := "OrderState"
  attributes := [
    .of "status" (·.status) fun s v => { s with status := v },
    .of "init_margin_before" (·.initMarginBefore) fun s v => { s with initMarginBefore := v },
    .of "maint_margin_before" (·.maintMarginBefore) fun s v => { s with maintMarginBefore := v },
    .of "equity_with_loan_before" (·.equityWithLoanBefore)
      fun s v => { s with equityWithLoanBefore := v },
    .of "init_margin_change" (·.initMarginChange) fun s v => { s with initMarginChange := v },
    .of "maint_margin_change" (·.maintMarginChange) fun s v => { s with maintMarginChange := v },
    .of "equity_with_loan_change" (·.equityWithLoanChange)
      fun s v => { s with equityWithLoanChange := v },
    .of "init_margin_after" (·.initMarginAfter) fun s v => { s with initMarginAfter := v },
    .of "maint_margin_after" (·.maintMarginAfter) fun s v => { s with maintMarginAfter := v },
    .of "equity_with_loan_after" (·.equityWithLoanAfter)
      fun s v => { s with equityWithLoanAfter := v },
    .of "commission" (·.commission) fun s v => { s with commission := v },
    .of "min_commission" (·.minCommission) fun s v => { s with minCommission := v },
    .of "max_commission" (·.maxCommission) fun s v => { s with maxCommission := v },
    .of "commission_currency" (·.commissionCurrency) fun s v => { s with commissionCurrency := v },
    .of "warning_text" (·.warningText) fun s v => { s with warningText := v },
    .of "completed_time" (·.completedTime) fun s v => { s with completedTime := v },
    .of "completed_status" (·.completedStatus) fun s v => { s with completedStatus := v }]

end TradeWire
