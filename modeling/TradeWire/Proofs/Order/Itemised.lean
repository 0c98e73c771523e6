import Mathlib.Tactic
import TradeWire.Order.Attributes
import TradeWire.Proofs.Request.Items

/-!
# Orders, item by item

The steps of the request to place an order once more, with each field under the name of what it
tells. Most fields are attributes, and these are found by their names in the records. Without the
names they are the steps that are sent (`map_itemSteps`).
-/

namespace TradeWire

/-! ## Attributes by name -/

def Datum.field (datum : Datum) : Field := datum.scalar?.getD .empty

@[simp]
theorem Datum.field_label (label : Label) : (describe label : Datum).field = label.field := by
  cases label <;> rfl

def Holder.item {α : Type} [Inhabited α] [Holder α] (record : α) (name : String) {value : Datum}
    (_found : (name, value) ∈
      Holder.attributes.map fun a : Attribute α => (a.name, a.get record) := by
        repeat constructor) : Item :=
  (.attribute (Holder.kind α) name, value.field)

open Holder (item)

/-! ## Conditions -/

/-- A condition with the number of its kind. -/
def Condition.items (c : Condition) : List Item :=
  (.conditionKind, c.numberField) ::
    (.attribute c.kind "is_conjunction_connection", .text (if c.conjunction then "a" else "o")) ::
    c.trigger.attributes.map fun (name, value) => (.attribute c.kind name, value.field)

theorem Condition.map_items (c : Condition) : c.items.map Prod.snd = c.numberedFields := by
  have trigger : c.trigger.attributes.map (fun a => a.2.field) = c.trigger.fields := by
    cases c.trigger with
    | unspecified => rfl
    | execution secType exchange symbol =>
      simp only [Trigger.attributes, Trigger.fields, List.map_cons, Datum.field_label, List.map_nil]
    | threshold isMore measure =>
      refine congrArg _ (?_ : measure.attributes.map _ = measure.fields)
      cases measure with
      | contract contractId exchange measure =>
        refine congrArg _ (congrArg₂ _ (Datum.field_label exchange) ?_)
        cases measure <;> rfl
      | time value => exact congrArg (· :: _) (Datum.field_label value)
      | _ => rfl
  rw [numberedFields, fields, ← trigger, items, List.map_cons, List.map_cons, List.map_map]
  rfl

/-! ## Contracts -/

namespace Contract

def itemSteps (c : Contract) : List ItemStep := [
  .since Feature.placeOrderConid [item c "con_id"],
  .always [item c "symbol", item c "sec_type", item c "last_trade_date_or_contract_month",
    item c "strike", item c "right", item c "multiplier", item c "exchange"],
  .always [item c "primary_exchange"],
  .always [item c "currency", item c "local_symbol"],
  .since Feature.tradingClass [item c "trading_class"],
  .since Feature.secIdType [item c "sec_id_type", item c "sec_id"]]

theorem map_itemSteps (c : Contract) : c.itemSteps.map ItemStep.toStep = Order.contractSteps c := by
  simp only [itemSteps, List.map_cons, List.map_nil, ItemStep.toStep, ItemStep.since,
    ItemStep.always, item, Attribute.of, Datum.field_label]
  rfl

def legItemSteps (leg : ComboLeg) : List ItemStep := [
  .always [item leg "con_id", item leg "ratio", item leg "action", item leg "exchange",
    item leg "open_close", item leg "short_sale_slot", item leg "designated_location"],
  .since Feature.sshortxOld [item leg "exempt_code"]]

theorem map_legItemSteps (leg : ComboLeg) :
    (legItemSteps leg).map ItemStep.toStep = orderLegSteps leg := by
  simp only [legItemSteps, List.map_cons, List.map_nil, ItemStep.toStep, ItemStep.since,
    ItemStep.always, item, Attribute.of, Datum.field_label]
  rfl

def neutralItems (c : Contract) : List Item :=
  (.attribute "Contract" "delta_neutral_contract", .flag c.deltaNeutral.isSome) ::
    match c.deltaNeutral with
    | none => []
    | some neutral => [item neutral "con_id", item neutral "delta", item neutral "price"]

theorem map_neutralItems (c : Contract) : c.neutralItems.map Prod.snd = c.neutralFields := by
  rw [neutralItems, neutralFields]
  cases c.deltaNeutral <;> rfl

end Contract

namespace Order

/-! ## Groups that not every order has -/

/-- The legs of a combination with their prices, and how to route them. -/
def comboItemSteps (contract : Contract) (o : Order) : List ItemStep :=
  if contract.isCombo then
    .always [(.count "combo_legs", countField contract.legs)] ::
      contract.legs.flatMap Contract.legItemSteps ++ [
    .since Feature.orderComboLegsPrice ((.count "order_combo_legs", countField o.combo.orderLegs) ::
      o.combo.orderLegs.flatMap fun leg => [item leg "price"]),
    .since Feature.smartComboRoutingParams
      (pairItems "smart_combo_routing_params" o.combo.routingParams)]
  else []

theorem map_comboItemSteps (contract : Contract) (o : Order) :
    (comboItemSteps contract o).map ItemStep.toStep = comboSteps contract o.combo := by
  rw [comboItemSteps, comboSteps]
  split_ifs
  · have legs : (contract.legs.flatMap Contract.legItemSteps).map ItemStep.toStep =
        contract.legs.flatMap Contract.orderLegSteps := by
      rw [List.map_flatMap]
      exact congrArg (List.flatMap · _) (funext Contract.map_legItemSteps)
    have prices : (o.combo.orderLegs.flatMap fun leg => [item leg "price"]).map Prod.snd =
        o.combo.orderLegs.map (·.price.field) := by
      rw [List.map_flatMap, List.map_eq_flatMap]
      rfl
    simp only [List.cons_append, List.map_cons, List.map_append, legs, ItemStep.toStep,
      ItemStep.always, ItemStep.since, prices, map_pairItems]
    rfl
  · rfl

def volatilityItemSteps (o : Order) : List ItemStep := [
  .always [item o "volatility", item o "volatility_type", item o "delta_neutral_order_type",
    item o "delta_neutral_aux_price"],
  .since Feature.deltaNeutralConid <| if o.volatility.isHedged then
    [item o "delta_neutral_con_id", item o "delta_neutral_settling_firm",
      item o "delta_neutral_clearing_account", item o "delta_neutral_clearing_intent"] else [],
  .since Feature.deltaNeutralOpenClose <| if o.volatility.isHedged then
    [item o "delta_neutral_open_close", item o "delta_neutral_short_sale",
      item o "delta_neutral_short_sale_slot", item o "delta_neutral_designated_location"] else [],
  .always [item o "continuous_update", item o "reference_price_type"]]

theorem map_volatilityItemSteps (o : Order) :
    o.volatilityItemSteps.map ItemStep.toStep = o.volatility.steps := by
  unfold volatilityItemSteps Volatility.steps Volatility.hedgeFields
  cases o.volatility.isHedged <;>
  · simp only [List.map_cons, List.map_nil, ItemStep.toStep, ItemStep.since, ItemStep.always, item,
      Attribute.of, Datum.field_label, Bool.false_eq_true, if_true, if_false]
    rfl

def scaleItemSteps (o : Order) : List ItemStep := [
  .since Feature.scaleOrders2 [item o "scale_init_level_size", item o "scale_subs_level_size"],
  .before Feature.scaleOrders2 [(.unused, .text ""), item o "scale_init_level_size"],
  .always [item o "scale_price_increment"],
  .since Feature.scaleOrders3 <| if o.scale.hasIncrement then
    [item o "scale_price_adjust_value", item o "scale_price_adjust_interval",
      item o "scale_profit_offset", item o "scale_auto_reset", item o "scale_init_position",
      item o "scale_init_fill_qty", item o "scale_random_percent"] else [],
  .since Feature.scaleTable [item o "scale_table", item o "active_start_time",
    item o "active_stop_time"]]

theorem map_scaleItemSteps (o : Order) :
    o.scaleItemSteps.map ItemStep.toStep = o.scaleSteps := by
  unfold scaleItemSteps scaleSteps Scale.steps Scale.detailFields
  cases o.scale.hasIncrement <;>
  · simp only [List.map_cons, List.map_nil, ItemStep.toStep, ItemStep.since, ItemStep.always, item,
      Attribute.of, Datum.field_label, Bool.false_eq_true, if_true, if_false]
    rfl

def hedgeItems (o : Order) : List Item :=
  item o "hedge_type" :: if o.hedge.kind.isGiven then [item o "hedge_param"] else []

theorem map_hedgeItems (o : Order) : o.hedgeItems.map Prod.snd = o.hedge.fields := by
  unfold hedgeItems Hedge.fields
  cases o.hedge.kind.isGiven <;>
  · simp only [List.map_cons, item, Attribute.of, Datum.field_label, Bool.false_eq_true, if_true,
      if_false]
    rfl

def algoItems (o : Order) : List Item :=
  item o "algo_strategy" ::
    if o.algo.strategy.isGiven then pairItems "algo_params" o.algo.params else []

theorem map_algoItems (o : Order) : o.algoItems.map Prod.snd = o.algo.fields := by
  unfold algoItems Algo.fields
  cases o.algo.strategy.isGiven <;>
    simp only [List.map_cons, item, Attribute.of, Datum.field_label, Bool.false_eq_true, if_true,
      if_false, map_pairItems, List.map_nil]

def benchmarkItems (o : Order) : List Item :=
  if isPeggedToBenchmark o.terms.orderType then
    [item o "reference_contract_id", item o "is_pegged_change_amount_decrease",
      item o "pegged_change_amount", item o "reference_change_amount",
      item o "reference_exchange_id"]
  else []

theorem map_benchmarkItems (o : Order) :
    o.benchmarkItems.map Prod.snd = o.benchmark.fields o.terms.orderType := by
  unfold benchmarkItems Benchmark.fields
  cases isPeggedToBenchmark o.terms.orderType
  · rfl
  · simp only [List.map_cons, item, Attribute.of, Datum.field_label, if_true]
    rfl

def conditionalItems (o : Order) : List Item :=
  let conditions := o.conditional.conditions.getD []
  (.count "conditions", countField conditions) :: conditions.flatMap Condition.items ++
    if conditions.isEmpty then []
    else [item o "conditions_ignore_rth", item o "conditions_cancel_order"]

theorem map_conditionalItems (o : Order) :
    o.conditionalItems.map Prod.snd = o.conditional.fields := by
  have conditions : ((o.conditional.conditions.getD []).flatMap Condition.items).map Prod.snd =
      (o.conditional.conditions.getD []).flatMap Condition.numberedFields := by
    rw [List.map_flatMap]
    exact congrArg (List.flatMap · _) (funext Condition.map_items)
  unfold conditionalItems Conditional.fields
  simp only [List.cons_append, List.map_cons, List.map_append, conditions]
  cases (o.conditional.conditions.getD []).isEmpty <;> rfl

/-! ## The request -/

def messageVersionItemSteps : List ItemStep := [
  .before Feature.notHeld [(.version, .int 27)],
  .between Feature.notHeld Feature.orderContainer [(.version, .int 45)]]

/-- What is to be traded, and at which price; older servers read other fields for the quantity and
for prices that are not set. -/
def termItemSteps (o : Order) : List ItemStep :=
  let quantity : Place := .attribute "Order" "total_quantity"
  let limitPrice : Place := .attribute "Order" "lmt_price"
  let auxPrice : Place := .attribute "Order" "aux_price"
  let old (price : Number) : Field := if price.isUnset then .int 0 else price.field
  [.always [item o "action"],
    .since Feature.fractionalPositions [(quantity, doubleField o.terms.totalQuantity)],
    .before Feature.fractionalPositions [(quantity, integerField o.terms.totalQuantity)],
    .always [item o "order_type"],
    .before Feature.orderComboLegsPrice [(limitPrice, old o.terms.limitPrice)],
    .since Feature.orderComboLegsPrice [item o "lmt_price"],
    .before Feature.trailingPercent [(auxPrice, old o.terms.auxPrice)],
    .since Feature.trailingPercent [item o "aux_price"]]

def handlingItems (o : Order) : List Item :=
  [item o "tif", item o "oca_group", item o "account", item o "open_close", item o "origin",
    item o "order_ref", item o "transmit", item o "parent_id", item o "block_order",
    item o "sweep_to_fill", item o "display_size", item o "trigger_method", item o "outside_rth",
    item o "hidden"]

def allotmentItemSteps (o : Order) : List ItemStep := [
  .always [(.unused, .text ""), item o "discretionary_amt", item o "good_after_time",
    item o "good_till_date", item o "fa_group", item o "fa_method", item o "fa_percentage",
    item o "fa_profile"],
  .since Feature.modelsSupport [item o "model_code"]]

def restrictionItemSteps (o : Order) : List ItemStep := [
  .always [item o "short_sale_slot", item o "designated_location"],
  .since Feature.sshortxOld [item o "exempt_code"],
  .always [item o "oca_type", item o "rule80a", item o "settling_firm", item o "all_or_none",
    item o "min_qty", item o "percent_offset", item o "e_trade_only", item o "firm_quote_only",
    item o "nbbo_price_cap", item o "auction_strategy", item o "starting_price",
    item o "stock_ref_price", item o "delta", item o "stock_range_lower",
    item o "stock_range_upper", item o "override_percentage_constraints"]]

def trailItemSteps (o : Order) : List ItemStep := [
  .always [item o "trail_stop_price"],
  .since Feature.trailingPercent [item o "trailing_percent"]]

def strategyItemSteps (contract : Contract) (o : Order) : List ItemStep := [
  .since Feature.hedgeOrders o.hedgeItems,
  .since Feature.optOutSmartRouting [item o "opt_out_smart_routing"],
  .since Feature.ptaOrders [item o "clearing_account", item o "clearing_intent"],
  .since Feature.notHeld [item o "not_held"],
  .since Feature.deltaNeutral contract.neutralItems,
  .since Feature.algoOrders o.algoItems,
  .since Feature.algoId [item o "algo_id"],
  .always [item o "what_if"],
  .since Feature.linking [(.attribute "Order" "order_misc_options", joinedField o.miscOptions)],
  .since Feature.orderSolicited [item o "solicited"],
  .since Feature.randomizeSizeAndPrice [item o "randomize_size", item o "randomize_price"]]

def peggedItemSteps (o : Order) : List ItemStep := [
  .since Feature.peggedToBenchmark o.benchmarkItems,
  .since Feature.peggedToBenchmark o.conditionalItems,
  .since Feature.peggedToBenchmark [item o "adjusted_order_type", item o "trigger_price",
    item o "lmt_price_offset", item o "adjusted_stop_price", item o "adjusted_stop_limit_price",
    item o "adjusted_trailing_amount", item o "adjustable_trailing_unit"]]

def laterItemSteps (o : Order) : List ItemStep := [
  .since Feature.extOperator [item o "ext_operator"],
  .since Feature.softDollarTier [item o.softDollarTier "name", item o.softDollarTier "val"],
  .since Feature.cashQty [item o "cash_qty"],
  .since Feature.decisionMaker [item o "mifid2_decision_maker", item o "mifid2_decision_algo"],
  .since Feature.mifidExecution [item o "mifid2_execution_trader", item o "mifid2_execution_algo"],
  .since Feature.autoPriceForHedge [item o "dont_use_auto_price_for_hedge"],
  .since Feature.orderContainer [item o "is_oms_container"],
  .since Feature.dPegOrders [item o "discretionary_up_to_limit_price"],
  .since Feature.priceMgmtAlgo [item o "use_price_mgmt_algo"],
  .since Feature.duration [item o "duration"],
  .since Feature.postToAts [item o "post_to_ats"]]

def itemSteps (id : Int) (contract : Contract) (o : Order) : List ItemStep :=
  messageVersionItemSteps ++ .always [(.orderId, .int id)] :: contract.itemSteps ++
  o.termItemSteps ++ .always o.handlingItems :: comboItemSteps contract o ++
  o.allotmentItemSteps ++ o.restrictionItemSteps ++ o.volatilityItemSteps ++ o.trailItemSteps ++
  o.scaleItemSteps ++ o.strategyItemSteps contract ++ o.peggedItemSteps ++ o.laterItemSteps

/-- Without their names, the items are the fields of the request. -/
theorem map_itemSteps (id : Int) (contract : Contract) (o : Order) :
    (itemSteps id contract o).map ItemStep.toStep = o.steps id contract := by
  have terms : o.termItemSteps.map ItemStep.toStep = o.terms.steps := by
    simp only [termItemSteps, List.map_cons, List.map_nil, ItemStep.toStep, ItemStep.since,
      ItemStep.before, ItemStep.always, item, Attribute.of, Datum.field_label]
    rfl
  have handling : o.handlingItems.map Prod.snd = o.handlingFields := by
    simp only [handlingItems, List.map_cons, List.map_nil, item, Attribute.of, Datum.field_label]
    rfl
  have allotment : o.allotmentItemSteps.map ItemStep.toStep = o.allotmentSteps := by
    simp only [allotmentItemSteps, List.map_cons, List.map_nil, ItemStep.toStep, ItemStep.since,
      ItemStep.always, item, Attribute.of, Datum.field_label]
    rfl
  have restriction : o.restrictionItemSteps.map ItemStep.toStep = o.restrictionSteps := by
    simp only [restrictionItemSteps, List.map_cons, List.map_nil, ItemStep.toStep, ItemStep.since,
      ItemStep.always, item, Attribute.of, Datum.field_label]
    rfl
  have trail : o.trailItemSteps.map ItemStep.toStep = o.trail.steps := rfl
  have strategy :
      (o.strategyItemSteps contract).map ItemStep.toStep = o.strategySteps contract := by
    simp only [strategyItemSteps, List.map_cons, List.map_nil, ItemStep.toStep, ItemStep.since,
      ItemStep.always, item, Attribute.of, Datum.field_label, map_hedgeItems, map_algoItems,
      Contract.map_neutralItems]
    rfl
  have pegged : o.peggedItemSteps.map ItemStep.toStep = o.peggedSteps := by
    simp only [peggedItemSteps, List.map_cons, List.map_nil, ItemStep.toStep, ItemStep.since,
      item, Attribute.of, Datum.field_label, map_benchmarkItems, map_conditionalItems]
    rfl
  have later : o.laterItemSteps.map ItemStep.toStep = o.laterSteps := by
    have management : (describe o.usePriceManagement : Datum).field =
        o.usePriceManagement.elim .empty .flag := by cases o.usePriceManagement <;> rfl
    simp only [laterItemSteps, List.map_cons, List.map_nil, ItemStep.toStep, ItemStep.since,
      item, Attribute.of, Datum.field_label, management]
    rfl
  simp only [itemSteps, List.map_append, List.map_cons, Contract.map_itemSteps, terms,
    map_comboItemSteps, allotment, restriction, map_volatilityItemSteps, trail, map_scaleItemSteps,
    strategy, pegged, later]
  rw [steps, ← handling]
  rfl

end Order

end TradeWire
