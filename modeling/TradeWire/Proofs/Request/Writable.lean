import TradeWire.Proofs.Decimal.Rounding
import TradeWire.Proofs.Order.Newer
import TradeWire.Proofs.Request.Outcome

/-!
# Requests that can be written

What a request writes are its arguments, the attributes of records among them, the lengths of lists
and a few small numbers. So all of its fields can be written, whatever the version of the server,
if no integer among its arguments has more than 4300 digits (`isWritable_plan`).
-/

namespace TradeWire

/-! ## Arguments -/

section

@[simp]
theorem isShort_int {n : Int} : (describe n : Datum).IsShort ↔ (Field.int n).IsWritable :=
  isWritable_iff_isShort.symm

@[simp]
theorem isShort_number {n : Number} : (describe n : Datum).IsShort ↔ n.field.IsWritable :=
  isWritable_iff_isShort.symm

theorem isWritable_countField {α : Type} [Described α] {items : Option (List α)}
    (short : (describe items : Datum).IsShort) : (countField (items.getD [])).IsWritable := by
  cases items with
  | none =>
    show (Field.int 0).IsWritable
    exact ⟨_, rfl⟩
  | some items =>
    replace short : (Datum.list (items.map describe)).IsShort := short
    have length := short.length
    rw [List.length_map] at length
    exact isWritable_of_isShort length

theorem isShort_item {α : Type} [Described α] {items : Option (List α)}
    (short : (describe items : Datum).IsShort) {item : α} (member : item ∈ items.getD []) :
    (describe item : Datum).IsShort := by
  cases items with
  | none => cases member
  | some items =>
    replace short : (Datum.list (items.map describe)).IsShort := short
    exact short.of_mem_list (List.mem_map_of_mem member)

theorem isWritable_literal {n : Int} (few : (Nat.toDigits 10 n.natAbs).length ≤ 4300) :
    (Field.int n).IsWritable := isWritable_int_iff.mpr few

end

/-! ## Contracts -/

namespace Contract

theorem isWritable_legFields {leg : ComboLeg} (short : (describe leg : Datum).IsShort) :
    ∀ field ∈ legFields leg, field.IsWritable := by
  have id : (Field.int leg.contractId).IsWritable :=
    isWritable_attribute short (by repeat constructor)
  have ratio : (Field.int leg.ratio).IsWritable :=
    isWritable_attribute short (by repeat constructor)
  simp [legFields, id, ratio]

theorem allWritable_orderLegSteps {leg : ComboLeg} (short : (describe leg : Datum).IsShort) :
    Step.AllWritable (orderLegSteps leg) := by
  have id : (Field.int leg.contractId).IsWritable :=
    isWritable_attribute short (by repeat constructor)
  have ratio : (Field.int leg.ratio).IsWritable :=
    isWritable_attribute short (by repeat constructor)
  have openClose : (Field.int leg.openClose).IsWritable :=
    isWritable_attribute short (by repeat constructor)
  have slot : (Field.int leg.shortSaleSlot).IsWritable :=
    isWritable_attribute short (by repeat constructor)
  have exemptCode : (Field.int leg.exemptCode).IsWritable :=
    isWritable_attribute short (by repeat constructor)
  simp [orderLegSteps, Step.always, Step.since, id, ratio, openClose, slot, exemptCode]

variable {c : Contract} (short : (describe c : Datum).IsShort)
include short

theorem allWritable_steps (contractId primaryExchange tradingClass : Span) :
    Step.AllWritable (c.steps contractId primaryExchange tradingClass) := by
  have id : (Field.int c.contractId).IsWritable :=
    isWritable_attribute short (by repeat constructor)
  have strike : c.strike.field.IsWritable := isWritable_attribute short (by repeat constructor)
  simp [steps, Step.always, id, strike]

theorem allWritable_among {contractId primaryExchange tradingClass : Span} {first : Step}
    {others : List Step} (writable : ∀ field ∈ first.fields, field.IsWritable)
    (after : Step.AllWritable others) :
    Step.AllWritable (first :: c.steps contractId primaryExchange tradingClass ++ others) :=
  Step.allWritable_append.mpr
    ⟨Step.allWritable_cons.mpr ⟨writable, allWritable_steps short _ _ _⟩, after⟩

theorem isShort_comboLegs : (describe c.comboLegs : Datum).IsShort := by
  refine short.of_mem_record (?_ : ("combo_legs", _) ∈ _)
  repeat constructor

theorem allWritable_legSteps : Step.AllWritable c.legSteps := by
  have legs := isShort_comboLegs short
  unfold legSteps
  split_ifs
  · refine List.forall_mem_singleton.mpr (List.forall_mem_cons.mpr
      ⟨isWritable_countField legs, fun field written => ?_⟩)
    obtain ⟨leg, member, written⟩ := List.mem_flatMap.mp written
    exact isWritable_legFields (isShort_item legs member) field written
  · exact nofun

theorem isWritable_neutralFields : ∀ field ∈ c.neutralFields, field.IsWritable := by
  have neutral : (describe c.deltaNeutral : Datum).IsShort := by
    refine short.of_mem_record (?_ : ("delta_neutral_contract", _) ∈ _)
    repeat constructor
  unfold neutralFields
  cases given : c.deltaNeutral with
  | none => simp
  | some other =>
    rw [given] at neutral
    replace neutral : (describe other : Datum).IsShort := neutral
    have id : (Field.int other.contractId).IsWritable :=
      isWritable_attribute neutral (by repeat constructor)
    have delta : other.delta.field.IsWritable :=
      isWritable_attribute neutral (by repeat constructor)
    have price : other.price.field.IsWritable :=
      isWritable_attribute neutral (by repeat constructor)
    simp [id, delta, price]

end Contract

/-! ## Orders -/

namespace Order

theorem isWritable_doubleField (quantity : Number) : (doubleField quantity).IsWritable := by
  unfold doubleField
  cases quantity.toDouble <;> exact ⟨_, rfl⟩

theorem isWritable_integerField {quantity : Number} (writable : quantity.field.IsWritable) :
    (integerField quantity).IsWritable := by
  unfold integerField
  cases whole : quantity.truncate with
  | error error => exact ⟨_, rfl⟩
  | ok n =>
    cases quantity with
    | int m =>
      cases whole
      exact writable
    | real x =>
      exact isWritable_int_iff.mpr (Double.length_toDigits_truncate_le whole (by decide))

theorem isWritable_countedPairs {pairs : Option (List TagValue)}
    (short : (describe pairs : Datum).IsShort) :
    ∀ field ∈ countedPairs pairs, field.IsWritable := by
  refine List.forall_mem_cons.mpr ⟨isWritable_countField short, fun field member => ?_⟩
  obtain ⟨pair, -, member⟩ := List.mem_flatMap.mp member
  have both : ∀ field ∈ pair.pairFields, field.IsWritable := by simp [TagValue.pairFields]
  exact both field member

section

variable {o : Order} (short : (describe o : Datum).IsShort)
include short

theorem allWritable_terms : Step.AllWritable o.terms.steps := by
  have quantity : o.terms.totalQuantity.field.IsWritable :=
    isWritable_attribute short (by repeat constructor)
  have limit : o.terms.limitPrice.field.IsWritable :=
    isWritable_attribute short (by repeat constructor)
  have aux : o.terms.auxPrice.field.IsWritable := isWritable_attribute short (by repeat constructor)
  have zero : (Field.int 0).IsWritable := ⟨_, rfl⟩
  have orZero (price : Number) (writable : price.field.IsWritable) :
      (if price.isUnset = true then Field.int 0 else price.field).IsWritable := by
    split_ifs
    · exact zero
    · exact writable
  simp [Terms.steps, quantitySteps, priceSteps, Step.always, Step.since, Step.before,
    isWritable_doubleField, isWritable_integerField quantity, limit, aux, orZero _ limit,
    orZero _ aux]

theorem isWritable_handlingFields : ∀ field ∈ o.handlingFields, field.IsWritable := by
  have origin : (Field.int o.institution.origin).IsWritable :=
    isWritable_attribute short (by repeat constructor)
  have parentId : (Field.int o.handling.parentId).IsWritable :=
    isWritable_attribute short (by repeat constructor)
  have displaySize : (Field.int o.handling.displaySize).IsWritable :=
    isWritable_attribute short (by repeat constructor)
  have triggerMethod : (Field.int o.handling.triggerMethod).IsWritable :=
    isWritable_attribute short (by repeat constructor)
  simp [handlingFields, origin, parentId, displaySize, triggerMethod]

theorem allWritable_allotmentSteps : Step.AllWritable o.allotmentSteps := by
  have amount : o.routing.discretionaryAmount.field.IsWritable :=
    isWritable_attribute short (by repeat constructor)
  simp [allotmentSteps, Step.always, Step.since, amount]

theorem allWritable_restrictionSteps : Step.AllWritable o.restrictionSteps := by
  have slot : (Field.int o.institution.shortSaleSlot).IsWritable :=
    isWritable_attribute short (by repeat constructor)
  have exemptCode : (Field.int o.institution.exemptCode).IsWritable :=
    isWritable_attribute short (by repeat constructor)
  have ocaType : (Field.int o.handling.ocaType).IsWritable :=
    isWritable_attribute short (by repeat constructor)
  have minQuantity : (Field.int o.handling.minQuantity).IsWritable :=
    isWritable_attribute short (by repeat constructor)
  have offset : o.handling.percentOffset.field.IsWritable :=
    isWritable_attribute short (by repeat constructor)
  have cap : o.routing.nbboPriceCap.field.IsWritable :=
    isWritable_attribute short (by repeat constructor)
  have strategy : (Field.int o.auction.strategy).IsWritable :=
    isWritable_attribute short (by repeat constructor)
  have starting : o.auction.startingPrice.field.IsWritable :=
    isWritable_attribute short (by repeat constructor)
  have stock : o.auction.stockPrice.field.IsWritable :=
    isWritable_attribute short (by repeat constructor)
  have delta : o.auction.delta.field.IsWritable :=
    isWritable_attribute short (by repeat constructor)
  have lower : o.range.lower.field.IsWritable := isWritable_attribute short (by repeat constructor)
  have upper : o.range.upper.field.IsWritable := isWritable_attribute short (by repeat constructor)
  simp [restrictionSteps, Step.always, Step.since, slot, exemptCode, ocaType, minQuantity, offset,
    cap, strategy, starting, stock, delta, lower, upper]

theorem allWritable_volatility : Step.AllWritable o.volatility.steps := by
  have level : o.volatility.level.field.IsWritable :=
    isWritable_attribute short (by repeat constructor)
  have levelType : (Field.int o.volatility.levelType).IsWritable :=
    isWritable_attribute short (by repeat constructor)
  have auxPrice : o.volatility.hedgeAuxPrice.field.IsWritable :=
    isWritable_attribute short (by repeat constructor)
  have contractId : (Field.int o.volatility.hedgeContractId).IsWritable :=
    isWritable_attribute short (by repeat constructor)
  have slot : (Field.int o.volatility.hedgeShortSaleSlot).IsWritable :=
    isWritable_attribute short (by repeat constructor)
  have reference : (Field.int o.volatility.referencePriceType).IsWritable :=
    isWritable_attribute short (by repeat constructor)
  simp only [Volatility.steps, Volatility.hedgeFields]
  split_ifs <;>
    simp [Step.always, Step.since, level, levelType, auxPrice, contractId, slot, reference]

theorem allWritable_trail : Step.AllWritable o.trail.steps := by
  have stop : o.trail.stopPrice.field.IsWritable :=
    isWritable_attribute short (by repeat constructor)
  have percent : o.trail.percent.field.IsWritable :=
    isWritable_attribute short (by repeat constructor)
  simp [Trail.steps, Step.always, Step.since, stop, percent]

theorem allWritable_scaleSteps : Step.AllWritable o.scaleSteps := by
  have initial : o.scale.initialLevelSize.IsWritable :=
    isWritable_attribute short (by repeat constructor)
  have subsequent : o.scale.subsequentLevelSize.IsWritable :=
    isWritable_attribute short (by repeat constructor)
  have increment : o.scale.priceIncrement.IsWritable :=
    isWritable_attribute short (by repeat constructor)
  have adjustValue : o.scale.priceAdjustValue.IsWritable :=
    isWritable_attribute short (by repeat constructor)
  have adjustInterval : o.scale.priceAdjustInterval.IsWritable :=
    isWritable_attribute short (by repeat constructor)
  have profit : o.scale.profitOffset.IsWritable :=
    isWritable_attribute short (by repeat constructor)
  have reset : o.scale.autoReset.IsWritable := isWritable_attribute short (by repeat constructor)
  have position : o.scale.initialPosition.IsWritable :=
    isWritable_attribute short (by repeat constructor)
  have fill : o.scale.initialFillQuantity.IsWritable :=
    isWritable_attribute short (by repeat constructor)
  have random : o.scale.randomPercent.IsWritable :=
    isWritable_attribute short (by repeat constructor)
  simp only [scaleSteps, Scale.steps, Scale.detailFields]
  split_ifs <;>
    simp [Step.always, Step.since, Step.before, initial, subsequent, increment, adjustValue,
      adjustInterval, profit, reset, position, fill, random]

section

variable {c : Contract} (contract_short : (describe c : Datum).IsShort)
include contract_short

theorem allWritable_comboSteps : Step.AllWritable (comboSteps c o.combo) := by
  have legs := Contract.isShort_comboLegs contract_short
  have count : (countField c.legs).IsWritable := isWritable_countField legs
  have prices : (describe o.combo.legs : Datum).IsShort := by
    refine short.of_mem_record (?_ : ("order_combo_legs", _) ∈ _)
    repeat constructor
  have price (leg : OrderLeg) (member : leg ∈ o.combo.orderLegs) : leg.price.field.IsWritable :=
    isWritable_attribute (isShort_item prices member) (by repeat constructor)
  have params : (describe o.combo.routingParams : Datum).IsShort := by
    refine short.of_mem_record (?_ : ("smart_combo_routing_params", _) ∈ _)
    repeat constructor
  unfold comboSteps
  split_ifs
  · refine Step.allWritable_append.mpr ⟨Step.allWritable_cons.mpr ⟨?_, ?_⟩, ?_⟩
    · exact List.forall_mem_singleton.mpr count
    · intro step written
      obtain ⟨leg, member, written⟩ := List.mem_flatMap.mp written
      exact Contract.allWritable_orderLegSteps (isShort_item legs member) step written
    · refine Step.allWritable_cons.mpr ⟨List.forall_mem_cons.mpr
        ⟨isWritable_countField prices, List.forall_mem_map.mpr price⟩,
        Step.allWritable_cons.mpr ⟨isWritable_countedPairs params, Step.allWritable_nil⟩⟩
  · exact Step.allWritable_nil

theorem allWritable_strategySteps : Step.AllWritable (o.strategySteps c) := by
  have params : (describe o.algo.params : Datum).IsShort := by
    refine short.of_mem_record (?_ : ("algo_params", _) ∈ _)
    repeat constructor
  have hedge : ∀ field ∈ o.hedge.fields, field.IsWritable := by
    unfold Hedge.fields
    split_ifs <;> simp
  have algo : ∀ field ∈ o.algo.fields, field.IsWritable := by
    refine List.forall_mem_cons.mpr ⟨isWritable_label _, ?_⟩
    split_ifs
    · exact isWritable_countedPairs params
    · exact nofun
  have neutral := Contract.isWritable_neutralFields contract_short
  simpa [strategySteps, Step.always, Step.since] using ⟨hedge, neutral, algo⟩

theorem allWritable_steps {id : Int} (writable : (Field.int id).IsWritable) :
    Step.AllWritable (o.steps id c) := by
  have version : Step.AllWritable messageVersion := by
    simp (disch := decide) [messageVersion, Step.before, Step.between, isWritable_literal]
  have contract : Step.AllWritable (contractSteps c) :=
    Step.allWritable_append.mpr
      ⟨Contract.allWritable_steps contract_short _ _ _, by simp [Step.since]⟩
  simp only [steps, Step.allWritable_append, Step.allWritable_cons, and_assoc]
  exact ⟨version, List.forall_mem_singleton.mpr writable, contract, allWritable_terms short,
    isWritable_handlingFields short, allWritable_comboSteps short contract_short,
    allWritable_allotmentSteps short, allWritable_restrictionSteps short,
    allWritable_volatility short, allWritable_trail short, allWritable_scaleSteps short,
    allWritable_strategySteps short contract_short, allWritable_peggedSteps short,
    allWritable_laterSteps short⟩

end

end

end Order

/-! ## Requests -/

namespace Request

theorem allWritable_contractDetails {id : Int} {c : Contract} (short : (describe c : Datum).IsShort)
    (writable : (Field.int id).IsWritable) :
    Step.AllWritable (Plan.contractDetails id c).steps := by
  have contractId : (Field.int c.contractId).IsWritable :=
    isWritable_attribute short (by repeat constructor)
  have strike : c.strike.field.IsWritable := isWritable_attribute short (by repeat constructor)
  have attached : (Plan.attachedExchange c).IsWritable := by
    unfold Plan.attachedExchange
    split_ifs <;> simp
  simp (disch := decide) [Plan.contractDetails, Step.always, Step.since, Step.before, Step.between,
    isWritable_literal, writable, contractId, strike, attached]

theorem allWritable_scannerSubscription {id : Int} {s : ScannerSubscription}
    (short : (describe s : Datum).IsShort) (writable : (Field.int id).IsWritable)
    (options filters : Option (List TagValue)) :
    Step.AllWritable (Plan.scannerSubscription id s options filters).steps := by
  have rows : (Field.int s.numberOfRows).IsWritable :=
    isWritable_attribute short (by repeat constructor)
  have abovePrice : s.abovePrice.field.IsWritable :=
    isWritable_attribute short (by repeat constructor)
  have belowPrice : s.belowPrice.field.IsWritable :=
    isWritable_attribute short (by repeat constructor)
  have volume : (Field.int s.aboveVolume).IsWritable :=
    isWritable_attribute short (by repeat constructor)
  have capAbove : s.marketCapAbove.field.IsWritable :=
    isWritable_attribute short (by repeat constructor)
  have capBelow : s.marketCapBelow.field.IsWritable :=
    isWritable_attribute short (by repeat constructor)
  have couponAbove : s.couponRateAbove.field.IsWritable :=
    isWritable_attribute short (by repeat constructor)
  have couponBelow : s.couponRateBelow.field.IsWritable :=
    isWritable_attribute short (by repeat constructor)
  have optionVolume : (Field.int s.averageOptionVolumeAbove).IsWritable :=
    isWritable_attribute short (by repeat constructor)
  simp (disch := decide) [Plan.scannerSubscription, Step.always, Step.since, Step.before,
    isWritable_literal, writable, rows, abovePrice, belowPrice, volume, capAbove, capBelow,
    couponAbove, couponBelow, optionVolume]

theorem allWritable_plan (announced : Bool) {request : Request} (short : request.IsShort) :
    Step.AllWritable (request.plan announced).steps := by
  replace short : ∀ argument ∈ request.arguments, argument.IsShort := short
  cases request
  all_goals
    simp only [arguments, List.forall_mem_cons, isShort_int, isShort_number] at short
  case placeOrder => exact Order.allWritable_steps short.2.2.1 short.2.1 short.1
  -- requests with a contract
  case marketData =>
    have neutral := Contract.isWritable_neutralFields short.2.1
    simpa (disch := decide) [plan, Plan.marketData, Step.always, Step.since, isWritable_literal,
      short, Contract.allWritable_steps short.2.1, Contract.allWritable_legSteps short.2.1]
      using neutral
  case historicalData =>
    simp (disch := decide) [plan, Plan.historicalData, Step.always, Step.since, Step.before,
      isWritable_literal, short, Contract.allWritable_steps short.2.1,
      Contract.allWritable_legSteps short.2.1]
  case tickByTick | exerciseOptions | marketDepth | realTimeBars | headTimestamp | histogram |
      historicalTicks =>
    refine Contract.allWritable_among short.2.1 ?_ ?_ <;>
      simp (disch := decide) [Step.always, Step.since, isWritable_literal, short]
  case impliedVolatility | optionPrice =>
    have options := isWritable_countField short.2.2.2.2.1
    refine Contract.allWritable_among short.2.1 ?_ ?_ <;>
      simp (disch := decide) [Step.always, Step.since, isWritable_literal, short, options]
  case contractDetails => exact allWritable_contractDetails short.2.1 short.1
  case fundamentalData c _ _ =>
    have contractId : (Field.int c.contractId).IsWritable :=
      isWritable_attribute short.2.1 (by repeat constructor)
    have options := isWritable_countField short.2.2.2.1
    simp (disch := decide) [plan, Plan.fundamentalData, Step.always, Step.since,
      isWritable_literal, short, contractId, options]
  -- requests with other records, and with steps that come later
  case executions filter =>
    have clientId : (Field.int filter.clientId).IsWritable :=
      isWritable_attribute short.2.1 (by repeat constructor)
    simp (disch := decide) [plan, Plan.executions, Step.always, Step.since, isWritable_literal,
      short, clientId]
  case scannerSubscription => exact allWritable_scannerSubscription short.2.1 short.1 _ _
  case cancelMarketDepth | replaceAdvisorData | newsArticle | historicalNews =>
    refine Step.allWritable_cons.mpr ⟨?_, Step.allWritable_cons.mpr ⟨?_, Step.allWritable_nil⟩⟩ <;>
      simp (disch := decide) [Step.always, Step.since, isWritable_literal, short]
  case depthExchanges | familyCodes | newsProviders => exact Step.allWritable_nil
  -- all others have one step
  all_goals
    refine Step.allWritable_cons.mpr ⟨?_, Step.allWritable_nil⟩
    simp (disch := decide) [Step.always, isWritable_literal, short]

/-- **All fields of a request can be written** if no integer among its arguments has more than 4300
digits. -/
theorem isWritable_plan (announced : Bool) {request : Request} (short : request.IsShort)
    (version : Int) : ∀ field ∈ (request.plan announced).fieldsAt version, field.IsWritable :=
  List.forall_mem_cons.mpr ⟨⟨_, (wire_number (request.plan announced).kind).1⟩,
    (allWritable_plan announced short).fieldsAt version⟩

end Request

end TradeWire
