import Mathlib.Tactic
import TradeWire.Message.OrderReport
import TradeWire.Proofs.Request.Arguments
import TradeWire.Proofs.Request.Plan
import TradeWire.Proofs.Wire.Recovery

/-!
# Segments that orders share in both directions

A request to place an order and a report of one have some groups of attributes in common. Each side
decides by itself whether the optional parts of a group are there, the reading side from what it has
read so far. Between servers and clients of version 145 or later they agree: what a group of steps
writes is read back by the segments of a report (`segments_come_back`).
-/

namespace TradeWire

open Reading

/-! ## Steps at a version -/

namespace Step

variable {version first : Int} (fields : List Field) (steps : List Step)

theorem fieldsAt_always :
    fieldsAt version (.always fields :: steps) = fields ++ fieldsAt version steps :=
  fieldsAt_cons ..

theorem fieldsAt_since (known : first ≤ version) :
    fieldsAt version (.since first fields :: steps) = fields ++ fieldsAt version steps := by
  rw [fieldsAt_cons]
  exact congrArg (· ++ _) (if_pos (decide_eq_true known))

theorem fieldsAt_singleton (known : 145 ≤ version) (old : first ≤ 145 := by decide) :
    fieldsAt version [.since first fields] = fields := by
  rw [fieldsAt_since _ _ (old.trans known)]
  exact List.append_nil fields

theorem fieldsAt_before (known : first ≤ version) :
    fieldsAt version (.before first fields :: steps) = fieldsAt version steps := by
  rw [fieldsAt_cons]
  exact congrArg (· ++ _) (if_neg (by simpa [before, Span.contains] using known))

end Step

/-! ## Volatility and trail -/

namespace Order

/-- What is known of a volatility order, over what was known before: the attributes that are
written, which are not those of the hedge if there is none. -/
def Volatility.over (v before : Volatility) : Volatility :=
  if v.isHedged then v
  else { before with
    level := v.level
    levelType := v.levelType
    hedgeOrderType := v.hedgeOrderType
    hedgeAuxPrice := v.hedgeAuxPrice
    continuousUpdate := v.continuousUpdate
    referencePriceType := v.referencePriceType }

/-- What is known of a scale, over what was known before: the attributes that are written up to its
last detail, which are not the details if there is no increment. -/
def Scale.over (s before : Scale) : Scale :=
  if s.hasIncrement then { s with table := before.table }
  else { before with
    initialLevelSize := s.initialLevelSize
    subsequentLevelSize := s.subsequentLevelSize
    priceIncrement := s.priceIncrement }

/-- The kind of a hedge, and its parameter if there is a kind. -/
def Hedge.over (h before : Hedge) : Hedge :=
  if h.kind.isGiven then h else { before with kind := h.kind }

end Order

variable {v : Int} (known : 145 ≤ v) {o : Order} (nominal : Holder.IsNominal o)

section

include known nominal

theorem recovers_volatility (before : Order.Volatility) :
    Recovers (Step.fieldsAt v o.volatility.steps) (Order.Volatility.read v true before)
      (o.volatility.over before) := by
  have level := isReal_of_kind (nominal.kind "volatility" (by repeat constructor) (by decide))
  have auxPrice := isReal_of_kind
    (nominal.kind "delta_neutral_aux_price" (by repeat constructor) (by decide))
  have orderType := isSome_of_kind
    (nominal.kind "delta_neutral_order_type" (by repeat constructor) (by decide))
  have firm := isSome_of_kind
    (nominal.kind "delta_neutral_settling_firm" (by repeat constructor) (by decide))
  have account := isSome_of_kind
    (nominal.kind "delta_neutral_clearing_account" (by repeat constructor) (by decide))
  have intent := isSome_of_kind
    (nominal.kind "delta_neutral_clearing_intent" (by repeat constructor) (by decide))
  have openClose := isSome_of_kind
    (nominal.kind "delta_neutral_open_close" (by repeat constructor) (by decide))
  have location := isSome_of_kind
    (nominal.kind "delta_neutral_designated_location" (by repeat constructor) (by decide))
  have ids : (decide ((27 : Int) ≤ v) && o.volatility.isHedged) = o.volatility.isHedged := by
    rw [decide_eq_true (by omega), Bool.true_and]
  have sale : (decide ((31 : Int) ≤ v) && o.volatility.isHedged) = o.volatility.isHedged := by
    rw [decide_eq_true (by omega), Bool.true_and]
  have openIds := (congrArg (· && true) ids).trans (Bool.and_true _)
  have openSale := (congrArg (· && true) sale).trans (Bool.and_true _)
  simp (disch := exact Int.le_trans (by decide) known) only
    [Order.Volatility.steps, Step.fieldsAt_always, Step.fieldsAt_since]
  refine recovers_cons (recovers_number level) <| recovers_cons (recovers_int _) ?_
  refine recovers_cons (recovers_text orderType) <| recovers_cons (recovers_number auxPrice) ?_
  -- the same text tells both sides whether there is a hedge
  cases hedged : o.volatility.isHedged
  · rw [Order.Volatility.hedgeFields, if_neg (ne_true_of_eq_false hedged),
      Order.Volatility.hedgeFields, if_neg (ne_true_of_eq_false hedged),
      Order.Volatility.over, if_neg (ne_true_of_eq_false hedged)]
    refine recovers_unless (ids.trans hedged) <| recovers_unless (openIds.trans hedged) ?_
    refine recovers_unless (openIds.trans hedged) <| recovers_unless (openIds.trans hedged) ?_
    refine recovers_unless (openSale.trans hedged) <| recovers_unless (sale.trans hedged) ?_
    refine recovers_unless (sale.trans hedged) <| recovers_unless (sale.trans hedged) ?_
    exact recovers_cons (recovers_flag _) (recovers_map (recovers_int _) _)
  · rw [Order.Volatility.hedgeFields, if_pos hedged, Order.Volatility.hedgeFields, if_pos hedged,
      Order.Volatility.over, if_pos hedged]
    refine recovers_onlyIf (ids.trans hedged) (recovers_int _) ?_
    refine recovers_onlyIf (openIds.trans hedged) (recovers_text firm) ?_
    refine recovers_onlyIf (openIds.trans hedged) (recovers_text account) ?_
    refine recovers_onlyIf (openIds.trans hedged) (recovers_text intent) ?_
    refine recovers_onlyIf (openSale.trans hedged) (recovers_text openClose) ?_
    refine recovers_onlyIf (sale.trans hedged) (recovers_flag _) ?_
    refine recovers_onlyIf (sale.trans hedged) (recovers_int _) ?_
    refine recovers_onlyIf (sale.trans hedged) (recovers_text location) ?_
    exact recovers_cons (recovers_flag _) (recovers_map (recovers_int _) _)

theorem recovers_trail (before : Order.Trail) :
    Recovers (Step.fieldsAt v o.trail.steps) (Order.Trail.read v before) o.trail := by
  have stopPrice := isReal_of_kind
    (nominal.kind "trail_stop_price" (by repeat constructor) (by decide))
  have percent := isReal_of_kind
    (nominal.kind "trailing_percent" (by repeat constructor) (by decide))
  simp (disch := exact Int.le_trans (by decide) known) only
    [Order.Trail.steps, Step.fieldsAt_always, Step.fieldsAt_since]
  refine recovers_cons (recovers_number stopPrice) ?_
  exact recovers_onlyIf (decide_eq_true (by omega)) (recovers_number percent) (recovers_pure _)

/-! ## Scale -/

omit known in
theorem exists_scale :
    ∃ (initialLevel subsequentLevel : Int) (increment adjustValue : Double) (adjustInterval : Int)
      (profitOffset : Double) (autoReset : Bool) (initialPosition initialFill : Int)
      (randomPercent : Bool) (table : Label),
      o.scale = ⟨.int initialLevel, .int subsequentLevel, .real increment, .real adjustValue,
        .int adjustInterval, .real profitOffset, .flag autoReset, .int initialPosition,
        .int initialFill, .flag randomPercent, table⟩ := by
  obtain ⟨initialLevel, h₁⟩ : ∃ n, o.scale.initialLevelSize = .int n := exists_int_of_kind
    (nominal.kind "scale_init_level_size" (by repeat constructor) (by decide))
  obtain ⟨subsequentLevel, h₂⟩ : ∃ n, o.scale.subsequentLevelSize = .int n := exists_int_of_kind
    (nominal.kind "scale_subs_level_size" (by repeat constructor) (by decide))
  obtain ⟨increment, h₃⟩ : ∃ x, o.scale.priceIncrement = .real x := exists_real_of_kind
    (nominal.kind "scale_price_increment" (by repeat constructor) (by decide))
  obtain ⟨adjustValue, h₄⟩ : ∃ x, o.scale.priceAdjustValue = .real x := exists_real_of_kind
    (nominal.kind "scale_price_adjust_value" (by repeat constructor) (by decide))
  obtain ⟨adjustInterval, h₅⟩ : ∃ n, o.scale.priceAdjustInterval = .int n := exists_int_of_kind
    (nominal.kind "scale_price_adjust_interval" (by repeat constructor) (by decide))
  obtain ⟨profitOffset, h₆⟩ : ∃ x, o.scale.profitOffset = .real x := exists_real_of_kind
    (nominal.kind "scale_profit_offset" (by repeat constructor) (by decide))
  obtain ⟨autoReset, h₇⟩ : ∃ b, o.scale.autoReset = .flag b := exists_flag_of_kind
    (nominal.kind "scale_auto_reset" (by repeat constructor) (by decide))
  obtain ⟨initialPosition, h₈⟩ : ∃ n, o.scale.initialPosition = .int n := exists_int_of_kind
    (nominal.kind "scale_init_position" (by repeat constructor) (by decide))
  obtain ⟨initialFill, h₉⟩ : ∃ n, o.scale.initialFillQuantity = .int n := exists_int_of_kind
    (nominal.kind "scale_init_fill_qty" (by repeat constructor) (by decide))
  obtain ⟨randomPercent, h₁₀⟩ : ∃ b, o.scale.randomPercent = .flag b := exists_flag_of_kind
    (nominal.kind "scale_random_percent" (by repeat constructor) (by decide))
  refine ⟨initialLevel, subsequentLevel, increment, adjustValue, adjustInterval, profitOffset,
    autoReset, initialPosition, initialFill, randomPercent, o.scale.table, ?_⟩
  rw [← h₁, ← h₂, ← h₃, ← h₄, ← h₅, ← h₆, ← h₇, ← h₈, ← h₉, ← h₁₀]

theorem recovers_scale (before : Order.Scale) :
    Recovers (Step.fieldsAt v o.scale.steps) (Order.Scale.read v before)
      (o.scale.over before) := by
  obtain ⟨initialLevel, subsequentLevel, increment, adjustValue, adjustInterval, profitOffset,
    autoReset, initialPosition, initialFill, randomPercent, table, scale⟩ := exists_scale nominal
  rw [scale]
  have levels : decide ((20 : Int) ≤ v) = true := decide_eq_true (by omega)
  have details : decide ((28 : Int) ≤ v) = true := decide_eq_true (by omega)
  simp (disch := exact Int.le_trans (by decide) known) only
    [Order.Scale.steps, Step.fieldsAt_always, Step.fieldsAt_since, Step.fieldsAt_before]
  refine recovers_unless (congrArg not levels) ?_
  refine recovers_cons (recovers_int _) ?_
  refine recovers_onlyIf levels (recovers_map (recovers_int _) Field.int) ?_
  refine recovers_cons (recovers_double increment) ?_
  -- the increment tells both sides whether there are details
  cases given : !(Field.real increment).same (.real unsetDouble) &&
    Order.isPositive (.real increment)
  · have absent (s : Order.Scale) (eq : s.priceIncrement = .real increment) :
        ¬ s.hasIncrement = true := by
      rw [Order.Scale.hasIncrement, eq, given]
      exact Bool.false_ne_true
    rw [Order.Scale.detailFields, if_neg (absent _ rfl), Order.Scale.over, if_neg (absent _ rfl),
      if_neg fun both => absent _ rfl (Bool.and_eq_true_iff.mp both).2]
    exact recovers_pure _
  · have present (s : Order.Scale) (eq : s.priceIncrement = .real increment) :
        s.hasIncrement = true := by
      rw [Order.Scale.hasIncrement, eq, given]
    rw [Order.Scale.detailFields, if_pos (present _ rfl), Order.Scale.over, if_pos (present _ rfl),
      if_pos (Bool.and_eq_true_iff.mpr ⟨details, present _ rfl⟩)]
    refine recovers_cons (recovers_double adjustValue) ?_
    refine recovers_cons (recovers_int adjustInterval) ?_
    refine recovers_cons (recovers_double profitOffset) ?_
    refine recovers_cons (recovers_flag autoReset) ?_
    refine recovers_cons (recovers_int initialPosition) ?_
    refine recovers_cons (recovers_int initialFill) ?_
    exact recovers_map (recovers_flag randomPercent) _

/-! ## Hedge, neutral contract, strategy -/

omit known in
theorem recovers_hedge (before : Order.Hedge) :
    Recovers o.hedge.fields before.read (o.hedge.over before) := by
  have kind := isSome_of_kind (nominal.kind "hedge_type" (by repeat constructor) (by decide))
  have param := isSome_of_kind (nominal.kind "hedge_param" (by repeat constructor) (by decide))
  refine recovers_cons (recovers_text kind) ?_
  rw [Order.Hedge.over]
  cases o.hedge.kind.isGiven
  · exact recovers_unless rfl (recovers_pure _)
  · exact recovers_onlyIf rfl (recovers_text param) (recovers_pure _)

omit known in
theorem recovers_algo (before : Order.Algo) :
    Recovers o.algo.fields before.read { before with
      strategy := o.algo.strategy
      params := if o.algo.strategy.isGiven then o.algo.params else before.params } := by
  have strategy := isSome_of_kind (nominal.kind "algo_strategy" (by repeat constructor) (by decide))
  obtain ⟨params, eq⟩ : ∃ params, o.algo.params = some params :=
    Option.isSome_iff_exists.mp (isSome_of_kind_list
      (nominal.kind "algo_params" (by repeat constructor) (by decide)))
  refine recovers_cons (recovers_text strategy) ?_
  cases o.algo.strategy.isGiven
  · exact recovers_pure _
  · rw [eq]
    exact recovers_map (recovers_map (recovers_pairs params) some) _

omit known in
theorem recovers_benchmark :
    Recovers [.int o.benchmark.referenceContractId, .flag o.benchmark.isDecrease,
      o.benchmark.peggedChangeAmount.field, o.benchmark.referenceChangeAmount.field,
      o.benchmark.referenceExchange.field] Order.Benchmark.read o.benchmark := by
  have peggedChange := isReal_of_kind
    (nominal.kind "pegged_change_amount" (by repeat constructor) (by decide))
  have referenceChange := isReal_of_kind
    (nominal.kind "reference_change_amount" (by repeat constructor) (by decide))
  have exchange := isSome_of_kind
    (nominal.kind "reference_exchange_id" (by repeat constructor) (by decide))
  refine recovers_cons (recovers_int _) <| recovers_cons (recovers_flag _) ?_
  refine recovers_cons (recovers_number peggedChange) ?_
  refine recovers_cons (recovers_number referenceChange) ?_
  exact recovers_map (recovers_text exchange) _

end

/-! ## Contracts -/

/-- The parts of a nominal contract are nominal as well. -/
structure Contract.IsNominal (c : Contract) : Prop where
  attributes : Holder.IsNominal c
  legs : ∀ leg ∈ c.legs, Holder.IsNominal leg
  neutral : ∀ neutral, c.deltaNeutral = some neutral → Holder.IsNominal neutral

/-- The prices of the legs of a nominal order are nominal as well. -/
structure Order.IsNominal (o : Order) : Prop where
  attributes : Holder.IsNominal o
  legs : ∀ leg ∈ o.combo.orderLegs, Holder.IsNominal leg

theorem recovers_neutral {c : Contract} (nominal : c.IsNominal)
    (before : Option DeltaNeutralContract) :
    Recovers c.neutralFields (OrderReport.readNeutral before) (c.deltaNeutral.or before) := by
  rw [Contract.neutralFields]
  cases given : c.deltaNeutral with
  | none => exact recovers_cons (recovers_flag false) (recovers_pure _)
  | some neutral =>
    have delta := isReal_of_kind
      ((nominal.neutral neutral given).kind "delta" (by repeat constructor) (by decide))
    have price := isReal_of_kind
      ((nominal.neutral neutral given).kind "price" (by repeat constructor) (by decide))
    have read : Recovers [.int neutral.contractId, neutral.delta.field, neutral.price.field]
        deltaNeutral neutral :=
      recovers_cons (recovers_int _) <| recovers_cons (recovers_number delta) <|
        recovers_map (recovers_number price) _
    exact recovers_cons (recovers_flag true) (recovers_map read some)

/-! ## Combinations -/

/-- The fields of a leg at newer versions. -/
def ComboLeg.longFields (leg : ComboLeg) : List Field :=
  [.int leg.contractId, .int leg.ratio, leg.action.field, leg.exchange.field, .int leg.openClose,
    .int leg.shortSaleSlot, leg.designatedLocation.field, .int leg.exemptCode]

theorem recovers_leg {leg : ComboLeg} (nominal : Holder.IsNominal leg) :
    Recovers leg.longFields ComboLeg.read leg := by
  have action := isSome_of_kind (nominal.kind "action" (by repeat constructor) (by decide))
  have exchange := isSome_of_kind (nominal.kind "exchange" (by repeat constructor) (by decide))
  have location := isSome_of_kind
    (nominal.kind "designated_location" (by repeat constructor) (by decide))
  refine recovers_cons (recovers_int _) <| recovers_cons (recovers_int _) ?_
  refine recovers_cons (recovers_text action) <| recovers_cons (recovers_text exchange) ?_
  refine recovers_cons (recovers_int _) <| recovers_cons (recovers_int _) ?_
  exact recovers_cons (recovers_text location) (recovers_map (recovers_int _) _)

theorem recovers_legPrice {leg : OrderLeg} (nominal : Holder.IsNominal leg) :
    Recovers [leg.price.field] OrderLeg.read leg := by
  have price := isReal_of_kind (nominal.kind "price" (by repeat constructor) (by decide))
  exact recovers_map (recovers_number price) _

theorem fieldsAt_legs (known : 145 ≤ v) (legs : List ComboLeg) :
    Step.fieldsAt v (legs.flatMap Contract.orderLegSteps) = legs.flatMap ComboLeg.longFields := by
  induction legs with
  | nil => rfl
  | cons leg legs ih =>
    rw [List.flatMap_cons, Step.fieldsAt_append, ih, List.flatMap_cons]
    simp (disch := exact Int.le_trans (by decide) known) only
      [Contract.orderLegSteps, Step.fieldsAt_always, Step.fieldsAt_since]
    rfl

/-! ## Segments -/

namespace Segment

theorem recovers_of {α : Type} {fields : List Field} {read : Reading α} {value : α}
    (h : Recovers fields read value) (put : OrderReport → α → OrderReport) (report : OrderReport) :
    Recovers fields (Segment.of read put report) (put report value) := recovers_map h (put report)

theorem recovers_into {α : Type} {fields : List Field} {part : OrderReport → α}
    {read : α → Reading α} {report : OrderReport} {value : α}
    (h : Recovers fields (read (part report)) value) (put : OrderReport → α → OrderReport) :
    Recovers fields (Segment.into part read put report) (put report value) :=
  recovers_map h (put report)

theorem recovers_onlyIf {fields : List Field} {condition : Bool} (holds : condition = true)
    {segment : Segment} {report after : OrderReport} (h : Recovers fields (segment report) after) :
    Recovers fields (Segment.onlyIf condition segment report) after := by
  rw [Segment.onlyIf, if_pos holds]
  exact h

theorem recovers_all_cons {first second : List Field} {segment : Segment} {segments : List Segment}
    {report between after : OrderReport} (one : Recovers first (segment report) between)
    (others : Recovers second (all segments between) after) :
    Recovers (first ++ second) (all (segment :: segments) report) after := recovers_bind one others

theorem recovers_all_singleton {fields : List Field} {segment : Segment}
    {report after : OrderReport} (h : Recovers fields (segment report) after) :
    Recovers fields (all [segment] report) after := recovers_map h id

end Segment

open Segment (recovers_all_cons recovers_all_singleton recovers_of recovers_into)

theorem recovers_combo (known : 145 ≤ v) {c : Contract} {o : Order} (combo : c.isCombo = true)
    (contract : c.IsNominal) (order : o.IsNominal) (description : String) (report : OrderReport) :
    Recovers (.text description :: Step.fieldsAt v (Order.comboSteps c o.combo))
      (Segment.all (OrderReport.comboSegments ⟨v, v⟩) report)
      { report with
        contract := { report.contract with
          comboDescription := some description, comboLegs := c.comboLegs }
        order := { report.order with
          combo := { report.order.combo with
            legs := o.combo.legs, routingParams := o.combo.routingParams } } } := by
  obtain ⟨legs, hlegs⟩ : ∃ legs, c.comboLegs = some legs :=
    Option.isSome_iff_exists.mp (isSome_of_kind_list
      (contract.attributes.kind "combo_legs" (by repeat constructor) (by decide)))
  obtain ⟨prices, hprices⟩ : ∃ legs, o.combo.legs = some legs :=
    Option.isSome_iff_exists.mp (isSome_of_kind_list
      (order.attributes.kind "order_combo_legs" (by repeat constructor) (by decide)))
  obtain ⟨params, hparams⟩ : ∃ params, o.combo.routingParams = some params :=
    Option.isSome_iff_exists.mp (isSome_of_kind_list
      (order.attributes.kind "smart_combo_routing_params" (by repeat constructor) (by decide)))
  have readLegs : Recovers (countField legs :: legs.flatMap ComboLeg.longFields)
      (listOf ComboLeg.read) (legs.map fun leg => leg) :=
    recovers_listOf fun leg h => recovers_leg (contract.legs leg (by rwa [Contract.legs, hlegs]))
  have readPrices : Recovers (countField prices :: prices.flatMap fun leg => [leg.price.field])
      (listOf OrderLeg.read) (prices.map fun leg => leg) :=
    recovers_listOf fun leg h =>
      recovers_legPrice (order.legs leg (by rwa [Order.Combo.orderLegs, hprices]))
  rw [List.map_id'] at readLegs readPrices
  have fields : Step.fieldsAt v (Order.comboSteps c o.combo) =
      (countField legs :: legs.flatMap ComboLeg.longFields) ++
        ((countField prices :: prices.flatMap fun leg => [leg.price.field]) ++
          countedPairs (some params)) := by
    rw [Order.comboSteps, if_pos combo, Contract.legs, hlegs, Order.Combo.orderLegs, hprices,
      hparams, List.cons_append, Step.fieldsAt_always, Step.fieldsAt_append, Option.getD_some,
      fieldsAt_legs known, Option.getD_some]
    simp (disch := exact Int.le_trans (by decide) known) only [Step.fieldsAt_since,
      List.map_eq_flatMap]
    simp [Step.fieldsAt]
  have described : Recovers [.text description] text (some description) :=
    @recovers_text (some description) rfl
  have new29 : decide ((29 : Int) ≤ v) = true := decide_eq_true (by omega)
  have new26 : decide ((26 : Int) ≤ v) = true := decide_eq_true (by omega)
  rw [fields, hlegs, hprices, hparams]
  refine recovers_all_cons (recovers_of described _ _) ?_
  refine recovers_all_cons (Segment.recovers_onlyIf new29 (recovers_of readLegs _ _)) ?_
  refine recovers_all_cons (Segment.recovers_onlyIf new29 (recovers_of readPrices _ _)) ?_
  exact recovers_all_singleton
    (Segment.recovers_onlyIf new26 (recovers_of (recovers_pairs params) _ _))

/-- Some steps of the request to place an order come back: what they write, behind fields that only
a report has, is read by some segments, which turn a report into another one. -/
def ComesBack (v id : Int) (c : Contract) (o : Order) (steps : List Step) (lead : List Field)
    (segments : List Segment) (report after : OrderReport) : Prop :=
  steps <:+: o.steps id c ∧
    Recovers (lead ++ Step.fieldsAt v steps) (Segment.all segments report) after

theorem strategySteps_within (id : Int) (c : Contract) (o : Order) :
    o.strategySteps c <:+: o.steps id c :=
  List.infix_append_of_infix_left (List.infix_append_of_infix_left List.infix_append_right)

theorem peggedSteps_within (id : Int) (c : Contract) (o : Order) :
    o.peggedSteps <:+: o.steps id c :=
  List.infix_append_of_infix_left List.infix_append_right

theorem scaleSteps_within (id : Int) (c : Contract) (o : Order) :
    o.scaleSteps <:+: o.steps id c :=
  List.infix_append_of_infix_left <| List.infix_append_of_infix_left <|
    List.infix_append_of_infix_left List.infix_append_right

theorem volatilitySteps_within (id : Int) (c : Contract) (o : Order) :
    o.volatility.steps ++ o.trail.steps <:+: o.steps id c := by
  refine List.infix_append_of_infix_left <| List.infix_append_of_infix_left <|
    List.infix_append_of_infix_left <| List.infix_append_of_infix_left ?_
  rw [List.append_assoc _ o.volatility.steps]
  exact List.infix_append_right

theorem comboSteps_within (id : Int) (c : Contract) (o : Order) :
    Order.comboSteps c o.combo <:+: o.steps id c := by
  iterate 8 refine List.infix_append_of_infix_left ?_
  exact List.infix_append_of_infix_right (List.infix_cons (List.infix_refl _))

open OrderReport

section

variable {c : Contract} (id : Int) (report : OrderReport)
include known

/-- A step that is written since some version comes back if the segment that is read since some
version recovers its fields. -/
theorem comesBack_since {first bound : Int} (old : first ≤ 145) (old' : bound ≤ 145)
    {fields : List Field} (within : [.since first fields] <:+: o.steps id c)
    {segment : Segment} {after : OrderReport} (h : Recovers fields (segment report) after) :
    ComesBack v id c o [.since first fields] [] [.onlyIf (decide (bound ≤ v)) segment] report
      after := by
  refine ⟨within, ?_⟩
  rw [List.nil_append, Step.fieldsAt_singleton _ known old]
  have read : decide (bound ≤ v) = true := decide_eq_true (old'.trans known)
  exact recovers_all_singleton (Segment.recovers_onlyIf read h)

section

variable (order : o.IsNominal)
include order

theorem comesBack_volatility :
    ComesBack v id c o (o.volatility.steps ++ o.trail.steps) [] (volatilitySegments ⟨v, v⟩ true)
      report
      { report with order := { report.order with
          volatility := o.volatility.over report.order.volatility, trail := o.trail } } := by
  refine ⟨volatilitySteps_within id c o, ?_⟩
  rw [List.nil_append, Step.fieldsAt_append]
  refine recovers_all_cons (recovers_into (recovers_volatility known order.attributes _) _) ?_
  exact recovers_all_singleton (recovers_into (recovers_trail known order.attributes _) _)

theorem comesBack_scale :
    ComesBack v id c o o.scale.steps [] [scaleSegment ⟨v, v⟩] report
      { report with order.scale := o.scale.over report.order.scale } := by
  have within : o.scale.steps <:+: o.scaleSteps := List.infix_append_left
  refine ⟨within.trans (scaleSteps_within id c o), ?_⟩
  exact recovers_all_singleton (recovers_into (recovers_scale known order.attributes _) _)

theorem comesBack_hedge :
    ComesBack v id c o [.since Feature.hedgeOrders o.hedge.fields] [] [hedgeSegment ⟨v, v⟩] report
      { report with order.hedge := o.hedge.over report.order.hedge } := by
  have within : [.since Feature.hedgeOrders o.hedge.fields] <:+: o.strategySteps c :=
    ⟨[], (o.strategySteps c).drop 1, rfl⟩
  exact comesBack_since known id report (by decide) (by decide)
    (within.trans (strategySteps_within id c o))
    (recovers_into (recovers_hedge order.attributes _) _)

theorem comesBack_algo :
    ComesBack v id c o [.since Feature.algoOrders o.algo.fields] [] [algoSegment ⟨v, v⟩] report
      { report with order.algo := { report.order.algo with
          strategy := o.algo.strategy
          params := if o.algo.strategy.isGiven then o.algo.params
            else report.order.algo.params } } := by
  have within : [.since Feature.algoOrders o.algo.fields] <:+: o.strategySteps c :=
    ⟨(o.strategySteps c).take 5, (o.strategySteps c).drop 6, rfl⟩
  exact comesBack_since known id report (by decide) (by decide)
    (within.trans (strategySteps_within id c o)) (recovers_into (recovers_algo order.attributes _) _)

/-- The type of the order that is known so far tells the report whether there is a benchmark. -/
theorem comesBack_benchmark (same : report.order.terms.orderType = o.terms.orderType) :
    ComesBack v id c o [.since Feature.peggedToBenchmark (o.benchmark.fields o.terms.orderType)] []
      [benchmarkSegment ⟨v, v⟩] report
      (if Order.isPeggedToBenchmark o.terms.orderType then
        { report with order.benchmark := o.benchmark } else report) := by
  have within : [.since Feature.peggedToBenchmark (o.benchmark.fields o.terms.orderType)] <:+:
      o.peggedSteps := ⟨[], o.peggedSteps.drop 1, rfl⟩
  refine comesBack_since known id report (by decide) (by decide)
    (within.trans (peggedSteps_within id c o)) ?_
  rw [same, Order.Benchmark.fields]
  cases Order.isPeggedToBenchmark o.terms.orderType
  · exact recovers_pure report
  · exact recovers_map (recovers_benchmark order.attributes) _

end

theorem comesBack_neutral (contract : c.IsNominal) :
    ComesBack v id c o [.since Feature.deltaNeutral c.neutralFields] [] [neutralSegment ⟨v, v⟩]
      report
      { report with
        contract.deltaNeutral := c.deltaNeutral.or report.contract.deltaNeutral } := by
  have within : [.since Feature.deltaNeutral c.neutralFields] <:+: o.strategySteps c :=
    ⟨(o.strategySteps c).take 4, (o.strategySteps c).drop 5, rfl⟩
  exact comesBack_since known id report (by decide) (by decide)
    (within.trans (strategySteps_within id c o)) (recovers_into (recovers_neutral contract _) _)

end

/-- **Requests and reports agree on the segments they share.** From version 145 on, whatever follows
the fields that a request writes for one of these groups, a report is read from just these fields,
with every attribute that was written: volatility and trail, scale, hedge, neutral contract,
strategy, the legs of a combination behind its description, and the benchmark of an order that is
pegged to one. What was not written stays as it was in the report. -/
theorem segments_come_back {v : Int} (known : 145 ≤ v) {c : Contract} {o : Order}
    (contract : c.IsNominal) (order : o.IsNominal) (id : Int) (report : OrderReport) :
    let versions : ReportVersions := ⟨v, v⟩
    let comesBack := ComesBack v id c o
    comesBack (o.volatility.steps ++ o.trail.steps) [] (volatilitySegments versions true) report
      { report with order := { report.order with
          volatility := o.volatility.over report.order.volatility, trail := o.trail } } ∧
    comesBack o.scale.steps [] [scaleSegment versions] report
      { report with order.scale := o.scale.over report.order.scale } ∧
    comesBack [.since Feature.hedgeOrders o.hedge.fields] [] [hedgeSegment versions] report
      { report with order.hedge := o.hedge.over report.order.hedge } ∧
    comesBack [.since Feature.deltaNeutral c.neutralFields] [] [neutralSegment versions] report
      { report with contract.deltaNeutral := c.deltaNeutral.or report.contract.deltaNeutral } ∧
    comesBack [.since Feature.algoOrders o.algo.fields] [] [algoSegment versions] report
      { report with order.algo := { report.order.algo with
          strategy := o.algo.strategy
          params := if o.algo.strategy.isGiven then o.algo.params
            else report.order.algo.params } } ∧
    (c.isCombo = true → ∀ description,
      comesBack (Order.comboSteps c o.combo) [.text description] (comboSegments versions) report
        { report with
          contract := { report.contract with
            comboDescription := some description, comboLegs := c.comboLegs }
          order := { report.order with
            combo := { report.order.combo with
              legs := o.combo.legs, routingParams := o.combo.routingParams } } }) ∧
    (report.order.terms.orderType = o.terms.orderType →
      comesBack [.since Feature.peggedToBenchmark (o.benchmark.fields o.terms.orderType)] []
        [benchmarkSegment versions] report
        (if Order.isPeggedToBenchmark o.terms.orderType then
          { report with order.benchmark := o.benchmark } else report)) := by
  intro versions comesBack
  refine ⟨?volatility, ?scale, ?hedge, ?neutral, ?algo, fun combo description => ?combo,
    fun same => ?benchmark⟩
  case volatility => exact comesBack_volatility known id report order
  case scale => exact comesBack_scale known id report order
  case hedge => exact comesBack_hedge known id report order
  case neutral => exact comesBack_neutral known id report contract
  case algo => exact comesBack_algo known id report order
  case combo =>
    exact ⟨comboSteps_within id c o, recovers_combo known combo contract order description report⟩
  case benchmark => exact comesBack_benchmark known id report order same

/-- A combination of two legs. -/
def spread : Contract where
  secType := some "BAG"
  comboLegs := some [{ contractId := 8314, ratio := 1, action := some "BUY" },
    { contractId := 9408, ratio := 2, action := some "SELL", exemptCode := 0 }]

/-- An order with a scale that has an increment of 0.05, and with prices for its legs. -/
def scaledOrder : Order where
  scale := {
    initialLevelSize := .int 100
    priceIncrement := .real (.ofDecimal false 5 (-2))
    profitOffset := .real (.ofDecimal false 1 0)
    autoReset := .flag true }
  combo := {
    legs := some [{ price := .real (.ofDecimal false 125 (-2)) }, {}]
    routingParams := some [⟨"NonGuaranteed", "1"⟩] }

theorem segments_come_back_spread :
    let report : OrderReport := {}
    let scale := Step.fieldsAt 151 scaledOrder.scale.steps
    let combo := .text "" :: Step.fieldsAt 151 (Order.comboSteps spread scaledOrder.combo)
    (145 : Int) ≤ 151 ∧ spread.IsNominal ∧ scaledOrder.IsNominal ∧ spread.isCombo = true ∧
      (∃ payload, Field.encodeAll scale = .ok payload ∧
        (Segment.all [scaleSegment ⟨151, 151⟩] report).start
            ⟨0, splitFields payload ++ ["", "1"]⟩ =
          (.ok { order := { scale := scaledOrder.scale } }, ⟨10, ["", "1"]⟩)) ∧
      ∃ payload, Field.encodeAll combo = .ok payload ∧
        (Segment.all (comboSegments ⟨151, 151⟩) report).start
            ⟨0, splitFields payload ++ ["5"]⟩ =
          (.ok {
              contract := { comboLegs := spread.comboLegs },
              order := { combo := scaledOrder.combo } },
            ⟨24, ["5"]⟩) := by
  intro report scale combo
  have contract : spread.IsNominal :=
    ⟨by decide +kernel, by decide +kernel, nofun⟩
  have order : scaledOrder.IsNominal := ⟨by decide +kernel, by decide +kernel⟩
  obtain ⟨-, ⟨-, readScale⟩, -, -, -, readCombo, -⟩ :=
    segments_come_back (v := 151) (by decide) contract order 1 report
  obtain ⟨payload, encoded⟩ : ∃ payload, Field.encodeAll scale = .ok payload :=
    exists_encodeAll_iff_isShort.mpr (by decide +kernel)
  obtain ⟨payload', encoded'⟩ : ∃ payload, Field.encodeAll combo = .ok payload :=
    exists_encodeAll_iff_isShort.mpr (by decide +kernel)
  refine ⟨by decide, contract, order, rfl, ⟨payload, encoded, ?_⟩, payload', encoded', ?_⟩
  · exact readScale (by decide +kernel) payload encoded 0 ["", "1"]
  · exact (readCombo rfl "").2 (by decide +kernel) payload' encoded' 0 ["5"]

end TradeWire
