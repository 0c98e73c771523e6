import TradeWire.Proofs.Order.Itemised
import TradeWire.Proofs.Request.Change

/-!
# Orders that differ in one text

The fields of two requests to place an order are no further apart than what they are written from
(`Order.distance_steps_le`). The request is taken apart into groups of fields. A group that is there
only for some orders is decided by a text that is equal, or the orders are far apart; the number of
conditions, of legs and of pairs likewise.
-/

namespace TradeWire

variable {s t : String} {version : Int}

/-! ## Conditions -/

namespace Datum

theorem change_field_le (one other : Datum) :
    one.field.change s t other.field ≤ one.change s t other := by
  unfold change
  split
  · exact le_rfl
  · exact (Field.change_self _).trans_le (Nat.zero_le _)
  · exact (Field.change_self _).trans_le (Nat.zero_le _)
  · exact Field.change_le_jump field _ _

theorem changes_fields_le (kind : String) (attributes others : List (String × Datum)) :
    Field.changes s t (attributes.map (·.2.field)) (others.map (·.2.field)) ≤
      changeAttributes s t kind attributes others := by
  induction attributes generalizing others with
  | nil =>
    cases others with
    | nil => exact Nat.zero_le _
    | cons other others => exact le_rfl
  | cons first attributes ih =>
    cases others with
    | nil => exact le_rfl
    | cons other others =>
      obtain ⟨name, one⟩ := first
      obtain ⟨name', other⟩ := other
      rw [List.map_cons, List.map_cons, Field.changes, changeAttributes]
      refine Nat.add_le_add ?_ (ih others)
      split_ifs
      · exact Field.change_le_jump field _ _
      · exact change_field_le _ _
      · exact Field.change_le_two _ _

end Datum

namespace Condition

theorem numberField_eq_of_kind {c other : Condition} (same : c.kind = other.kind) :
    c.numberField = other.numberField := by
  have number (c : Condition) : c.number? = List.lookup c.kind [
      ("PriceCondition", 1), ("TimeCondition", 3), ("MarginCondition", 4),
      ("ExecutionCondition", 5), ("VolumeCondition", 6), ("PercentChangeCondition", 7)] := by
    rcases c with ⟨_, _ | _ | ⟨_, _ | _ | _ | ⟨_, _, _ | _ | _ | _⟩⟩⟩ <;> rfl
  rw [numberField, numberField, number, number, same]

theorem distance_numberedFields_le (c other : Condition) :
    Field.distance s t c.numberedFields other.numberedFields ≤
      (describe c).change s t (describe other) := by
  show _ ≤ (Datum.record _ _).change s t (.record _ _)
  rw [Datum.change]
  split_ifs with same
  · have free : (c.kind, "is_conjunction_connection") ∉ Datum.selecting := by
      simp [Datum.selecting]
    rw [Datum.changeAttributes, if_pos rfl, if_neg free, Datum.change_flag]
    refine (Field.distance_le_changes _ _).trans ?_
    rw [← c.map_items, ← other.map_items, items, items]
    simp only [List.map_cons, List.map_map, Field.changes, numberField_eq_of_kind same,
      Field.change_self, Nat.zero_add]
    refine Nat.add_le_add ?_ (Datum.changes_fields_le _ _ _)
    exact Field.change_le_jump (fun joined : Bool => .text (if joined then "a" else "o")) _ _
  · exact Field.distance_le_two _ _

end Condition

/-! ## Groups of fields -/

namespace Order

/-- What is traded. Older servers read other numbers, but these come of the same ones. -/
theorem Terms.distance_steps_le (a b : Terms) :
    Step.distance s t version a.steps b.steps ≤
      a.action.field.change s t b.action.field + jump a.totalQuantity b.totalQuantity +
        a.orderType.field.change s t b.orderType.field + jump a.limitPrice b.limitPrice +
        jump a.auxPrice b.auxPrice := by
  have quantity := @Step.distance_le_jump s t version _ quantitySteps a.totalQuantity
    b.totalQuantity
  have limit := @Step.distance_le_jump s t version _ (priceSteps · Feature.orderComboLegsPrice)
    a.limitPrice b.limitPrice
  have aux := @Step.distance_le_jump s t version _ (priceSteps · Feature.trailingPercent)
    a.auxPrice b.auxPrice
  have action := @Field.distance_le_changes s t [a.action.field] [b.action.field]
  have kind := @Field.distance_le_changes s t [a.orderType.field] [b.orderType.field]
  have traded := @Step.distance_cons_le s t version .always [a.action.field] [b.action.field]
    (quantitySteps a.totalQuantity) (quantitySteps b.totalQuantity)
  have priced := @Step.distance_cons_le s t version .always [a.orderType.field] [b.orderType.field]
    (priceSteps a.limitPrice Feature.orderComboLegsPrice)
    (priceSteps b.limitPrice Feature.orderComboLegsPrice)
  refine (Step.distance_append_le _ _ _ _).trans ?_
  refine (Nat.add_le_add_right (Step.distance_append_le _ _ _ _) _).trans ?_
  simp only [Field.changes, Step.always] at *
  omega

/-! ### Combinations -/

theorem distance_legSteps_le (legs others : Option (List ComboLeg)) :
    Step.distance s t version
        (.always [countField (legs.getD [])] :: (legs.getD []).flatMap Contract.orderLegSteps)
        (.always [countField (others.getD [])] :: (others.getD []).flatMap Contract.orderLegSteps) ≤
      (describe legs).change s t (describe others) := by
  refine distance_counted_le
    (fun legs => Step.fieldsAt version (legs.flatMap Contract.orderLegSteps))
    (fun legs others _ => ?_) legs others
  have each (legs : List ComboLeg) : Step.fieldsAt version (legs.flatMap Contract.orderLegSteps) =
      legs.flatMap fun leg => Step.fieldsAt version (Contract.orderLegSteps leg) := by
    rw [Step.fieldsAt, List.filter_flatMap, List.flatMap_assoc]
    rfl
  rw [each, each]
  refine Datum.distance_flatMap_le (fun leg other => ?_) legs others
  refine (Step.distance_le_changes (Contract.orderLegSteps leg)
    (Contract.orderLegSteps other)).trans ?_
  rw [Contract.change_comboLeg]
  simp [Contract.orderLegSteps]
  omega

theorem distance_orderLegs_le (legs others : Option (List OrderLeg)) :
    Field.distance s t (countField (legs.getD []) :: (legs.getD []).map (·.price.field))
        (countField (others.getD []) :: (others.getD []).map (·.price.field)) ≤
      (describe legs).change s t (describe others) := by
  refine distance_counted_le (·.map (·.price.field)) (fun legs others _ => ?_) legs others
  rw [List.map_eq_flatMap, List.map_eq_flatMap]
  refine Datum.distance_flatMap_le (fun leg other => ?_) legs others
  refine (Field.distance_le_changes _ _).trans ?_
  rw [Holder.change_eq_sum]
  simp [Holder.attributes, Holder.kind, Holder.changeIn, Attribute.of, Datum.selecting]

theorem Combo.distance_steps_le (c c' : Contract) (a b : Combo) :
    Step.distance s t version (comboSteps c a) (comboSteps c' b) ≤
      jump c.secType c'.secType + ((describe c.comboLegs).change s t (describe c'.comboLegs) +
        ((describe a.legs).change s t (describe b.legs) +
          (describe a.routingParams).change s t (describe b.routingParams))) := by
  refine Field.distance_le_jump_add fun same => ?_
  have combo : c.isCombo = c'.isCombo := by rw [Contract.isCombo, Contract.isCombo, same]
  rw [comboSteps, comboSteps, combo]
  cases c'.isCombo with
  | false => exact (Field.distance_self _).trans_le (Nat.zero_le _)
  | true =>
    refine (Step.distance_append_le _ _ _ _).trans (Nat.add_le_add (distance_legSteps_le _ _) ?_)
    refine (Step.distance_cons_le _ _ _ _ _).trans (Nat.add_le_add (distance_orderLegs_le _ _) ?_)
    exact (Step.distance_cons_le _ _ _ _ _).trans (distance_countedPairs_le _ _)

/-! ### Hedges, scales and strategies -/

theorem Volatility.distance_steps_le (a b : Volatility) :
    Step.distance s t version a.steps b.steps ≤
      jump a.hedgeOrderType b.hedgeOrderType + (jump a.level b.level +
        jump a.levelType b.levelType + jump a.hedgeAuxPrice b.hedgeAuxPrice +
        jump a.hedgeContractId b.hedgeContractId +
        a.hedgeSettlingFirm.field.change s t b.hedgeSettlingFirm.field +
        a.hedgeClearingAccount.field.change s t b.hedgeClearingAccount.field +
        a.hedgeClearingIntent.field.change s t b.hedgeClearingIntent.field +
        a.hedgeOpenClose.field.change s t b.hedgeOpenClose.field +
        jump a.hedgeShortSale b.hedgeShortSale + jump a.hedgeShortSaleSlot b.hedgeShortSaleSlot +
        a.hedgeLocation.field.change s t b.hedgeLocation.field +
        jump a.continuousUpdate b.continuousUpdate +
        jump a.referencePriceType b.referencePriceType) := by
  refine Field.distance_le_jump_add fun same => ?_
  have hedged : a.isHedged = b.isHedged := by rw [isHedged, isHedged, same]
  refine (Step.distance_le_changes a.steps b.steps).trans ?_
  simp only [steps, hedgeFields, hedged, same, Step.changes, Step.span_always, Step.span_since,
    Step.fields_always, Step.fields_since, if_true, Field.changes, Field.change_self,
    Field.change_number, Field.change_int, Field.change_flag]
  cases b.isHedged <;> simp <;> omega

/-- A text is no increment, so what is no text decides whether there is one. -/
theorem Scale.hasIncrement_eq_or_far (a b : Scale) :
    a.hasIncrement = b.hasIncrement ∨ a.priceIncrement.change s t b.priceIncrement = 2 := by
  by_cases texts : a.priceIncrement.text?.isSome ∧ b.priceIncrement.text?.isSome
  · have none (field : Field) (text : field.text?.isSome) : isPositive field = false := by
      cases field <;> first | rfl | cases text
    rw [hasIncrement, hasIncrement, none _ texts.1, none _ texts.2, Bool.and_false, Bool.and_false]
    exact .inl rfl
  · by_cases same : a.priceIncrement = b.priceIncrement
    · rw [hasIncrement, hasIncrement, same]
      exact .inl rfl
    · refine .inr ?_
      unfold Field.change
      split
      · rename_i one two
        rw [one, two] at texts
        exact absurd ⟨rfl, rfl⟩ texts
      · exact if_neg same

/-- The level size is in two steps, of which one is written. -/
theorem Scale.distance_steps_le (a b : Scale) :
    Step.distance s t version a.steps b.steps ≤
      a.initialLevelSize.change s t b.initialLevelSize +
        a.subsequentLevelSize.change s t b.subsequentLevelSize +
        a.priceIncrement.change s t b.priceIncrement +
        a.priceAdjustValue.change s t b.priceAdjustValue +
        a.priceAdjustInterval.change s t b.priceAdjustInterval +
        a.profitOffset.change s t b.profitOffset + a.autoReset.change s t b.autoReset +
        a.initialPosition.change s t b.initialPosition +
        a.initialFillQuantity.change s t b.initialFillQuantity +
        a.randomPercent.change s t b.randomPercent := by
  rcases Scale.hasIncrement_eq_or_far (s := s) (t := t) a b with same | far
  · have details : Field.changes s t a.detailFields b.detailFields ≤
        a.priceAdjustValue.change s t b.priceAdjustValue +
          a.priceAdjustInterval.change s t b.priceAdjustInterval +
          a.profitOffset.change s t b.profitOffset + a.autoReset.change s t b.autoReset +
          a.initialPosition.change s t b.initialPosition +
          a.initialFillQuantity.change s t b.initialFillQuantity +
          a.randomPercent.change s t b.randomPercent := by
      rw [detailFields, detailFields, same]
      cases b.hasIncrement <;> simp
      omega
    have sizes : Field.distance s t [a.initialLevelSize, a.subsequentLevelSize]
        [b.initialLevelSize, b.subsequentLevelSize] ≤
          a.initialLevelSize.change s t b.initialLevelSize +
            a.subsequentLevelSize.change s t b.subsequentLevelSize :=
      Field.distance_le_changes _ _
    have size : Field.distance s t [.text "", a.initialLevelSize] [.text "", b.initialLevelSize] ≤
        a.initialLevelSize.change s t b.initialLevelSize +
          a.subsequentLevelSize.change s t b.subsequentLevelSize := by
      refine (Field.distance_le_changes _ _).trans ?_
      simp
    refine (Step.distance_since_before_le sizes size _ _).trans ?_
    refine (Nat.add_le_add_left (Step.distance_le_changes _ _) _).trans ?_
    simp
    omega
  · exact (Step.distance_le_two _ _).trans (by omega)

theorem Hedge.distance_fields_le (a b : Hedge) :
    Field.distance s t a.fields b.fields ≤
      jump a.kind b.kind + a.param.field.change s t b.param.field := by
  refine Field.distance_le_jump_add fun same => ?_
  refine (Field.distance_le_changes _ _).trans ?_
  rw [fields, fields, same]
  cases b.kind.isGiven <;> simp

theorem Algo.distance_fields_le (a b : Algo) :
    Field.distance s t a.fields b.fields ≤
      jump a.strategy b.strategy + (describe a.params).change s t (describe b.params) := by
  refine Field.distance_le_jump_add fun same => ?_
  rw [fields, fields, same]
  refine (Field.distance_cons_le _ _ _ _).trans ?_
  rw [Field.change_self, Nat.zero_add]
  cases b.strategy.isGiven with
  | false => exact (Field.distance_self _).trans_le (Nat.zero_le _)
  | true => exact distance_countedPairs_le a.params b.params

/-! ### Benchmarks and conditions -/

theorem Benchmark.distance_fields_le (type type' : Label) (a b : Benchmark) :
    Field.distance s t (a.fields type) (b.fields type') ≤
      jump type type' + (jump a.referenceContractId b.referenceContractId +
        jump a.isDecrease b.isDecrease + jump a.peggedChangeAmount b.peggedChangeAmount +
        jump a.referenceChangeAmount b.referenceChangeAmount +
        a.referenceExchange.field.change s t b.referenceExchange.field) := by
  refine Field.distance_le_jump_add fun same => ?_
  refine (Field.distance_le_changes _ _).trans ?_
  rw [fields, fields, same]
  split_ifs <;> simp
  omega

theorem Conditional.distance_fields_le (a b : Conditional) :
    Field.distance s t a.fields b.fields ≤
      jump a.ignoreRegularHours b.ignoreRegularHours + (jump a.cancelOrder b.cancelOrder +
        (describe a.conditions).change s t (describe b.conditions)) := by
  refine Field.distance_le_jump_add fun ignore => Field.distance_le_jump_add fun cancel => ?_
  rw [fields, fields, ignore, cancel]
  refine distance_counted_le (fun conditions => conditions.flatMap Condition.numberedFields ++
    if conditions.isEmpty then [] else [.flag b.ignoreRegularHours, .flag b.cancelOrder])
    (fun conditions others lengths => ?_) _ _
  have empty : conditions.isEmpty = others.isEmpty := by
    rw [Bool.eq_iff_iff, List.isEmpty_iff_length_eq_zero, List.isEmpty_iff_length_eq_zero,
      lengths]
  rw [empty]
  refine (Field.distance_append_le _ _ _ _).trans ?_
  rw [Field.distance_self]
  exact Datum.distance_flatMap_le Condition.distance_numberedFields_le conditions others

/-! ### Attributes that are no single scalar -/

theorem change_softDollarTier (tier other : SoftDollarTier) :
    (describe tier).change s t (describe other) =
      tier.name.field.change s t other.name.field + tier.value.field.change s t other.value.field +
        tier.displayName.field.change s t other.displayName.field := by
  rw [Holder.change_eq_sum]
  simp [Holder.attributes, Holder.kind, Holder.changeIn, Attribute.of, Datum.selecting, add_assoc]

theorem change_management_le (management other : Option Bool) :
    (management.elim .empty Field.flag).change s t (other.elim .empty .flag) ≤
      (describe management).change s t (describe other) := by
  cases management <;> cases other <;> exact le_rfl

/-! ## The request -/

def groups (id : Int) (contract : Contract) (o : Order) : List (List Step) := [
  messageVersion,
  [.always [.int id]],
  contractSteps contract,
  o.terms.steps,
  [.always o.handlingFields],
  comboSteps contract o.combo,
  o.allotmentSteps,
  o.restrictionSteps,
  o.volatility.steps,
  o.trail.steps,
  o.scale.steps,
  [.since Feature.scaleTable [o.scale.table.field, o.handling.activeStartTime.field,
    o.handling.activeStopTime.field]],
  [.since Feature.hedgeOrders o.hedge.fields],
  [.since Feature.optOutSmartRouting [.flag o.routing.optOutSmartRouting],
    .since Feature.ptaOrders [o.clearing.clearingAccount.field, o.clearing.clearingIntent.field],
    .since Feature.notHeld [.flag o.notHeld]],
  [.since Feature.deltaNeutral contract.neutralFields],
  [.since Feature.algoOrders o.algo.fields],
  [.since Feature.algoId [o.algo.algoId.field], .always [.flag o.whatIf],
    .since Feature.linking [joinedField o.miscOptions],
    .since Feature.orderSolicited [.flag o.solicited],
    .since Feature.randomizeSizeAndPrice [.flag o.range.randomizeSize,
      .flag o.range.randomizePrice]],
  [.since Feature.peggedToBenchmark (o.benchmark.fields o.terms.orderType)],
  [.since Feature.peggedToBenchmark o.conditional.fields],
  [.since Feature.peggedToBenchmark o.adjustment.fields],
  o.laterSteps]

theorem steps_eq_flatten (id : Int) (contract : Contract) (o : Order) :
    o.steps id contract = (groups id contract o).flatten := by
  simp only [steps, groups, scaleSteps, strategySteps, peggedSteps, List.flatten_cons,
    List.flatten_nil, List.append_assoc, List.cons_append, List.nil_append, List.append_nil]

theorem jump_orderType_le_change (o other : Order) :
    jump o.terms.orderType other.terms.orderType ≤ (describe o).change s t (describe other) := by
  have found : Attribute.of "order_type" (·.terms.orderType)
      (fun s v => { s with terms.orderType := v }) ∈
        (Holder.attributes : List (Attribute Order)) := by
    repeat constructor
  refine le_trans ?_ ((List.single_le_sum (fun _ _ => Nat.zero_le _) _
    (List.mem_map_of_mem found)).trans_eq (Holder.change_eq_sum o other).symm)
  simp [Holder.changeIn, Holder.kind, Attribute.of, Datum.selecting]

/-- **No two requests to place an order are further apart than what they are written from.** -/
theorem distance_steps_le (id id' : Int) (c c' : Contract) (o o' : Order) :
    Step.distance s t version (o.steps id c) (o'.steps id' c') ≤
      jump id id' + (describe c).change s t (describe c') +
        (describe o).change s t (describe o') := by
  -- the two texts that decide about more than one group
  by_cases secType : c.secType = c'.secType
  case neg =>
    have far := @Contract.jump_secType_le_change s t c c'
    rw [jump_of_ne secType] at far
    exact (Step.distance_le_two _ _).trans (by omega)
  by_cases orderType : o.terms.orderType = o'.terms.orderType
  case neg =>
    have far := @jump_orderType_le_change s t o o'
    rw [jump_of_ne orderType] at far
    exact (Step.distance_le_two _ _).trans (by omega)
  rw [steps_eq_flatten, steps_eq_flatten]
  refine (Step.distance_flatten_le ?_).trans ?_
  · rfl
  have same (steps others : List Step) := @Step.distance_le_changes s t version steps others
  have one {first : Int} {fields others : List Field} {n : ℕ}
      (near : Field.distance s t fields others ≤ n) :
      Step.distance s t version [.since first fields] [.since first others] ≤ n :=
    (Step.distance_cons_le _ _ _ _ _).trans near
  -- a bound for each group, in the order of `groups`
  refine (Nat.add_le_add (same _ _) <| Nat.add_le_add (same _ _) <| Nat.add_le_add (same _ _) <|
    Nat.add_le_add (Terms.distance_steps_le _ _) <|
    Nat.add_le_add (same _ _) <|
    Nat.add_le_add (Combo.distance_steps_le _ _ _ _) <|
    Nat.add_le_add (same _ _) <| Nat.add_le_add (same _ _) <|
    Nat.add_le_add (Volatility.distance_steps_le _ _) <|
    Nat.add_le_add (same _ _) <|
    Nat.add_le_add (Scale.distance_steps_le _ _) <|
    Nat.add_le_add (same _ _) <|
    Nat.add_le_add (one (Hedge.distance_fields_le _ _)) <|
    Nat.add_le_add (same _ _) <|
    Nat.add_le_add (one (Contract.distance_neutralFields_le _ _)) <|
    Nat.add_le_add (one (Algo.distance_fields_le _ _)) <|
    Nat.add_le_add (same _ _) <|
    Nat.add_le_add (one (Benchmark.distance_fields_le _ _ _ _)) <|
    Nat.add_le_add (one (Conditional.distance_fields_le _ _)) <|
    Nat.add_le_add (same _ _) <| Nat.add_le_add (same _ _) le_rfl).trans ?_
  -- no attribute is in two of the bounds, so they are part of the sum over all attributes
  have contract := @Contract.sum_le_change s t c c'
  have joined := @change_joinedField_le s t o.miscOptions o'.miscOptions
  have tier := @change_softDollarTier s t o.softDollarTier o'.softDollarTier
  have management := @change_management_le s t o.usePriceManagement o'.usePriceManagement
  have whole := @Holder.change_eq_sum Order _ _ s t o o'
  simp only [Holder.attributes, List.map_cons, List.map_nil, List.sum_cons, List.sum_nil,
    Holder.changeIn, Attribute.of, Holder.kind, Datum.selecting, List.mem_cons, Prod.mk.injEq,
    String.reduceEq, and_false, or_false, if_false, if_true, List.not_mem_nil,
    Datum.change_label, Datum.change_int, Datum.change_flag, Datum.change_number,
    Datum.change_scalar, Datum.jump_label, and_self, or_true, orderType, jump_self] at whole
  simp only [messageVersion, contractSteps, Contract.steps, handlingFields, allotmentSteps,
    restrictionSteps, Trail.steps, Adjustment.fields, laterSteps, List.cons_append,
    List.nil_append, Step.changes, Step.span_always, Step.span_since, Step.fields_always,
    Step.fields_since, if_true, Field.changes, Field.change_int, Field.change_flag,
    Field.change_number, Field.change_self, Field.changes_self, jump_self, secType,
    orderType] at contract ⊢
  grind -ring

end Order

end TradeWire
