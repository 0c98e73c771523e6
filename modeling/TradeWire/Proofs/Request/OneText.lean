import TradeWire.Proofs.Order.Change
import TradeWire.Proofs.Request.Arguments
import TradeWire.Proofs.Request.Outcome

/-!
# Requests that differ in one text

Two requests of one kind are no further apart on the wire than their arguments are (`Request.near`):
first the requests with a contract, then the others. If the arguments differ in one text only, the
messages split into as many fields, with at most one that differs, just if the two texts are cut in
the same way by the terminators within them (`splits_alike_iff`).
-/

namespace TradeWire

namespace Request

/-- At a version, two requests are no further apart than their arguments are in all. -/
def Near (s t : String) (version : Int) (announced : Bool) (request other : Request) : Prop :=
  Step.distance s t version (request.plan announced).steps (other.plan announced).steps ≤
    Datum.changeItems s t request.arguments other.arguments

variable {s t : String} {version : Int} {announced : Bool}

/-! ## Requests with a contract -/

section

variable {id id' : Int} {c c' : Contract}

theorem near_marketData {ticks ticks' : Label} {snapshot snapshot' regulatory regulatory' : Bool}
    {options options' : Option (List TagValue)} :
    Near s t version announced (.marketData id c ticks snapshot regulatory options)
      (.marketData id' c' ticks' snapshot' regulatory' options') := by
  have contract := @Contract.sum_le_change s t c c'
  have neutral := @Contract.distance_neutralFields_le s t c c'
  refine Contract.distance_amongLegs_le ?_ ?_
  · refine (Nat.add_le_add (Nat.add_le_add_right (Step.distance_le_changes _ _) _)
      ((Step.distance_cons_le _ _ _ _ _).trans
        (Nat.add_le_add neutral (Step.distance_le_changes _ _)))).trans ?_
    simp [arguments, Contract.steps]
    omega
  · simp [arguments]
    omega

theorem near_historicalData {query query' : Plan.BarQuery} :
    Near s t version announced (.historicalData id c query) (.historicalData id' c' query') := by
  have contract := @Contract.sum_le_change s t c c'
  have joined := @change_joinedField_le s t query.chartOptions query'.chartOptions
  have apart (id : Int) (c : Contract) (query : Plan.BarQuery) :
      (Plan.historicalData id c query).steps =
        (Step.before Feature.syntRealtimeBars [.int 6] :: Step.always [.int id] ::
          c.steps (.since Feature.tradingClass) .always (.since Feature.tradingClass) ++
          [Step.always [.flag c.includeExpired, query.stop.field, query.barSize.field,
            query.duration.field, .int query.regularHours, query.whatToShow.field,
            .int query.dateFormat]]) ++ c.legSteps ++ [
          Step.since Feature.syntRealtimeBars [.flag query.keepUpToDate],
          Step.since Feature.linking [joinedField query.chartOptions]] := by
    simp only [Plan.historicalData, List.append_assoc, List.cons_append, List.nil_append]
  rw [Near, plan, plan, apart, apart]
  refine Contract.distance_amongLegs_le ?_ ?_
  · refine (Nat.add_le_add (Nat.add_le_add_right (Step.distance_le_changes _ _) _)
      (Step.distance_le_changes _ _)).trans ?_
    simp [arguments, Contract.steps]
    omega
  · simp [arguments]
    omega

theorem near_fundamentalData {report report' : Label}
    {options options' : Option (List TagValue)} :
    Near s t version announced (.fundamentalData id c report options)
      (.fundamentalData id' c' report' options') := by
  have contract := @Contract.sum_le_change s t c c'
  refine (distance_concat_joined_le Feature.linking [_, _, _] [_, _, _] options options').trans ?_
  refine (Nat.add_le_add_right (Step.distance_le_changes _ _) _).trans ?_
  simp [arguments]
  omega

theorem distance_optionSteps_le {given given' underlying underlying' : Number}
    {options options' : Option (List TagValue)} :
    Step.distance s t version (Plan.optionSteps id c given underlying options)
        (Plan.optionSteps id' c' given' underlying' options') ≤
      jump id id' + (describe c).change s t (describe c') + jump given given' +
        jump underlying underlying' + (describe options).change s t (describe options') := by
  have apart (id : Int) (c : Contract) (given underlying : Number)
      (options : Option (List TagValue)) : Plan.optionSteps id c given underlying options =
        (Step.always [.int 3, .int id] :: c.steps .always .always (.since Feature.tradingClass) ++
          [Step.always [given.field, underlying.field]]) ++
        [Step.since Feature.linking [countField (options.getD []), joinedField options]] := by
    rw [List.append_assoc]
    rfl
  rw [apart, apart]
  refine (distance_concat_joined_le Feature.linking _ _ options options').trans ?_
  refine Nat.add_le_add_right (Contract.distance_among_le ?_) _
  simp
  omega

/-- The exchange and the primary exchange are sent as one, so both decide. -/
theorem near_contractDetails :
    Near s t version announced (.contractDetails id c) (.contractDetails id' c') := by
  suffices near : Step.distance s t version (Plan.contractDetails id c).steps
      (Plan.contractDetails id' c').steps ≤ jump id id' + (describe c).change s t (describe c') by
    simpa [Near, plan, arguments] using near
  by_cases same : c.exchange = c'.exchange ∧ c.primaryExchange = c'.primaryExchange
  · have attached : Plan.attachedExchange c = Plan.attachedExchange c' := by
      rw [Plan.attachedExchange, Plan.attachedExchange, same.1, same.2]
    have parts := @Contract.sum_le_change s t c c'
    refine (Step.distance_le_changes _ _).trans ?_
    simp [Plan.contractDetails, attached, same] at parts ⊢
    omega
  · refine (Step.distance_le_two _ _).trans ?_
    rw [Contract.change_contract]
    rcases not_and_or.mp same with differ | differ <;> rw [jump_of_ne differ] <;> omega

theorem near_placeOrder {order order' : Order} :
    Near s t version announced (.placeOrder id c order) (.placeOrder id' c' order') := by
  refine (Order.distance_steps_le _ _ _ _ _ _).trans ?_
  simp [arguments]
  omega

end

/-! ## Other requests -/

theorem near_executions {id id' : Int} {filter filter' : ExecutionFilter} :
    Near s t version announced (.executions id filter) (.executions id' filter') := by
  refine (Step.distance_le_changes [_, _, _] [_, _, _]).trans ?_
  simp only [arguments, Datum.changeItems]
  rw [@Holder.change_eq_sum ExecutionFilter]
  simp [Holder.attributes, Holder.kind, Holder.changeIn, Attribute.of, Datum.selecting]

theorem near_scannerSubscription {id id' : Int} {subscription subscription' : ScannerSubscription}
    {options filters options' filters' : Option (List TagValue)} :
    Near s t version announced (.scannerSubscription id subscription options filters)
      (.scannerSubscription id' subscription' options' filters') := by
  have joined := @change_joinedField_le s t options options'
  have joined' := @change_joinedField_le s t filters filters'
  refine (Step.distance_le_changes _ _).trans ?_
  simp only [arguments, Datum.changeItems]
  rw [@Holder.change_eq_sum ScannerSubscription]
  simp [plan, Plan.scannerSubscription, Holder.attributes, Holder.kind, Holder.changeIn,
    Attribute.of, Datum.selecting]
  omega

theorem distance_one_le {fields others : List Field} (items items' : List Datum)
    (near : Field.changes s t fields others ≤ Datum.changeItems s t items items') :
    Step.distance s t version [.always fields] [.always others] ≤
      Datum.changeItems s t items items' :=
  ((Step.distance_cons_le _ _ _ _ _).trans (Field.distance_le_changes _ _)).trans near

/-- **No two requests of one kind are further apart than their arguments.** -/
theorem near {request other : Request} (same : request.kind = other.kind) :
    Near s t version announced request other := by
  cases request <;> cases other <;> cases same
  case marketData.marketData.refl => exact near_marketData
  case historicalData.historicalData.refl => exact near_historicalData
  case fundamentalData.fundamentalData.refl => exact near_fundamentalData
  case contractDetails.contractDetails.refl => exact near_contractDetails
  case placeOrder.placeOrder.refl => exact near_placeOrder
  case executions.executions.refl => exact near_executions
  case scannerSubscription.scannerSubscription.refl => exact near_scannerSubscription
  case impliedVolatility.impliedVolatility.refl | optionPrice.optionPrice.refl =>
    refine distance_optionSteps_le.trans ?_
    simp [arguments]
    omega
  case tickByTick.tickByTick.refl | exerciseOptions.exerciseOptions.refl |
      marketDepth.marketDepth.refl | headTimestamp.headTimestamp.refl |
      histogram.histogram.refl =>
    refine Contract.distance_among_le ?_
    simp [arguments]
    omega
  case realTimeBars.realTimeBars.refl options _ _ _ _ _ options' =>
    have joined := @change_joinedField_le s t options options'
    refine Contract.distance_among_le ?_
    simp [arguments]
    omega
  case historicalTicks.historicalTicks.refl query _ _ query' =>
    have joined := @change_joinedField_le s t query.options query'.options
    refine Contract.distance_among_le ?_
    simp [arguments]
    omega
  case newsArticle.newsArticle.refl options _ _ _ options' |
      historicalNews.historicalNews.refl options _ _ _ _ _ _ options' =>
    have joined := @change_joinedField_le s t options options'
    refine (Step.distance_le_changes [_, _] [_, _]).trans ?_
    simp [arguments]
    omega
  case replaceAdvisorData.replaceAdvisorData.refl =>
    refine (Step.distance_le_changes [_, _] [_, _]).trans ?_
    simp [arguments]
    omega
  case cancelMarketDepth.cancelMarketDepth.refl =>
    refine (Step.distance_le_changes [_, _] [_, _]).trans ?_
    simp [arguments]
  case depthExchanges.depthExchanges.refl | familyCodes.familyCodes.refl |
      newsProviders.newsProviders.refl =>
    exact Step.distance_le_changes [] []
  -- one step with all of the arguments in it
  case cancelAll.cancelAll.refl | openOrders.openOrders.refl | allOpenOrders.allOpenOrders.refl |
      positions.positions.refl | cancelPositions.cancelPositions.refl |
      managedAccounts.managedAccounts.refl | scannerParameters.scannerParameters.refl |
      cancelNewsBulletins.cancelNewsBulletins.refl | currentTime.currentTime.refl =>
    refine distance_one_le [] [] ?_
    simp
  case smartComponents.smartComponents.refl | matchingSymbols.matchingSymbols.refl |
      updateGroup.updateGroup.refl | accountUpdates.accountUpdates.refl |
      subscribeGroup.subscribeGroup.refl | verify.verify.refl |
      authenticateMessage.authenticateMessage.refl =>
    refine distance_one_le [_, _] [_, _] ?_
    simp
  case accountSummary.accountSummary.refl | positionsMulti.positionsMulti.refl | pnl.pnl.refl |
      authenticate.authenticate.refl =>
    refine distance_one_le [_, _, _] [_, _, _] ?_
    simp
  case accountUpdatesMulti.accountUpdatesMulti.refl | pnlSingle.pnlSingle.refl =>
    refine distance_one_le [_, _, _, _] [_, _, _, _] ?_
    simp
  case optionParameters.optionParameters.refl =>
    refine distance_one_le [_, _, _, _, _] [_, _, _, _, _] ?_
    simp
  all_goals
    refine distance_one_le [_] [_] ?_
    simp

/-! ## One text -/

/-- Two requests of one kind with the same arguments but for one text, which is `s` in the one and
`t` in the other and does not decide which fields are sent. -/
structure DifferIn (s t : Label) (request other : Request) : Prop where
  kind : request.kind = other.kind
  arguments : Datum.Apart s t (.list request.arguments) (.list other.arguments)

theorem DifferIn.distance_fieldsAt_le {s t : Label} {request other : Request}
    (differ : request.DifferIn s t other) (announced : Bool) (version : Int) :
    Field.distance (s.getD "") (t.getD "") ((request.plan announced).fieldsAt version)
      ((other.plan announced).fieldsAt version) ≤ 1 := by
  have arguments := Datum.change_le_one_of_apart differ.arguments
  have steps := @near (s.getD "") (t.getD "") version announced request other differ.kind
  rw [Datum.change] at arguments
  rw [Plan.fieldsAt, Plan.fieldsAt, kind_plan, kind_plan, differ.kind]
  refine (Field.distance_cons_le _ _ _ _).trans ?_
  rw [Field.change_self, Nat.zero_add]
  exact steps.trans arguments

end Request

theorem payloadAt_of_data_eq {client : Client} {around : Surroundings} {request : Request}
    {payload : Bytes} (sent : (client.request around request).data = [Frame.write payload]) :
    (request.plan client.announced).payloadAt client.serverVersion = .ok payload := by
  obtain ⟨payload', planned, -, same⟩ :=
    exists_payloadAt_of_mem_data (sent ▸ List.mem_singleton_self (Frame.write payload))
  obtain ⟨-, rfl⟩ := List.append_inj same rfl
  exact planned

/-- **What a text can do to the fields of a message.** Let two requests differ in one text only, and
let both be sent. The peer then splits the messages into as many fields, of which at most one
differs, if the texts are cut by the terminators within them into as many pieces, of which at most
one differs, and otherwise only if the messages are the same. Texts without a terminator are one
piece each. -/
theorem splits_alike_iff {client : Client} {around around' : Surroundings} {s t : Label}
    {request other : Request} (differ : request.DifferIn s t other) {payload payload' : Bytes}
    (sent : (client.request around request).data = [Frame.write payload])
    (sent' : (client.request around' other).data = [Frame.write payload']) :
    SameButOne (splitFields payload) (splitFields payload') ↔
      payload = payload' ∨ SameButOne (Text.pieces (s.getD "")) (Text.pieces (t.getD "")) :=
  sameButOne_splitFields_iff (differ.distance_fieldsAt_le client.announced client.serverVersion)
    (Plan.payloadAt_eq_ok_iff.mp (payloadAt_of_data_eq sent)).2
    (Plan.payloadAt_eq_ok_iff.mp (payloadAt_of_data_eq sent')).2

/-- Two filters of executions that differ in the symbol. -/
theorem splits_alike_filter :
    Request.DifferIn (some "A") (some "BC") (.executions 7 { symbol := some "A" })
        (.executions 7 { symbol := some "BC" }) ∧
      (Client.request ⟨.connected, 151, "", 0, Label.blank, false⟩ ⟨none, []⟩
        (.executions 7 { symbol := some "A" })).data =
          [Frame.write [55, 0, 51, 0, 55, 0, 48, 0, 0, 0, 65, 0, 0, 0, 0]] ∧
      (Client.request ⟨.connected, 151, "", 0, Label.blank, false⟩ ⟨none, []⟩
        (.executions 7 { symbol := some "BC" })).data =
          [Frame.write [55, 0, 51, 0, 55, 0, 48, 0, 0, 0, 66, 67, 0, 0, 0, 0]] ∧
      SameButOne (splitFields [55, 0, 51, 0, 55, 0, 48, 0, 0, 0, 65, 0, 0, 0, 0])
        (splitFields [55, 0, 51, 0, 55, 0, 48, 0, 0, 0, 66, 67, 0, 0, 0, 0]) :=
  have differ : Request.DifferIn (some "A") (some "BC") (.executions 7 { symbol := some "A" })
      (.executions 7 { symbol := some "BC" }) :=
    ⟨rfl, .item [_] [] (.part "ExecutionFilter" "symbol" [_, _, _] _ (by decide) .text)⟩
  have sent : (Client.request ⟨.connected, 151, "", 0, Label.blank, false⟩ ⟨none, []⟩
      (.executions 7 { symbol := some "A" })).data =
        [Frame.write [55, 0, 51, 0, 55, 0, 48, 0, 0, 0, 65, 0, 0, 0, 0]] := by decide
  have sent' : (Client.request ⟨.connected, 151, "", 0, Label.blank, false⟩ ⟨none, []⟩
      (.executions 7 { symbol := some "BC" })).data =
        [Frame.write [55, 0, 51, 0, 55, 0, 48, 0, 0, 0, 66, 67, 0, 0, 0, 0]] := by decide
  ⟨differ, sent, sent', (splits_alike_iff differ sent sent').mpr (.inr (by decide))⟩

/-- A pattern with a terminator in it makes one field into two. -/
theorem splits_apart_pattern :
    Request.DifferIn (some "A") (some "A\x00B") (.matchingSymbols 1 (some "A"))
        (.matchingSymbols 1 (some "A\x00B")) ∧
      (Client.request ⟨.connected, 151, "", 0, Label.blank, false⟩ ⟨none, []⟩
        (.matchingSymbols 1 (some "A"))).data = [Frame.write [56, 49, 0, 49, 0, 65, 0]] ∧
      (Client.request ⟨.connected, 151, "", 0, Label.blank, false⟩ ⟨none, []⟩
        (.matchingSymbols 1 (some "A\x00B"))).data =
          [Frame.write [56, 49, 0, 49, 0, 65, 0, 66, 0]] ∧
      ¬ SameButOne (splitFields [56, 49, 0, 49, 0, 65, 0])
        (splitFields [56, 49, 0, 49, 0, 65, 0, 66, 0]) :=
  ⟨⟨rfl, .item [_] [] .text⟩, by decide, by decide, by decide⟩

end TradeWire
