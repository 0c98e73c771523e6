import TradeWire.Proofs.Frame.Stream
import TradeWire.Proofs.Request.Plan
import TradeWire.Proofs.Wire.Payload
import TradeWire.Session.Basic

/-!
# How a request comes out

Every request comes out in exactly one of three ways: one frame is sent, one problem is reported, or
an exception leaves it before anything is seen from outside (`request_comes_out`). The table of
kinds says which message each request is, apart from the plans that write it; `givenId` is the id
under which a problem of the connection is reported.
-/

namespace TradeWire

/-! ## What a request is -/

namespace Request

def kind : Request → Outgoing
  -- Market data
  | .marketData .. => .reqMktData
  | .cancelMarketData .. => .cancelMktData
  | .marketDataType .. => .reqMarketDataType
  | .smartComponents .. => .reqSmartComponents
  | .marketRule .. => .reqMarketRule
  | .tickByTick .. => .reqTickByTickData
  | .cancelTickByTick .. => .cancelTickByTickData
  -- Options
  | .impliedVolatility .. => .reqCalcImpliedVolat
  | .optionPrice .. => .reqCalcOptionPrice
  | .cancelImpliedVolatility .. => .cancelCalcImpliedVolat
  | .cancelOptionPrice .. => .cancelCalcOptionPrice
  | .exerciseOptions .. => .exerciseOptions
  -- Market depth and five second bars
  | .depthExchanges => .reqMktDepthExchanges
  | .marketDepth .. => .reqMktDepth
  | .cancelMarketDepth .. => .cancelMktDepth
  | .realTimeBars .. => .reqRealTimeBars
  | .cancelRealTimeBars .. => .cancelRealTimeBars
  -- Orders
  | .placeOrder .. => .placeOrder
  | .cancelOrder .. => .cancelOrder
  | .cancelAll => .reqGlobalCancel
  | .openOrders => .reqOpenOrders
  | .bindOpenOrders .. => .reqAutoOpenOrders
  | .allOpenOrders => .reqAllOpenOrders
  | .orderIds .. => .reqIds
  | .completedOrders .. => .reqCompletedOrders
  -- Accounts
  | .accountUpdates .. => .reqAcctData
  | .accountSummary .. => .reqAccountSummary
  | .cancelAccountSummary .. => .cancelAccountSummary
  | .accountUpdatesMulti .. => .reqAccountUpdatesMulti
  | .cancelAccountUpdatesMulti .. => .cancelAccountUpdatesMulti
  | .positions => .reqPositions
  | .cancelPositions => .cancelPositions
  | .positionsMulti .. => .reqPositionsMulti
  | .cancelPositionsMulti .. => .cancelPositionsMulti
  | .pnl .. => .reqPnl
  | .cancelPnl .. => .cancelPnl
  | .pnlSingle .. => .reqPnlSingle
  | .cancelPnlSingle .. => .cancelPnlSingle
  | .executions .. => .reqExecutions
  | .managedAccounts => .reqManagedAccts
  | .advisorData .. => .reqFa
  | .replaceAdvisorData .. => .replaceFa
  -- Reference data
  | .contractDetails .. => .reqContractData
  | .matchingSymbols .. => .reqMatchingSymbols
  | .optionParameters .. => .reqSecDefOptParams
  | .familyCodes => .reqFamilyCodes
  | .softDollarTiers .. => .reqSoftDollarTiers
  | .scannerParameters => .reqScannerParameters
  | .scannerSubscription .. => .reqScannerSubscription
  | .cancelScanner .. => .cancelScannerSubscription
  | .fundamentalData .. => .reqFundamentalData
  | .cancelFundamentalData .. => .cancelFundamentalData
  | .newsBulletins .. => .reqNewsBulletins
  | .cancelNewsBulletins => .cancelNewsBulletins
  | .newsProviders => .reqNewsProviders
  | .newsArticle .. => .reqNewsArticle
  | .historicalNews .. => .reqHistoricalNews
  -- Historical data
  | .historicalData .. => .reqHistoricalData
  | .cancelHistoricalData .. => .cancelHistoricalData
  | .headTimestamp .. => .reqHeadTimestamp
  | .cancelHeadTimestamp .. => .cancelHeadTimestamp
  | .histogram .. => .reqHistogramData
  | .cancelHistogram .. => .cancelHistogramData
  | .historicalTicks .. => .reqHistoricalTicks
  -- The service
  | .displayGroups .. => .queryDisplayGroups
  | .subscribeGroup .. => .subscribeToGroupEvents
  | .updateGroup .. => .updateDisplayGroup
  | .unsubscribeGroup .. => .unsubscribeFromGroupEvents
  | .verify .. => .verifyRequest
  | .verifyMessage .. => .verifyMessage
  | .authenticate .. => .verifyAndAuthRequest
  | .authenticateMessage .. => .verifyAndAuthMessage
  | .currentTime => .reqCurrentTime
  | .logLevel .. => .setServerLoglevel

/-- The id that a request is given, if it is given one. -/
def givenId : Request → Int
  | .marketData id .. | .cancelMarketData id | .smartComponents id .. | .tickByTick id ..
  | .cancelTickByTick id | .impliedVolatility id .. | .optionPrice id ..
  | .cancelImpliedVolatility id | .cancelOptionPrice id | .exerciseOptions id ..
  | .marketDepth id .. | .cancelMarketDepth id .. | .realTimeBars id .. | .cancelRealTimeBars id
  | .placeOrder id .. | .cancelOrder id | .accountSummary id .. | .cancelAccountSummary id
  | .accountUpdatesMulti id .. | .cancelAccountUpdatesMulti id | .positionsMulti id ..
  | .cancelPositionsMulti id | .pnl id .. | .cancelPnl id | .pnlSingle id ..
  | .cancelPnlSingle id | .executions id .. | .replaceAdvisorData id .. | .contractDetails id ..
  | .matchingSymbols id .. | .optionParameters id .. | .softDollarTiers id
  | .scannerSubscription id .. | .cancelScanner id | .fundamentalData id ..
  | .cancelFundamentalData id | .newsArticle id .. | .historicalNews id ..
  | .historicalData id .. | .cancelHistoricalData id | .headTimestamp id ..
  | .cancelHeadTimestamp id | .histogram id .. | .cancelHistogram id | .historicalTicks id ..
  | .displayGroups id | .subscribeGroup id .. | .updateGroup id .. | .unsubscribeGroup id => id
  | _ => noId

theorem kind_plan (announced : Bool) (request : Request) :
    (request.plan announced).kind = request.kind := by
  cases request <;> rfl

theorem subject_plan (announced : Bool) (request : Request) :
    (request.plan announced).subject = request.givenId := by
  cases request <;> rfl

end Request

/-! ## Ways to come out -/

/-- The ways in which a request comes out. -/
inductive Ending where
  | sent
  | reported
  | raised

/-- A right length of a payload and the payload, which ends in a zero byte and has the number of a
kind of message as its first field. -/
def IsMessage (kind : Outgoing) (data : Bytes) : Prop :=
  ∃ a b c d payload, data = a :: b :: c :: d :: payload ∧
    Frame.declared a b c d = payload.length ∧ payload.getLast? = some 0 ∧
    (splitFields payload).head? = some (toString kind.number)

/-- What is seen from outside of a request that comes out in some way. -/
def Ending.Shows (kind : Outgoing) (outcome : Outcome Unit) : Ending → Prop
  | .sent => ∃ data, outcome.effects = [.sent data] ∧ IsMessage kind data ∧ outcome.result = .ok ()
  | .reported => outcome.data = [] ∧ outcome.result = .ok () ∧
      ∃ id code text, outcome.events = [.error id code text]
  | .raised => outcome.effects = [] ∧ ∃ failure, outcome.result = .error failure

/-- The three ways exclude each other: what was sent, and whether there was an exception, tell them
apart. -/
theorem Ending.unique {kind : Outgoing} {outcome : Outcome Unit} {one other : Ending}
    (h : one.Shows kind outcome) (h' : other.Shows kind outcome) : one = other := by
  -- a request that was sent has data, and one that was reported or raised has none
  have not_both {data : Bytes} (sent : outcome.effects = [.sent data]) : outcome.data ≠ [] := by
    rw [Outcome.data, sent]
    exact List.cons_ne_nil _ _
  cases one <;> cases other
  case sent.sent | reported.reported | raised.raised => rfl
  case sent.reported =>
    obtain ⟨data, sent, -⟩ := h
    exact absurd h'.1 (not_both sent)
  case reported.sent =>
    obtain ⟨data, sent, -⟩ := h'
    exact absurd h.1 (not_both sent)
  case sent.raised =>
    obtain ⟨data, sent, -⟩ := h
    exact absurd (sent.symm.trans h'.1) (List.cons_ne_nil _ _)
  case raised.sent =>
    obtain ⟨data, sent, -⟩ := h'
    exact absurd (sent.symm.trans h.1) (List.cons_ne_nil _ _)
  case reported.raised =>
    obtain ⟨failure, raised⟩ := h'.2
    cases h.2.1.symm.trans raised
  case raised.reported =>
    obtain ⟨failure, raised⟩ := h.2
    cases h'.2.1.symm.trans raised

/-! ## What a plan comes to -/

theorem wire_number (kind : Outgoing) :
    (Field.int kind.number).wire = .ok (toString kind.number) ∧
      '\x00' ∉ (toString kind.number).toList := by
  cases kind <;> decide

theorem isMessage_of_payloadAt {plan : Plan} {version : Int} {payload : Bytes}
    (h : plan.payloadAt version = .ok payload) (fits : payload.length ≤ Frame.largestLength) :
    IsMessage plan.kind (Frame.write payload) := by
  have encoded := (Plan.payloadAt_eq_ok_iff.mp h).2
  obtain ⟨number, plain⟩ := wire_number plan.kind
  refine ⟨_, _, _, _, payload, rfl, Frame.declared_header fits, getLast?_encodeAll encoded, ?_⟩
  obtain ⟨text, others, first, -, rfl⟩ := encodeAll_cons_eq_ok.mp encoded
  obtain rfl := Except.ok.inj (number.symm.trans first)
  rw [splitFields_terminated plain, List.head?_cons]

section

variable {around : Surroundings} (quiet : around.raising.contains "error" = false)
include quiet

theorem report_of_quiet (id : Int) (notice : Notice) (detail : String) :
    Outcome.report around.raising id notice detail =
      .effect (.told (.error id notice.code (notice.text detail))) :=
  if_neg (ne_true_of_eq_false quiet)

theorem exists_shows_carryOut (client : Client) (plan : Plan) :
    ∃ ending, Ending.Shows plan.kind (client.carryOut around plan) ending := by
  unfold Client.carryOut
  rcases planned : plan.payloadAt client.serverVersion with (refusal | failure) | payload
  · simp only [report_of_quiet quiet]
    exact ⟨.reported, rfl, rfl, _, _, _, rfl⟩
  · exact ⟨.raised, rfl, failure, rfl⟩
  · simp only [report_of_quiet quiet, Client.sendOr]
    split_ifs with long
    · exact ⟨.raised, rfl, .unframable, rfl⟩
    cases around.sendError with
    | none =>
      exact ⟨.sent, _, rfl, isMessage_of_payloadAt planned (Nat.not_lt.mp long), rfl⟩
    | some text => exact ⟨.reported, rfl, rfl, _, _, _, rfl⟩

theorem request_of_not_connected {client : Client} (idle : client.state ≠ .connected)
    (request : Request) :
    client.request around request =
      .effect (.told (.error request.givenId 504 "Not connected")) := by
  have idle : client.isConnected = false := decide_eq_false idle
  rw [Client.request, Client.checkConnected, idle, Request.subject_plan]
  simp only [Bool.false_eq_true, if_false, report_of_quiet quiet]
  rfl

/-- **Every request comes out in exactly one way**: one message of its own kind is sent, one problem
is reported, or an exception leaves it, with nothing sent or reported. Without a connection the one
problem is that, under the id that the request is given. No request changes the client. -/
theorem request_comes_out (client : Client) (request : Request) :
    (∃! ending, Ending.Shows request.kind (client.request around request) ending) ∧
      (client.state ≠ .connected → client.request around request =
        ⟨[.told (.error request.givenId 504 "Not connected")], .ok ()⟩) ∧
      ∀ session : Session,
        (session.execute (.request request)).1.client = session.client := by
  refine ⟨?_, fun idle => request_of_not_connected quiet idle request, fun session => ?_⟩
  · suffices h : ∃ ending, Ending.Shows request.kind (client.request around request) ending by
      obtain ⟨ending, shows⟩ := h
      exact ⟨ending, shows, fun other h => Ending.unique h shows⟩
    by_cases connected : client.state = .connected
    · rw [request_eq_carryOut (decide_eq_true connected), ← Request.kind_plan client.announced]
      exact exists_shows_carryOut quiet client _
    · rw [request_of_not_connected quiet connected]
      exact ⟨.reported, rfl, rfl, _, _, _, rfl⟩
  · unfold Session.execute Session.changeCurrent
    cases session.current <;> rfl

end

/-- An order is cancelled on a working connection: just its one message is sent. -/
theorem request_comes_out_cancelOrder :
    (["tickPrice"] : List String).contains "error" = false ∧
      (∃! ending, Ending.Shows .cancelOrder
        (Client.request ⟨.connected, 151, "", 0, Label.blank, false⟩ ⟨none, ["tickPrice"]⟩
          (.cancelOrder 7)) ending) ∧
      (Client.request ⟨.connected, 151, "", 0, Label.blank, false⟩ ⟨none, ["tickPrice"]⟩
        (.cancelOrder 7)).data = [[0, 0, 0, 6, 52, 0, 49, 0, 55, 0]] :=
  have quiet : (["tickPrice"] : List String).contains "error" = false := by decide
  ⟨quiet, (@request_comes_out ⟨none, ["tickPrice"]⟩ quiet _ (.cancelOrder 7)).1,
    by decide⟩

end TradeWire
