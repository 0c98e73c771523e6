import Mathlib.Tactic
import TradeWire.Proofs.Order.Placing
import TradeWire.Proofs.Request.FirstMessage
import TradeWire.Proofs.Request.Outcome
import TradeWire.Proofs.Wire.Splitting

/-!
# The id on the wire

The id of a request or an order is sent like any other integer. It stands at a place that depends on
the request and on the version of the server (`Request.idPlace?`), and what the peer reads there is
its text (`idText`), from which it is known again unless it is one of the two numbers that stand for
"not set" (`id_on_wire`). These two are sent as nothing, so the peer cannot tell them apart
(`id_not_on_wire`).
-/

namespace TradeWire

/-! ## Fields at a place -/

namespace Field

/-- The number of fields that the peer reads where one is sent: a zero character in a text is sent
as the end of a field. -/
def width : Field → Nat
  | .text value => value.toList.count '\x00' + 1
  | _ => 1

theorem length_pieces_of_wire {field : Field} {text : String} (sent : field.wire = .ok text) :
    (Text.pieces text).length = field.width := by
  have one (plain : field.IsPlain) : (Text.pieces text).length = 1 := by
    rw [Text.pieces_of_plain (zero_notMem_wire plain sent), List.length_singleton]
  cases field
  case text value =>
    cases sent
    exact Text.length_pieces _
  all_goals exact one trivial

theorem SentAs.length_flatMap_pieces {fields : List Field} {texts : List String}
    (sent : SentAs fields texts) : (texts.flatMap Text.pieces).length = (fields.map width).sum := by
  induction fields generalizing texts with
  | nil =>
    rw [sentAs_nil_iff.mp sent]
    rfl
  | cons field fields ih =>
    obtain ⟨text, others, rfl, first, rest⟩ := sentAs_cons_iff.mp sent
    rw [List.flatMap_cons, List.length_append, length_pieces_of_wire first, ih rest, List.map_cons,
      List.sum_cons]

/-- A field is sent behind others from which the peer reads a number of fields. -/
def StandsAt (field : Field) (place : Nat) (fields : List Field) : Prop :=
  ∃ before after, fields = before ++ field :: after ∧ (before.map width).sum = place

end Field

theorem wire_id_eq_ok {id : Int} {text : String} (sent : (Field.int id).wire = .ok text) :
    text = idText id := by
  have short : (Nat.toDigits 10 id.natAbs).length ≤ Text.maxDigits := by
    refine Nat.not_lt.mp fun long => ?_
    rw [wire_id_of_long long] at sent
    cases sent
  rw [wire_id short] at sent
  exact (Except.ok.inj sent).symm

theorem getElem?_splitFields_of_standsAt {id : Int} {place : Nat} {fields : List Field}
    (stands : (Field.int id).StandsAt place fields) {payload : Bytes}
    (encoded : Field.encodeAll fields = .ok payload) :
    (splitFields payload)[place]? = some (idText id) := by
  obtain ⟨before, after, rfl, rfl⟩ := stands
  obtain ⟨texts, sent, rfl⟩ := Field.encodeAll_eq_ok_iff.mp encoded
  obtain ⟨left, right, rfl, first, rest⟩ := Field.sentAs_append_iff.mp sent
  obtain ⟨text, others, rfl, one, -⟩ := Field.sentAs_cons_iff.mp rest
  have plain : '\x00' ∉ text.toList :=
    Field.zero_notMem_wire (show (Field.int id).IsPlain from trivial) one
  rw [splitFields_flatMap_pieces, List.flatMap_append, List.flatMap_cons,
    Text.pieces_of_plain plain, ← first.length_flatMap_pieces,
    List.getElem?_append_right le_rfl, Nat.sub_self, wire_id_eq_ok one]
  rfl

/-! ## The place of the id -/

/-- Where the id stands among the fields that the peer reads, if it is sent. The kind of the message
comes first, and before the id there may be the version of the message. -/
def Request.idPlace? (version : Int) : Request → Option Nat
  -- there is no id
  | .marketDataType .. | .marketRule .. | .depthExchanges | .cancelAll | .openOrders
  | .bindOpenOrders .. | .allOpenOrders | .orderIds .. | .completedOrders .. | .accountUpdates ..
  | .positions | .cancelPositions | .managedAccounts | .advisorData .. | .familyCodes
  | .scannerParameters | .newsBulletins .. | .cancelNewsBulletins | .newsProviders | .verify ..
  | .verifyMessage .. | .authenticate .. | .authenticateMessage .. | .currentTime
  | .logLevel .. => none
  -- there is no version
  | .smartComponents .. | .tickByTick .. | .cancelTickByTick .. | .pnl .. | .cancelPnl ..
  | .pnlSingle .. | .cancelPnlSingle .. | .matchingSymbols .. | .optionParameters ..
  | .softDollarTiers .. | .newsArticle .. | .historicalNews .. | .headTimestamp ..
  | .cancelHeadTimestamp .. | .histogram .. | .cancelHistogram .. | .historicalTicks .. => some 1
  -- the version is there for older servers only
  | .placeOrder .. => if version < Feature.orderContainer then some 2 else some 1
  | .scannerSubscription .. => if version < Feature.scannerGenericOpts then some 2 else some 1
  | .historicalData .. => if version < Feature.syntRealtimeBars then some 2 else some 1
  -- the id is there for newer servers only
  | .executions .. => if version < Feature.executionDataChain then none else some 2
  | .contractDetails .. => if version < Feature.contractDataChain then none else some 2
  | .replaceAdvisorData _ _ content =>
    if version < Feature.replaceFaEnd then none else some (3 + content.field.width)
  | _ => some 2

theorem standsAt_ite (older : Prop) [Decidable older] (kind number id : Int) (rest : List Field) :
    (Field.int id).StandsAt (if older then 2 else 1)
      (.int kind :: ((if older then [.int number] else []) ++ .int id :: rest)) := by
  split_ifs
  · exact ⟨[_, _], rest, rfl, rfl⟩
  · exact ⟨[_], rest, rfl, rfl⟩

theorem standsAt_before (version next kind number id : Int) (fields : List Field)
    (rest : List Step) :
    (Field.int id).StandsAt (if version < next then 2 else 1) (.int kind ::
      Step.fieldsAt version
        (.before next [.int number] :: .always (.int id :: fields) :: rest)) := by
  rw [Step.fieldsAt_cons, Step.fieldsAt_cons]
  simp only [Step.before, Step.always, Span.contains, decide_eq_true_eq, if_true]
  exact standsAt_ite ..

theorem fieldsAt_orderVersion (version : Int) :
    Step.fieldsAt version Order.messageVersion =
      if version < Feature.orderContainer then
        [.int (if version < Feature.notHeld then 27 else 45)]
      else [] := by
  have later : Feature.notHeld ≤ Feature.orderContainer := by decide
  rw [Order.messageVersion, Step.fieldsAt_cons, Step.fieldsAt_cons]
  simp only [Step.before, Step.between, Span.contains, Bool.and_eq_true, decide_eq_true_eq]
  split_ifs <;> first | rfl | omega

theorem standsAt_since {version first : Int} (known : first ≤ version) {kind id : Int}
    {before : List Field} {place : Nat} (counted : 1 + (before.map Field.width).sum = place)
    (rest : List Step) :
    (Field.int id).StandsAt place (.int kind ::
      Step.fieldsAt version (.always before :: .since first [.int id] :: rest)) := by
  refine ⟨.int kind :: before, Step.fieldsAt version rest, ?_, counted⟩
  rw [Step.fieldsAt_cons, Step.fieldsAt_cons]
  simp only [Step.always, Step.since, Span.contains, known, decide_true, if_true, List.cons_append,
    List.nil_append]

theorem Request.standsAt_plan (announced : Bool) {version : Int} {request : Request} {place : Nat}
    (placed : request.idPlace? version = some place) :
    (Field.int request.givenId).StandsAt place ((request.plan announced).fieldsAt version) := by
  cases request
  case placeOrder id c order =>
    rw [idPlace?, ← apply_ite some, Option.some.injEq] at placed
    obtain ⟨rest, steps⟩ : ∃ rest, (Plan.placeOrder id c order).steps =
      Order.messageVersion ++ .always [.int id] :: rest := ⟨_, rfl⟩
    rw [plan, Plan.fieldsAt, steps, Step.fieldsAt_append, fieldsAt_orderVersion, ← placed]
    exact standsAt_ite ..
  case scannerSubscription | historicalData =>
    rw [idPlace?, ← apply_ite some, Option.some.injEq] at placed
    rw [← placed]
    exact standsAt_before ..
  case executions | contractDetails =>
    rw [idPlace?] at placed
    split_ifs at placed with old
    cases placed
    exact standsAt_since (Int.not_lt.mp old) rfl _
  case replaceAdvisorData id part content =>
    rw [idPlace?] at placed
    split_ifs at placed with old
    cases placed
    refine standsAt_since (Int.not_lt.mp old) ?_ _
    simp only [List.map_cons, List.map_nil, List.sum_cons, List.sum_nil, Field.width]
    omega
  -- in all others nothing that stands before the id depends on the version
  all_goals cases placed <;> first
    | exact ⟨[_], _, rfl, rfl⟩
    | exact ⟨[_, _], _, rfl, rfl⟩

/-! ## What the peer reads -/

theorem toString_ne_empty (n : Int) : toString n ≠ "" := by
  rw [Int.toString_eq_repr, Int.repr_eq_if]
  split_ifs
  · exact Nat.repr_ne_empty
  · simp

theorem idText_of_isSentinel {id : Int} (unset : isSentinel id = true) : idText id = "" := by
  rw [isSentinel, Bool.or_eq_true, beq_iff_eq, beq_iff_eq] at unset
  exact if_pos unset

theorem idText_of_given {id : Int} (given : isSentinel id = false) : idText id = toString id := by
  rw [isSentinel, Bool.or_eq_false_iff, beq_eq_false_iff_ne, beq_eq_false_iff_ne] at given
  exact if_neg (not_or.mpr given)

theorem idText_eq_iff (id other : Int) :
    idText id = idText other ↔ id = other ∨ isSentinel id = true ∧ isSentinel other = true := by
  cases unset : isSentinel id <;> cases unset' : isSentinel other
  case true.true =>
    rw [idText_of_isSentinel unset, idText_of_isSentinel unset']
    simp
  case true.false =>
    have differ : id ≠ other := by
      rintro rfl
      exact Bool.false_ne_true (unset'.symm.trans unset)
    simpa [idText_of_isSentinel unset, idText_of_given unset', differ] using
      (toString_ne_empty other).symm
  case false.true =>
    have differ : id ≠ other := by
      rintro rfl
      exact Bool.false_ne_true (unset.symm.trans unset')
    simpa [idText_of_given unset, idText_of_isSentinel unset', differ] using toString_ne_empty id
  case false.false =>
    rw [idText_of_given unset, idText_of_given unset', Text.toString_int_inj]
    simp

/-- **The peer reads the text of the id.** Whatever a request and the version of the server are, if
the request is sent and the id has a place in its message, the peer reads at this place the text of
the id. The same text is read for another id just if both are among the two numbers that stand for
"not set". -/
theorem id_on_wire {client : Client} {around : Surroundings} {request : Request} {frame : Bytes}
    (sent : frame ∈ (client.request around request).data) {place : Nat}
    (placed : request.idPlace? client.serverVersion = some place) :
    ∃ payload, frame = Frame.write payload ∧
      (splitFields payload)[place]? = some (idText request.givenId) ∧
      ∀ other, idText other = idText request.givenId ↔
        other = request.givenId ∨ isSentinel other = true ∧ isSentinel request.givenId = true := by
  obtain ⟨payload, planned, -, rfl⟩ := exists_payloadAt_of_mem_data sent
  have encoded := (Plan.payloadAt_eq_ok_iff.mp planned).2
  have stands := request.standsAt_plan client.announced placed
  exact ⟨payload, rfl, getElem?_splitFields_of_standsAt stands encoded,
    fun other => idText_eq_iff other _⟩

/-- An advisor's data, with a zero character in it, stand before the id. -/
theorem id_on_wire_behind_content :
    let request : Request := .replaceAdvisorData 7 1 (some "a\x00b")
    let payload : Bytes := [49, 57, 0, 49, 0, 49, 0, 97, 0, 98, 0, 55, 0]
    Frame.write payload ∈ ((connectedAt 157).request {} request).data ∧
      request.idPlace? (connectedAt 157).serverVersion = some 5 ∧
      (splitFields payload)[5]? = some "7" := by
  intro request payload
  have sent : Frame.write payload ∈ ((connectedAt 157).request {} request).data := by
    decide
  have placed : request.idPlace? (connectedAt 157).serverVersion = some 5 := by decide
  obtain ⟨payload', same, read, -⟩ := id_on_wire sent placed
  obtain ⟨-, rfl⟩ := List.append_inj same rfl
  exact ⟨sent, placed, read⟩

/-- The greatest ids of 32 and of 64 bits are sent as nothing. -/
theorem id_not_on_wire :
    let request (id : Int) : Request := .cancelOrder id
    let payload : Bytes := [52, 0, 49, 0, 0]
    (request 2147483647).idPlace? 151 = some 2 ∧
      ((connectedAt 151).request {} (request 2147483647)).data = [Frame.write payload] ∧
      ((connectedAt 151).request {} (request 9223372036854775807)).data = [Frame.write payload] ∧
      (splitFields payload)[2]? = some "" ∧ "" ≠ toString (2147483647 : Int) := by
  decide

end TradeWire
