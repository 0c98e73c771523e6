import TradeWire.Proofs.Order.LateGroup
import TradeWire.Proofs.Order.Quantity

/-!
# Faithful placing

An order is placed faithfully if it is sent with all its attributes and just its quantity, or
refused with a report. That is so exactly when a group that is refused is given too early, or when
nothing is given too early, the quantity is exact, and its integers can be written
(`placesFaithfully_iff`). The message then has a field that denotes the quantity
(`exists_denotes_of_placesFaithfully`). What is never refused is left out of the message without a word
(`payloadAt_of_pegged`, `payloadAt_of_discretion`).
-/

namespace TradeWire

/-! ## What comes of an order -/

section

variable (version : Int) (id : Int) (contract : Contract) (order : Order)

/-- What stops an order: an increment that is no number, an attribute that is refused, or a quantity
that cannot be converted. -/
theorem problem?_placeOrder (new : leastVersion ≤ version) :
    (Plan.placeOrder id contract order).problem? version =
      (order.scale.comparison.problem?.or
        ((earlyReport? version order lateGroups).map fun detail =>
          .refused ⟨id, .serverTooOld, detail⟩)).or
        (quantityProblem? version order.terms.totalQuantity) := by
  rw [Plan.problem?, Plan.placeOrder, Check.first?_append, first?_checks new, first?_late,
    first?_quantity]

/-- An attribute that an older server would not get is refused. -/
def IsRefused : Prop :=
  ∃ group ∈ lateGroups, group.refusal?.isSome = true ∧ group.isEarly version order = true

/-- Every attribute that is given gets to the server. -/
def NothingEarly : Prop := ∀ group ∈ lateGroups, group.isEarly version order = false

/-- What comes of placing an order is what was asked for: a message that leaves nothing out and
denotes the quantity, or one report that the server is too old. -/
def PlacesFaithfully (outcome : Outcome Unit) : Prop :=
  (∃ payload, outcome = .effect (.sent (Frame.write payload)) ∧
      Field.encodeAll ((Plan.placeOrder id contract order).fieldsAt version) = .ok payload ∧
      NothingEarly version order ∧
      (sentQuantity version order.terms.totalQuantity).Denotes order.terms.totalQuantity) ∨
    ∃ detail, outcome = .effect (.told (.error id Notice.serverTooOld.code
      (Notice.serverTooOld.text detail)))

theorem not_placesFaithfully_fail (failure : Failure) :
    ¬ PlacesFaithfully version id contract order (.fail failure) := by
  rintro (⟨payload, sent, -⟩ | ⟨detail, told⟩)
  · cases congrArg Outcome.effects sent
  · cases congrArg Outcome.effects told

theorem placesFaithfully_told (detail : String) :
    PlacesFaithfully version id contract order
      (.effect (.told (.error id Notice.serverTooOld.code (Notice.serverTooOld.text detail)))) :=
  .inr ⟨detail, rfl⟩

variable {version id contract order} in
theorem of_placesFaithfully_sent {data : Bytes}
    (faithful : PlacesFaithfully version id contract order (.effect (.sent data))) :
    NothingEarly version order ∧
      (sentQuantity version order.terms.totalQuantity).Denotes order.terms.totalQuantity := by
  rcases faithful with ⟨payload, -, -, late, denoted⟩ | ⟨detail, told⟩
  · exact ⟨late, denoted⟩
  · cases congrArg Outcome.effects told

/-- What is sent for an order that is placed faithfully has a field that denotes the quantity,
between the action and the type of the order. -/
theorem exists_denotes_of_placesFaithfully {data : Bytes}
    (faithful : PlacesFaithfully version id contract order (.effect (.sent data))) :
    ∃ before quantity after, (Plan.placeOrder id contract order).fieldsAt version =
        before ++ order.terms.action.field :: quantity :: order.terms.orderType.field :: after ∧
      quantity.Denotes order.terms.totalQuantity := by
  have denoted := (of_placesFaithfully_sent faithful).2
  have within : order.terms.steps <:+: order.steps id contract := by
    iterate 9 refine List.infix_append_of_infix_left ?_
    exact List.infix_append_right
  obtain ⟨front, behind, steps⟩ := within
  have fields : (Plan.placeOrder id contract order).fieldsAt version =
      .int Outgoing.placeOrder.number :: (Step.fieldsAt version front ++
        (Step.fieldsAt version order.terms.steps ++ Step.fieldsAt version behind)) := by
    rw [Plan.fieldsAt, Plan.placeOrder, ← steps]
    simp only [Step.fieldsAt_append, List.append_assoc]
  rw [fieldsAt_terms] at fields
  exact ⟨.int Outgoing.placeOrder.number :: Step.fieldsAt version front, _, _, fields, denoted⟩

theorem placesFaithfully_sent {payload : Bytes}
    (encoded : Field.encodeAll ((Plan.placeOrder id contract order).fieldsAt version) =
      .ok payload) :
    PlacesFaithfully version id contract order (.effect (.sent (Frame.write payload))) ↔
      NothingEarly version order ∧ order.terms.totalQuantity.isExact version = true := by
  rw [← denotes_sentQuantity]
  constructor
  · exact of_placesFaithfully_sent
  · rintro ⟨late, denoted⟩
    exact .inl ⟨payload, rfl, encoded, late, denoted⟩

end

theorem request_placeOrder {client : Client} {around : Surroundings}
    (connected : client.isConnected = true) (works : around.sendError = none)
    (quiet : around.raising.contains "error" = false) (id : Int) (contract : Contract)
    (order : Order) :
    client.request around (.placeOrder id contract order) =
      match (Plan.placeOrder id contract order).payloadAt client.serverVersion with
      | .ok payload =>
        if Frame.largestLength < payload.length then .fail .unframable
        else .effect (.sent (Frame.write payload))
      | .error (.refused refusal) =>
        .effect (.told (.error refusal.id refusal.notice.code refusal.message))
      | .error (.failed failure) => .fail failure :=
  request_of_connected connected works quiet (.placeOrder id contract order)

/-- **An order is placed faithfully exactly when its increment is a number and either an attribute
that is refused is given too early, or none at all is, the quantity is exact, every integer can be
written and the message fits a frame.** The benchmark, the conditions, the adjustment and the
discretion up to the limit price are never refused: they are left out of the message without a
word. -/
theorem placesFaithfully_iff {client : Client} {around : Surroundings}
    (connected : client.isConnected = true) (works : around.sendError = none)
    (quiet : around.raising.contains "error" = false) (new : leastVersion ≤ client.serverVersion)
    (id : Int) (contract : Contract) (order : Order) :
    PlacesFaithfully client.serverVersion id contract order
        (client.request around (.placeOrder id contract order)) ↔
      Order.isNumeric order.scale.priceIncrement = true ∧
        (IsRefused client.serverVersion order ∨
          NothingEarly client.serverVersion order ∧
          order.terms.totalQuantity.isExact client.serverVersion = true ∧
          ∃ payload, Field.encodeAll
              ((Plan.placeOrder id contract order).fieldsAt client.serverVersion) = .ok payload ∧
            payload.length ≤ Frame.largestLength) := by
  rw [request_placeOrder connected works quiet, Plan.payloadAt, problem?_placeOrder _ _ _ _ new]
  unfold IsRefused
  rw [← earlyReport?_isSome_iff, Order.Scale.comparison]
  by_cases numeric : Order.isNumeric order.scale.priceIncrement = true
  swap
  · simp only [numeric, Bool.false_eq_true, if_false, false_and, iff_false]
    exact not_placesFaithfully_fail _ _ _ _ _
  simp only [numeric, if_true, Option.none_or, true_and]
  cases early : earlyReport? client.serverVersion order lateGroups with
  | some detail => exact iff_of_true (placesFaithfully_told _ _ _ _ detail) (.inl rfl)
  | none =>
    simp only [Option.map_none, Option.none_or, Option.isSome_none, Bool.false_eq_true, false_or]
    cases converted : quantityProblem? client.serverVersion order.terms.totalQuantity with
    | some problem =>
      obtain ⟨error, rfl⟩ := quantityProblem?_eq_some converted
      refine iff_of_false (not_placesFaithfully_fail _ _ _ _ _) ?_
      rintro ⟨-, exact, -⟩
      rw [quantityProblem?_of_isExact exact] at converted
      cases converted
    | none =>
      cases encoded : Field.encodeAll
        ((Plan.placeOrder id contract order).fieldsAt client.serverVersion) with
      | error error =>
        refine iff_of_false (not_placesFaithfully_fail _ _ _ _ _) ?_
        rintro ⟨-, -, payload, eq, -⟩
        cases eq
      | ok payload =>
        simp only [Except.mapError]
        split_ifs with long
        · refine iff_of_false (not_placesFaithfully_fail _ _ _ _ _) ?_
          rintro ⟨-, -, other, eq, short⟩
          cases eq
          exact absurd long (Nat.not_lt.mpr short)
        · refine (placesFaithfully_sent _ _ _ _ encoded).trans ?_
          simp [Nat.not_lt.mp long]

def connectedAt (version : Int) : Client where
  state := .connected
  serverVersion := version

def isFramable {ε : Type} (message : Except ε Bytes) : Bool :=
  message.toOption.any fun payload => decide (payload.length ≤ Frame.largestLength)

theorem exists_of_isFramable {ε : Type} {message : Except ε Bytes}
    (framable : isFramable message = true) :
    ∃ payload, message = .ok payload ∧ payload.length ≤ Frame.largestLength := by
  cases message with
  | ok payload => exact ⟨payload, rfl, of_decide_eq_true framable⟩
  | error e => cases framable

theorem placesFaithfully_of_default :
    PlacesFaithfully 101 1 {} {}
      ((connectedAt 101).request {} (.placeOrder 1 {} {})) := by
  have connected : (connectedAt 101).isConnected = true := rfl
  refine (placesFaithfully_iff connected rfl rfl (by decide) 1 {} {}).mpr
    ⟨rfl, .inr ⟨?_, rfl, ?_⟩⟩
  · unfold NothingEarly
    decide +kernel
  · exact exists_of_isFramable (by decide +kernel)

/-! ## What is left out without a word -/

section

variable {version : Int} (id : Int) (contract : Contract) (order : Order)

/-- A server that is too old for benchmarks, conditions and adjustments is sent an order as if it
had none. -/
theorem payloadAt_of_pegged (old : version < Feature.peggedToBenchmark)
    (benchmark : Order.Benchmark) (conditional : Order.Conditional)
    (adjustment : Order.Adjustment) :
    (Plan.placeOrder id contract { order with benchmark, conditional, adjustment }).payloadAt
        version =
      (Plan.placeOrder id contract order).payloadAt version := by
  have none (o : Order) : Step.fieldsAt version o.peggedSteps = [] := by
    simp [Order.peggedSteps, Step.since, Span.contains, Int.not_le.mpr old, Step.fieldsAt]
  have fields : (Plan.placeOrder id contract
      { order with benchmark, conditional, adjustment }).fieldsAt version =
        (Plan.placeOrder id contract order).fieldsAt version := by
    simp only [Plan.fieldsAt, Plan.placeOrder, Order.steps, Step.fieldsAt_append, none]
    rfl
  rw [Plan.payloadAt, fields]
  rfl

/-- A server that is too old for the discretion up to the limit price is sent an order as if it had
none. -/
theorem payloadAt_of_discretion (old : version < Feature.dPegOrders) (discretion : Bool) :
    (Plan.placeOrder id contract
        { order with discretionaryUpToLimitPrice := discretion }).payloadAt version =
      (Plan.placeOrder id contract order).payloadAt version := by
  have later : Step.fieldsAt version
      { order with discretionaryUpToLimitPrice := discretion }.laterSteps =
        Step.fieldsAt version order.laterSteps := by
    simp only [Order.laterSteps, Step.fieldsAt_cons, Step.since, Span.contains,
      decide_eq_false (Int.not_le.mpr old), Bool.false_eq_true, if_false]
  have fields : (Plan.placeOrder id contract
      { order with discretionaryUpToLimitPrice := discretion }).fieldsAt version =
        (Plan.placeOrder id contract order).fieldsAt version := by
    simp only [Plan.fieldsAt, Plan.placeOrder, Order.steps, Step.fieldsAt_append, later]
    rfl
  rw [Plan.payloadAt, fields]
  rfl

end

def conditionalOrder : Order where
  conditional.conditions := some [{ trigger := .onContract (.volume 5) }]

/-- A server at the version before conditions is sent the order, but not the condition. -/
theorem placesFaithfully_conditionalOrder :
    ¬ PlacesFaithfully 101 1 {} conditionalOrder
      ((connectedAt 101).request {} (.placeOrder 1 {} conditionalOrder)) := by
  obtain ⟨payload, sent, short⟩ : ∃ payload,
      (Plan.placeOrder 1 {} conditionalOrder).payloadAt (connectedAt 101).serverVersion =
          .ok payload ∧
        payload.length ≤ Frame.largestLength :=
    exists_of_isFramable (by decide +kernel)
  rw [request_placeOrder rfl rfl rfl, sent]
  simp only
  rw [if_neg (Nat.not_lt.mpr short)]
  intro faithful
  have late := (of_placesFaithfully_sent faithful).1
  revert late
  unfold NothingEarly
  decide +kernel

end TradeWire
