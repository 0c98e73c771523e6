import TradeWire.Proofs.Decimal.Rounding
import TradeWire.Proofs.Order.Placing
import TradeWire.Proofs.Request.Writable

/-!
# Requests that settle

A request settles if it is sent or one problem is reported, so that no exception leaves it. Its
checks report what they find, and its fields can be written if its arguments hold no integers that
are too long. What is left is not checked by anything: the quantity of an order, which is converted
to the kind of number that the server reads, and the length of the message. `settles_iff` says that
these two are all that a request can fail on.
-/

namespace TradeWire

/-! ## Checks -/

def Check.Reports (check : Check) : Prop :=
  ∀ problem, check.problem? = some problem → ∃ refusal, problem = .refused refusal

namespace Check

theorem reports_of_or {check : Check} {refusal : Refusal}
    (finds : check.problem? = none ∨ check.problem? = some (.refused refusal)) :
    check.Reports := by
  intro problem found
  rcases finds with nothing | finds
  · cases nothing.symm.trans found
  · exact ⟨refusal, Option.some.inj (found.symm.trans finds)⟩

theorem reports_needs (version id : Int) (detail : String) (used : Bool) :
    (needs version id detail used).Reports := by
  cases used
  · exact @reports_of_or _ ⟨id, .serverTooOld, detail⟩ (.inl rfl)
  · exact reports_of_or (.inr rfl)

theorem reports_internal (id : Int) (options : Option (List TagValue)) (name : String) :
    (internal id options name).Reports := by
  by_cases nothing : (options.getD []).isEmpty = true
  · exact @reports_of_or _ ⟨id, .unsupported, name⟩ (.inl (if_pos nothing))
  · exact reports_of_or (.inr (if_neg nothing))

theorem reports_needsIntent (announced : Bool) : (Plan.needsIntent announced).Reports := by
  cases announced
  · exact reports_of_or (.inr rfl)
  · exact @reports_of_or _ ⟨noId, .badMessage, ""⟩ (.inl rfl)

theorem reports_comparison {scale : Order.Scale}
    (numeric : Order.isNumeric scale.priceIncrement = true) : scale.comparison.Reports := by
  intro problem found
  rw [Order.Scale.comparison, numeric] at found
  cases found

theorem exists_refusal_of_first? {version : Int} {checks : List Check}
    (report : ∀ check ∈ checks, check.Reports) {problem : Problem}
    (found : first? version checks = some problem) : ∃ refusal, problem = .refused refusal := by
  obtain ⟨check, member, found⟩ := List.exists_of_findSome?_eq_some found
  exact report check (List.mem_of_mem_filter member) problem found

end Check

theorem Order.report_checks {order : Order}
    (numeric : Order.isNumeric order.scale.priceIncrement = true) (id : Int) (c : Contract) :
    ∀ check ∈ order.checks id c, check.Reports := by
  have comparison := Check.reports_comparison numeric
  simp only [Order.checks, List.forall_mem_cons, Check.reports_needs, comparison, true_and]
  exact nofun

theorem Request.report_checks (announced : Bool) {request : Request}
    (other : request.kind ≠ .placeOrder) :
    ∀ check ∈ (request.plan announced).checks, check.Reports := by
  cases request
  case placeOrder => exact absurd rfl other
  case verify | authenticate =>
    exact List.forall_mem_cons.mpr ⟨Check.reports_needs _ _ _ _,
      List.forall_mem_singleton.mpr (Check.reports_needsIntent announced)⟩
  case marketData =>
    simp [plan, Plan.marketData, Check.reports_needs, Check.reports_internal]
  case marketDepth =>
    simp [plan, Plan.marketDepth, Check.reports_needs, Check.reports_internal]
  case contractDetails => simp [plan, Plan.contractDetails, Check.reports_needs]
  -- the others have two checks of the version, one or none
  all_goals first
    | exact List.forall_mem_nil _
    | exact List.forall_mem_singleton.mpr (Check.reports_needs _ _ _ _)
    | exact List.forall_mem_cons.mpr ⟨Check.reports_needs _ _ _ _,
        List.forall_mem_singleton.mpr (Check.reports_needs _ _ _ _)⟩

/-! ## Quantities -/

def Double.isFinite : Double → Bool
  | .finite .. => true
  | .infinite _ | .notANumber => false

/-- A number can be converted to the kind of number that servers of a version read: newer servers
read doubles, and older ones integers. -/
def Number.HasCounterpart (version : Int) : Number → Prop
  | .int n => Feature.fractionalPositions ≤ version → n.natAbs < Double.integerLimit
  | .real x => version < Feature.fractionalPositions → x.isFinite = true

theorem conversionProblem_eq_none_iff {α : Type} {result : Except Double.ConversionError α} :
    Order.conversionProblem result = none ↔ ∀ error, result ≠ .error error := by
  cases result <;> simp [Order.conversionProblem]

theorem quantityProblem?_eq_none_iff {version : Int} {quantity : Number} :
    quantityProblem? version quantity = none ↔ quantity.HasCounterpart version := by
  unfold quantityProblem?
  split_ifs with new
  · cases quantity with
    | int n =>
      rw [conversionProblem_eq_none_iff, Number.toDouble]
      simp only [ne_eq, Double.ofInt_eq_error_iff, not_and, Nat.not_le, forall_eq,
        Number.HasCounterpart, new, forall_const]
    | real x => exact iff_of_true rfl fun old => absurd new (Int.not_le.mpr old)
  · cases quantity with
    | int n => exact iff_of_true rfl fun newer => absurd newer new
    | real x =>
      have old := Int.not_le.mp new
      cases x with
      | finite negative rank => exact iff_of_true rfl fun _ => rfl
      | infinite negative | notANumber =>
        refine iff_of_false (Option.some_ne_none _) fun finite => ?_
        cases finite old

/-! ## What stops a request -/

namespace Request

def IsNumeric : Request → Prop
  | .placeOrder _ _ order => Order.isNumeric order.scale.priceIncrement = true
  | _ => True

def IsConvertible (version : Int) : Request → Prop
  | .placeOrder _ _ order => order.terms.totalQuantity.HasCounterpart version
  | _ => True

theorem isConvertible_of_other {request : Request} (other : request.kind ≠ .placeOrder)
    (version : Int) : request.IsConvertible version := by
  cases request
  case placeOrder => exact absurd rfl other
  all_goals trivial

end Request

/-- A plan is stopped by a check that reports a problem. -/
def Plan.IsRefused (version : Int) (plan : Plan) : Prop :=
  ∃ refusal, plan.problem? version = some (.refused refusal)

/-- The message is not longer than the header of a frame can tell. -/
def Plan.Fits (version : Int) (plan : Plan) : Prop :=
  ∀ payload, Field.encodeAll (plan.fieldsAt version) = .ok payload →
    payload.length ≤ Frame.largestLength

theorem problem?_placeOrder_eq (version id : Int) (c : Contract) (order : Order) :
    (Plan.placeOrder id c order).problem? version =
      (Check.first? version (order.checks id c)).or
        (quantityProblem? version order.terms.totalQuantity) := by
  rw [Plan.problem?, Plan.placeOrder, Check.first?_append, first?_quantity]

/-- A request is refused, or nothing stops it, or its quantity does, which cannot be converted. -/
theorem problem?_trichotomy (announced : Bool) {request : Request} (numeric : request.IsNumeric)
    (version : Int) :
    (request.plan announced).IsRefused version ∨
      (request.plan announced).problem? version = none ∧ request.IsConvertible version ∨
      (∃ failure, (request.plan announced).problem? version = some (.failed failure)) ∧
        ¬ request.IsConvertible version := by
  by_cases placing : request.kind = .placeOrder
  · cases request <;> cases placing
    case placeOrder.refl id c order =>
    show (Plan.placeOrder id c order).IsRefused version ∨
      (Plan.placeOrder id c order).problem? version = none ∧ _ ∨
      (∃ failure, (Plan.placeOrder id c order).problem? version = some (.failed failure)) ∧ _
    rw [Plan.IsRefused, problem?_placeOrder_eq, Request.IsConvertible,
      ← quantityProblem?_eq_none_iff]
    cases found : Check.first? version (order.checks id c) with
    | some problem =>
      obtain ⟨refusal, rfl⟩ :=
        Check.exists_refusal_of_first? (order.report_checks numeric id c) found
      exact .inl ⟨refusal, rfl⟩
    | none =>
      rw [Option.none_or]
      cases stopped : quantityProblem? version order.terms.totalQuantity with
      | none => exact .inr (.inl ⟨rfl, rfl⟩)
      | some problem =>
        obtain ⟨error, rfl⟩ := quantityProblem?_eq_some stopped
        exact .inr (.inr ⟨⟨_, rfl⟩, nofun⟩)
  · cases found : (request.plan announced).problem? version with
    | none => exact .inr (.inl ⟨rfl, request.isConvertible_of_other placing version⟩)
    | some problem =>
      obtain ⟨refusal, rfl⟩ :=
        Check.exists_refusal_of_first? (request.report_checks announced placing) found
      exact .inl ⟨refusal, found⟩

/-! ## Requests that fail -/

/-- A request settles: it is sent, or one problem is reported and nothing is sent. -/
def Request.Settles (request : Request) (outcome : Outcome Unit) : Prop :=
  Ending.sent.Shows request.kind outcome ∨ Ending.reported.Shows request.kind outcome

theorem not_settles_fail (request : Request) (failure : Failure) :
    ¬ request.Settles (.fail failure) := by
  rintro (⟨data, sent, -⟩ | ⟨-, done, -⟩)
  · cases sent
  · cases done

theorem request_of_failed {client : Client} (connected : client.state = .connected)
    (around : Surroundings) {request : Request} {failure : Failure}
    (stopped : (request.plan client.announced).problem? client.serverVersion =
      some (.failed failure)) : client.request around request = .fail failure := by
  rw [request_eq_carryOut (decide_eq_true connected), Client.carryOut, Plan.payloadAt, stopped]

section

variable {around : Surroundings} (quiet : around.raising.contains "error" = false)
include quiet

theorem settles_told (request : Request) (id : Int) (notice : Notice) (detail : String) :
    request.Settles (Outcome.report around.raising id notice detail) := by
  rw [report_of_quiet quiet]
  exact .inr ⟨rfl, rfl, _, _, _, rfl⟩

theorem settles_carryOut_iff (client : Client) {request : Request} {payload : Bytes}
    (planned : (request.plan client.announced).payloadAt client.serverVersion = .ok payload) :
    request.Settles (client.carryOut around (request.plan client.announced)) ↔
      payload.length ≤ Frame.largestLength := by
  obtain ⟨ending, shows⟩ := exists_shows_carryOut quiet client (request.plan client.announced)
  rw [Request.kind_plan] at shows
  constructor
  · intro settles
    refine Nat.not_lt.mp fun long => not_settles_fail request .unframable ?_
    rw [Client.carryOut, planned] at settles
    simpa only [Client.sendOr, if_pos long] using settles
  · intro fits
    cases ending with
    | sent => exact .inl shows
    | reported => exact .inr shows
    | raised =>
      -- the frame is sent, or the socket fails, and either can be seen
      have silent := shows.1
      rw [Client.carryOut, planned] at silent
      simp only [Client.sendOr, if_neg (Nat.not_lt.mpr fits)] at silent
      cases socket : around.sendError with
      | none => rw [socket] at silent; cases silent
      | some text =>
        simp only [socket, report_of_quiet quiet] at silent
        cases silent

end

/-- **A request settles unless its quantity or its message is too great.** Let no integer among the
arguments of a request have more than 4300 digits, let the increment of a scale be a number, and let
the callback for errors not raise. In every state of a client, at every version, whether the
application announced authentication or the socket fails, the request is sent or one problem is
reported; but a connected client fails, with an exception, if no check refuses the request and
either the quantity of an order has no counterpart among the numbers that the server reads, or the
message is longer than the header of a frame can tell. -/
theorem settles_iff {client : Client} {around : Surroundings}
    (quiet : around.raising.contains "error" = false) {request : Request}
    (short : request.IsShort) (numeric : request.IsNumeric) :
    request.Settles (client.request around request) ↔
      (client.state = .connected →
        (request.plan client.announced).IsRefused client.serverVersion ∨
        request.IsConvertible client.serverVersion ∧
          (request.plan client.announced).Fits client.serverVersion) := by
  by_cases connected : client.state = .connected
  swap
  · rw [request_of_not_connected quiet connected]
    exact iff_of_true (.inr ⟨rfl, rfl, _, _, _, rfl⟩) fun h => absurd h connected
  simp only [connected, forall_const]
  obtain ⟨payload, encoded⟩ := exists_encodeAll_iff.mpr
    (Request.isWritable_plan client.announced short client.serverVersion)
  rcases problem?_trichotomy client.announced numeric client.serverVersion with
    ⟨refusal, stopped⟩ | ⟨free, convertible⟩ | ⟨⟨failure, stopped⟩, inconvertible⟩
  · refine iff_of_true ?_ (.inl ⟨refusal, stopped⟩)
    rw [request_eq_carryOut (decide_eq_true connected), Client.carryOut, Plan.payloadAt, stopped]
    exact settles_told quiet request _ _ _
  · rw [request_eq_carryOut (decide_eq_true connected),
      settles_carryOut_iff quiet client (Plan.payloadAt_eq_ok_iff.mpr ⟨free, encoded⟩)]
    constructor
    · intro fits
      refine .inr ⟨convertible, fun payload' encoded' => ?_⟩
      cases encoded.symm.trans encoded'
      exact fits
    · rintro (⟨refusal, stopped⟩ | ⟨-, fits⟩)
      · cases free.symm.trans stopped
      · exact fits payload encoded
  · refine iff_of_false ?_ ?_
    · rw [request_of_failed connected around stopped]
      exact not_settles_fail request failure
    · rintro (⟨refusal, stopped'⟩ | ⟨convertible, -⟩)
      · cases stopped.symm.trans stopped'
      · exact inconvertible convertible

/-- Newer servers read doubles, so an order for infinitely many is placed. -/
theorem settles_infiniteQuantity :
    let request : Request := .placeOrder 7 {} { terms.totalQuantity := .real (.infinite false) }
    ([] : List String).contains "error" = false ∧ request.IsShort ∧ request.IsNumeric ∧
      request.Settles ((connectedAt 101).request {} request) := by
  intro request
  have short : request.IsShort := by decide
  have fits : (request.plan false).Fits 101 := by
    obtain ⟨payload, encoded, fits⟩ : ∃ payload,
        Field.encodeAll ((request.plan false).fieldsAt 101) = .ok payload ∧
          payload.length ≤ Frame.largestLength := exists_of_isFramable (by cbv)
    intro payload' encoded'
    cases encoded.symm.trans encoded'
    exact fits
  have settles := @settles_iff (connectedAt 101) {} rfl request short rfl
  exact ⟨rfl, short, rfl, settles.mpr fun _ => .inr ⟨fun old => absurd old (by decide), fits⟩⟩

/-- Older servers read integers, and there is none for infinitely many; and an integer beyond all
doubles is not converted for newer servers. -/
theorem not_settles_greatQuantity :
    let request (quantity : Number) : Request :=
      .placeOrder 7 {} { terms.totalQuantity := quantity }
    let infinite := request (.real (.infinite false))
    let beyond := request (.int Double.integerLimit)
    infinite.IsShort ∧ infinite.IsNumeric ∧ beyond.IsShort ∧ beyond.IsNumeric ∧
      (connectedAt 100).request {} infinite = .fail (.conversion .infinityToInteger) ∧
      ¬ infinite.Settles ((connectedAt 100).request {} infinite) ∧
      (connectedAt 101).request {} beyond = .fail (.conversion .integerTooLarge) ∧
      ¬ beyond.Settles ((connectedAt 101).request {} beyond) := by
  intro request infinite beyond
  have first : (connectedAt 100).request {} infinite = .fail (.conversion .infinityToInteger) :=
    request_of_failed rfl {} (by decide)
  have second : (connectedAt 101).request {} beyond = .fail (.conversion .integerTooLarge) :=
    request_of_failed rfl {} (by decide +kernel)
  refine ⟨by decide, rfl, by decide +kernel, rfl, first, ?_, second, ?_⟩
  · rw [first]
    exact not_settles_fail infinite _
  · rw [second]
    exact not_settles_fail beyond _

end TradeWire
