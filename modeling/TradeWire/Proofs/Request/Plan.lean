import Mathlib.Tactic
import TradeWire.Client.Basic

/-!
# Plans at a version

What a plan does at a version is put together from what its checks and its steps do. On a working
connection a request comes to just what its plan says: one frame, one report, or a failure
(`request_of_connected`).
-/

namespace TradeWire

/-! ## Checks -/

namespace Check

theorem first?_nil (version : Int) : first? version [] = none := rfl

theorem first?_cons (version : Int) (check : Check) (checks : List Check) :
    first? version (check :: checks) =
      (if check.span.contains version then check.problem? else none).or
        (first? version checks) := by
  unfold first?
  rw [List.filter_cons]
  split_ifs
  · rw [List.findSome?_cons]
    cases check.problem? <;> rfl
  · rfl

theorem first?_append (version : Int) (checks more : List Check) :
    first? version (checks ++ more) = (first? version checks).or (first? version more) := by
  induction checks with
  | nil => rfl
  | cons check checks ih =>
    rw [List.cons_append, first?_cons, ih, first?_cons, Option.or_assoc]

theorem first?_needs (version first id : Int) (detail : String) (used : Bool)
    (checks : List Check) :
    first? version (needs first id detail used :: checks) =
      (if version < first ∧ used = true then some (.refused ⟨id, .serverTooOld, detail⟩)
        else none).or (first? version checks) := by
  rw [first?_cons]
  by_cases old : version < first <;> simp [needs, Span.contains, old]

theorem first?_needs_of_le {version first : Int} (known : first ≤ version) (id : Int)
    (detail : String) (used : Bool) (checks : List Check) :
    first? version (needs first id detail used :: checks) = first? version checks := by
  rw [first?_needs, if_neg (fun h => absurd h.1 (Int.not_lt.mpr known)), Option.none_or]

end Check

/-! ## Steps -/

namespace Step

theorem fieldsAt_append (version : Int) (steps more : List Step) :
    fieldsAt version (steps ++ more) = fieldsAt version steps ++ fieldsAt version more := by
  rw [fieldsAt, List.filter_append, List.flatMap_append]
  rfl

theorem fieldsAt_cons (version : Int) (step : Step) (steps : List Step) :
    fieldsAt version (step :: steps) =
      (if step.span.contains version then step.fields else []) ++ fieldsAt version steps := by
  unfold fieldsAt
  rw [List.filter_cons]
  split_ifs <;> simp

end Step

/-! ## Messages -/

theorem Plan.payloadAt_eq_ok_iff {plan : Plan} {version : Int} {payload : Bytes} :
    plan.payloadAt version = .ok payload ↔
      plan.problem? version = none ∧ Field.encodeAll (plan.fieldsAt version) = .ok payload := by
  rw [Plan.payloadAt]
  cases plan.problem? version with
  | some problem => exact ⟨nofun, fun ⟨h, _⟩ => nomatch h⟩
  | none =>
    cases Field.encodeAll (plan.fieldsAt version) with
    | error error => exact ⟨nofun, fun ⟨_, h⟩ => nomatch h⟩
    | ok bytes =>
      constructor
      · rintro ⟨⟩
        exact ⟨rfl, rfl⟩
      · rintro ⟨-, ⟨⟩⟩
        rfl

/-! ## Requests -/

theorem request_eq_carryOut {client : Client} (connected : client.isConnected = true)
    (around : Surroundings) (request : Request) :
    client.request around request = client.carryOut around (request.plan client.announced) := by
  rw [Client.request, Client.checkConnected, connected]
  rfl

theorem data_report (raising : List String) (id : Int) (notice : Notice) (detail : String) :
    (Outcome.report raising id notice detail).data = [] := by
  unfold Outcome.report Outcome.tell
  split_ifs <;> rfl

theorem data_request_of_not_connected {client : Client} (idle : ¬ client.isConnected = true)
    (around : Surroundings) (request : Request) : (client.request around request).data = [] := by
  rw [Client.request, Client.checkConnected, if_neg idle]
  unfold Outcome.report Outcome.tell
  split_ifs <;> rfl

theorem mem_data_sendOr {around : Surroundings} {payload frame : Bytes}
    {failed : String → Outcome Unit} (silent : ∀ text, (failed text).data = [])
    (sent : frame ∈ (Client.sendOr around payload failed).data) :
    payload.length ≤ Frame.largestLength ∧ frame = Frame.write payload := by
  unfold Client.sendOr at sent
  split_ifs at sent with long
  · cases sent
  · refine ⟨Nat.not_lt.mp long, ?_⟩
    cases socket : around.sendError with
    | none =>
      rw [socket] at sent
      exact List.mem_singleton.mp sent
    | some text =>
      rw [socket] at sent
      exact absurd ((silent text) ▸ sent : frame ∈ []) List.not_mem_nil

theorem exists_payloadAt_of_mem_data {client : Client} {around : Surroundings} {request : Request}
    {frame : Bytes} (sent : frame ∈ (client.request around request).data) :
    ∃ payload, (request.plan client.announced).payloadAt client.serverVersion = .ok payload ∧
      payload.length ≤ Frame.largestLength ∧ frame = Frame.write payload := by
  by_cases connected : client.isConnected = true
  · rw [request_eq_carryOut connected, Client.carryOut] at sent
    split at sent
    · rw [data_report] at sent
      cases sent
    · cases sent
    · next payload planned =>
      exact ⟨payload, planned, mem_data_sendOr (fun text => data_report ..) sent⟩
  · rw [data_request_of_not_connected connected] at sent
    cases sent

theorem sendOr_of_works {around : Surroundings} (works : around.sendError = none) (payload : Bytes)
    (failed : String → Outcome Unit) :
    Client.sendOr around payload failed =
      if Frame.largestLength < payload.length then .fail .unframable
      else .effect (.sent (Frame.write payload)) := by
  rw [Client.sendOr, works]

theorem request_of_connected {client : Client} {around : Surroundings}
    (connected : client.isConnected = true) (works : around.sendError = none)
    (quiet : around.raising.contains "error" = false) (request : Request) :
    client.request around request =
      match (request.plan client.announced).payloadAt client.serverVersion with
      | .ok payload =>
        if Frame.largestLength < payload.length then .fail .unframable
        else .effect (.sent (Frame.write payload))
      | .error (.refused refusal) =>
        .effect (.told (.error refusal.id refusal.notice.code refusal.message))
      | .error (.failed failure) => .fail failure := by
  rw [request_eq_carryOut connected, Client.carryOut]
  rcases (request.plan client.announced).payloadAt client.serverVersion with
    (refusal | failure) | payload
  · show Outcome.report around.raising refusal.id refusal.notice refusal.detail = _
    rw [Outcome.report, Outcome.tell]
    exact if_neg (ne_true_of_eq_false quiet)
  · rfl
  · exact sendOr_of_works works payload _

end TradeWire
