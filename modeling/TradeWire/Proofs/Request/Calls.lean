import Mathlib.Tactic
import TradeWire.Proofs.Request.Outcome
import TradeWire.Request.Call

/-!
# The id of a call

A call gives the id of a request by its place or by the name of its parameter (`Arguments.id?`).
Either way the request that it makes has this id (`id?_of_ofCall?`), so it is the id of what is
reported when there is no connection (`report_of_call`) or the message cannot be sent
(`report_of_call_unsent`).
-/

namespace TradeWire

/-! ## What a call reads first -/

def Arguments.first? (given : Arguments) (parameter : String) : Option Datum :=
  given.positional.head?.or (given.named.lookup parameter)

/-- The id that a call gives, where the first parameter is an id, or there is none. -/
def Arguments.id? (given : Arguments) : Option String → Option Int
  | some parameter => (given.first? parameter).bind recognise
  | none => some noId

namespace Call

variable {α β : Type}

/-- Everything that a call can make of arguments is right for them. -/
def Makes (right : Arguments → α → Prop) (call : Call α) : Prop :=
  ∀ given value rest, call.run given = some (value, rest) → right given value

theorem next?_run (given : Arguments) (name : String) :
    (next? name).run given =
      some (given.first? name, { given with positional := given.positional.tail }) := by
  rcases given with ⟨_ | ⟨value, rest⟩, named⟩ <;> rfl

theorem need_run [Described α] (given : Arguments) (parameter : String) :
    (need parameter : Call α).run given = ((given.first? parameter).bind recognise).map
      fun value => (value, { given with positional := given.positional.tail }) := by
  simp only [need, StateT.run_bind, next?_run]
  cases given.first? parameter with
  | none => rfl
  | some datum =>
    show (recognise datum).bind _ = ((recognise datum).map _ : Option (α × Arguments))
    cases (recognise datum : Option α) <;> rfl

theorem makes_need [Described α] {right : Arguments → α → Prop} (parameter : String)
    (h : ∀ given value, (given.first? parameter).bind recognise = some value → right given value) :
    (need parameter).Makes right := by
  intro given value rest run
  rw [need_run] at run
  obtain ⟨_, recognised, ⟨⟩⟩ := Option.map_eq_some_iff.mp run
  exact h given value recognised

theorem makes_pure {right : Arguments → α → Prop} {value : α} (h : ∀ given, right given value) :
    (pure value : Call α).Makes right := by
  intro given made rest run
  cases run
  exact h given

theorem makes_of_forall {right : Arguments → α → Prop} (h : ∀ given value, right given value)
    (call : Call α) : call.Makes right :=
  fun given value _ _ => h given value

theorem Makes.map {f : α → β} {call : Call α} {right : Arguments → β → Prop}
    (h : call.Makes fun given value => right given (f value)) : (f <$> call).Makes right := by
  intro given value rest run
  rw [StateT.run_map] at run
  obtain ⟨⟨made, _⟩, ran, ⟨⟩⟩ := Option.map_eq_some_iff.mp run
  exact h given made _ ran

theorem Makes.seq {call : Call (α → β)} {right : Arguments → β → Prop}
    (h : call.Makes fun given f => ∀ value, right given (f value)) (other : Call α) :
    (call <*> other).Makes right := by
  intro given value rest run
  rw [StateT.run_seq] at run
  obtain ⟨⟨f, behind⟩, ran, run⟩ := Option.bind_eq_some_iff.mp run
  obtain ⟨⟨argument, _⟩, -, ⟨⟩⟩ := Option.map_eq_some_iff.mp run
  exact h given f behind ran argument

end Call

/-! ## The table of calls -/

theorem mem_of_lookup_eq_some {α : Type} {name : String} {value : α} {table : List (String × α)}
    (found : table.lookup name = some value) : (name, value) ∈ table := by
  induction table with
  | nil => cases found
  | cons entry table ih =>
    rw [List.lookup_cons] at found
    split at found
    · next same =>
      cases found
      exact List.mem_cons.mpr (.inl (Prod.ext (eq_of_beq same) rfl))
    · exact List.mem_cons_of_mem _ (ih found)

namespace Request

open Call

/-- The parameter that is the id, if the request has one. -/
def idParameter? : Request → Option String
  | .placeOrder .. | .cancelOrder _ => some "order_id"
  | .marketDataType .. | .marketRule .. | .depthExchanges | .cancelAll | .openOrders
  | .bindOpenOrders .. | .allOpenOrders | .orderIds .. | .completedOrders .. | .accountUpdates ..
  | .positions | .cancelPositions | .managedAccounts | .advisorData .. | .familyCodes
  | .scannerParameters | .newsBulletins .. | .cancelNewsBulletins | .newsProviders | .verify ..
  | .verifyMessage .. | .authenticate .. | .authenticateMessage .. | .currentTime
  | .logLevel .. => none
  | _ => some "req_id"

def HasIdOf (given : Arguments) (request : Request) : Prop :=
  given.id? request.idParameter? = some request.givenId

theorem makes_hasIdOf : ∀ entry ∈ calls, entry.2.Makes HasIdOf := by
  simp only [calls, marketCalls, orderCalls, accountCalls, referenceCalls, historyCalls,
    serviceCalls, List.forall_mem_append, List.forall_mem_cons, List.not_mem_nil, false_imp_iff,
    implies_true, and_true]
  repeat' apply And.intro
  -- what is read behind the first parameter is no part of the id
  all_goals repeat first | refine Makes.map ?_ | refine Makes.seq ?_ _
  all_goals first
    | exact makes_pure fun _ => rfl
    | exact makes_need "req_id" fun _ (_ : Int) found => by intros; exact found
    | exact makes_need "order_id" fun _ (_ : Int) found => by intros; exact found
    | exact makes_of_forall (fun _ _ => by intros; rfl) _

/-- A request has the id that its call gives, by place or by name. -/
theorem id?_of_ofCall? {name : String} {given : Arguments} {request : Request}
    (made : ofCall? name given = some request) :
    given.id? request.idParameter? = some request.givenId := by
  obtain ⟨call, listed, made⟩ := Option.bind_eq_some_iff.mp made
  unfold result? at made
  split at made
  · next value rest run =>
    split_ifs at made
    cases made
    exact makes_hasIdOf (name, call) (mem_of_lookup_eq_some listed) given request rest run
  · cases made

example :
    (ofCall? "cancel_order" { named := [("order_id", describe (7 : Int))] }).map givenId = some 7 ∧
      (ofCall? "cancel_order" { positional := [describe (7 : Int)] }).map givenId = some 7 := by
  decide

end Request

/-! ## What is reported of a call -/

section

variable {around : Surroundings} (quiet : around.raising.contains "error" = false)
  {name : String} {given : Arguments} {request : Request}
  (made : Request.ofCall? name given = some request) {client : Client}
include quiet made

theorem report_of_call (idle : client.state ≠ .connected) :
    ∃ id, given.id? request.idParameter? = some id ∧
      client.request around request = .effect (.told (.error id 504 "Not connected")) :=
  ⟨_, Request.id?_of_ofCall? made, request_of_not_connected quiet idle request⟩

theorem report_of_call_unsent (connected : client.isConnected = true) {text : String}
    (broken : around.sendError = some text) {payload : Bytes}
    (planned : (request.plan client.announced).payloadAt client.serverVersion = .ok payload)
    (fits : payload.length ≤ Frame.largestLength) :
    ∃ id, given.id? request.idParameter? = some id ∧
      client.request around request =
        ⟨[.sendFailed, .told (.error id 509 (Notice.socketFailed.text text))], .ok ()⟩ := by
  refine ⟨_, Request.id?_of_ofCall? made, ?_⟩
  rw [request_eq_carryOut connected, Client.carryOut, planned, ← Request.subject_plan]
  simp only [Client.sendOr, broken, if_neg (Nat.not_lt.mpr fits), report_of_quiet quiet]
  rfl

end

end TradeWire
