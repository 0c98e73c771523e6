import TradeWire.Proofs.Order.Placing
import TradeWire.Proofs.Request.Outcome

/-!
# What older servers are not sent

Some arguments of requests are sent to newer servers only. A request that makes use of one is
refused by older servers' clients, as long as a check says so; otherwise it is sent without the
argument. Here `Plan.missingAt` is what a request would tell the newest server and does not tell one
of some version, and `Request.isUnguarded` are the four cases in which no check asks for it. Apart
from placing orders, these are just the cases in which something is left out without a word
(`leavesNothingOut_iff`).
-/

namespace TradeWire

/-! ## What is missing -/

namespace Span

/-- What the newest version has of it, all announced versions have. -/
def isKept : Span → Bool
  | .always | .never => true
  | .since first => first ≤ leastVersion || mostVersion < first
  | .before next | .between _ next => next ≤ mostVersion

theorem contains_of_isKept {span : Span} (kept : span.isKept = true) {version : Int}
    (announced : leastVersion ≤ version) (newest : span.contains mostVersion = true) :
    span.contains version = true := by
  cases span <;>
    simp only [isKept, contains, decide_eq_true_eq, Bool.and_eq_true, Bool.or_eq_true] at * <;>
    omega

end Span

namespace Step

/-- The given values that the newest version writes, but not this one. -/
def missingAt (version : Int) (steps : List Step) : List Field :=
  ((steps.filter fun step =>
    step.span.contains mostVersion && !step.span.contains version).flatMap (·.fields)).filter
      Field.isGiven

section

variable {version : Int}

theorem missingAt_append (steps more : List Step) :
    missingAt version (steps ++ more) = missingAt version steps ++ missingAt version more := by
  rw [missingAt, List.filter_append, List.flatMap_append, List.filter_append]
  rfl

theorem missingAt_cons (step : Step) (steps : List Step) :
    missingAt version (step :: steps) =
      (if step.span.contains mostVersion && !step.span.contains version then
        step.fields.filter Field.isGiven else []) ++ missingAt version steps := by
  unfold missingAt
  rw [List.filter_cons]
  split_ifs
  · rw [List.flatMap_cons, List.filter_append]
  · rfl

theorem missingAt_since_cons {first : Int} (known : first ≤ mostVersion) (fields : List Field)
    (steps : List Step) :
    missingAt version (.since first fields :: steps) =
      (if version < first then fields.filter Field.isGiven else []) ++ missingAt version steps := by
  rw [missingAt_cons]
  simp [Step.since, Span.contains, known]

theorem filter_fieldsAt_sublist {steps : List Step} (none_missing : missingAt version steps = []) :
    ((fieldsAt mostVersion steps).filter Field.isGiven).Sublist (fieldsAt version steps) := by
  induction steps with
  | nil => exact .slnil
  | cons step steps ih =>
    rw [missingAt_cons, List.append_eq_nil_iff] at none_missing
    obtain ⟨first, others⟩ := none_missing
    rw [fieldsAt_cons, fieldsAt_cons, List.filter_append]
    refine List.Sublist.append ?_ (ih others)
    cases newest : step.span.contains mostVersion with
    | false => exact List.nil_sublist _
    | true =>
      cases written : step.span.contains version with
      | true => exact List.filter_sublist
      | false =>
        rw [newest, written] at first
        exact first ▸ List.nil_sublist _

variable (announced : leastVersion ≤ version)
include announced

theorem missingAt_of_isKept {steps : List Step}
    (kept : steps.all (·.span.isKept) = true) : missingAt version steps = [] := by
  have none_late : (steps.filter fun step =>
      step.span.contains mostVersion && !step.span.contains version) = [] := by
    refine List.filter_eq_nil_iff.mpr fun step member late => ?_
    rw [Bool.and_eq_true, Bool.not_eq_true'] at late
    have written := Span.contains_of_isKept (List.all_eq_true.mp kept step member) announced late.1
    exact Bool.false_ne_true (late.2.symm.trans written)
  rw [missingAt, none_late]
  rfl

theorem missingAt_legSteps (c : Contract) : missingAt version c.legSteps = [] := by
  unfold Contract.legSteps
  split_ifs
  · exact missingAt_of_isKept announced rfl
  · rfl

theorem missingAt_of_late {first : Int} (known : first ≤ mostVersion) {before after : List Step}
    (none_before : missingAt version before = []) (kept : after.all (·.span.isKept) = true)
    (fields : List Field) :
    missingAt version (before ++ .since first fields :: after) =
      if version < first then fields.filter Field.isGiven else [] := by
  rw [missingAt_append, none_before, missingAt_since_cons known,
    missingAt_of_isKept announced kept, List.nil_append, List.append_nil]

/-- It is not missing either if a check that would ask for it has nothing to ask for. -/
theorem missingAt_of_unasked {first : Int} (known : first ≤ mostVersion)
    {before after : List Step} (none_before : missingAt version before = [])
    (kept : after.all (·.span.isKept) = true) {fields : List Field} {used : Bool}
    (unasked : ¬ (version < first ∧ used = true))
    (covers : used = false → fields.filter Field.isGiven = []) :
    missingAt version (before ++ .since first fields :: after) = [] := by
  rw [missingAt_of_late announced known none_before kept]
  split_ifs with old
  · exact covers (Bool.eq_false_iff.mpr fun given => unasked ⟨old, given⟩)
  · rfl

end

end Step

/-- The given values that a request would tell the newest server, but not one of this version. -/
def Plan.missingAt (version : Int) (plan : Plan) : List Field := Step.missingAt version plan.steps

/-! ## Requests that leave nothing out -/

/-- A request to a server of some version leaves nothing out: if it is sent, all given values that
the newest server would be told are in the frame, in the same order; and if some value cannot be
told, the request is refused because the server is too old, and that is all. -/
structure LeavesNothingOut (version : Int) (plan : Plan) (outcome : Outcome Unit) : Prop where
  sent : ∀ frame ∈ outcome.data, plan.missingAt version = [] ∧
    ((plan.fieldsAt mostVersion).filter Field.isGiven).Sublist (plan.fieldsAt version) ∧
    ∃ payload, frame = Frame.write payload ∧
      Field.encodeAll (plan.fieldsAt version) = .ok payload
  refused : plan.missingAt version ≠ [] → ∃ detail, outcome =
    .effect (.told (.error plan.subject 503
      ("The TWS is out of date and must be upgraded." ++ detail)))

/-- A refusal of a request because the server is too old. -/
structure Refusal.SaysTooOld (refusal : Refusal) (id : Int) : Prop where
  id : refusal.id = id
  code : refusal.notice.code = 503
  message : ∃ detail, refusal.message = "The TWS is out of date and must be upgraded." ++ detail

/-- The first of some checks that has something to say at a version says that the server is too
old. -/
def Check.Stop (version id : Int) (checks : List Check) : Prop :=
  ∃ refusal, first? version checks = some (.refused refusal) ∧ refusal.SaysTooOld id

/-- Where something is missing the checks say so. -/
def Plan.Guards (version : Int) (plan : Plan) : Prop :=
  plan.missingAt version ≠ [] → Check.Stop version plan.subject plan.checks

theorem Plan.filter_fieldsAt_sublist {plan : Plan} {version : Int}
    (none_missing : plan.missingAt version = []) :
    ((plan.fieldsAt mostVersion).filter Field.isGiven).Sublist (plan.fieldsAt version) := by
  have steps := Step.filter_fieldsAt_sublist none_missing
  rw [Plan.fieldsAt, List.filter_cons]
  split_ifs
  · exact steps.cons_cons _
  · exact steps.cons _

theorem Plan.payloadAt_eq_refused_iff {plan : Plan} {version : Int} {refusal : Refusal} :
    plan.payloadAt version = .error (.refused refusal) ↔
      plan.problem? version = some (.refused refusal) := by
  rw [Plan.payloadAt]
  cases plan.problem? version with
  | some problem => simp
  | none => cases Field.encodeAll (plan.fieldsAt version) <;> simp [Except.mapError]

theorem sendOr_ne_told (around : Surroundings) (payload : Bytes) (failed : String → Outcome Unit)
    (event : Event) : Client.sendOr around payload failed ≠ .effect (.told event) := by
  intro told
  have effects := congrArg Outcome.effects told
  unfold Client.sendOr at effects
  split_ifs at effects
  · cases effects
  · cases socket : around.sendError with
    | none =>
      rw [socket] at effects
      cases effects
    | some text =>
      rw [socket] at effects
      cases List.head_eq_of_cons_eq effects

section

variable {client : Client} {around : Surroundings} (connected : client.state = .connected)
  (quiet : around.raising.contains "error" = false)
include connected quiet

theorem request_eq_told_iff (request : Request) (id code : Int) (text : String) :
    client.request around request = .effect (.told (.error id code text)) ↔
      ∃ refusal, (request.plan client.announced).problem? client.serverVersion =
          some (.refused refusal) ∧
        refusal.id = id ∧ refusal.notice.code = code ∧ refusal.message = text := by
  rw [request_eq_carryOut (decide_eq_true connected), Client.carryOut]
  simp only [← Plan.payloadAt_eq_refused_iff]
  rcases (request.plan client.announced).payloadAt client.serverVersion with
    (refusal | failure) | payload
  · simp only [report_of_quiet quiet]
    constructor
    · rintro told
      cases List.head_eq_of_cons_eq (congrArg Outcome.effects told)
      exact ⟨refusal, rfl, rfl, rfl, rfl⟩
    · rintro ⟨_, ⟨⟩, rfl, rfl, rfl⟩
      rfl
  · refine iff_of_false (fun told => ?_) ?_
    · cases congrArg Outcome.effects told
    · rintro ⟨_, stopped, -⟩
      cases stopped
  · refine iff_of_false (sendOr_ne_told _ _ _ _) ?_
    rintro ⟨_, stopped, -⟩
    cases stopped

theorem leavesNothingOut_iff_guards (request : Request) :
    LeavesNothingOut client.serverVersion (request.plan client.announced)
        (client.request around request) ↔
      (request.plan client.announced).Guards client.serverVersion := by
  constructor
  · rintro ⟨-, refused⟩ missing
    obtain ⟨detail, told⟩ := refused missing
    obtain ⟨refusal, stopped, id, code, message⟩ :=
      (request_eq_told_iff connected quiet _ _ _ _).mp told
    exact ⟨refusal, stopped, id, code, detail, message⟩
  · intro guards
    constructor
    · intro frame sent
      obtain ⟨payload, planned, -, rfl⟩ := exists_payloadAt_of_mem_data sent
      obtain ⟨free, encoded⟩ := Plan.payloadAt_eq_ok_iff.mp planned
      have none_missing : (request.plan client.announced).missingAt client.serverVersion = [] := by
        by_contra missing
        obtain ⟨refusal, stopped, -⟩ := guards missing
        cases free.symm.trans stopped
      exact ⟨none_missing, Plan.filter_fieldsAt_sublist none_missing, payload, rfl, encoded⟩
    · intro missing
      obtain ⟨refusal, stopped, id, code, detail, message⟩ := guards missing
      exact ⟨detail, (request_eq_told_iff connected quiet _ _ _ _).mpr
        ⟨refusal, stopped, id, code, message⟩⟩

end

/-! ## Checks of what is missing -/

theorem isGiven_joinedField (options : Option (List TagValue)) :
    (joinedField options).isGiven = !(options.getD []).isEmpty := by
  rw [joinedField, Field.isGiven, TagValue.joined]
  cases options.getD [] with
  | nil => rfl
  | cons pair pairs =>
    simp [String.join_cons, TagValue.text]

theorem isGiven_field (label : Label) : label.field.isGiven = label.isGiven := by
  cases label with
  | none => rfl
  | some text =>
    simp only [Label.field, Label.isGiven, Field.isGiven, Option.any_some, ne_eq, decide_not]
    rfl

/-- A request that older servers are sent without something that it was given. No check asks whether
the server knows regulatory snapshots, bars that are kept up to date, or options for news. -/
def Request.isUnguarded (version : Int) : Request → Bool
  | .marketData _ _ _ _ regulatorySnapshot _ =>
    regulatorySnapshot && version < Feature.reqSmartComponents
  | .historicalData _ _ query => query.keepUpToDate && version < Feature.syntRealtimeBars
  | .newsArticle _ _ _ options =>
    !(options.getD []).isEmpty &&
      Feature.reqNewsArticle ≤ version && version < Feature.newsQueryOrigins
  | .historicalNews _ _ _ _ _ _ options =>
    !(options.getD []).isEmpty &&
      Feature.reqHistoricalNews ≤ version && version < Feature.newsQueryOrigins
  | _ => false

section

variable {version id : Int}

theorem saysTooOld (id : Int) (detail : String) :
    (Refusal.mk id .serverTooOld detail).SaysTooOld id := ⟨rfl, rfl, detail, rfl⟩

theorem stop_of_used {first : Int} (old : version < first) {used : Bool} (given : used = true)
    (detail : String) (checks : List Check) :
    Check.Stop version id (.needs first id detail used :: checks) := by
  refine ⟨_, ?_, saysTooOld id detail⟩
  rw [Check.first?_needs, if_pos ⟨old, given⟩, Option.some_or]

theorem stop_cons {checks : List Check} (stop : Check.Stop version id checks) (first : Int)
    (detail : String) (used : Bool) :
    Check.Stop version id (.needs first id detail used :: checks) := by
  obtain ⟨refusal, stopped, old⟩ := stop
  by_cases earlier : version < first ∧ used = true
  · exact stop_of_used earlier.1 earlier.2 detail checks
  · refine ⟨refusal, ?_, old⟩
    rw [Check.first?_needs, if_neg earlier, Option.none_or, stopped]

/-- No check asks for what is missing, so something is left out if anything is missing. -/
theorem guards_iff_of_free {plan : Plan}
    (free : ¬ Check.Stop version plan.subject plan.checks) :
    plan.Guards version ↔ plan.missingAt version = [] := by
  rw [Plan.Guards, Ne, not_imp_comm]
  exact ⟨fun guards => guards free, fun none_missing _ => none_missing⟩

theorem not_stop_of_eq_none {checks : List Check} (free : Check.first? version checks = none) :
    ¬ Check.Stop version id checks := by
  rintro ⟨refusal, stopped, -⟩
  cases free.symm.trans stopped

variable (announced : leastVersion ≤ version)
include announced

theorem guards_marketData (id : Int) (c : Contract) (ticks : Label) (snapshot regulatory : Bool)
    (options : Option (List TagValue)) :
    (Plan.marketData id c ticks snapshot regulatory options).Guards version ↔
      (regulatory && decide (version < Feature.reqSmartComponents)) = false := by
  have missing : (Plan.marketData id c ticks snapshot regulatory options).missingAt version =
      if version < Feature.reqSmartComponents then List.filter Field.isGiven [.flag regulatory]
      else [] := by
    have apart : (Plan.marketData id c ticks snapshot regulatory options).steps =
        (Step.always [.int 11, .int id] :: c.steps (.since Feature.reqMktDataConid) .always
          (.since Feature.tradingClass) ++ c.legSteps ++
        [Step.since Feature.deltaNeutral c.neutralFields,
          Step.always [ticks.field, .flag snapshot]]) ++
        Step.since Feature.reqSmartComponents [.flag regulatory] ::
          [Step.since Feature.linking [.text ""]] := by
      simp only [Plan.marketData, List.append_assoc, List.cons_append, List.nil_append]
    rw [Plan.missingAt, apart]
    refine Step.missingAt_of_late announced (by decide) ?_ rfl _
    rw [Step.missingAt_append, Step.missingAt_append, Step.missingAt_legSteps announced,
      Step.missingAt_of_isKept announced rfl, Step.missingAt_of_isKept announced rfl]
    rfl
  rw [guards_iff_of_free, missing]
  · cases regulatory <;> simp [Field.isGiven]
  · rintro ⟨refusal, stopped, -, code, -⟩
    rw [Plan.marketData] at stopped
    simp (disch := exact le_trans (by decide) announced) only [Check.first?_needs_of_le] at stopped
    rw [Check.first?_cons, Check.first?_nil, Option.or_none, Check.internal] at stopped
    split_ifs at stopped
    cases stopped
    exact absurd code (show (506 : Int) ≠ 503 by decide)

theorem guards_historicalData (id : Int) (c : Contract) (query : Plan.BarQuery) :
    (Plan.historicalData id c query).Guards version ↔
      (query.keepUpToDate && decide (version < Feature.syntRealtimeBars)) = false := by
  have missing : (Plan.historicalData id c query).missingAt version =
      if version < Feature.syntRealtimeBars then
        List.filter Field.isGiven [.flag query.keepUpToDate]
      else [] := by
    have apart : (Plan.historicalData id c query).steps =
        (Step.before Feature.syntRealtimeBars [.int 6] :: Step.always [.int id] ::
          c.steps (.since Feature.tradingClass) .always (.since Feature.tradingClass) ++
        [Step.always [.flag c.includeExpired, query.stop.field, query.barSize.field,
          query.duration.field, .int query.regularHours, query.whatToShow.field,
          .int query.dateFormat]] ++ c.legSteps) ++
        Step.since Feature.syntRealtimeBars [.flag query.keepUpToDate] ::
          [Step.since Feature.linking [joinedField query.chartOptions]] := by
      simp only [Plan.historicalData, List.append_assoc, List.cons_append, List.nil_append]
    rw [Plan.missingAt, apart]
    refine Step.missingAt_of_late announced (by decide) ?_ rfl _
    rw [Step.missingAt_append, Step.missingAt_legSteps announced,
      Step.missingAt_of_isKept announced rfl]
    rfl
  rw [guards_iff_of_free, missing]
  · cases query.keepUpToDate <;> simp [Field.isGiven]
  · refine not_stop_of_eq_none ?_
    rw [Plan.historicalData, Check.first?_needs_of_le (le_trans (by decide) announced)]
    rfl

theorem guards_news {plan : Plan} {first : Int} {detail : String} {fields : List Field}
    {options : Option (List TagValue)}
    (checks : plan.checks = [.needs first plan.subject detail])
    (steps : plan.steps =
      [.always fields, .since Feature.newsQueryOrigins [joinedField options]]) :
    plan.Guards version ↔ (!(options.getD []).isEmpty && decide (first ≤ version) &&
      decide (version < Feature.newsQueryOrigins)) = false := by
  have missing : plan.missingAt version =
      if version < Feature.newsQueryOrigins then [joinedField options].filter Field.isGiven
      else [] := by
    rw [Plan.missingAt, steps]
    show Step.missingAt version ([Step.always fields] ++ _ :: []) = _
    exact Step.missingAt_of_late announced (by decide) (Step.missingAt_of_isKept announced rfl)
      rfl _
  by_cases known : first ≤ version
  · rw [guards_iff_of_free, missing]
    · by_cases old : version < Feature.newsQueryOrigins <;>
        cases given : (options.getD []).isEmpty <;> simp [isGiven_joinedField, given, old, known]
    · rw [checks]
      exact not_stop_of_eq_none (Check.first?_needs_of_le known _ _ _ _)
  · refine iff_of_true (fun _ => ?_) ?_
    · rw [checks]
      exact stop_of_used (Int.not_le.mp known) rfl detail []
    · rw [decide_eq_false known, Bool.and_false, Bool.false_and]

theorem guards_tickByTick (id : Int) (c : Contract) (type : Label) (count : Int)
    (ignoreSize : Bool) : (Plan.tickByTick id c type count ignoreSize).Guards version := by
  intro missing
  by_cases asked : version < Feature.tickByTickIgnoreSize ∧ (ignoreSize || count != 0) = true
  · exact stop_cons (stop_of_used asked.1 asked.2 _ []) _ _ _
  refine absurd ?_ missing
  have apart : (Plan.tickByTick id c type count ignoreSize).steps =
      (Step.always [.int id] :: c.steps .always .always .always ++ [Step.always [type.field]]) ++
        Step.since Feature.tickByTickIgnoreSize [.int count, .flag ignoreSize] :: [] := by
    simp only [Plan.tickByTick, List.append_assoc, List.cons_append, List.nil_append]
  rw [Plan.missingAt, apart]
  refine Step.missingAt_of_unasked announced (by decide) (Step.missingAt_of_isKept announced rfl)
    rfl asked fun unused => ?_
  obtain ⟨rfl, rfl⟩ : ignoreSize = false ∧ count = 0 := by simpa using unused
  rfl

theorem guards_marketDepth (id : Int) (c : Contract) (rows : Int) (isSmart : Bool)
    (options : Option (List TagValue)) :
    (Plan.marketDepth id c rows isSmart options).Guards version := by
  intro missing
  by_cases smart : version < Feature.smartDepth ∧ isSmart = true
  · exact stop_cons (stop_of_used smart.1 smart.2 _ _) _ _ _
  by_cases primary : version < Feature.mktDepthPrimExchange ∧ c.primaryExchange.isGiven = true
  · exact stop_cons (stop_cons (stop_of_used primary.1 primary.2 _ _) _ _ _) _ _ _
  refine absurd ?_ missing
  have apart : (Plan.marketDepth id c rows isSmart options).steps =
      ([Step.always [.int 5, .int id], Step.since Feature.tradingClass [.int c.contractId],
        Step.always [c.symbol.field, c.secType.field, c.lastTradeDate.field, c.strike.field,
          c.right.field, c.multiplier.field, c.exchange.field]] ++
      Step.since Feature.mktDepthPrimExchange [c.primaryExchange.field] ::
        [Step.always [c.currency.field, c.localSymbol.field],
          Step.since Feature.tradingClass [c.tradingClass.field], Step.always [.int rows]]) ++
      Step.since Feature.smartDepth [.flag isSmart] ::
        [Step.since Feature.linking [.text ""]] := rfl
  rw [Plan.missingAt, apart]
  refine Step.missingAt_of_unasked announced (by decide) (Step.missingAt_of_unasked announced
    (by decide) (Step.missingAt_of_isKept announced rfl) rfl primary fun unused => ?_) rfl smart
    fun unused => ?_
  · rw [← isGiven_field] at unused
    rw [List.filter_cons_of_neg (ne_true_of_eq_false unused), List.filter_nil]
  · rw [unused]
    rfl

theorem guards_cancelMarketDepth (id : Int) (isSmart : Bool) :
    (Plan.cancelMarketDepth id isSmart).Guards version := by
  intro missing
  by_cases smart : version < Feature.smartDepth ∧ isSmart = true
  · exact stop_of_used smart.1 smart.2 _ []
  refine absurd ?_ missing
  show Step.missingAt version ([_] ++ _ :: []) = []
  refine Step.missingAt_of_unasked announced (by decide) (Step.missingAt_of_isKept announced rfl)
    rfl smart fun unused => ?_
  rw [unused]
  rfl

theorem guards_scannerSubscription (id : Int) (s : ScannerSubscription)
    (options filters : Option (List TagValue)) :
    (Plan.scannerSubscription id s options filters).Guards version := by
  intro missing
  by_cases asked : version < Feature.scannerGenericOpts ∧ (!(filters.getD []).isEmpty) = true
  · exact stop_of_used asked.1 asked.2 _ []
  refine absurd ?_ missing
  show Step.missingAt version ([_, _] ++ _ :: [_]) = []
  refine Step.missingAt_of_unasked announced (by decide) (Step.missingAt_of_isKept announced rfl)
    rfl asked fun unused => ?_
  rw [← isGiven_joinedField] at unused
  rw [List.filter_cons_of_neg (ne_true_of_eq_false unused), List.filter_nil]

end

theorem guards_iff {version : Int} (announced : leastVersion ≤ version) (sayIntent : Bool)
    {request : Request} (other : request.kind ≠ .placeOrder) :
    (request.plan sayIntent).Guards version ↔ request.isUnguarded version = false := by
  cases request
  case placeOrder => exact absurd rfl other
  case marketData => exact guards_marketData announced ..
  case historicalData => exact guards_historicalData announced ..
  case newsArticle => exact guards_news announced rfl rfl
  case historicalNews => exact guards_news announced rfl rfl
  case tickByTick => exact iff_of_true (guards_tickByTick announced _ _ _ _ _) rfl
  case marketDepth => exact iff_of_true (guards_marketDepth announced _ _ _ _ _) rfl
  case cancelMarketDepth => exact iff_of_true (guards_cancelMarketDepth announced _ _) rfl
  case scannerSubscription =>
    exact iff_of_true (guards_scannerSubscription announced _ _ _ _) rfl
  -- all others are the same for all announced versions
  all_goals
    refine iff_of_true (fun missing => absurd ?_ missing) rfl
    exact Step.missingAt_of_isKept announced rfl

/-- **Just four requests leave something out without a word.** Let a client be connected to a server
of an announced version. A request other than for placing an order is sent with all values that it
was given, of those that the newest version would be told, or it is refused because the server is
too old for one of them; but for regulatory snapshots, bars that are kept up to date and options for
news, which are left out for older servers. -/
theorem leavesNothingOut_iff {client : Client} (connected : client.state = .connected)
    (announced : leastVersion ≤ client.serverVersion) {around : Surroundings}
    (quiet : around.raising.contains "error" = false) {request : Request}
    (other : request.kind ≠ .placeOrder) :
    LeavesNothingOut client.serverVersion (request.plan client.announced)
        (client.request around request) ↔
      request.isUnguarded client.serverVersion = false :=
  (leavesNothingOut_iff_guards connected quiet request).trans
    (guards_iff announced client.announced other)

/-- Depth from many markets at once, which is refused for older servers. -/
theorem leavesNothingOut_marketDepth :
    let request : Request := .marketDepth 1 {} 5 true none
    let client := connectedAt 145
    client.state = .connected ∧ leastVersion ≤ client.serverVersion ∧
      ([] : List String).contains "error" = false ∧ request.kind ≠ .placeOrder ∧
      LeavesNothingOut 145 (request.plan false) (client.request {} request) ∧
      (request.plan false).missingAt 145 ≠ [] := by
  intro request client
  have announced : leastVersion ≤ client.serverVersion := by decide
  have other : request.kind ≠ .placeOrder := nofun
  exact ⟨rfl, announced, rfl, other,
    (@leavesNothingOut_iff client rfl announced {} rfl request other).mpr rfl,
    by decide⟩

/-- A regulatory snapshot is asked for, and an older server is sent a request without it. -/
theorem leavesOut_regulatorySnapshot :
    let request (regulatory : Bool) : Request :=
      .marketData 1 {} Label.blank false regulatory none
    let outcome (regulatory : Bool) := (connectedAt 113).request {} (request regulatory)
    ¬ LeavesNothingOut 113 ((request true).plan false) (outcome true) ∧
      ((request true).plan false).missingAt 113 = [.flag true] ∧
      (outcome true).data ≠ [] ∧ (outcome true).data = (outcome false).data := by
  intro request outcome
  have missing : ((request true).plan false).missingAt 113 = [.flag true] := by decide
  have sent : (outcome true).data ≠ [] := by decide
  refine ⟨fun complete => ?_, missing, sent, by decide⟩
  obtain ⟨frame, member⟩ := List.exists_mem_of_ne_nil _ sent
  cases missing.symm.trans (complete.sent frame member).1

end TradeWire
