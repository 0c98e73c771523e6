import TradeWire.Proofs.Order.Newer
import TradeWire.Proofs.Wire.Texts

/-!
# Requests to newer servers

From version 101 on, a newer server is never sent less (`sends_at_later`). A request that is sent at
some version is sent at all later ones whose message fits into a frame, and its fields stay in their
order while others come in between; only the version of the message, which three requests write for
older servers, is dropped. A message that just fits is too long with one more field
(`newsArticle_outgrows_frame`).
-/

namespace TradeWire

namespace Request

/-- The version of its message that a request writes for the servers that still read it. -/
def messageVersion (version : Int) : Request → List Field
  | placeOrder .. => if version < 145 then [.int 45] else []
  | historicalData .. => if version < 124 then [.int 6] else []
  | scannerSubscription .. => if version < 143 then [.int 4] else []
  | _ => []

end Request

theorem isWritable_messageVersion (version : Int) (request : Request) :
    ∀ field ∈ request.messageVersion version, field.IsWritable := by
  have number (holds : Prop) [Decidable holds] (n : Int) (writable : (Field.int n).IsWritable) :
      ∀ field ∈ (if holds then [Field.int n] else []), field.IsWritable := by
    split_ifs
    · exact List.forall_mem_singleton.mpr writable
    · exact nofun
  unfold Request.messageVersion
  split
  · exact number _ 45 ⟨_, rfl⟩
  · exact number _ 6 ⟨_, rfl⟩
  · exact number _ 4 ⟨_, rfl⟩
  · exact nofun

/-! ## Plans of requests -/

theorem onlyEnds_checks (announced : Bool) (request : Request) :
    ∀ check ∈ (request.plan announced).checks, check.span.onlyEnds = true := by
  have all : (request.plan announced).checks.all (·.span.onlyEnds) = true := by
    cases request <;> rfl
  exact List.all_eq_true.mp all

/-- Steps write, at every version from 101 on, the fields that `versionAt` gives, and then what
steps that only grow write. -/
def GrowsAfter (versionAt : Int → List Field) (steps : List Step) : Prop :=
  ∃ growing : List Step, (∀ step ∈ growing, step.Grows) ∧
    ∀ version, 101 ≤ version →
      Step.fieldsAt version steps = versionAt version ++ Step.fieldsAt version growing

theorem growsAfter_nothing {steps : List Step} (grow : ∀ step ∈ steps, step.Grows) :
    GrowsAfter (fun _ => []) steps :=
  ⟨steps, grow, fun _ _ => rfl⟩

theorem growsAfter_before (next : Int) (fields : List Field) {steps : List Step}
    (grow : ∀ step ∈ steps, step.Grows) :
    GrowsAfter (fun version => if version < next then fields else [])
      (.before next fields :: steps) := by
  refine ⟨steps, grow, fun version _ => ?_⟩
  rw [Step.fieldsAt_cons]
  simp only [Step.before, Span.contains, decide_eq_true_eq]

theorem fieldsAt_messageVersion {version : Int} (known : 101 ≤ version) :
    Step.fieldsAt version Order.messageVersion = if version < 145 then [.int 45] else [] := by
  have old : ¬ version < 44 := by omega
  have new : (44 : Int) ≤ version := by omega
  rw [Order.messageVersion, Step.fieldsAt_cons, Step.fieldsAt_cons]
  simp [Step.before, Step.between, Span.contains, old, new, Step.fieldsAt]

/-- After the version of the message, what a request writes only grows. -/
theorem growsAfter_plan (announced : Bool) {request : Request} (short : request.IsShort) :
    GrowsAfter (request.messageVersion ·) (request.plan announced).steps := by
  have settled (h : (request.plan announced).steps.all (·.span.isSettled) = true) :=
    growsAfter_nothing (grows_of_all h)
  -- The ten requests that come first have steps that begin after version 101, legs, or a version of
  -- the message. The spans of all others are settled, which is seen by computing them.
  cases request
  case marketData id c ticks snapshot regulatory options =>
    refine growsAfter_nothing (List.forall_mem_append.mpr ⟨List.forall_mem_append.mpr
      ⟨grows_of_all rfl, grow_legSteps c⟩, ?_⟩)
    simp only [List.forall_mem_cons]
    exact ⟨.inl rfl, .inl rfl, grows_since (by simp), .inl rfl, nofun⟩
  case tickByTick id c type count ignoreSize =>
    have count : (Field.int count).IsWritable :=
      isWritable_of_isShort (short _ (by simp [Request.arguments, describe]))
    refine growsAfter_nothing (List.forall_mem_append.mpr ⟨grows_of_all rfl, ?_⟩)
    simp only [List.forall_mem_cons]
    exact ⟨.inl rfl, grows_since (by simp [count]), nofun⟩
  case marketDepth id c rows isSmart options =>
    refine growsAfter_nothing (List.forall_mem_append.mpr
      ⟨List.forall_mem_cons.mpr ⟨.inl rfl, ?_⟩, ?_⟩)
    · simp only [Contract.steps, List.forall_mem_cons]
      exact ⟨.inl rfl, .inl rfl, grows_since (by simp), .inl rfl, .inl rfl, nofun⟩
    · simp only [List.forall_mem_cons]
      exact ⟨.inl rfl, grows_since (by simp), .inl rfl, nofun⟩
  case cancelMarketDepth id isSmart =>
    refine growsAfter_nothing (List.forall_mem_cons.mpr ⟨.inl rfl, ?_⟩)
    exact List.forall_mem_singleton.mpr (grows_since (by simp))
  case newsArticle | historicalNews =>
    refine growsAfter_nothing (List.forall_mem_cons.mpr ⟨.inl rfl, ?_⟩)
    exact List.forall_mem_singleton.mpr (grows_since (by simp))
  case replaceAdvisorData id part content =>
    have id : (Field.int id).IsWritable :=
      isWritable_of_isShort (short _ (List.mem_cons_self ..))
    refine growsAfter_nothing (List.forall_mem_cons.mpr ⟨.inl rfl, ?_⟩)
    exact List.forall_mem_singleton.mpr (grows_since (by simp [id]))
  case historicalData id c query =>
    refine growsAfter_before _ _ (List.forall_mem_cons.mpr ⟨.inl rfl, ?_⟩)
    refine List.forall_mem_append.mpr ⟨List.forall_mem_append.mpr ⟨grows_of_all rfl,
      List.forall_mem_cons.mpr ⟨.inl rfl, grow_legSteps c⟩⟩, ?_⟩
    simp only [List.forall_mem_cons]
    exact ⟨grows_since (by simp), .inl rfl, nofun⟩
  case scannerSubscription id subscription options filters =>
    refine growsAfter_before _ _ (List.forall_mem_cons.mpr ⟨.inl rfl, ?_⟩)
    simp only [List.forall_mem_cons]
    exact ⟨grows_since (by simp), .inl rfl, nofun⟩
  case placeOrder id c order =>
    have described : (describe order).IsShort := short _ (by simp [Request.arguments])
    obtain ⟨steps, eq, grow⟩ := exists_growing_order id c described
    refine ⟨steps, grow, fun version known => ?_⟩
    show Step.fieldsAt version (order.steps id c) = _
    rw [eq, Step.fieldsAt_append, fieldsAt_messageVersion known]
    rfl
  all_goals exact settled rfl

theorem exists_payloadAt {announced : Bool} {request : Request} (short : request.IsShort)
    {v w : Int} (known : 101 ≤ v) (later : v ≤ w) {payload : Bytes}
    (planned : (request.plan announced).payloadAt v = .ok payload) :
    ∃ payload, (request.plan announced).payloadAt w = .ok payload := by
  obtain ⟨free, encoded⟩ := Plan.payloadAt_eq_ok_iff.mp planned
  obtain ⟨steps, grow, split⟩ := growsAfter_plan announced short
  have writable := exists_encodeAll_iff.mp ⟨payload, encoded⟩
  rw [Plan.fieldsAt, split v known, List.forall_mem_cons, List.forall_mem_append] at writable
  obtain ⟨kind, -, old⟩ := writable
  -- what was written at `v` can still be written, and so can what has come since
  obtain ⟨payload, encoded⟩ : ∃ payload,
      Field.encodeAll ((request.plan announced).fieldsAt w) = .ok payload := by
    rw [exists_encodeAll_iff, Plan.fieldsAt, split w (known.trans later), List.forall_mem_cons,
      List.forall_mem_append]
    exact ⟨kind, isWritable_messageVersion w request, isWritable_fieldsAt known later grow old⟩
  exact ⟨payload, Plan.payloadAt_eq_ok_iff.mpr
    ⟨first?_of_onlyEnds known later (onlyEnds_checks announced request) free, encoded⟩⟩

/-! ## Requests on a working connection -/

def Client.facing (client : Client) (version : Int) : Client :=
  { client with serverVersion := version }

section

variable {client : Client} {around : Surroundings} (connected : client.state = .connected)
  (works : around.sendError = none)
include connected works

theorem request_of_payloadAt {request : Request} {payload : Bytes}
    (planned : (request.plan client.announced).payloadAt client.serverVersion = .ok payload) :
    client.request around request = Client.send around payload := by
  rw [request_eq_carryOut (decide_eq_true connected), Client.carryOut, planned, Client.send]
  simp only [sendOr_of_works works]

theorem data_of_payloadAt {request : Request} {payload : Bytes}
    (planned : (request.plan client.announced).payloadAt client.serverVersion = .ok payload) :
    (client.request around request).data =
      if Frame.largestLength < payload.length then [] else [Frame.write payload] := by
  rw [request_of_payloadAt connected works planned, Client.send, sendOr_of_works works]
  split_ifs <;> rfl

theorem exists_payloadAt_of_data {request : Request}
    (sent : (client.request around request).data ≠ []) :
    ∃ payload, (request.plan client.announced).payloadAt client.serverVersion = .ok payload ∧
      (client.request around request).data = [Frame.write payload] := by
  cases planned : (request.plan client.announced).payloadAt client.serverVersion with
  | ok payload =>
    refine ⟨payload, rfl, ?_⟩
    rw [data_of_payloadAt connected works planned] at sent ⊢
    split_ifs at sent ⊢
    · exact absurd rfl sent
    · rfl
  | error problem =>
    refine absurd ?_ sent
    rw [request_eq_carryOut (decide_eq_true connected), Client.carryOut, planned]
    cases problem with
    | failed failure => rfl
    | refused refusal =>
      simp only [Outcome.report, Outcome.tell]
      split_ifs <;> rfl

/-- **Newer servers are never sent less.** From version 101 on, a request that is sent at some
version is sent at every later one: the message for the newer server is planned, encoded and sent in
a frame, as far as a frame can hold it. Apart from the version of the message, the fields of the
older message are among those of the newer one, in the same order. -/
theorem sends_at_later {request : Request} (short : request.IsShort) {v w : Int}
    (known : 101 ≤ v) (later : v ≤ w)
    (sent : ((client.facing v).request around request).data ≠ []) :
    let plan := request.plan client.announced
    (∃ payload, Field.encodeAll (plan.fieldsAt v) = .ok payload ∧
      ((client.facing v).request around request).data = [Frame.write payload]) ∧
    (∃ payload, Field.encodeAll (plan.fieldsAt w) = .ok payload ∧
      (client.facing w).request around request = Client.send around payload ∧
      (payload.length ≤ Frame.largestLength →
        ((client.facing w).request around request).data = [Frame.write payload])) ∧
    ∃ rest, plan.fieldsAt v = .int plan.kind.number :: (request.messageVersion v ++ rest) ∧
      (.int plan.kind.number :: rest).Sublist (plan.fieldsAt w) := by
  intro plan
  obtain ⟨payload, planned, data⟩ :=
    @exists_payloadAt_of_data (client.facing v) around connected works request sent
  obtain ⟨larger, planned'⟩ := exists_payloadAt short known later planned
  have passed := @request_of_payloadAt (client.facing w) around connected works _ _ planned'
  refine ⟨⟨payload, (Plan.payloadAt_eq_ok_iff.mp planned).2, data⟩,
    ⟨larger, (Plan.payloadAt_eq_ok_iff.mp planned').2, passed, fun fits => ?_⟩, ?_⟩
  · rw [@data_of_payloadAt (client.facing w) around connected works _ _ planned',
      if_neg (Nat.not_lt.mpr fits)]
  · obtain ⟨steps, grow, split⟩ := growsAfter_plan client.announced short
    refine ⟨Step.fieldsAt v steps, congrArg _ (split v known), ?_⟩
    show List.Sublist _ (Field.int plan.kind.number :: Step.fieldsAt w plan.steps)
    rw [split w (known.trans later)]
    exact ((fieldsAt_sublist known later grow).trans (List.sublist_append_right _ _)).cons_cons _

end

/-- A scanner subscription, whose message has a version up to 142 and filters from 143 on. -/
theorem sends_at_later_scanner :
    let client : Client := ⟨.connected, 0, "", 0, Label.blank, false⟩
    let request : Request := .scannerSubscription 5 {} none none
    client.state = .connected ∧ (⟨none, []⟩ : Surroundings).sendError = none ∧ request.IsShort ∧
      (101 : Int) ≤ 142 ∧ (142 : Int) ≤ 143 ∧
      ((client.facing 142).request ⟨none, []⟩ request).data ≠ [] ∧
      (∃ payload, Field.encodeAll ((request.plan false).fieldsAt 143) = .ok payload ∧
        (client.facing 143).request ⟨none, []⟩ request = Client.send ⟨none, []⟩ payload ∧
        ((client.facing 143).request ⟨none, []⟩ request).data = [Frame.write payload]) ∧
      ∃ rest, (request.plan false).fieldsAt 142 = .int 22 :: ([.int 4] ++ rest) ∧
        (.int 22 :: rest).Sublist ((request.plan false).fieldsAt 143) := by
  intro client request
  have short : request.IsShort := by decide +kernel
  have sent : ((client.facing 142).request ⟨none, []⟩ request).data ≠ [] := by decide +kernel
  obtain ⟨-, ⟨payload, encoded, passed, framed⟩, less⟩ := @sends_at_later client ⟨none, []⟩ rfl rfl
    request short 142 143 (by decide) (by decide) sent
  have fits : payload.length ≤ Frame.largestLength := by
    have small : (Field.encodeAll ((request.plan false).fieldsAt 143)).toOption.all
      (·.length ≤ Frame.largestLength) = true := by decide +kernel
    rw [encoded] at small
    exact of_decide_eq_true small
  exact ⟨rfl, rfl, short, by decide, by decide, sent, ⟨payload, encoded, passed, framed fits⟩, less⟩

/-! ## Messages that fill a frame -/

theorem fieldsAt_newsArticle (article : String) (version : Int) :
    (Plan.newsArticle 1 (some "BRFG") (some article) none).fieldsAt version =
      [.int 84, .int 1, .text "BRFG", .text article] ++
        if Feature.newsQueryOrigins ≤ version then [.text ""] else [] := by
  rw [Plan.fieldsAt, Plan.newsArticle, Step.fieldsAt_cons, Step.fieldsAt_cons]
  simp only [Step.always, Step.since, Span.contains, decide_eq_true_eq]
  split_ifs <;> rfl

theorem payloadAt_newsArticle (article : String) {version : Int}
    (known : Feature.reqNewsArticle ≤ version) :
    (Plan.newsArticle 1 (some "BRFG") (some article) none).payloadAt version =
      .ok ((["84", "1", "BRFG", article] ++
        if Feature.newsQueryOrigins ≤ version then [""] else []).flatMap Field.terminated) := by
  have free : (Plan.newsArticle 1 (some "BRFG") (some article) none).problem? version = none :=
    Check.first?_needs_of_le known ..
  have kind : (Field.int 84).wire = .ok "84" := by decide
  have id : (Field.int 1).wire = .ok "1" := by decide
  have written (text : String) : (Field.text text).wire = .ok text := rfl
  refine Plan.payloadAt_eq_ok_iff.mpr ⟨free, Field.encodeAll_eq_ok_iff.mpr ⟨_, ?_, rfl⟩⟩
  rw [fieldsAt_newsArticle, Field.SentAs]
  split_ifs <;> simp [kind, id, written]

theorem length_newsArticle (article : String) :
    (["84", "1", "BRFG", article].flatMap Field.terminated).length =
      (Text.encode article).length + 11 := by
  have lead : (["84", "1", "BRFG"].flatMap Field.terminated).length = 10 := by decide +kernel
  have split : ["84", "1", "BRFG", article] = ["84", "1", "BRFG"] ++ [article] := rfl
  rw [split, List.flatMap_append, List.length_append, lead, List.flatMap_singleton,
    Field.terminated, List.length_append, List.length_singleton]
  omega

/-- A request for an article whose id has so many characters that the message of version 127 just
fits into a frame. The message of version 128 has one more field, which is empty, and with it one
byte too many: it passes all checks, but it is not sent. -/
theorem newsArticle_outgrows_frame :
    let client : Client := ⟨.connected, 0, "", 0, Label.blank, false⟩
    let article := String.ofList (List.replicate 4294967284 'a')
    let request : Request := .newsArticle 1 (some "BRFG") (some article) none
    let payload := ["84", "1", "BRFG", article].flatMap Field.terminated
    client.state = .connected ∧ (⟨none, []⟩ : Surroundings).sendError = none ∧ request.IsShort ∧
      (101 : Int) ≤ 127 ∧ (127 : Int) ≤ 128 ∧
      ((client.facing 127).request ⟨none, []⟩ request).data = [Frame.write payload] ∧
      ((client.facing 128).request ⟨none, []⟩ request).data = [] := by
  intro client article request payload
  have length : payload.length = Frame.largestLength := by
    rw [length_newsArticle, Text.length_encode_replicate]
    rfl
  have older := payloadAt_newsArticle article (by decide : Feature.reqNewsArticle ≤ 127)
  have newer := payloadAt_newsArticle article (by decide : Feature.reqNewsArticle ≤ 128)
  rw [if_neg (by decide), List.append_nil] at older
  rw [if_pos (by decide), List.flatMap_append] at newer
  refine ⟨rfl, rfl, ?_, by decide, by decide, ?_, ?_⟩
  · refine List.forall_mem_cons.mpr ⟨by decide, List.forall_mem_cons.mpr ⟨nofun, ?_⟩⟩
    exact List.forall_mem_cons.mpr ⟨nofun, List.forall_mem_singleton.mpr (by decide)⟩
  · rw [@data_of_payloadAt (client.facing 127) ⟨none, []⟩ rfl rfl request _ older,
      if_neg (Nat.not_lt.mpr length.le)]
  · rw [@data_of_payloadAt (client.facing 128) ⟨none, []⟩ rfl rfl request _ newer, if_pos]
    rw [List.length_append, length]
    exact Nat.lt_succ_self _

end TradeWire
