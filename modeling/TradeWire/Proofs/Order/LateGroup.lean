import TradeWire.Proofs.Request.Plan

/-!
# Attributes that older servers do not know

Attributes that were added after the oldest announced version are written from their gate on. The
groups that share a gate and a check are listed in `lateGroups`, which holds everything with such a
gate but the quantity (`lateSteps_placeOrder`) and every check of such a gate (`first?_checks`).
Four of the groups are never refused. A group that is not given is written as for a new order
(`fields_alike`).
-/

namespace TradeWire

/-! ## Attributes that are given -/

namespace Order

def Benchmark.isGiven (b : Benchmark) : Bool :=
  b.referenceContractId != 0 || b.isDecrease || b.peggedChangeAmount.field.isGiven ||
    b.referenceChangeAmount.field.isGiven || b.referenceExchange.isGiven

/-- There are conditions, or some flag says what they do. -/
def Conditional.isGiven (c : Conditional) : Bool :=
  !(c.conditions.getD []).isEmpty || c.ignoreRegularHours || c.cancelOrder

def Adjustment.isGiven (a : Adjustment) : Bool :=
  a.orderType.isGiven || !a.triggerPrice.isUnset || !a.limitPriceOffset.isUnset ||
    !a.stopPrice.isUnset || !a.stopLimitPrice.isUnset || !a.trailingAmount.isUnset ||
    a.trailingUnit != 0

end Order

/-- A group of attributes that a server knows from some version on. They are given if some attribute
is not as in a new order, where a text or a list that is missing is as good as an empty one. -/
structure LateGroup where
  gate : Int
  fields : Order → List Field
  given : Order → Bool
  /-- What is said of a server that does not know them, if it is said. -/
  refusal? : Option String

namespace LateGroup

/-- The attributes are given, and the server does not know them. -/
def isEarly (version : Int) (order : Order) (group : LateGroup) : Bool :=
  decide (version < group.gate) && group.given order

def step (order : Order) (group : LateGroup) : Step := .since group.gate (group.fields order)

def check? (id : Int) (order : Order) (group : LateGroup) : Option Check :=
  group.refusal?.map fun detail => .needs group.gate id detail (group.given order)

end LateGroup

/-- The groups that came after the oldest announced version, in the order of their fields. -/
def lateGroups : List LateGroup := [
  ⟨Feature.modelsSupport, fun o => [o.modelCode.field], fun o => o.modelCode.isGiven,
    " It does not support model code parameter."⟩,
  ⟨Feature.peggedToBenchmark, fun o => o.benchmark.fields o.terms.orderType,
    fun o => o.benchmark.isGiven, none⟩,
  ⟨Feature.peggedToBenchmark, fun o => o.conditional.fields, fun o => o.conditional.isGiven, none⟩,
  ⟨Feature.peggedToBenchmark, fun o => o.adjustment.fields, fun o => o.adjustment.isGiven, none⟩,
  ⟨Feature.extOperator, fun o => [o.externalOperator.field], fun o => o.externalOperator.isGiven,
    " It does not support ext operator parameter."⟩,
  ⟨Feature.softDollarTier, fun o => [o.softDollarTier.name.field, o.softDollarTier.value.field],
    fun o => o.softDollarTier.name.isGiven || o.softDollarTier.value.isGiven,
    " It does not support soft dollar tier."⟩,
  ⟨Feature.cashQty, fun o => [o.cashQuantity.field], fun o => !o.cashQuantity.isUnset,
    " It does not support cash quantity parameter."⟩,
  ⟨Feature.decisionMaker, fun o => [o.mifid.decisionMaker.field, o.mifid.decisionAlgo.field],
    fun o => o.mifid.decisionMaker.isGiven || o.mifid.decisionAlgo.isGiven,
    " It does not support MIFID II decision maker parameters."⟩,
  ⟨Feature.mifidExecution, fun o => [o.mifid.executionTrader.field, o.mifid.executionAlgo.field],
    fun o => o.mifid.executionTrader.isGiven || o.mifid.executionAlgo.isGiven,
    " It does not support MIFID II execution parameters."⟩,
  ⟨Feature.autoPriceForHedge, fun o => [.flag o.noAutoPriceForHedge],
    fun o => o.noAutoPriceForHedge, " It does not support dontUseAutoPriceForHedge parameter."⟩,
  ⟨Feature.orderContainer, fun o => [.flag o.isOmsContainer], fun o => o.isOmsContainer,
    " It does not support oms container parameter."⟩,
  ⟨Feature.dPegOrders, fun o => [.flag o.discretionaryUpToLimitPrice],
    fun o => o.discretionaryUpToLimitPrice, none⟩,
  ⟨Feature.priceMgmtAlgo, fun o => [o.usePriceManagement.elim .empty .flag],
    fun o => o.usePriceManagement.isSome,
    " It does not support Use price management algo requests."⟩,
  ⟨Feature.duration, fun o => [.int o.duration], fun o => o.duration != unsetInt,
    " It does not support duration attribute."⟩,
  ⟨Feature.postToAts, fun o => [.int o.postToAts], fun o => o.postToAts != unsetInt,
    " It does not support postToAts attribute."⟩]

/-! ## Attributes that are not given -/

/-- Two fields of one value: equal, or equal as numbers, or both sent empty. -/
def Field.Alike (a b : Field) : Prop :=
  a = b ∨ a.same b = true ∨ a.wire = .ok "" ∧ b.wire = .ok ""

theorem alike_blank {label : Label} (absent : label.isGiven = false) :
    label.field.Alike Label.blank.field := by
  cases label with
  | none => exact .inr (.inr ⟨rfl, rfl⟩)
  | some text =>
    have empty : text = "" := by simpa [Label.isGiven] using absent
    rw [empty]
    exact .inl rfl

theorem alike_unset {number : Number} (absent : number.isUnset = true) :
    number.field.Alike Number.unset.field := by
  cases number with
  | int n => exact .inr (.inl absent)
  | real x => exact .inr (.inl absent)

theorem alike_zero {number : Number} (absent : number.field.isGiven = false) :
    number.field.Alike Number.zero.field := by
  cases number with
  | int n =>
    have zero : n = 0 := by simpa [Number.field, Field.isGiven] using absent
    rw [zero]
    exact .inr (.inl (by decide +kernel))
  | real x =>
    have zero : x.place = some 0 := by
      simpa [Number.field, Field.isGiven, Double.isZero] using absent
    refine .inr (.inl ?_)
    show x.same Double.zero = true
    have place : Double.zero.place = some 0 := by decide +kernel
    rw [Double.same, zero, place]
    rfl

theorem Order.Benchmark.fields_alike {b : Benchmark} (absent : b.isGiven = false)
    (orderType : Label) :
    List.Forall₂ Field.Alike (b.fields orderType) (Benchmark.fields orderType {}) := by
  simp only [isGiven, Bool.or_eq_false_iff, bne_eq_false_iff_eq] at absent
  obtain ⟨⟨⟨⟨contractId, decrease⟩, change⟩, reference⟩, exchange⟩ := absent
  unfold fields
  split_ifs
  · rw [contractId, decrease]
    exact .cons (.inl rfl) (.cons (.inl rfl) (.cons (alike_zero change)
      (.cons (alike_zero reference) (.cons (alike_blank exchange) .nil))))
  · exact .nil

theorem Order.Conditional.fields_alike {c : Conditional} (absent : c.isGiven = false) :
    List.Forall₂ Field.Alike c.fields (Conditional.fields {}) := by
  simp only [isGiven, Bool.or_eq_false_iff, Bool.not_eq_false', List.isEmpty_iff] at absent
  unfold fields
  rw [absent.1.1]
  exact .cons (.inl rfl) .nil

theorem Order.Adjustment.fields_alike {a : Adjustment} (absent : a.isGiven = false) :
    List.Forall₂ Field.Alike a.fields (Adjustment.fields {}) := by
  simp only [isGiven, Bool.or_eq_false_iff, Bool.not_eq_false', bne_eq_false_iff_eq] at absent
  obtain ⟨⟨⟨⟨⟨⟨type, trigger⟩, offset⟩, stop⟩, stopLimit⟩, trailing⟩, unit⟩ := absent
  unfold fields
  rw [unit]
  exact .cons (alike_blank type) (.cons (alike_unset trigger) (.cons (alike_unset offset)
    (.cons (alike_unset stop) (.cons (alike_unset stopLimit) (.cons (alike_unset trailing)
      (.cons (.inl rfl) .nil))))))

/-- Servers that know a group are sent what they are sent for a new order if it is not given. -/
theorem fields_alike (order : Order) : ∀ group ∈ lateGroups, group.given order = false →
    List.Forall₂ Field.Alike (group.fields order)
      (group.fields { terms.orderType := order.terms.orderType }) := by
  simp only [lateGroups, List.forall_mem_cons, Bool.or_eq_false_iff, Bool.not_eq_false',
    bne_eq_false_iff_eq]
  refine ⟨?model, fun absent => Order.Benchmark.fields_alike absent _,
    Order.Conditional.fields_alike, Order.Adjustment.fields_alike, ?operator, ?tier, ?cash,
    ?decision, ?execution, ?hedge, ?container, ?discretion, ?management, ?duration, ?ats,
    List.forall_mem_nil _⟩
  case model | operator => exact fun absent => .cons (alike_blank absent) .nil
  case tier | decision | execution =>
    exact fun absent => .cons (alike_blank absent.1) (.cons (alike_blank absent.2) .nil)
  case cash => exact fun absent => .cons (alike_unset absent) .nil
  case hedge | container | discretion | duration | ats =>
    intro absent
    rw [absent]
    exact .cons (.inl rfl) .nil
  case management =>
    intro absent
    rw [Option.isSome_eq_false_iff, Option.isNone_iff_eq_none] at absent
    rw [absent]
    exact .cons (.inl rfl) .nil

/-! ## Fields -/

/-- Written from some version on that is not the oldest one announced. -/
def Step.isLate (step : Step) : Bool :=
  match step.span with
  | .since first => decide (leastVersion < first)
  | _ => false

section

variable (id : Int) (contract : Contract) (order : Order)

theorem lateSteps_combo (combo : Order.Combo) :
    (Order.comboSteps contract combo).filter Step.isLate = [] := by
  rw [List.filter_eq_nil_iff]
  intro step member
  unfold Order.comboSteps at member
  split_ifs at member
  · rcases List.mem_cons.mp member with rfl | member
    · exact Bool.false_ne_true
    rcases List.mem_append.mp member with member | member
    · obtain ⟨leg, -, member⟩ := List.mem_flatMap.mp member
      fin_cases member <;> exact Bool.false_ne_true
    · fin_cases member <;> exact Bool.false_ne_true
  · cases member

/-- Of all that is written, only the late groups and the fractional quantity have a gate that an
announced version may not have reached. -/
theorem lateSteps_placeOrder :
    (order.steps id contract).filter Step.isLate =
      .since Feature.fractionalPositions [Order.doubleField order.terms.totalQuantity] ::
        lateGroups.map (·.step order) := by
  unfold Order.steps
  simp only [List.filter_append, List.filter_cons, lateSteps_combo]
  rfl

end

/-! ## Checks -/

section

variable {version : Int} (new : leastVersion ≤ version) (id : Int) (contract : Contract)
  (order : Order)

theorem first?_comparison (scale : Order.Scale) (checks : List Check) :
    Check.first? version (scale.comparison :: checks) =
      scale.comparison.problem?.or (Check.first? version checks) := by
  rw [Check.first?_cons]
  rfl

include new in
theorem first?_old {first : Int} (old : first ≤ leastVersion) (detail : String) (used : Bool)
    (checks : List Check) :
    Check.first? version (.needs first id detail used :: checks) = Check.first? version checks :=
  Check.first?_needs_of_le (old.trans new) id detail used checks

include new in
/-- Every announced version knows what came before the late groups. -/
theorem first?_checks :
    Check.first? version (order.checks id contract) =
      order.scale.comparison.problem?.or
        (Check.first? version (lateGroups.filterMap (·.check? id order))) := by
  unfold Order.checks
  simp (disch := decide) only [first?_old new, first?_comparison]
  rfl

/-- The report of the first late group that is given too early, of those that are refused. -/
def earlyReport? (version : Int) (order : Order) (groups : List LateGroup) : Option String :=
  (groups.filter (·.isEarly version order)).findSome? (·.refusal?)

theorem first?_late (version : Int) (groups : List LateGroup) :
    Check.first? version (groups.filterMap (·.check? id order)) =
      (earlyReport? version order groups).map fun detail =>
        .refused ⟨id, .serverTooOld, detail⟩ := by
  induction groups with
  | nil => rfl
  | cons group groups ih =>
    rw [earlyReport?, List.filter_cons, List.filterMap_cons, LateGroup.check?, LateGroup.isEarly]
    cases refusal : group.refusal? with
    | none =>
      rw [Option.map_none, ih, earlyReport?]
      split_ifs
      · rw [List.findSome?_cons, refusal]
      · rfl
    | some detail =>
      simp only [Option.map_some, Check.first?_needs, ih, Bool.and_eq_true, decide_eq_true_eq]
      split_ifs
      · rw [List.findSome?_cons, refusal]
        rfl
      · rfl

end

theorem earlyReport?_isSome_iff (version : Int) (order : Order) (groups : List LateGroup) :
    (earlyReport? version order groups).isSome = true ↔
      ∃ group ∈ groups, group.refusal?.isSome = true ∧ group.isEarly version order = true := by
  rw [earlyReport?, List.isSome_findSome?, List.any_eq_true]
  constructor
  · rintro ⟨group, member, refused⟩
    obtain ⟨member, early⟩ := List.mem_filter.mp member
    exact ⟨group, member, refused, early⟩
  · rintro ⟨group, member, refused, early⟩
    exact ⟨group, List.mem_filter.mpr ⟨member, early⟩, refused⟩

end TradeWire
