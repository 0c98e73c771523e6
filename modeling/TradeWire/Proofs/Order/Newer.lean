import TradeWire.Proofs.Request.Growth

/-!
# Orders for newer servers

Apart from the version of the message, what is written of an order only grows with the version of
the server (`exists_growing_order`). The groups that came after version 101 are the benchmark, the
conditions, the adjustment and the later attributes; each of their fields can be written because it
is an attribute of the order, a flag or a text.
-/

namespace TradeWire

/-! ## Legs -/

theorem grow_legSteps (c : Contract) : ∀ step ∈ c.legSteps, step.Grows := by
  unfold Contract.legSteps
  split_ifs
  · exact grows_of_all rfl
  · exact nofun

theorem grow_comboSteps (c : Contract) (combo : Order.Combo) :
    ∀ step ∈ Order.comboSteps c combo, step.Grows := by
  unfold Order.comboSteps
  split_ifs
  · refine List.forall_mem_append.mpr ⟨List.forall_mem_cons.mpr ⟨.inl rfl, ?_⟩, grows_of_all rfl⟩
    intro step h
    obtain ⟨leg, -, h⟩ := List.mem_flatMap.mp h
    exact grows_of_all rfl step h
  · exact nofun

/-! ## Groups of later versions -/

section

variable {order : Order} (short : (describe order).IsShort)
include short

theorem isWritable_benchmark :
    ∀ field ∈ order.benchmark.fields order.terms.orderType, field.IsWritable := by
  have contractId : (Field.int order.benchmark.referenceContractId).IsWritable :=
    isWritable_attribute short (by repeat constructor)
  have peggedChange : order.benchmark.peggedChangeAmount.field.IsWritable :=
    isWritable_attribute short (by repeat constructor)
  have referenceChange : order.benchmark.referenceChangeAmount.field.IsWritable :=
    isWritable_attribute short (by repeat constructor)
  unfold Order.Benchmark.fields
  split_ifs
  · simp [contractId, peggedChange, referenceChange]
  · exact nofun

theorem isWritable_conditional : ∀ field ∈ order.conditional.fields, field.IsWritable := by
  have conditions : (describe order.conditional.conditions).IsShort := by
    refine short.of_mem_record (?_ : ("conditions", _) ∈ _)
    repeat constructor
  unfold Order.Conditional.fields
  cases given : order.conditional.conditions with
  | none => exact List.forall_mem_singleton.mpr ⟨_, rfl⟩
  | some list =>
    rw [given] at conditions
    replace conditions : (Datum.list (list.map describe)).IsShort := conditions
    have count := conditions.length
    rw [List.length_map] at count
    refine List.forall_mem_append.mpr ⟨List.forall_mem_cons.mpr ⟨isWritable_of_isShort count, ?_⟩,
      ?_⟩
    · intro field h
      obtain ⟨condition, member, h⟩ := List.mem_flatMap.mp h
      exact isWritable_condition (conditions.of_mem_list (List.mem_map_of_mem member)) field h
    · split_ifs <;> simp

theorem isWritable_adjustment : ∀ field ∈ order.adjustment.fields, field.IsWritable := by
  have triggerPrice : order.adjustment.triggerPrice.field.IsWritable :=
    isWritable_attribute short (by repeat constructor)
  have offset : order.adjustment.limitPriceOffset.field.IsWritable :=
    isWritable_attribute short (by repeat constructor)
  have stopPrice : order.adjustment.stopPrice.field.IsWritable :=
    isWritable_attribute short (by repeat constructor)
  have stopLimit : order.adjustment.stopLimitPrice.field.IsWritable :=
    isWritable_attribute short (by repeat constructor)
  have amount : order.adjustment.trailingAmount.field.IsWritable :=
    isWritable_attribute short (by repeat constructor)
  have unit : (Field.int order.adjustment.trailingUnit).IsWritable :=
    isWritable_attribute short (by repeat constructor)
  simp [Order.Adjustment.fields, triggerPrice, offset, stopPrice, stopLimit, amount, unit]

theorem allWritable_peggedSteps : Step.AllWritable order.peggedSteps :=
  List.forall_mem_cons.mpr ⟨isWritable_benchmark short,
    List.forall_mem_cons.mpr ⟨isWritable_conditional short,
      List.forall_mem_singleton.mpr (isWritable_adjustment short)⟩⟩

theorem allWritable_laterSteps : Step.AllWritable order.laterSteps := by
  have cash : order.cashQuantity.field.IsWritable :=
    isWritable_attribute short (by repeat constructor)
  have management : (order.usePriceManagement.elim Field.empty Field.flag).IsWritable := by
    cases order.usePriceManagement <;> exact ⟨_, rfl⟩
  have duration : (Field.int order.duration).IsWritable :=
    isWritable_attribute short (by repeat constructor)
  have ats : (Field.int order.postToAts).IsWritable :=
    isWritable_attribute short (by repeat constructor)
  simp [Order.laterSteps, Step.since, cash, management, duration, ats]

theorem grow_peggedSteps : ∀ step ∈ order.peggedSteps, step.Grows :=
  grow_of_allWritable (allWritable_peggedSteps short) (by simp [Order.peggedSteps, Step.since])

theorem grow_laterSteps : ∀ step ∈ order.laterSteps, step.Grows :=
  grow_of_allWritable (allWritable_laterSteps short) (by simp [Order.laterSteps, Step.since])

end

/-! ## The order -/

theorem grow_allotmentSteps (order : Order) : ∀ step ∈ order.allotmentSteps, step.Grows :=
  List.forall_mem_cons.mpr ⟨.inl rfl,
    List.forall_mem_singleton.mpr
      (grows_since (List.forall_mem_singleton.mpr (isWritable_label order.modelCode)))⟩

theorem exists_growing_order (id : Int) (c : Contract) {order : Order}
    (short : (describe order).IsShort) :
    ∃ steps, order.steps id c = Order.messageVersion ++ steps ∧ ∀ step ∈ steps, step.Grows := by
  unfold Order.steps
  simp only [List.append_assoc]
  refine ⟨_, rfl, ?_⟩
  simp only [List.forall_mem_append]
  exact ⟨grows_of_all rfl, grows_of_all rfl,
    List.forall_mem_cons.mpr ⟨.inl rfl, grow_comboSteps c order.combo⟩, grow_allotmentSteps order,
    grows_of_all rfl, grows_of_all rfl, grows_of_all rfl, grows_of_all rfl, grows_of_all rfl,
    grow_peggedSteps short, grow_laterSteps short⟩

end TradeWire
