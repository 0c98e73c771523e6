import Mathlib.Tactic
import TradeWire.Client.Basic
import TradeWire.Proofs.Order.Conditions
import TradeWire.Proofs.Order.Itemised
import TradeWire.Proofs.Request.Plan

/-!
# Orders are read in one way only

The request to place an order has no delimiters around its groups. Where a group is and how long it
is depends on what was told before it: the kind of security decides on the legs, the type of the
order on the benchmark, the price increment on the details of the scale, counts on lists, the number
of a condition on its attributes. Each decision can be made from the text that was sent, without the
attribute itself, so orders that are sent as the same bytes tell the same
(`placeOrder_read_uniquely`).
-/

namespace TradeWire

/-! ## What decides on the items of an order -/

theorem wire_label (label : Label) :
    (describe label : Datum).field.wire = .ok (label.getD "") := by
  cases label <;> rfl

section

variable {label other : Label} {text : String}
  (sent : (describe label : Datum).field.wire = .ok text)
  (sent' : (describe other : Datum).field.wire = .ok text)
include sent sent'

theorem getD_eq_of_wire : label.getD "" = other.getD "" := by
  rw [wire_label] at sent sent'
  exact Except.ok.inj (sent.trans sent'.symm)

theorem isGiven_eq_of_wire : label.isGiven = other.isGiven := by
  have given (label : Label) : label.isGiven = decide (label.getD "" ≠ "") := by
    cases label <;> rfl
  rw [given, given, getD_eq_of_wire sent sent']

theorem beq_some_eq_of_wire {name : String} (named : name ≠ "") :
    (label == some name) = (other == some name) := by
  have same (label : Label) : (label == some name) = decide (label.getD "" = name) := by
    cases label with
    | none => exact (decide_eq_false named.symm).symm
    | some value => rfl
  rw [same, same, getD_eq_of_wire sent sent']

end

theorem hasIncrement_of_wire {s : Order.Scale} {x : Double} (real : s.priceIncrement = .real x)
    {text : String} (sent : s.priceIncrement.wire = .ok text) :
    s.hasIncrement = (decide (text ≠ "") && Double.looksPositive text) := by
  have increment : s.hasIncrement = (!x.same unsetDouble && x.isPositive) := by
    rw [Order.Scale.hasIncrement, real]
    rfl
  rw [real] at sent
  rw [increment]
  by_cases unset : x.same unsetDouble = true
  · obtain rfl := Except.ok.inj (sent.symm.trans ((wire_real_eq_empty_iff x).mpr unset))
    rw [unset]
    rfl
  · have given : text ≠ "" := fun empty => unset ((wire_real_eq_empty_iff x).mp (empty ▸ sent))
    rw [Field.wire, if_neg unset] at sent
    rw [← Except.ok.inj sent] at given ⊢
    rw [Bool.eq_false_of_not_eq_true unset, decide_eq_true given, x.isPositive_eq_looksPositive]
    rfl

theorem fresh_eq_of_wire {c d : Condition} (known : c.number?.isSome = true)
    (known' : d.number?.isSome = true) {text : String} (sent : c.numberField.wire = .ok text)
    (sent' : d.numberField.wire = .ok text) : c.fresh = d.fresh := by
  have value {c : Condition} (known : c.number?.isSome = true)
      (sent : c.numberField.wire = .ok text) :
      (intOf? text).bind Condition.ofNumber? = some c.fresh := by
    obtain ⟨n, number⟩ := Option.isSome_iff_exists.mp known
    have kind := Condition.ofNumber?_of_number? number
    have faithful : n ≠ unsetLong := by
      rintro rfl
      cases kind
    rw [Condition.numberField, number] at sent
    rw [Reading.intOf?_of_wire faithful sent]
    exact kind
  exact Option.some.inj ((value known sent).symm.trans (value known' sent'))

theorem places_fresh (c : Condition) :
    c.fresh.items.map Prod.fst = c.items.map Prod.fst := by
  obtain ⟨conjunction, trigger⟩ := c
  cases trigger with
  | threshold isMore measure =>
    cases measure with
    | contract contractId exchange measure => cases measure <;> rfl
    | _ => rfl
  | _ => rfl

/-- The number of its kind lays out what follows of a condition. -/
theorem alike_condition {c d : Condition} (known : c.number?.isSome = true)
    (known' : d.number?.isSome = true) : Alike c.items d.items := by
  refine alike_cons rfl fun text sent sent' => alike_of_places ?_
  have same : c.items.map Prod.fst = d.items.map Prod.fst := by
    rw [← places_fresh c, fresh_eq_of_wire known known' sent sent', places_fresh]
  exact congrArg List.tail same

/-! ## The groups of an order -/

theorem alikeAt_legs {version : Int} {legs others : List ComboLeg} {text : String}
    (sent : (countField legs).wire = .ok text) (sent' : (countField others).wire = .ok text) :
    ItemStep.AlikeAt version (legs.flatMap Contract.legItemSteps)
      (others.flatMap Contract.legItemSteps) := by
  have each (legs : List ComboLeg) : ItemStep.itemsAt version (legs.flatMap Contract.legItemSteps) =
      legs.flatMap fun leg => ItemStep.itemsAt version (Contract.legItemSteps leg) := by
    rw [ItemStep.itemsAt, List.filter_flatMap, List.flatMap_assoc]
    rfl
  rw [ItemStep.AlikeAt, each, each]
  refine alike_counted (fun leg => ?_) (fun _ _ _ _ => ItemStep.alikeAt_of_layout rfl) sent sent'
  rw [Contract.legItemSteps, ItemStep.itemsAt_cons]
  exact List.cons_ne_nil _ _

theorem flag_eq_of_wire {a b : Bool} {text : String} (sent : (Field.flag a).wire = .ok text)
    (sent' : (Field.flag b).wire = .ok text) : a = b := by
  have same := Except.ok.inj (sent.trans sent'.symm)
  revert same
  cases a <;> cases b <;> decide

theorem Contract.alike_neutralItems (c d : Contract) : Alike c.neutralItems d.neutralItems := by
  refine alike_cons rfl fun text sent sent' => ?_
  have same : c.deltaNeutral.isSome = d.deltaNeutral.isSome := flag_eq_of_wire sent sent'
  cases one : c.deltaNeutral <;> cases other : d.deltaNeutral
  · exact alike_of_places rfl
  · rw [one, other] at same
    cases same
  · rw [one, other] at same
    cases same
  · exact alike_of_places rfl

open ItemStep (AlikeAt AgreeAt alikeAt_cons alikeAt_append alikeAt_of_layout)

variable {version : Int}

theorem Contract.isCombo_eq_of_agree {c d : Contract}
    (agree : AgreeAt version c.itemSteps d.itemSteps) : c.isCombo = d.isCombo := by
  unfold itemSteps at agree
  obtain ⟨text, sent, sent'⟩ := agree.tail.head.tail.head
  exact beq_some_eq_of_wire sent sent' (by decide)

namespace Order

theorem isPeggedToBenchmark_eq_of_agree {o p : Order}
    (agree : AgreeAt version o.termItemSteps p.termItemSteps) :
    isPeggedToBenchmark o.terms.orderType = isPeggedToBenchmark p.terms.orderType := by
  unfold termItemSteps at agree
  obtain ⟨text, sent, sent'⟩ := agree.tail.tail.tail.head.head
  exact beq_some_eq_of_wire sent sent' (by decide)

theorem alikeAt_comboItemSteps {c d : Contract} (same : c.isCombo = d.isCombo) (o p : Order) :
    AlikeAt version (comboItemSteps c o) (comboItemSteps d p) := by
  rw [comboItemSteps, comboItemSteps, ← same]
  cases c.isCombo
  · exact alikeAt_of_layout rfl
  · refine alikeAt_cons (alike_of_places rfl) fun agree => ?_
    obtain ⟨text, sent, sent'⟩ := (agree rfl).head
    refine alikeAt_append (alikeAt_legs sent sent') fun _ => ?_
    refine alikeAt_cons (alike_cons rfl fun text sent sent' => ?_) fun _ => ?_
    · exact alike_counted (fun _ => List.cons_ne_nil _ _) (fun _ _ _ _ => alike_of_places rfl)
        sent sent'
    · exact alikeAt_cons (alike_pairItems _ _ _) fun _ => alikeAt_of_layout rfl

theorem alikeAt_volatilityItemSteps (o p : Order) :
    AlikeAt version o.volatilityItemSteps p.volatilityItemSteps := by
  refine alikeAt_cons (alike_of_places rfl) fun agree => ?_
  obtain ⟨text, sent, sent'⟩ := (agree rfl).tail.tail.head
  have same : o.volatility.isHedged = p.volatility.isHedged := isGiven_eq_of_wire sent sent'
  rw [same]
  cases p.volatility.isHedged <;> exact alikeAt_of_layout rfl

theorem alikeAt_scaleItemSteps {o p : Order} {x y : Double}
    (real : o.scale.priceIncrement = .real x) (real' : p.scale.priceIncrement = .real y) :
    AlikeAt version o.scaleItemSteps p.scaleItemSteps := by
  refine alikeAt_cons (alike_of_places rfl) fun _ => ?_
  refine alikeAt_cons (alike_of_places rfl) fun _ => ?_
  refine alikeAt_cons (alike_of_places rfl) fun agree => ?_
  obtain ⟨text, sent, sent'⟩ := (agree rfl).head
  have same : o.scale.hasIncrement = p.scale.hasIncrement :=
    (hasIncrement_of_wire real sent).trans (hasIncrement_of_wire real' sent').symm
  rw [same]
  cases p.scale.hasIncrement <;> exact alikeAt_of_layout rfl

theorem alike_hedgeItems (o p : Order) : Alike o.hedgeItems p.hedgeItems := by
  refine alike_cons rfl fun text sent sent' => ?_
  have same : o.hedge.kind.isGiven = p.hedge.kind.isGiven := isGiven_eq_of_wire sent sent'
  rw [same]
  cases p.hedge.kind.isGiven <;> exact alike_of_places rfl

theorem alike_algoItems (o p : Order) : Alike o.algoItems p.algoItems := by
  refine alike_cons rfl fun text sent sent' => ?_
  have same : o.algo.strategy.isGiven = p.algo.strategy.isGiven := isGiven_eq_of_wire sent sent'
  rw [same]
  cases p.algo.strategy.isGiven
  · exact alike_of_places rfl
  · exact alike_pairItems _ _ _

theorem alikeAt_strategyItemSteps (c d : Contract) (o p : Order) :
    AlikeAt version (o.strategyItemSteps c) (p.strategyItemSteps d) := by
  refine alikeAt_cons (alike_hedgeItems o p) fun _ => ?_
  refine alikeAt_cons (alike_of_places rfl) fun _ => ?_
  refine alikeAt_cons (alike_of_places rfl) fun _ => ?_
  refine alikeAt_cons (alike_of_places rfl) fun _ => ?_
  refine alikeAt_cons (c.alike_neutralItems d) fun _ => ?_
  refine alikeAt_cons (alike_algoItems o p) fun _ => ?_
  exact alikeAt_of_layout rfl

theorem alike_benchmarkItems {o p : Order}
    (same : isPeggedToBenchmark o.terms.orderType = isPeggedToBenchmark p.terms.orderType) :
    Alike o.benchmarkItems p.benchmarkItems := by
  rw [benchmarkItems, benchmarkItems, same]
  cases isPeggedToBenchmark p.terms.orderType <;> exact alike_of_places rfl

theorem alike_conditionalItems {o p : Order}
    (known : ∀ c ∈ o.conditional.conditions.getD [], c.number?.isSome = true)
    (known' : ∀ c ∈ p.conditional.conditions.getD [], c.number?.isSome = true) :
    Alike o.conditionalItems p.conditionalItems := by
  unfold conditionalItems
  refine alike_cons rfl fun text sent sent' => ?_
  refine alike_append ?_ fun agree => ?_
  · exact alike_counted (fun _ => List.cons_ne_nil _ _)
      (fun c hc d hd => alike_condition (known c hc) (known' d hd)) sent sent'
  · have same := isEmpty_eq_of_told (fun _ => List.cons_ne_nil _ _) agree.told
    rw [same]
    cases (p.conditional.conditions.getD []).isEmpty <;> exact alike_of_places rfl

/-! ## The request -/

/-- All items of the request at a version. -/
def items (version id : Int) (contract : Contract) (o : Order) : List Item :=
  (.kind, .int Outgoing.placeOrder.number) :: ItemStep.itemsAt version (itemSteps id contract o)

theorem map_items (version id : Int) (contract : Contract) (o : Order) :
    (o.items version id contract).map Prod.snd =
      (Plan.placeOrder id contract o).fieldsAt version := by
  rw [items, List.map_cons, ItemStep.map_itemsAt, map_itemSteps]
  rfl

/-- What is asked for can be read from the message: the increment of the scale is a double, the
conditions are of kinds that can be sent, and no text that is sent has the zero character. -/
structure IsLegible (version id : Int) (contract : Contract) (o : Order) : Prop where
  increment : ∃ x, o.scale.priceIncrement = .real x
  conditions : ∀ c ∈ o.conditional.conditions.getD [], c.number?.isSome = true
  texts : ∀ field ∈ (Plan.placeOrder id contract o).fieldsAt version, field.IsPlain

variable {id id' : Int} {c d : Contract} {o p : Order}

/-- Any two legible orders are alike, whatever their groups. -/
theorem alike_items (legible : o.IsLegible version id c) (legible' : p.IsLegible version id' d) :
    Alike (o.items version id c) (p.items version id' d) := by
  obtain ⟨x, real⟩ := legible.increment
  obtain ⟨y, real'⟩ := legible'.increment
  refine alike_cons rfl fun _ _ _ => ?_
  show AlikeAt version (itemSteps id c o) (itemSteps id' d p)
  -- from the front, since what was told decides on the groups that follow
  simp only [itemSteps, List.append_assoc, List.cons_append]
  refine alikeAt_append (alikeAt_of_layout rfl) fun _ => ?_
  refine alikeAt_cons (alike_of_places rfl) fun _ => ?_
  refine alikeAt_append (alikeAt_of_layout rfl) fun contracts => ?_
  have combo := Contract.isCombo_eq_of_agree contracts
  refine alikeAt_append (alikeAt_of_layout rfl) fun terms => ?_
  have pegged := isPeggedToBenchmark_eq_of_agree terms
  refine alikeAt_cons (alike_of_places rfl) fun _ => ?_
  refine alikeAt_append (alikeAt_comboItemSteps combo o p) fun _ => ?_
  refine alikeAt_append (alikeAt_of_layout rfl) fun _ => ?_
  refine alikeAt_append (alikeAt_of_layout rfl) fun _ => ?_
  refine alikeAt_append (alikeAt_volatilityItemSteps o p) fun _ => ?_
  refine alikeAt_append (alikeAt_of_layout rfl) fun _ => ?_
  refine alikeAt_append (alikeAt_scaleItemSteps real real') fun _ => ?_
  refine alikeAt_append (alikeAt_strategyItemSteps c d o p) fun _ => ?_
  refine alikeAt_append ?_ fun _ => alikeAt_of_layout rfl
  refine alikeAt_cons (alike_benchmarkItems pegged) fun _ => ?_
  refine alikeAt_cons (alike_conditionalItems legible.conditions legible'.conditions) fun _ => ?_
  exact alikeAt_of_layout rfl

end Order

/-- **An order is read in one way only.** If two calls send the same bytes at the same version of
the server, they wrote the same attributes in the same order, and each of them as the same text.
What was written are all fields of the message. -/
theorem placeOrder_read_uniquely {client other : Client} {around around' : Surroundings}
    (version : client.serverVersion = other.serverVersion) {id id' : Int} {c d : Contract}
    {o p : Order} (legible : o.IsLegible client.serverVersion id c)
    (legible' : p.IsLegible other.serverVersion id' d) {frame : Bytes}
    (sent : frame ∈ (client.request around (.placeOrder id c o)).data)
    (sent' : frame ∈ (other.request around' (.placeOrder id' d p)).data) :
    let written := o.items client.serverVersion id c
    let written' := p.items other.serverVersion id' d
    told written = told written' ∧
      written.map Prod.snd = (Plan.placeOrder id c o).fieldsAt client.serverVersion ∧
      written'.map Prod.snd = (Plan.placeOrder id' d p).fieldsAt other.serverVersion ∧
      ∃ texts, Field.SentAs (written.map Prod.snd) texts ∧
        frame = Frame.write (texts.flatMap Field.terminated) := by
  obtain ⟨payload, planned, fits, rfl⟩ := exists_payloadAt_of_mem_data sent
  obtain ⟨payload', planned', fits', same⟩ := exists_payloadAt_of_mem_data sent'
  obtain rfl : payload = payload' := (List.append_inj same rfl).2
  obtain ⟨-, encoded⟩ := Plan.payloadAt_eq_ok_iff.mp planned
  obtain ⟨-, encoded'⟩ := Plan.payloadAt_eq_ok_iff.mp planned'
  refine ⟨?_, Order.map_items .., Order.map_items .., ?_⟩
  · have texts := sentAs_splitFields legible.texts encoded
    have texts' := sentAs_splitFields legible'.texts encoded'
    have short := (length_splitFields_le payload).trans fits
    rw [← version] at legible' texts' ⊢
    rw [← Order.map_items] at texts texts'
    exact (Order.alike_items legible legible' _ _ [] [] texts texts' short short rfl).1
  · obtain ⟨texts, written, rfl⟩ := Field.encodeAll_eq_ok_iff.mp encoded
    exact ⟨texts, (Order.map_items ..).symm ▸ written, rfl⟩

/-- An order for a spread, with a scale and a condition. -/
def conditionalSpread : Order where
  scale.priceIncrement := .real (.ofDecimal false 5 (-2))
  combo := {
    legs := some [{ price := .real (.ofDecimal false 125 (-2)) }, {}]
    routingParams := some [⟨"NonGuaranteed", "1"⟩] }
  conditional.conditions :=
    some [{ trigger := .threshold false (.time (some "20240102 09:30:00")) }]

/-- Whether a text is missing or blank cannot be told from the message, and does not change what it
tells. -/
theorem placeOrder_read_uniquely_spread :
    let client : Client := ⟨.connected, 151, "", 0, Label.blank, false⟩
    let spread : Contract := {
      secType := some "BAG",
      comboLegs := some [{ contractId := 8314, ratio := 1 }, { contractId := 9408, ratio := 2 }] }
    let o := conditionalSpread
    let p := { conditionalSpread with modelCode := none }
    o.IsLegible 151 1 spread ∧ p.IsLegible 151 1 spread ∧
      (∃ frame, frame ∈ (client.request {} (.placeOrder 1 spread o)).data ∧
        frame ∈ (client.request {} (.placeOrder 1 spread p)).data) ∧
      told (o.items 151 1 spread) = told (p.items 151 1 spread) := by
  intro client spread o p
  have legible : o.IsLegible 151 1 spread := ⟨⟨_, rfl⟩, by decide +kernel, by decide +kernel⟩
  have legible' : p.IsLegible 151 1 spread := ⟨⟨_, rfl⟩, by decide +kernel, by decide +kernel⟩
  have same : (client.request {} (.placeOrder 1 spread p)).data =
      (client.request {} (.placeOrder 1 spread o)).data := by decide +kernel
  obtain ⟨frame, sent⟩ :=
    List.exists_mem_of_ne_nil (client.request {} (.placeOrder 1 spread o)).data (by decide +kernel)
  have sent' : frame ∈ (client.request {} (.placeOrder 1 spread p)).data := by rwa [same]
  exact ⟨legible, legible', ⟨frame, sent, sent'⟩,
    (@placeOrder_read_uniquely client client {} {} rfl 1 1 spread spread o p legible legible' frame
      sent sent').1⟩

end TradeWire
