import TradeWire.Message.Interpret
import TradeWire.Proofs.Wire.Measuring

/-!
# Quantities that are too large

Servers before fractional positions send quantities as integers, in six kinds of messages, and an
integer may be too large for a double. `Incoming.quantityLeads` says behind which fields a quantity
stands, and a number fails to be converted exactly when all fields before a quantity can be read and
it is too large (`Incoming.overflows`). Newer servers send no such quantity.
-/

namespace TradeWire

open Reading Slot
open Measuring (afterInt)

/-! ## Places of quantities -/

def contractSlots (multiplier tradingClass : Bool) : List Slot :=
  .int :: .text :: .text :: .text :: .double :: .text ::
    (only multiplier [.text] ++ .text :: .text :: .text :: only tradingClass [.text])

def portfolioSlots (own : Int) : List Slot :=
  .int :: .text :: .text :: .text :: .double :: .text ::
    (only (7 ≤ own) [.text] ++ (only (7 ≤ own) [.text] ++
      .text :: .text :: only (8 ≤ own) [.text]))

/-- The places of a position before its quantity. -/
def positionSlots (own : Int) : List Slot := .text :: contractSlots true (2 ≤ own)

/-- The places of a fill before its quantity. -/
def executionSlots (own : Int) : List Slot :=
  only (7 ≤ own) [.int] ++ .int :: (contractSlots (9 ≤ own) (10 ≤ own) ++
    [.text, .text, .text, .text, .text])

/-- The places of an open order before its quantity. -/
def openOrderSlots (own : Int) : List Slot :=
  .int :: (contractSlots (32 ≤ own) (32 ≤ own) ++ [.text])

/-- The places before each quantity in a message from a server before fractional positions. They
depend on the version of the message, with which it begins if it has one. -/
def Incoming.quantityLeads (own : Int) : Incoming → List (List Slot)
  | .orderStatus => [[.text, .int, .text], [.text, .int, .text, .int]]
  | .openOrder => [.int :: openOrderSlots own]
  | .portfolioValue => [.int :: portfolioSlots own]
  | .executionData => [.int :: executionSlots own]
  | .positionData => [.int :: positionSlots own]
  | .completedOrder => [contractSlots true true ++ [.text]]
  | _ => []

/-- The integer with which some fields begin. -/
def ownVersionOf : List String → Int
  | [] => 0
  | token :: _ => (intOf? token).getD 0

/-- Whether some quantity in the fields of a message is reached and too large. -/
def Incoming.overflows (version : Int) (kind : Incoming) (fields : List String) : Bool :=
  (kind.quantityLeads (ownVersionOf fields)).any fun lead =>
    (strip lead fields).any (oversized version)

/-! ## Contracts and reports -/

theorem takes_number : Takes [.double] number := takes_map takes_double _

theorem takes_contract (multiplier tradingClass : Bool) :
    Takes (contractSlots multiplier tradingClass) (contract multiplier tradingClass) := by
  unfold contract contractSlots
  refine takes_cons takes_int fun _ => takes_cons takes_text fun _ => ?_
  refine takes_cons takes_text fun _ => takes_cons takes_text fun _ => ?_
  refine takes_cons takes_number fun _ => takes_cons takes_text fun _ => ?_
  refine takes_bind (takes_onlyIf takes_text multiplier _) fun _ => ?_
  refine takes_cons takes_text fun _ => takes_cons takes_text fun _ => ?_
  exact takes_cons takes_text fun _ => takes_map (takes_onlyIf takes_text tradingClass _) _

theorem takes_portfolioContract (own : Int) :
    Takes (portfolioSlots own) (Message.portfolioContract own) := by
  unfold Message.portfolioContract portfolioSlots
  refine takes_cons takes_int fun _ => takes_cons takes_text fun _ => ?_
  refine takes_cons takes_text fun _ => takes_cons takes_text fun _ => ?_
  refine takes_cons takes_number fun _ => takes_cons takes_text fun _ => ?_
  refine takes_bind (takes_onlyIf takes_text _ _) fun _ => ?_
  refine takes_bind (takes_onlyIf takes_text _ _) fun _ => ?_
  refine takes_cons takes_text fun _ => takes_cons takes_text fun _ => ?_
  exact takes_map (takes_onlyIf takes_text _ _) _

namespace Segment

theorem takes_of {α : Type} {slots : List Slot} {read : Reading α} (h : Takes slots read)
    (put : OrderReport → α → OrderReport) (report : OrderReport) :
    Takes slots (Segment.of read put report) := takes_map h (put report)

theorem takes_onlyIf {slots : List Slot} {segment : Segment}
    (h : ∀ report, Takes slots (segment report)) (condition : Bool) (report : OrderReport) :
    Takes (only condition slots) (Segment.onlyIf condition segment report) := by
  cases condition
  · exact takes_pure report
  · exact h report

theorem takes_all_cons {slot : Slot} {slots : List Slot} {segment : Segment}
    {segments : List Segment} (h : ∀ report, Takes [slot] (segment report))
    (hs : ∀ report, Takes slots (all segments report)) (report : OrderReport) :
    Takes (slot :: slots) (all (segment :: segments) report) := takes_bind (h report) hs

theorem takes_all_append {first second : List Slot} {segments more : List Segment}
    (h : ∀ report, Takes first (all segments report))
    (hm : ∀ report, Takes second (all more report)) (report : OrderReport) :
    Takes (first ++ second) (all (segments ++ more) report) := by
  rw [all, List.foldlM_append]
  exact takes_bind (h report) hm

theorem takes_all_singleton {slots : List Slot} {segment : Segment}
    (h : ∀ report, Takes slots (segment report)) (report : OrderReport) :
    Takes slots (all [segment] report) := takes_map (h report) id

end Segment

namespace OrderReport

open Segment (takes_of takes_all_cons takes_all_append takes_all_singleton)

variable (v : ReportVersions)

theorem takes_contractSegments :
    ∀ report, Takes (contractSlots (32 ≤ v.message) (32 ≤ v.message))
      (Segment.all (contractSegments v) report) := by
  unfold contractSegments contractSlots
  refine takes_all_cons (takes_of takes_int _) <| takes_all_cons (takes_of takes_text _) ?_
  refine takes_all_cons (takes_of takes_text _) <| takes_all_cons (takes_of takes_text _) ?_
  refine takes_all_cons (takes_of takes_number _) <| takes_all_cons (takes_of takes_text _) ?_
  intro report
  refine takes_bind (Segment.takes_onlyIf (takes_of takes_text _) _ report) ?_
  refine takes_all_cons (takes_of takes_text _) <| takes_all_cons (takes_of takes_text _) ?_
  refine takes_all_cons (takes_of takes_text _) ?_
  exact takes_all_singleton (Segment.takes_onlyIf (takes_of takes_text _) _)

theorem takes_openLead (report : OrderReport) :
    Takes (.int :: (contractSlots (32 ≤ v.message) (32 ≤ v.message) ++ [.text]))
      (Segment.all (openLead v) report) :=
  takes_all_cons (takes_of takes_int _) (takes_all_append (takes_contractSegments v)
    (takes_all_singleton (takes_of takes_text _))) report

theorem takes_completedLead (report : OrderReport) :
    Takes (contractSlots (32 ≤ v.message) (32 ≤ v.message) ++ [.text])
      (Segment.all (completedLead v) report) :=
  takes_all_append (takes_contractSegments v) (takes_all_singleton (takes_of takes_text _)) report

end OrderReport

/-! ## Handlers -/

theorem any_strip_append (first second : List Slot) (fields : List String)
    (overflow : List String → Bool) :
    (strip (first ++ second) fields).any overflow =
      (strip first fields).any fun rest => (strip second rest).any overflow := by
  rw [strip_append]
  cases strip first fields <;> rfl

/-- What a message holds after its version depends on that version. -/
theorem afterInt_strip (slots : Int → List Slot) (overflow : List String → Bool)
    (fields : List String) :
    afterInt (fun own rest => (strip (slots own) rest).any overflow) fields =
      (strip (.int :: slots (ownVersionOf fields)) fields).any overflow := by
  cases fields with
  | nil => rfl
  | cons token rest =>
    simp only [afterInt, strip, accepts, ownVersionOf]
    cases intOf? token <;> rfl

theorem any_never {α : Type} (value : Option α) : (value.any fun _ => false) = false := by
  cases value <;> rfl

theorem any_or {α : Type} (first second : α → Bool) (value : Option α) :
    (value.any fun a => first a || second a) = (value.any first || value.any second) := by
  cases value <;> rfl

theorem afterInt_never (fields : List String) : afterInt (fun _ _ => false) fields = false := by
  cases fields with
  | nil => rfl
  | cons token rest => exact any_never (intOf? token)

theorem overflows_of_new {version : Int} (new : Feature.fractionalPositions ≤ version)
    (kind : Incoming) (fields : List String) : kind.overflows version fields = false := by
  rw [Incoming.overflows, oversized_of_new new, List.any_eq_false]
  intro lead member
  rw [any_never]
  exact Bool.false_ne_true

namespace Message

open Measuring

variable (version : Int)

theorem overflows_portfolioValue :
    (portfolioValue version).Overflows (Incoming.portfolioValue.overflows version) := by
  unfold portfolioValue
  refine Overflows.congr (overflows_int_bind fun own =>
    overflows_lift_bind (takes_portfolioContract own) fun contract =>
    overflows_bind (overflows_quantity version) fun held => ?_) fun fields => ?_
  · iterate 7 refine overflows_bind (converts_lift _) fun _ => ?_
    exact converts_pure _
  · exact (afterInt_strip portfolioSlots _ fields).trans (Bool.or_false _).symm

theorem overflows_positionHeld :
    (positionHeld version).Overflows (Incoming.positionData.overflows version) := by
  unfold positionHeld
  refine Overflows.congr (overflows_int_bind fun own =>
    overflows_lift_bind takes_next fun account =>
    overflows_lift_bind (takes_contract true (2 ≤ own)) fun contract =>
    overflows_bind (overflows_quantity version) fun held =>
    overflows_bind (converts_lift _) fun cost => converts_pure _) fun fields => ?_
  simp only [← any_strip_append]
  exact (afterInt_strip positionSlots _ fields).trans (Bool.or_false _).symm

theorem overflows_execution (own orderId : Int) :
    (execution version own orderId).Overflows fun fields =>
      (strip [.text, .text, .text, .text, .text] fields).any (oversized version) := by
  unfold execution
  refine Overflows.congr (overflows_lift_bind takes_text fun executionId =>
    overflows_lift_bind takes_text fun time => overflows_lift_bind takes_text fun account =>
    overflows_lift_bind takes_text fun exchange => overflows_lift_bind takes_text fun side =>
    overflows_bind (overflows_quantity version) fun shares => ?_) fun fields => ?_
  · iterate 11 refine overflows_bind (converts_lift _) fun _ => ?_
    exact converts_pure _
  · simp only [← any_strip_append]
    rfl

theorem overflows_executionDetails :
    (executionDetails version).Overflows (Incoming.executionData.overflows version) := by
  unfold executionDetails
  refine Overflows.congr (overflows_ownVersion_bind (fun own =>
    overflows_lift_bind (takes_onlyIf takes_int _ _) fun id => overflows_lift_bind takes_int
      fun orderId => overflows_lift_bind (takes_contract (9 ≤ own) (10 ≤ own)) fun contract =>
      overflows_bind (overflows_execution version own orderId) fun execution => converts_pure _)
    (version < Feature.lastLiquidity) version) fun fields => ?_
  by_cases new : Feature.fractionalPositions ≤ version
  · simp only [overflows_of_new new, oversized_of_new new, any_never]
    split_ifs
    · exact afterInt_never fields
    · rfl
  · have sent : version < Feature.lastLiquidity := by
      unfold Feature.fractionalPositions at new
      unfold Feature.lastLiquidity
      omega
    simp only [← any_strip_append, decide_eq_true sent, if_true]
    exact (afterInt_strip executionSlots _ fields).trans (Bool.or_false _).symm

theorem converts_orderStatus (new : Feature.fractionalPositions ≤ version) :
    (orderStatus version).Converts := by
  have converts : (quantity version).Converts := by
    rw [Converts, ← oversized_of_new new]
    exact overflows_quantity version
  unfold orderStatus
  iterate 3 refine overflows_bind (converts_lift _) fun _ => ?_
  refine overflows_bind converts fun filled => overflows_bind converts fun remaining => ?_
  iterate 7 refine overflows_bind (converts_lift _) fun _ => ?_
  exact converts_pure _

theorem overflows_orderStatus :
    (orderStatus version).Overflows (Incoming.orderStatus.overflows version) := by
  by_cases new : Feature.fractionalPositions ≤ version
  · exact (converts_orderStatus version new).congr fun fields =>
      (overflows_of_new new .orderStatus fields).symm
  · have uncapped : ¬ Feature.marketCapPrice ≤ version := by
      unfold Feature.fractionalPositions at new
      unfold Feature.marketCapPrice
      omega
    unfold orderStatus
    simp only [decide_eq_false uncapped, Bool.not_false]
    refine Overflows.congr (overflows_lift_bind (takes_onlyIf takes_skip true ()) fun _ =>
      overflows_lift_bind takes_int fun id => overflows_lift_bind takes_next fun status =>
      overflows_quantity_bind (Int.not_le.mp new) fun filled =>
      overflows_bind (overflows_quantity version) fun remaining => ?_) fun fields => ?_
    · iterate 7 refine overflows_bind (converts_lift _) fun _ => ?_
      exact converts_pure _
    · simp only [any_or, ← any_strip_append]
      exact congrArg _ (Bool.or_false _).symm

/-- A report fails to convert its quantity just if what comes before can be read. -/
theorem overflows_report (v : ReportVersions) {slots : List Slot} {lead : List Segment}
    (h : ∀ report, Takes slots (Segment.all lead report)) (rest : List Segment) :
    (OrderReport.read v lead rest).Overflows fun fields =>
      (strip slots fields).any (oversized v.server) :=
  overflows_lift_bind (h {}) fun _ => overflows_bind (overflows_quantity v.server) fun _ =>
    converts_lift _

theorem overflows_openReport (v : ReportVersions) :
    (OrderReport.read v (OrderReport.openLead v) (OrderReport.openSegments v)).Overflows
      fun fields => (strip (openOrderSlots v.message) fields).any (oversized v.server) :=
  overflows_report v (OrderReport.takes_openLead v) _

theorem overflows_completedReport (v : ReportVersions) :
    (OrderReport.read v (OrderReport.completedLead v) (OrderReport.completedSegments v)).Overflows
      fun fields => (strip (contractSlots (32 ≤ v.message) (32 ≤ v.message) ++ [.text]) fields).any
        (oversized v.server) :=
  overflows_report v (OrderReport.takes_completedLead v) _

theorem overflows_openOrder :
    (openOrder version).Overflows (Incoming.openOrder.overflows version) := by
  have report := overflows_ownVersion_bind (fun own => overflows_openReport ⟨own, version⟩)
    (version < Feature.orderContainer) version
  refine Overflows.congr (overflows_bind report fun _ => converts_pure _) fun fields => ?_
  by_cases new : Feature.fractionalPositions ≤ version
  · simp only [overflows_of_new new, oversized_of_new new, any_never]
    split_ifs
    · exact afterInt_never fields
    · rfl
  · have sent : version < Feature.orderContainer := by
      unfold Feature.fractionalPositions at new
      unfold Feature.orderContainer
      omega
    simp only [decide_eq_true sent, if_true]
    exact (afterInt_strip openOrderSlots _ fields).trans (Bool.or_false _).symm

theorem overflows_completedOrder :
    (completedOrder version).Overflows (Incoming.completedOrder.overflows version) := by
  have report := overflows_completedReport ⟨unsetInt, version⟩
  refine Overflows.congr (overflows_bind report fun _ => converts_pure _) fun fields => ?_
  exact (Bool.or_false _).symm

end Message

end TradeWire
