import TradeWire.Proofs.Message.Sections

/-!
# Counted lists in reports of orders

Reports of open and of completed orders hold the same five counted lists, in segments that both have
(`ReportShape`): the legs of a combination, their prices, routing parameters, the parameters of a
strategy, and conditions. No other segment changes a list (`Segment.Keeps`), so a report carries
each as it was read (`heldBy_openOrder`, `heldBy_completedOrder`). The conditions of a report are
left as they were if none are counted, so that they also have to be kept by what comes in front of
them, from the new report on that has none.
-/

namespace TradeWire

open Reading

/-! ## Segments that keep an attribute -/

namespace Segment

variable {α γ : Type}

/-- Leaves an attribute of the report as it is. -/
def Keeps (get : OrderReport → γ) (segment : Segment) : Prop :=
  ∀ report, (segment report).Yields fun after => get after = get report

variable {get : OrderReport → γ}

theorem keeps_of {read : Reading α} {put : OrderReport → α → OrderReport}
    (h : ∀ report value, get (put report value) = get report) : Keeps get (.of read put) :=
  fun report => yields_bind fun value => yields_pure (h report value)

theorem keeps_into {part : OrderReport → α} {read : α → Reading α}
    {put : OrderReport → α → OrderReport}
    (h : ∀ report value, get (put report value) = get report) :
    Keeps get (.into part read put) :=
  fun report => yields_bind fun value => yields_pure (h report value)

theorem keeps_ignored (count : Int) : Keeps get (.ignored count) :=
  fun _ => yields_bind fun _ => yields_pure rfl

theorem keeps_onlyIf {segment : Segment} (h : Keeps get segment) (condition : Bool) :
    Keeps get (.onlyIf condition segment) := by
  intro report
  unfold onlyIf
  split_ifs
  · exact h report
  · exact yields_pure rfl

theorem keeps_onlyIf_of {condition : Bool} {read : Reading α}
    {put : OrderReport → α → OrderReport}
    (h : ∀ report value, get (put report value) = get report) :
    Keeps get (.onlyIf condition (.of read put)) := keeps_onlyIf (keeps_of h) condition

theorem keeps_onlyIf_into {condition : Bool} {part : OrderReport → α} {read : α → Reading α}
    {put : OrderReport → α → OrderReport}
    (h : ∀ report value, get (put report value) = get report) :
    Keeps get (.onlyIf condition (.into part read put)) := keeps_onlyIf (keeps_into h) condition

theorem all_cons (segment : Segment) (segments : List Segment) (report : OrderReport) :
    all (segment :: segments) report = segment report >>= all segments := List.foldlM_cons

theorem all_append (first second : List Segment) (report : OrderReport) :
    all (first ++ second) report = all first report >>= all second := List.foldlM_append

theorem keeps_all {segments : List Segment} (h : ∀ segment ∈ segments, Keeps get segment) :
    Keeps get (.all segments) := by
  induction segments with
  | nil => exact fun report => yields_pure rfl
  | cons segment segments ih =>
    obtain ⟨first, others⟩ := List.forall_mem_cons.mp h
    intro report
    rw [all_cons]
    refine yields_of_yields (first report) fun between same => ?_
    intro c after left ended
    exact (ih others between c after left ended).trans same

theorem Keeps.of_keeps {δ : Type} {part : OrderReport → δ} {segment : Segment}
    (h : Keeps get segment) (depends : ∀ after report, get after = get report →
      part after = part report) : Keeps part segment :=
  fun report c after left ended => depends after report (h report c after left ended)

end Segment

/-! ## Lists of a report -/

def OrderReport.lists (report : OrderReport) :=
  (report.contract.comboLegs, report.order.combo.legs, report.order.combo.routingParams,
    report.order.algo.params, report.order.conditional.conditions)

/-- Has nothing to do with the counted lists. -/
abbrev Segment.IsPlain (segment : Segment) : Prop := segment.Keeps OrderReport.lists

/-- The parts of a report that stand around those with counted lists. -/
structure ReportShape where
  before : List Segment
  middle : List Segment
  later : List Segment
  final : List Segment

namespace ReportShape

variable (v : ReportVersions) (shape : ReportShape)

def segments : List Segment :=
  shape.before ++ OrderReport.comboSegments v ++ shape.middle ++ OrderReport.strategySegments v ++
    shape.later ++ OrderReport.conditionSegments v ++ shape.final

/-- Nothing changes a list but the parts with lists. -/
structure IsPlain : Prop where
  before : ∀ segment ∈ shape.before, segment.IsPlain
  middle : ∀ segment ∈ shape.middle, segment.IsPlain
  later : ∀ segment ∈ shape.later, segment.IsPlain
  final : ∀ segment ∈ shape.final, segment.IsPlain

end ReportShape

open Segment (keeps_of keeps_into keeps_onlyIf keeps_onlyIf_of keeps_onlyIf_into keeps_all)

namespace OrderReport

variable (v : ReportVersions)

def openShape : ReportShape where
  before := openTerms v
  middle := [scaleSegment v, hedgeSegment v, optOutSegment v]
  later := whatIfSegments v
  final := openExtras v

def completedShape : ReportShape where
  before := completedTerms v
  middle := [scaleSegment v, hedgeSegment v]
  later := [statusSegment]
  final := completedExtras v

theorem segments_openShape : (openShape v).segments v = openSegments v := rfl

theorem segments_completedShape : (completedShape v).segments v = completedSegments v := rfl

theorem isPlain_of {α : Type} {read : Reading α} {put : OrderReport → α → OrderReport}
    (h : ∀ report value, (put report value).lists = report.lists) :
    (Segment.of read put).IsPlain := keeps_of h

theorem isPlain_onlyIf {α : Type} {read : Reading α} {put : OrderReport → α → OrderReport}
    {condition : Bool} (h : ∀ report value, (put report value).lists = report.lists) :
    (Segment.onlyIf condition (.of read put)).IsPlain := keeps_onlyIf_of h

theorem isPlain_into {α : Type} {part : OrderReport → α} {read : α → Reading α}
    {put : OrderReport → α → OrderReport}
    (h : ∀ report value, (put report value).lists = report.lists) :
    (Segment.into part read put).IsPlain := keeps_into h

theorem isPlain_contractSegments : ∀ segment ∈ contractSegments v, segment.IsPlain := by
  unfold contractSegments
  iterate 6 refine List.forall_mem_cons.mpr ⟨isPlain_of fun _ _ => rfl, ?_⟩
  refine List.forall_mem_cons.mpr ⟨isPlain_onlyIf fun _ _ => rfl, ?_⟩
  iterate 3 refine List.forall_mem_cons.mpr ⟨isPlain_of fun _ _ => rfl, ?_⟩
  exact List.forall_mem_singleton.mpr (isPlain_onlyIf fun _ _ => rfl)

theorem isPlain_openLead : ∀ segment ∈ openLead v, segment.IsPlain := by
  refine List.forall_mem_cons.mpr ⟨isPlain_of fun _ _ => rfl, ?_⟩
  refine List.forall_mem_append.mpr ⟨isPlain_contractSegments v, ?_⟩
  exact List.forall_mem_singleton.mpr (isPlain_of fun _ _ => rfl)

theorem isPlain_completedLead : ∀ segment ∈ completedLead v, segment.IsPlain := by
  refine List.forall_mem_append.mpr ⟨isPlain_contractSegments v, ?_⟩
  exact List.forall_mem_singleton.mpr (isPlain_of fun _ _ => rfl)

theorem isPlain_termSegments : ∀ segment ∈ termSegments v, segment.IsPlain := by
  unfold termSegments
  iterate 9 refine List.forall_mem_cons.mpr ⟨isPlain_of fun _ _ => rfl, ?_⟩
  exact List.forall_mem_nil _

theorem isPlain_activitySegments : ∀ segment ∈ activitySegments, segment.IsPlain := by
  unfold activitySegments
  iterate 5 refine List.forall_mem_cons.mpr ⟨isPlain_of fun _ _ => rfl, ?_⟩
  exact List.forall_mem_nil _

theorem isPlain_exemptCode : (exemptCode v).IsPlain := by
  unfold exemptCode
  split_ifs
  · exact Segment.keeps_ignored 1
  · exact isPlain_onlyIf fun _ _ => rfl

theorem isPlain_allotmentSegments : ∀ segment ∈ allotmentSegments v, segment.IsPlain := by
  unfold allotmentSegments
  iterate 4 refine List.forall_mem_cons.mpr ⟨isPlain_of fun _ _ => rfl, ?_⟩
  refine List.forall_mem_cons.mpr ⟨isPlain_onlyIf fun _ _ => rfl, ?_⟩
  iterate 6 refine List.forall_mem_cons.mpr ⟨isPlain_of fun _ _ => rfl, ?_⟩
  exact List.forall_mem_singleton.mpr (isPlain_exemptCode v)

theorem isPlain_rangeSegments : ∀ segment ∈ rangeSegments, segment.IsPlain := by
  unfold rangeSegments
  iterate 6 refine List.forall_mem_cons.mpr ⟨isPlain_of fun _ _ => rfl, ?_⟩
  exact List.forall_mem_nil _

theorem isPlain_sizeSegments : ∀ segment ∈ sizeSegments, segment.IsPlain := by
  unfold sizeSegments
  iterate 3 refine List.forall_mem_cons.mpr ⟨isPlain_of fun _ _ => rfl, ?_⟩
  exact List.forall_mem_nil _

theorem isPlain_volatilitySegments (isOpen : Bool) :
    ∀ segment ∈ volatilitySegments v isOpen, segment.IsPlain := by
  unfold volatilitySegments
  iterate 2 refine List.forall_mem_cons.mpr ⟨isPlain_into fun _ _ => rfl, ?_⟩
  exact List.forall_mem_nil _

theorem isPlain_openTerms : ∀ segment ∈ openTerms v, segment.IsPlain := by
  unfold openTerms sweepSegment triggerSegment
  simp only [List.forall_mem_append]
  refine ⟨⟨⟨⟨⟨⟨⟨isPlain_termSegments v, ?_⟩, ?_⟩, ?_⟩, ?_⟩, ?_⟩,
    isPlain_volatilitySegments v true⟩, ?_⟩
  · exact List.forall_mem_cons.mpr ⟨isPlain_of fun _ _ => rfl, isPlain_activitySegments⟩
  · exact List.forall_mem_cons.mpr ⟨Segment.keeps_ignored 1, isPlain_allotmentSegments v⟩
  · exact List.forall_mem_cons.mpr ⟨isPlain_of fun _ _ => rfl, isPlain_rangeSegments⟩
  · iterate 2 refine List.forall_mem_cons.mpr ⟨isPlain_of fun _ _ => rfl, ?_⟩
    exact isPlain_sizeSegments
  · iterate 5 refine List.forall_mem_cons.mpr ⟨isPlain_of fun _ _ => rfl, ?_⟩
    exact List.forall_mem_nil _
  · iterate 2 refine List.forall_mem_cons.mpr ⟨isPlain_of fun _ _ => rfl, ?_⟩
    exact List.forall_mem_nil _

theorem isPlain_completedTerms : ∀ segment ∈ completedTerms v, segment.IsPlain := by
  unfold completedTerms sweepSegment triggerSegment
  simp only [List.forall_mem_append]
  refine ⟨⟨⟨⟨⟨isPlain_termSegments v, isPlain_activitySegments⟩, isPlain_allotmentSegments v⟩,
    isPlain_rangeSegments⟩, ?_⟩, ?_⟩
  · exact List.forall_mem_cons.mpr ⟨isPlain_of fun _ _ => rfl, isPlain_sizeSegments⟩
  · exact List.forall_mem_cons.mpr
      ⟨isPlain_of fun _ _ => rfl, isPlain_volatilitySegments v false⟩

theorem isPlain_whatIfSegments : ∀ segment ∈ whatIfSegments v, segment.IsPlain := by
  unfold whatIfSegments marginSegments statusSegment
  iterate 2 refine List.forall_mem_cons.mpr ⟨isPlain_of fun _ _ => rfl, ?_⟩
  iterate 6 refine List.forall_mem_cons.mpr ⟨isPlain_onlyIf fun _ _ => rfl, ?_⟩
  iterate 8 refine List.forall_mem_cons.mpr ⟨isPlain_of fun _ _ => rfl, ?_⟩
  exact List.forall_mem_nil _

theorem isPlain_stopSegments : ∀ segment ∈ stopSegments, segment.IsPlain := by
  unfold stopSegments
  iterate 2 refine List.forall_mem_cons.mpr ⟨isPlain_of fun _ _ => rfl, ?_⟩
  exact List.forall_mem_nil _

theorem isPlain_adjustmentSegments : ∀ segment ∈ adjustmentSegments, segment.IsPlain := by
  unfold adjustmentSegments stopSegments
  iterate 8 refine List.forall_mem_cons.mpr ⟨isPlain_of fun _ _ => rfl, ?_⟩
  exact List.forall_mem_nil _

theorem isPlain_cashSegments : ∀ segment ∈ cashSegments v, segment.IsPlain := by
  unfold cashSegments
  iterate 3 refine List.forall_mem_cons.mpr ⟨isPlain_onlyIf fun _ _ => rfl, ?_⟩
  exact List.forall_mem_nil _

theorem isPlain_completionSegments : ∀ segment ∈ completionSegments, segment.IsPlain := by
  unfold completionSegments
  iterate 10 refine List.forall_mem_cons.mpr ⟨isPlain_of fun _ _ => rfl, ?_⟩
  exact List.forall_mem_nil _

theorem isPlain_openShape : (openShape v).IsPlain where
  before := isPlain_openTerms v
  middle := by
    refine List.forall_mem_cons.mpr ⟨isPlain_into fun _ _ => rfl, ?_⟩
    refine List.forall_mem_cons.mpr ⟨keeps_onlyIf_into fun _ _ => rfl, ?_⟩
    exact List.forall_mem_singleton.mpr (isPlain_onlyIf fun _ _ => rfl)
  later := isPlain_whatIfSegments v
  final := by
    refine List.forall_mem_append.mpr ⟨?_, ?_⟩
    · refine List.forall_mem_cons.mpr ⟨keeps_onlyIf (keeps_all isPlain_adjustmentSegments) _, ?_⟩
      refine List.forall_mem_cons.mpr ⟨isPlain_onlyIf fun _ _ => rfl, ?_⟩
      exact isPlain_cashSegments v
    · iterate 2 refine List.forall_mem_cons.mpr ⟨isPlain_onlyIf fun _ _ => rfl, ?_⟩
      exact List.forall_mem_nil _

theorem isPlain_completedShape : (completedShape v).IsPlain where
  before := isPlain_completedTerms v
  middle := by
    refine List.forall_mem_cons.mpr ⟨isPlain_into fun _ _ => rfl, ?_⟩
    exact List.forall_mem_singleton.mpr (keeps_onlyIf_into fun _ _ => rfl)
  later := List.forall_mem_singleton.mpr (isPlain_of fun _ _ => rfl)
  final := by
    refine List.forall_mem_append.mpr ⟨List.forall_mem_append.mpr ⟨?_, ?_⟩, ?_⟩
    · exact isPlain_stopSegments
    · exact isPlain_cashSegments v
    · exact isPlain_completionSegments

end OrderReport

/-- A report has no conditions yet. -/
def OrderReport.HasNoConditions (report : OrderReport) : Prop :=
  report.order.conditional.conditions = some []

theorem OrderReport.hasNoConditions_of_lists {after report : OrderReport}
    (same : after.lists = report.lists) (none : report.HasNoConditions) :
    after.HasNoConditions :=
  (congrArg (·.2.2.2.2) same : after.order.conditional.conditions = _).trans none

/-! ## Reading a list -/

/-- A counted list of a report: the parts in front of the one that it stands in, what is read in
this part before the number, how many fields a record takes at least, and the attribute that the
list is read into. -/
structure ReportList where
  Item : Type
  width : Nat
  front : ReportVersions → ReportShape → List Segment
  lead : ReportVersions → Reading (Option (Reading Item))
  get : OrderReport → Option (List Item)
  spends : ∀ v, (lead v).Yields fun item? => ∀ item ∈ item?, Spends width item

namespace ReportList

/-- What is read in front of the number of the list, from behind the quantity on. -/
def reading (l : ReportList) (v : ReportVersions) (shape : ReportShape) (report : OrderReport) :
    Reading (Option (Reading l.Item)) := do
  let _ ← Segment.all (l.front v shape) report
  l.lead v

/-- The parts of a report read the list into its attribute, and leave it there, if the report had
no conditions before. -/
def HeldBy (l : ReportList) (v : ReportVersions) (shape : ReportShape) : Prop :=
  ∀ report : OrderReport, report.HasNoConditions →
    HasList (Segment.all (shape.segments v) report).start (l.reading v shape report).start
      fun after records => l.get after = some records

section

variable {l : ReportList} {v : ReportVersions} {shape : ReportShape} {segment : Segment}
  {behind : List Segment} (split : shape.segments v = l.front v shape ++ segment :: behind)
  (hb : ∀ other ∈ behind, Segment.Keeps l.get other)
include split hb

/-- A list is read by the one part that it stands in, from what is known in front of it. -/
theorem heldBy_of_known (known : OrderReport → Prop)
    (hf : ∀ report : OrderReport, report.HasNoConditions →
      (Segment.all (l.front v shape) report).Yields known)
    (h : ∀ report, known report → HasList (segment report).start (l.lead v).start
      fun after records => l.get after = some records) : l.HeldBy v shape := by
  intro report none
  rw [split, Segment.all_append]
  refine hasList_bind_of_yields (hf report none) fun between here => ?_
  rw [Segment.all_cons]
  refine hasList_then (h between here) fun after records same => ?_
  intro c last left ended
  exact (keeps_all hb after c last left ended).trans same

theorem heldBy_of_segment
    (h : ∀ report, HasList (segment report).start (l.lead v).start
      fun after records => l.get after = some records) : l.HeldBy v shape :=
  heldBy_of_known split hb (fun _ => True) (fun _ _ _ _ _ _ => trivial) fun report _ => h report

end

theorem hasList_onlyIf {α : Type} {lead : Reading (Option (Reading α))}
    {carries : OrderReport → List α → Prop} {segment : Segment} {report : OrderReport}
    (h : HasList (segment report).start lead.start carries) (condition : Bool) :
    HasList (Segment.onlyIf condition segment report).start (onlyIf condition none lead).start
      carries := by
  cases condition
  · exact hasList_none _
  · exact h

theorem hasList_of {α : Type} {item : Reading α} {put : OrderReport → List α → OrderReport}
    {get : OrderReport → Option (List α)} (h : ∀ report records,
      get (put report records) = some records) (report : OrderReport) :
    HasList (Segment.of (listOf item) put report).start
      (pure (some item) : Reading (Option (Reading α))).start
      fun after records => get after = some records :=
  hasList_listOf fun records => yields_pure (h report records)

theorem yields_onlyIf {α : Type} {width : Nat} {lead : Reading (Option (Reading α))}
    (h : lead.Yields fun item? => ∀ item ∈ item?, Spends width item) (condition : Bool) :
    (onlyIf condition none lead).Yields fun item? => ∀ item ∈ item?, Spends width item := by
  cases condition
  · exact Section.yields_none
  · exact h

end ReportList

namespace OrderReport

open ReportList

variable (v : ReportVersions) (shape : ReportShape)

/-! ## Records of reports -/

theorem spends_comboLeg : Spends 8 ComboLeg.read := by
  refine spends_cons spends_int fun _ => spends_cons spends_int fun _ => ?_
  refine spends_cons spends_text fun _ => spends_cons spends_text fun _ => ?_
  refine spends_cons spends_int fun _ => spends_cons spends_int fun _ => ?_
  exact spends_cons spends_text fun _ => spends_map spends_int _

theorem spends_orderLeg : Spends 1 OrderLeg.read := spends_map spends_number _

theorem spends_changed {α : Type} {steps : List (Reading (α → α))}
    (h : ∀ step ∈ steps, Spends 1 step) (value : α) :
    Spends steps.length (changed steps value) := by
  induction steps generalizing value with
  | nil => exact spends_zero _
  | cons step steps ih =>
    obtain ⟨first, others⟩ := List.forall_mem_cons.mp h
    have one : changed (step :: steps) value =
        (step >>= fun change => pure (change value)) >>= changed steps := List.foldlM_cons
    rw [one]
    exact spends_cons (spends_map first _) fun value => ih others value

theorem spends_contractMeasure (measure : ContractMeasure) :
    ∀ step ∈ measure.steps, Spends 1 step := by
  cases measure with
  | unspecified => exact List.forall_mem_nil _
  | price =>
    refine List.forall_mem_cons.mpr ⟨spends_map spends_double _, ?_⟩
    exact List.forall_mem_singleton.mpr (spends_map spends_int _)
  | percentChange => exact List.forall_mem_singleton.mpr (spends_map spends_double _)
  | volume => exact List.forall_mem_singleton.mpr (spends_map spends_int _)

theorem spends_measure (measure : Measure) : ∀ step ∈ measure.steps, Spends 1 step := by
  cases measure with
  | unspecified => exact List.forall_mem_nil _
  | margin => exact List.forall_mem_singleton.mpr (spends_map spends_int _)
  | time => exact List.forall_mem_singleton.mpr (spends_map spends_text _)
  | contract _ _ measure =>
    refine List.forall_mem_cons.mpr ⟨spends_map spends_int _, ?_⟩
    refine List.forall_mem_cons.mpr ⟨spends_map spends_text _, List.forall_mem_map.mpr ?_⟩
    exact fun step member => spends_map (spends_contractMeasure measure step member) _

theorem spends_trigger (trigger : Trigger) : ∀ step ∈ trigger.steps, Spends 1 step := by
  cases trigger with
  | unspecified => exact List.forall_mem_nil _
  | execution =>
    iterate 3 refine List.forall_mem_cons.mpr ⟨spends_map spends_text _, ?_⟩
    exact List.forall_mem_nil _
  | threshold _ measure =>
    refine List.forall_mem_cons.mpr ⟨spends_map spends_flag _, List.forall_mem_map.mpr ?_⟩
    exact fun step member => spends_map (spends_measure measure step member) _

theorem spends_steps (c : Condition) : ∀ step ∈ c.steps, Spends 1 step := by
  refine List.forall_mem_cons.mpr ⟨spends_map spends_next _, List.forall_mem_map.mpr ?_⟩
  exact fun step member => spends_map (spends_trigger c.trigger step member) _

theorem spends_condition : Spends 4 Condition.read := by
  refine spends_cons spends_int fun number => ?_
  cases found : Condition.ofNumber? number with
  | none => exact nofun
  | some blank =>
    have many : 3 ≤ blank.steps.length := by
      unfold Condition.ofNumber? at found
      split at found <;> cases found <;> decide
    intro c value left ended
    have spent := spends_changed (spends_steps blank) blank c value left ended
    omega

/-! ## The lists -/

def legs : ReportList where
  Item := ComboLeg
  width := 8
  front v shape := shape.before ++ (comboSegments v).take 1
  lead v := onlyIf (29 ≤ v.message) none (pure (some ComboLeg.read))
  get report := report.contract.comboLegs
  spends _ := yields_onlyIf (Section.yields_some spends_comboLeg) _

def legPrices : ReportList where
  Item := OrderLeg
  width := 1
  front v shape := shape.before ++ (comboSegments v).take 2
  lead v := onlyIf (29 ≤ v.message) none (pure (some OrderLeg.read))
  get report := report.order.combo.legs
  spends _ := yields_onlyIf (Section.yields_some spends_orderLeg) _

def routingParams : ReportList where
  Item := TagValue
  width := 2
  front v shape := shape.before ++ (comboSegments v).take 3
  lead v := onlyIf (26 ≤ v.message) none (pure (some pair))
  get report := report.order.combo.routingParams
  spends _ := yields_onlyIf (Section.yields_some Message.spends_pair) _

/-- The parameters of a strategy, if one is named. -/
def algoParams : ReportList where
  Item := TagValue
  width := 2
  front v shape := shape.before ++ comboSegments v ++ shape.middle ++ (strategySegments v).take 4
  lead v := onlyIf (21 ≤ v.message) none (do
    let strategy : Label ← text
    onlyIf strategy.isGiven none (pure (some pair)))
  get report := report.order.algo.params
  spends _ := yields_onlyIf
    (yields_bind fun _ => yields_onlyIf (Section.yields_some Message.spends_pair) _) _

def conditions : ReportList where
  Item := Condition
  width := 4
  front v shape := shape.before ++ comboSegments v ++ shape.middle ++ strategySegments v ++
    shape.later ++ (conditionSegments v).take 3
  lead v := onlyIf (Feature.peggedToBenchmark ≤ v.server) none (pure (some Condition.read))
  get report := report.order.conditional.conditions
  spends _ := yields_onlyIf (Section.yields_some spends_condition) _

/-! ## What stands behind the lists -/

theorem isPlain_benchmarkSegment : (benchmarkSegment v).IsPlain := by
  refine keeps_onlyIf (fun report => ?_) _
  split_ifs
  · exact yields_bind fun _ => yields_pure rfl
  · exact yields_pure rfl

section

variable {v shape} {γ : Type} {get : OrderReport → γ}
  (depends : ∀ after report, after.lists = report.lists → get after = get report)
include depends

theorem keeps_of_isPlain {segment : Segment} (h : segment.IsPlain) : segment.Keeps get :=
  h.of_keeps depends

variable (plain : shape.IsPlain)
include plain

theorem keeps_final : ∀ segment ∈ shape.final, segment.Keeps get :=
  fun segment member => keeps_of_isPlain depends (plain.final segment member)

variable (conditional : ∀ report x, get { report with order.conditional := x } = get report)
include conditional

theorem keeps_behindStrategy :
    ∀ segment ∈ shape.later ++ conditionSegments v ++ shape.final, segment.Keeps get := by
  refine List.forall_mem_append.mpr ⟨List.forall_mem_append.mpr ⟨?_, ?_⟩, ?_⟩
  · exact fun segment member => keeps_of_isPlain depends (plain.later segment member)
  · unfold conditionSegments
    iterate 2
      refine List.forall_mem_cons.mpr
        ⟨keeps_of_isPlain depends (isPlain_onlyIf fun _ _ => rfl), ?_⟩
    refine List.forall_mem_cons.mpr ⟨keeps_of_isPlain depends (isPlain_benchmarkSegment v), ?_⟩
    exact List.forall_mem_singleton.mpr (keeps_onlyIf_into conditional)
  · exact keeps_final depends plain

theorem keeps_behindCombo (algo : ∀ report x, get { report with order.algo := x } = get report) :
    ∀ segment ∈ shape.middle ++ strategySegments v ++
      (shape.later ++ conditionSegments v ++ shape.final), segment.Keeps get := by
  refine List.forall_mem_append.mpr ⟨List.forall_mem_append.mpr ⟨?_, ?_⟩, ?_⟩
  · exact fun segment member => keeps_of_isPlain depends (plain.middle segment member)
  · unfold strategySegments
    iterate 2
      refine List.forall_mem_cons.mpr ⟨keeps_of_isPlain depends (isPlain_of fun _ _ => rfl), ?_⟩
    refine List.forall_mem_cons.mpr ⟨keeps_of_isPlain depends (isPlain_onlyIf fun _ _ => rfl), ?_⟩
    refine List.forall_mem_cons.mpr
      ⟨keeps_of_isPlain depends (keeps_onlyIf_into fun _ _ => rfl), ?_⟩
    refine List.forall_mem_cons.mpr ⟨keeps_onlyIf_into algo, ?_⟩
    exact List.forall_mem_singleton.mpr
      (keeps_of_isPlain depends (isPlain_onlyIf fun _ _ => rfl))
  · exact keeps_behindStrategy depends plain conditional

end

section

variable {v shape} (plain : shape.IsPlain)
include plain

/-- What stands in front of the conditions has nothing to do with them. -/
theorem keeps_frontOfConditions : ∀ segment ∈ conditions.front v shape,
    segment.Keeps fun report => report.order.conditional.conditions := by
  have depends (after report : OrderReport) (same : after.lists = report.lists) :
      after.order.conditional.conditions = report.order.conditional.conditions :=
    congrArg (·.2.2.2.2) same
  simp only [conditions, List.forall_mem_append]
  refine ⟨⟨⟨⟨⟨fun segment member => ?before, ?combo⟩, fun segment member => ?middle⟩, ?strategy⟩,
    fun segment member => ?later⟩, ?lead⟩
  case before => exact keeps_of_isPlain depends (plain.before segment member)
  case combo =>
    refine List.forall_mem_cons.mpr ⟨keeps_of fun _ _ => rfl, ?_⟩
    iterate 3 refine List.forall_mem_cons.mpr ⟨keeps_onlyIf_of fun _ _ => rfl, ?_⟩
    exact List.forall_mem_nil _
  case middle => exact keeps_of_isPlain depends (plain.middle segment member)
  case strategy =>
    iterate 2 refine List.forall_mem_cons.mpr ⟨keeps_of fun _ _ => rfl, ?_⟩
    refine List.forall_mem_cons.mpr ⟨keeps_onlyIf_of fun _ _ => rfl, ?_⟩
    iterate 2 refine List.forall_mem_cons.mpr ⟨keeps_onlyIf_into fun _ _ => rfl, ?_⟩
    exact List.forall_mem_singleton.mpr (keeps_onlyIf_of fun _ _ => rfl)
  case later => exact keeps_of_isPlain depends (plain.later segment member)
  case lead =>
    iterate 2 refine List.forall_mem_cons.mpr ⟨keeps_onlyIf_of fun _ _ => rfl, ?_⟩
    exact List.forall_mem_singleton.mpr (keeps_of_isPlain depends (isPlain_benchmarkSegment v))

end

/-! ## Parts that do more than read a list -/

theorem hasList_algo (before : Order.Algo) : HasList before.read.start
    (text >>= fun strategy => onlyIf (Label.isGiven strategy) none (pure (some pair))).start
    fun after records => after.params = some records := by
  refine hasList_bind text fun strategy => ?_
  cases Label.isGiven strategy
  · exact hasList_none _
  · have list : HasList (some <$> pairs).start (pure (some pair) : Reading _).start
        fun params records => params = some records :=
      hasList_listOf fun records => yields_pure rfl
    exact hasList_then list fun params records same => yields_pure same

theorem hasList_conditional {before : Order.Conditional} (none : before.conditions = some []) :
    HasList before.read.start
      (pure (some Condition.read) : Reading (Option (Reading Condition))).start
      fun after records => after.conditions = some records := by
  have split : before.read = int >>= fun count =>
      counted count Condition.read >>= fun conditions =>
        if 0 < count then do
          let ignoreRegularHours ← flag
          let cancelOrder ← flag
          return { conditions := some conditions, ignoreRegularHours, cancelOrder }
        else return before := by
    refine congrArg (int >>= ·) (funext fun count => ?_)
    split_ifs with some
    · rfl
    · rw [counted, Int.toNat_of_nonpos (Int.not_lt.mp some)]
      rfl
  rw [split]
  refine hasList_counted fun n records length => ?_
  split_ifs with some
  · exact yields_bind fun _ => yields_bind fun _ => yields_pure rfl
  · rw [Int.toNat_of_nonpos (Int.not_lt.mp some)] at length
    rw [List.length_eq_zero_iff.mp length]
    exact yields_pure none

/-! ## All lists of a report -/

variable {v shape} (plain : shape.IsPlain)
include plain

theorem heldBy_of_combo {l : ReportList} {condition : Bool} {item : Reading l.Item}
    {put : OrderReport → List l.Item → OrderReport} (first : List Segment)
    {behind : List Segment} (front : l.front v shape = shape.before ++ first)
    (combo : comboSegments v = first ++ .onlyIf condition (.of (listOf item) put) :: behind)
    (lead : l.lead v = onlyIf condition none (pure (some item)))
    (taken : ∀ report records, l.get (put report records) = some records)
    (rest : ∀ segment ∈ behind, segment.Keeps l.get)
    (depends : ∀ after report, after.lists = report.lists → l.get after = l.get report)
    (conditional : ∀ report x, l.get { report with order.conditional := x } = l.get report)
    (algo : ∀ report x, l.get { report with order.algo := x } = l.get report) :
    l.HeldBy v shape := by
  have split : shape.segments v = l.front v shape ++
      .onlyIf condition (.of (listOf item) put) ::
        (behind ++ (shape.middle ++ strategySegments v ++
          (shape.later ++ conditionSegments v ++ shape.final))) := by
    rw [ReportShape.segments, front, combo]
    simp only [List.append_assoc, List.cons_append]
  refine heldBy_of_segment split
    (List.forall_mem_append.mpr ⟨rest, keeps_behindCombo depends plain conditional algo⟩)
    fun report => ?_
  rw [lead]
  exact hasList_onlyIf (hasList_of taken report) condition

theorem heldBy_legs : legs.HeldBy v shape := by
  refine heldBy_of_combo plain ((comboSegments v).take 1) rfl rfl rfl (fun _ _ => rfl) ?_
    (fun _ _ same => congrArg (·.1) same) (fun _ _ => rfl) fun _ _ => rfl
  refine List.forall_mem_cons.mpr ⟨keeps_onlyIf_of fun _ _ => rfl, ?_⟩
  exact List.forall_mem_singleton.mpr (keeps_onlyIf_of fun _ _ => rfl)

theorem heldBy_legPrices : legPrices.HeldBy v shape := by
  refine heldBy_of_combo plain ((comboSegments v).take 2) rfl rfl rfl (fun _ _ => rfl) ?_
    (fun _ _ same => congrArg (·.2.1) same) (fun _ _ => rfl) fun _ _ => rfl
  exact List.forall_mem_singleton.mpr (keeps_onlyIf_of fun _ _ => rfl)

theorem heldBy_routingParams : routingParams.HeldBy v shape := by
  refine heldBy_of_combo plain ((comboSegments v).take 3) rfl rfl rfl (fun _ _ => rfl) ?_
    (fun _ _ same => congrArg (·.2.2.1) same) (fun _ _ => rfl) fun _ _ => rfl
  exact List.forall_mem_nil _

theorem heldBy_algoParams : algoParams.HeldBy v shape := by
  have split : shape.segments v = algoParams.front v shape ++ algoSegment v ::
      ((strategySegments v).drop 5 ++ (shape.later ++ conditionSegments v ++ shape.final)) := by
    simp only [ReportShape.segments, algoParams, List.append_assoc]
    rfl
  refine heldBy_of_segment split ?_ fun report => hasList_onlyIf ?_ _
  · refine List.forall_mem_append.mpr ⟨?_, keeps_behindStrategy ?_ plain ?_⟩
    · exact List.forall_mem_singleton.mpr (keeps_onlyIf_of fun _ _ => rfl)
    · exact fun _ _ same => congrArg (·.2.2.2.1) same
    · exact fun _ _ => rfl
  · exact hasList_then (hasList_algo report.order.algo) fun _ _ same => yields_pure same

theorem heldBy_conditions : conditions.HeldBy v shape := by
  have split : shape.segments v = conditions.front v shape ++ conditionalSegment v ::
      shape.final := by
    simp only [ReportShape.segments, conditions, List.append_assoc]
    rfl
  refine heldBy_of_known split (keeps_final ?_ plain) HasNoConditions (fun report none => ?_)
    fun report none => hasList_onlyIf ?_ _
  · exact fun _ _ same => congrArg (·.2.2.2.2) same
  · intro c between left ended
    have same := keeps_all (keeps_frontOfConditions plain) report c between left ended
    exact (same.trans none : between.HasNoConditions)
  · exact hasList_then (hasList_conditional none) fun _ _ same => yields_pure same

end OrderReport

/-! ## Reports in messages -/

namespace ReportList

/-- What is read in front of the number of the list, from the start of the report on. -/
def within (l : ReportList) (v : ReportVersions) (lead : List Segment) (shape : ReportShape) :
    Measuring (Option (Reading l.Item)) := do
  let report ← Segment.all lead {}
  let quantity ← Measuring.quantity v.server
  l.reading v shape { report with order.terms.totalQuantity := .real quantity }

theorem hasList_read {l : ReportList} {v : ReportVersions} {shape : ReportShape}
    (h : l.HeldBy v shape) {lead : List Segment} (plain : ∀ segment ∈ lead, segment.IsPlain) :
    HasList (OrderReport.read v lead (shape.segments v)).start (l.within v lead shape).start
      fun after records => l.get after = some records := by
  have none : (liftM (Segment.all lead {}) : Measuring OrderReport).Yields
      OrderReport.HasNoConditions := by
    intro c report left ended
    rw [Measuring.start_lift] at ended
    exact OrderReport.hasNoConditions_of_lists (keeps_all plain {} c report left ended) rfl
  refine Measuring.hasList_bind_of_yields none fun report none => ?_
  refine Measuring.hasList_bind _ fun quantity => ?_
  rw [Measuring.start_lift_eq, Measuring.start_lift_eq]
  exact h _ none

theorem yields_within (l : ReportList) (v : ReportVersions) (lead : List Segment)
    (shape : ReportShape) :
    (l.within v lead shape).Yields fun item? => ∀ item ∈ item?, Spends l.width item := by
  refine Measuring.yields_bind fun report => Measuring.yields_bind fun quantity => ?_
  intro c item? left ended
  rw [Measuring.start_lift] at ended
  exact yields_bind (fun _ => l.spends v) c item? left ended

/-- The counted lists of a report. -/
def all : List ReportList := [
  OrderReport.legs, OrderReport.legPrices, OrderReport.routingParams, OrderReport.algoParams,
  OrderReport.conditions]

theorem heldBy_of_mem {l : ReportList} (member : l ∈ all) {shape : ReportShape}
    (plain : shape.IsPlain) (v : ReportVersions) : l.HeldBy v shape := by
  simp only [all, List.mem_cons, List.not_mem_nil, or_false] at member
  rcases member with rfl | rfl | rfl | rfl | rfl
  · exact OrderReport.heldBy_legs plain
  · exact OrderReport.heldBy_legPrices plain
  · exact OrderReport.heldBy_routingParams plain
  · exact OrderReport.heldBy_algoParams plain
  · exact OrderReport.heldBy_conditions plain

end ReportList

namespace Section

open OrderReport

def ofOpen (version : Int) (l : ReportList) : Section where
  Item := l.Item
  width := l.width
  lead := do
    let own ← ownVersion (version < Feature.orderContainer) version
    let v : ReportVersions := ⟨own, version⟩
    l.within v (openLead v) (openShape v)
  carries := OneEvent fun event records => ∃ report, l.get report = some records ∧
    event = .openOrder report.order.identity.orderId report.contract report.order report.state
  spends := Measuring.yields_bind fun own =>
    l.yields_within ⟨own, version⟩ (openLead ⟨own, version⟩) (openShape ⟨own, version⟩)

/-- A list of a completed order, whose message has no version. -/
def ofCompleted (version : Int) (l : ReportList) : Section where
  Item := l.Item
  width := l.width
  lead := l.within ⟨unsetInt, version⟩ (completedLead ⟨unsetInt, version⟩)
    (completedShape ⟨unsetInt, version⟩)
  carries := OneEvent fun event records => ∃ report, l.get report = some records ∧
    event = .completedOrder report.contract report.order report.state
  spends := l.yields_within _ _ _

theorem heldBy_openOrder {l : ReportList} (member : l ∈ ReportList.all) (version : Int) :
    (ofOpen version l).HeldBy (.measured (Message.openOrder version)) := by
  refine Measuring.hasList_then (Measuring.hasList_bind _ fun own => ?_)
    fun report records same => Measuring.yields_pure ⟨_, rfl, report, same, rfl⟩
  have held := ReportList.heldBy_of_mem member (isPlain_openShape ⟨own, version⟩) ⟨own, version⟩
  have list := ReportList.hasList_read held (isPlain_openLead ⟨own, version⟩)
  rw [segments_openShape] at list
  exact list

theorem heldBy_completedOrder {l : ReportList} (member : l ∈ ReportList.all) (version : Int) :
    (ofCompleted version l).HeldBy (.measured (Message.completedOrder version)) := by
  let v : ReportVersions := ⟨unsetInt, version⟩
  have held := ReportList.heldBy_of_mem member (isPlain_completedShape v) v
  have list := ReportList.hasList_read held (isPlain_completedLead v)
  rw [segments_completedShape] at list
  exact Measuring.hasList_then list
    fun report records same => Measuring.yields_pure ⟨_, rfl, report, same, rfl⟩

end Section

end TradeWire
