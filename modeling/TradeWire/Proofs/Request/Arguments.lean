import Mathlib.Tactic
import TradeWire.Order.Attributes
import TradeWire.Proofs.Text.Numeral
import TradeWire.Request.Basic

/-!
# Arguments of requests

The arguments of a request are data, and the integers among them are those of the data
(`Datum.integers`): scalars, attributes of records, and the lengths of lists, which are sent as
well. A scalar that holds no integer of more than 4300 digits can be written as a field
(`isWritable_of_isShort`), and so can all fields of a condition (`isWritable_condition`).
-/

namespace TradeWire

/-! ## Integers in data -/

def Field.integers : Field → List Int
  | .int value => [value]
  | _ => []

namespace Datum

mutual

/-- The integers that are found in a value, with the lengths of the lists in it. -/
def integers : Datum → List Int
  | .scalar field => field.integers
  | .bytes _ => []
  | .list items => items.length :: integersOfItems items
  | .set items => items.length :: integersOfItems items
  | .table entries => entries.length :: integersOfEntries entries
  | .record _ attributes => integersOfAttributes attributes
  | .member _ _ value => value.integers
  | .numbered _ _ number => [number]

def integersOfItems : List Datum → List Int
  | [] => []
  | item :: rest => item.integers ++ integersOfItems rest

def integersOfEntries : List (Int × Datum) → List Int
  | [] => []
  | (key, value) :: rest => key :: value.integers ++ integersOfEntries rest

def integersOfAttributes : List (String × Datum) → List Int
  | [] => []
  | (_, value) :: rest => value.integers ++ integersOfAttributes rest

end

/-- No integer in a value has more than 4300 digits. -/
def IsShort (datum : Datum) : Prop :=
  ∀ n ∈ datum.integers, (Nat.toDigits 10 n.natAbs).length ≤ 4300

instance (datum : Datum) : Decidable datum.IsShort := List.decidableBAll _ _

theorem subset_integersOfItems {items : List Datum} {item : Datum} (h : item ∈ items) :
    item.integers ⊆ integersOfItems items := by
  induction items with
  | nil => cases h
  | cons first rest ih =>
    rw [integersOfItems]
    rcases List.mem_cons.mp h with rfl | h
    · exact List.subset_append_left _ _
    · exact List.Subset.trans (ih h) (List.subset_append_right _ _)

theorem subset_integersOfAttributes {attributes : List (String × Datum)} {name : String}
    {value : Datum} (h : (name, value) ∈ attributes) :
    value.integers ⊆ integersOfAttributes attributes := by
  induction attributes with
  | nil => cases h
  | cons first rest ih =>
    rw [integersOfAttributes]
    rcases List.mem_cons.mp h with rfl | h
    · exact List.subset_append_left _ _
    · exact List.Subset.trans (ih h) (List.subset_append_right _ _)

theorem IsShort.of_mem_list {items : List Datum} (short : (list items).IsShort) {item : Datum}
    (h : item ∈ items) : item.IsShort := by
  intro n hn
  refine short n ?_
  rw [integers]
  exact List.mem_cons_of_mem _ (subset_integersOfItems h hn)

theorem IsShort.length {items : List Datum} (short : (list items).IsShort) :
    (scalar (.int items.length)).IsShort := by
  intro n hn
  obtain rfl := List.mem_singleton.mp hn
  refine short _ ?_
  rw [integers]
  exact List.mem_cons_self ..

theorem IsShort.of_mem_record {kind name : String} {attributes : List (String × Datum)}
    (short : (record kind attributes).IsShort) {value : Datum} (h : (name, value) ∈ attributes) :
    value.IsShort := by
  intro n hn
  refine short n ?_
  rw [integers]
  exact subset_integersOfAttributes h hn

end Datum

/-! ## Fields that can be written -/

def Field.IsWritable (field : Field) : Prop := ∃ text, field.wire = .ok text

theorem isWritable_int_iff {n : Int} :
    (Field.int n).IsWritable ↔ (Nat.toDigits 10 n.natAbs).length ≤ 4300 := by
  rw [Field.IsWritable, Field.wire]
  split_ifs with unset
  · refine iff_of_true ⟨_, rfl⟩ ?_
    rcases unset with rfl | rfl <;> decide
  · refine Iff.trans ?_ Text.exists_writtenInt?_iff
    cases Text.writtenInt? n with
    | none => exact iff_of_false nofun nofun
    | some text => exact iff_of_true ⟨_, rfl⟩ ⟨_, rfl⟩

theorem isWritable_iff_isShort {field : Field} :
    field.IsWritable ↔ (Datum.scalar field).IsShort := by
  cases field with
  | int n =>
    rw [isWritable_int_iff]
    exact ⟨fun short m h => List.mem_singleton.mp h ▸ short,
      fun short => short n (List.mem_singleton_self n)⟩
  | empty => exact iff_of_true ⟨_, rfl⟩ nofun
  | flag value => exact iff_of_true ⟨_, rfl⟩ nofun
  | real value => exact iff_of_true ⟨_, rfl⟩ nofun
  | text value => exact iff_of_true ⟨_, rfl⟩ nofun

theorem isWritable_of_isShort {field : Field} (short : (Datum.scalar field).IsShort) :
    field.IsWritable := isWritable_iff_isShort.mpr short

theorem isWritable_attribute {α : Type} [Inhabited α] [Holder α] {value : α}
    (short : (describe value : Datum).IsShort) {name : String} {field : Field}
    (member : (name, .scalar field) ∈
      Holder.attributes.map fun a : Attribute α => (a.name, a.get value)) : field.IsWritable :=
  isWritable_of_isShort (short.of_mem_record member)

@[simp]
theorem isWritable_flag (value : Bool) : (Field.flag value).IsWritable := ⟨_, rfl⟩

@[simp]
theorem isWritable_text (value : String) : (Field.text value).IsWritable := ⟨_, rfl⟩

@[simp]
theorem isWritable_label (label : Label) : label.field.IsWritable := by
  cases label with
  | none => exact ⟨_, rfl⟩
  | some text => exact ⟨_, rfl⟩

@[simp]
theorem isWritable_joined (pairs : Option (List TagValue)) : (joinedField pairs).IsWritable :=
  ⟨_, rfl⟩

theorem exists_encodeAll_iff {fields : List Field} :
    (∃ payload, Field.encodeAll fields = .ok payload) ↔ ∀ field ∈ fields, field.IsWritable := by
  induction fields with
  | nil => exact iff_of_true ⟨_, rfl⟩ nofun
  | cons field fields ih =>
    rw [List.forall_mem_cons, ← ih, Field.encodeAll, Field.encode, Field.IsWritable]
    cases field.wire with
    | error error => exact iff_of_false (fun ⟨_, h⟩ => nomatch h) fun ⟨⟨_, h⟩, _⟩ => nomatch h
    | ok text =>
      cases Field.encodeAll fields with
      | error error => exact iff_of_false (fun ⟨_, h⟩ => nomatch h) fun ⟨_, _, h⟩ => nomatch h
      | ok others => exact iff_of_true ⟨_, rfl⟩ ⟨⟨_, rfl⟩, _, rfl⟩

theorem exists_encodeAll_iff_isShort {fields : List Field} :
    (∃ payload, Field.encodeAll fields = .ok payload) ↔
      ∀ field ∈ fields, (Datum.scalar field).IsShort := by
  rw [exists_encodeAll_iff]
  exact forall₂_congr fun _ _ => isWritable_iff_isShort

/-! ## Conditions -/

section

variable {attributes : List (String × Datum)}

def AllShort (attributes : List (String × Datum)) : Prop :=
  ∀ name value, (name, value) ∈ attributes → value.IsShort

theorem AllShort.head {name : String} {value : Datum}
    (short : AllShort ((name, value) :: attributes)) : value.IsShort :=
  short name value (List.mem_cons_self ..)

theorem AllShort.tail {first : String × Datum} (short : AllShort (first :: attributes)) :
    AllShort attributes :=
  fun name value h => short name value (List.mem_cons_of_mem _ h)

theorem isWritable_contractMeasure {measure : ContractMeasure}
    (short : AllShort measure.attributes) : ∀ field ∈ measure.fields, field.IsWritable := by
  cases measure with
  | unspecified => exact nofun
  | price value triggerMethod =>
    exact List.forall_mem_cons.mpr ⟨isWritable_of_isShort short.head,
      List.forall_mem_singleton.mpr (isWritable_of_isShort short.tail.head)⟩
  | percentChange value =>
    exact List.forall_mem_singleton.mpr (isWritable_of_isShort short.head)
  | volume value => exact List.forall_mem_singleton.mpr (isWritable_of_isShort short.head)

theorem isWritable_measure {measure : Measure} (short : AllShort measure.attributes) :
    ∀ field ∈ measure.fields, field.IsWritable := by
  cases measure with
  | unspecified => exact nofun
  | margin percent => exact List.forall_mem_singleton.mpr (isWritable_of_isShort short.head)
  | time value => exact List.forall_mem_singleton.mpr (isWritable_label value)
  | contract contractId exchange measure =>
    exact List.forall_mem_cons.mpr ⟨isWritable_of_isShort short.head,
      List.forall_mem_cons.mpr ⟨isWritable_label exchange,
        isWritable_contractMeasure short.tail.tail⟩⟩

theorem isWritable_trigger {trigger : Trigger} (short : AllShort trigger.attributes) :
    ∀ field ∈ trigger.fields, field.IsWritable := by
  cases trigger with
  | unspecified => exact nofun
  | execution secType exchange symbol => simp [Trigger.fields]
  | threshold isMore measure =>
    exact List.forall_mem_cons.mpr ⟨isWritable_flag isMore, isWritable_measure short.tail⟩

end

theorem isWritable_numberField (c : Condition) : c.numberField.IsWritable := by
  obtain ⟨conjunction, trigger⟩ := c
  cases trigger with
  | unspecified => exact ⟨_, rfl⟩
  | execution secType exchange symbol => exact ⟨_, rfl⟩
  | threshold isMore measure =>
    cases measure with
    | contract contractId exchange measure => cases measure <;> exact ⟨_, rfl⟩
    | _ => exact ⟨_, rfl⟩

theorem isWritable_condition {c : Condition} (short : (describe c).IsShort) :
    ∀ field ∈ c.numberedFields, field.IsWritable := by
  have attributes : AllShort c.trigger.attributes :=
    AllShort.tail fun name value h => short.of_mem_record h
  exact List.forall_mem_cons.mpr ⟨isWritable_numberField c,
    List.forall_mem_cons.mpr ⟨isWritable_text _, isWritable_trigger attributes⟩⟩

/-! ## Arguments -/

namespace Request

def arguments : Request → List Datum
  | marketData id c ticks snapshot regulatory options =>
    [describe id, describe c, describe ticks, describe snapshot, describe regulatory,
      describe options]
  | marketDataType n | marketRule n | orderIds n | advisorData n | logLevel n => [describe n]
  | cancelMarketData id | cancelTickByTick id | cancelImpliedVolatility id | cancelOptionPrice id
  | cancelRealTimeBars id | cancelOrder id | cancelAccountSummary id
  | cancelAccountUpdatesMulti id | cancelPositionsMulti id | cancelPnl id | cancelPnlSingle id
  | softDollarTiers id | cancelScanner id | cancelFundamentalData id | cancelHistoricalData id
  | cancelHeadTimestamp id | cancelHistogram id | displayGroups id | unsubscribeGroup id =>
    [describe id]
  | smartComponents id label | matchingSymbols id label | updateGroup id label =>
    [describe id, describe label]
  | tickByTick id c type count ignoreSize =>
    [describe id, describe c, describe type, describe count, describe ignoreSize]
  | impliedVolatility id c price underlying options | optionPrice id c price underlying options =>
    [describe id, describe c, describe price, describe underlying, describe options]
  | exerciseOptions id c action quantity account override =>
    [describe id, describe c, describe action, describe quantity, describe account,
      describe override]
  | depthExchanges | cancelAll | openOrders | allOpenOrders | positions | cancelPositions
  | managedAccounts | familyCodes | scannerParameters | cancelNewsBulletins | newsProviders
  | currentTime => []
  | marketDepth id c rows isSmart options =>
    [describe id, describe c, describe rows, describe isSmart, describe options]
  | cancelMarketDepth id isSmart => [describe id, describe isSmart]
  | realTimeBars id c barSize what regularHours options =>
    [describe id, describe c, describe barSize, describe what, describe regularHours,
      describe options]
  | placeOrder id c order => [describe id, describe c, describe order]
  | bindOpenOrders flag | completedOrders flag | newsBulletins flag => [describe flag]
  | accountUpdates subscribe account => [describe subscribe, describe account]
  | accountSummary id one other | positionsMulti id one other | pnl id one other =>
    [describe id, describe one, describe other]
  | accountUpdatesMulti id account model ledger =>
    [describe id, describe account, describe model, describe ledger]
  | pnlSingle id account model contractId =>
    [describe id, describe account, describe model, describe contractId]
  | executions id filter => [describe id, describe filter]
  | replaceAdvisorData id part content => [describe id, describe part, describe content]
  | contractDetails id c => [describe id, describe c]
  | optionParameters id symbol exchange secType contractId =>
    [describe id, describe symbol, describe exchange, describe secType, describe contractId]
  | scannerSubscription id subscription options filters =>
    [describe id, describe subscription, describe options, describe filters]
  | fundamentalData id c report options =>
    [describe id, describe c, describe report, describe options]
  | newsArticle id provider article options =>
    [describe id, describe provider, describe article, describe options]
  | historicalNews id contractId providers start stop limit options =>
    [describe id, describe contractId, describe providers, describe start, describe stop,
      describe limit, describe options]
  | historicalData id c query =>
    [describe id, describe c, describe query.stop, describe query.duration,
      describe query.barSize, describe query.whatToShow, describe query.regularHours,
      describe query.dateFormat, describe query.keepUpToDate, describe query.chartOptions]
  | headTimestamp id c what regularHours dateFormat =>
    [describe id, describe c, describe what, describe regularHours, describe dateFormat]
  | histogram id c regularHours period =>
    [describe id, describe c, describe regularHours, describe period]
  | historicalTicks id c query =>
    [describe id, describe c, describe query.start, describe query.stop, describe query.count,
      describe query.whatToShow, describe query.regularHours, describe query.ignoreSize,
      describe query.options]
  | subscribeGroup id group => [describe id, describe group]
  | verify one other | authenticateMessage one other => [describe one, describe other]
  | verifyMessage data => [describe data]
  | authenticate name version key => [describe name, describe version, describe key]

/-- No integer among the arguments has more than 4300 digits. -/
def IsShort (request : Request) : Prop := ∀ argument ∈ request.arguments, argument.IsShort

instance (request : Request) : Decidable request.IsShort := List.decidableBAll _ _

end Request

end TradeWire
