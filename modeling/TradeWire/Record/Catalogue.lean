import TradeWire.Account.Execution
import TradeWire.Catalog.Tick
import TradeWire.Market.Bar
import TradeWire.Market.Depth
import TradeWire.Market.Scanner
import TradeWire.Market.Tick
import TradeWire.Order.Attributes

/-!
# The catalogue of records

All kinds of record by name, and the members of enumerations. A record that names only some of its
attributes is completed with the defaults of its kind, and every record has a text: a summary for
some kinds, and for the others the line that shows all attributes.
-/

namespace TradeWire

/-- What is known about one kind of record. -/
structure RecordKind where
  name : String
  /-- The record with the given attributes, and the defaults for the others. -/
  complete? : List (String × Datum) → Option Datum
  /-- A short text, for kinds that have one. -/
  summary? : Datum → Option String := fun _ => none

namespace RecordKind

/-- A kind of record that is described by a type. -/
def of (name : String) (α : Type) [Described α] (summary? : α → Option String := fun _ => none) :
    RecordKind where
  name := name
  complete? given := (recognise (.record name given) : Option α).map describe
  summary? datum := do summary? (← recognise datum)

/-- The kind of record that a structure with attributes is. -/
def holder (α : Type) [Inhabited α] [Holder α] (summary? : α → Option String := fun _ => none) :
    RecordKind :=
  of (Holder.kind α) α summary?

/-- The record without attributes. -/
def bare : RecordKind where
  name := "Holder"
  complete? given := if given.isEmpty then some (.record "Holder" []) else none

/-- All kinds of record. -/
def all : List RecordKind :=
  [bare, of "TagValue" TagValue (some ·.text), holder SoftDollarTier, holder Bar,
    holder RealTimeBar, holder HistogramEntry, holder DepthExchange, holder SmartComponent,
    holder TickAttributes, holder BidAskAttributes, holder LastAttributes, holder FamilyCode,
    holder PriceIncrement, holder HistoricalTick, holder HistoricalBidAsk, holder HistoricalTrade,
    holder CommissionReport, holder NewsProvider, holder ComboLeg, holder DeltaNeutralContract,
    holder Contract (some ·.summary), holder ContractDetails, holder ContractDescription,
    holder OrderLeg, holder OrderState, holder Order (some ·.summary), holder Execution,
    holder ExecutionFilter, holder ScannerSubscription, holder ScannerRow] ++
  Condition.blanks.map fun blank => of blank.kind Condition

/-- The kind with a name. -/
def find? (name : String) : Option RecordKind := all.find? (·.name == name)

end RecordKind

namespace Datum

/-- A record completed with the defaults of its kind. -/
def complete? (kind : String) (given : List (String × Datum)) : Option Datum := do
  (← RecordKind.find? kind).complete? given

/-- The text of a value: a record's summary, a text itself, and otherwise the line that shows it. -/
def text (datum : Datum) : String :=
  match datum with
  | .record kind _ => ((RecordKind.find? kind).bind (·.summary? datum)).getD datum.display
  | _ => datum.display

/-- The name of the tick type that a value stands for, or the value itself if there is none. -/
def tickName (datum : Datum) : String := (datum.integer?.bind TickType.name?).getD datum.display

/-- The member of an enumeration with a name. -/
def memberOf? (kind name : String) : Option Datum :=
  let numbered (entries : List (String × Int)) := (entries.lookup name).map (.numbered kind name ·)
  match kind with
  | "TickType" => numbered TickType.all
  | "FaDataType" => numbered advisorDataTypes
  | "MarketDataType" => numbered marketDataTypes
  | "TickByTickType" => (tickByTickTypes.lookup name).map (.member kind name <| .text ·)
  | _ => none

end Datum

end TradeWire
