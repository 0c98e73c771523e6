import TradeWire.Catalog.Feature
import TradeWire.Event.Basic
import TradeWire.Wire.Reading

/-!
# Reading messages

A message is read as a whole before anything is told, with quantities to convert or without, or row
by row, each row being told at once. Here are the kinds of handler and the readings that several
messages share.
-/

namespace TradeWire

/-- What is said of a fault. -/
def Fault.message : Fault → String
  | .field error => error.message
  | .unknownCondition kind => Condition.unknownMessage (toString kind)
  | .conversion error => error.message

/-- The rows of a message: how many there are, how one is read, and what is told after them. -/
structure Rows where
  count : Int
  row : Reading Event
  last : Event

/-- How a kind of message is read after its number. -/
inductive Handler where
  | whole (read : Reading (List Event))
  | measured (read : Measuring (List Event))
  | rows (header : Reading Rows)

namespace Rows

/-- Reads some rows and tells each; a fault ends the message and keeps what was told. -/
def tell (rows : Rows) : Nat → Cursor → (List Event × Option Fault) × Cursor
  | 0, c => (([rows.last], none), c)
  | count + 1, c =>
    match rows.row.start c with
    | (.ok event, c) =>
      let ((events, fault), c) := rows.tell count c
      ((event :: events, fault), c)
    | (.error fault, c) => (([], some fault), c)

end Rows

namespace Handler

/-- The events of a message, the fault that ended it, and where that leaves the cursor. -/
def run (handler : Handler) (c : Cursor) : (List Event × Option Fault) × Cursor :=
  match handler with
  | .whole read =>
    match read.start c with
    | (.ok events, c) => ((events, none), c)
    | (.error fault, c) => (([], some fault), c)
  | .measured read =>
    match read.start c with
    | (.ok events, c) => ((events, none), c)
    | (.error fault, c) => (([], some fault), c)
  | .rows header =>
    match header.start c with
    | (.ok found, c) => found.tell found.count.toNat c
    | (.error fault, c) => (([], some fault), c)

end Handler

namespace Reading

/-! ## Shared readings -/

/-- A price, quantity or the like. -/
def number : Reading Number := do return .real (← double)

/-- A list that is preceded by its length. -/
def listOf {α : Type} (item : Reading α) : Reading (List α) := do
  counted (← int) item

/-- A tag and its value. -/
def pair : Reading TagValue := do
  let tag ← next
  let value ← next
  return ⟨tag, value⟩

/-- A list of tags with their values. -/
def pairs : Reading (List TagValue) := listOf pair

/-- A number of the message's own version, from servers that send one. -/
def ownVersion (sent : Bool) (otherwise : Int) : Reading Int := onlyIf sent otherwise int

/-- A number that is not read is not set. -/
def doubleSince (first version : Int) : Reading Double :=
  onlyIf (first ≤ version) unsetDouble double

/-- A contract from its id on. Some parts are not there in every message. -/
def contract (multiplier : Bool := true) (tradingClass : Bool := true) : Reading Contract := do
  let contractId ← int
  let symbol ← text
  let secType ← text
  let lastTradeDate ← text
  let strike ← number
  let right ← text
  let multiplier ← onlyIf multiplier Label.blank text
  let exchange ← text
  let currency ← text
  let localSymbol ← text
  let tradingClass ← onlyIf tradingClass Label.blank text
  return {
    contractId, symbol, secType, lastTradeDate, strike, right, multiplier, exchange, currency,
    localSymbol, tradingClass }

/-- An underlying that neutralises the delta of an instrument. -/
def deltaNeutral : Reading DeltaNeutralContract := do
  let contractId ← int
  let delta ← number
  let price ← number
  return { contractId, delta, price }

end Reading

/-- A quantity; servers before fractional positions send integers. -/
def Measuring.quantity (version : Int) : Measuring Double :=
  if Feature.fractionalPositions ≤ version then liftM Reading.double else doubleFromInt

/-- Whether a bit of a mask is set. -/
def bitIsSet (mask : Int) (bit : Nat) : Bool := mask / (Nat.pow 2 bit : Nat) % 2 == 1

/-- The values of a list without those that an earlier one equals. -/
def distinctBy {α : Type} (same : α → α → Bool) (values : List α) : List α :=
  values.foldl (fun kept value => if kept.any (same · value) then kept else kept ++ [value]) []

/-- The last value for every key, in the order in which the keys come first. -/
def lastByKey {α : Type} (entries : List (Int × α)) : List (Int × α) :=
  entries.foldl (fun table entry =>
    if table.any (·.1 == entry.1) then
      table.map fun other => if other.1 == entry.1 then entry else other
    else table ++ [entry]) []

end TradeWire
