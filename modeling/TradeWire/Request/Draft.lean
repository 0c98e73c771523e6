import TradeWire.Record.Call
import TradeWire.Request.Instrument

/-!
# Drafts

A draft is a message that is put together step by step. Its items may be any data; whether they all
have a field text shows when the message is finished.
-/

namespace TradeWire

/-- A message that is not finished yet. -/
structure Draft where
  items : List Datum

namespace Draft

/-- A draft starts with the number of a kind of message. -/
def start (kind : Int) : Draft := ⟨[describe kind]⟩

def add (draft : Draft) (items : List Datum) : Draft := ⟨draft.items ++ items⟩

/-- Adds a list of pairs as one field. -/
def addPairs (draft : Draft) (pairs : Option (List TagValue)) : Draft :=
  draft.add [.scalar (joinedField pairs)]

/-- Adds the description of a contract, with or without some of its parts. -/
def addContract (draft : Draft) (c : Contract)
    (contractId primaryExchange tradingClass : Bool) : Draft :=
  let steps := c.steps (.ofBool contractId) (.ofBool primaryExchange) (.ofBool tradingClass)
  draft.add ((Step.fieldsAt 0 steps).map .scalar)

/-- The bytes of the message. -/
def build (draft : Draft) : Except EncodeError Bytes := Datum.encodeAll draft.items

/-! ## Steps by name -/

/-- A step that is left out unless it applies. -/
def gated (step : Draft → Draft) (applies : Bool) : Draft → Draft :=
  fun draft => if applies then step draft else draft

/-- What a call does to a draft. -/
def step? (name : String) (arguments : Arguments) : Option (Draft → Draft) :=
  match name with
  | "add" => do
    let applies ← (Call.holds "when" true).result? { arguments with positional := [] }
    return gated (·.add arguments.positional) applies
  | "extend" => do
    let call := (fun values applies => (values, applies)) <$> Call.next? "values" <*>
      Call.holds "when" true
    let (values, applies) ← call.result? arguments
    if !applies then return id
    let items ← values.bind Datum.parts?
    return (·.add items)
  | "tag_values" =>
    let call := gated <$> ((fun pairs draft => draft.addPairs pairs) <$> Call.need "tag_values") <*>
      Call.holds "when" true
    call.result? arguments
  | "contract" =>
    let call := (fun c contractId primaryExchange tradingClass draft =>
        addContract draft c contractId primaryExchange tradingClass) <$> Call.need "contract" <*>
      Call.holds "con_id" true <*> Call.holds "primary_exchange" true <*>
      Call.holds "trading_class" false
    call.result? arguments
  | _ => none

end Draft

end TradeWire
