import TradeWire.Record.Datum
import TradeWire.Wire.Reading

/-!
# Order conditions

A condition gates the activation or cancellation of an order. Every condition says how it joins the
next one; most compare something with a threshold. On the wire a condition is its kind number and
then its fields, which are written by `Condition.fields` and read by `Condition.steps`.
-/

namespace TradeWire

/-! ## What is compared on a contract -/

/-- What a condition on a contract compares. -/
inductive ContractMeasure where
  | unspecified
  | price (value : Number) (triggerMethod : Int)
  | percentChange (value : Number)
  | volume (value : Int)

namespace ContractMeasure

def blankPrice : ContractMeasure := .price Number.zero 0

def blankPercentChange : ContractMeasure := .percentChange Number.unset

def blankVolume : ContractMeasure := .volume unsetInt

def kind : ContractMeasure → String
  | .unspecified => "ContractCondition"
  | .price .. => "PriceCondition"
  | .percentChange _ => "PercentChangeCondition"
  | .volume _ => "VolumeCondition"

def number? : ContractMeasure → Option Int
  | .unspecified => none
  | .price .. => some 1
  | .percentChange _ => some 7
  | .volume _ => some 6

def fields : ContractMeasure → List Field
  | .unspecified => []
  | .price value triggerMethod => [value.field, .int triggerMethod]
  | .percentChange value => [value.field]
  | .volume value => [.int value]

/-- The measure with another price. -/
def withPrice (value : Number) : ContractMeasure → ContractMeasure
  | .price _ triggerMethod => .price value triggerMethod
  | other => other

/-- The measure with another trigger method. -/
def withTriggerMethod (method : Int) : ContractMeasure → ContractMeasure
  | .price value _ => .price value method
  | other => other

def steps : ContractMeasure → List (Reading (ContractMeasure → ContractMeasure))
  | .unspecified => []
  | .price .. => [do return withPrice (.real (← Reading.double)),
      do return withTriggerMethod (← Reading.int)]
  | .percentChange _ =>
    [do let value ← Reading.double; return fun _ => .percentChange (.real value)]
  | .volume _ => [do let value ← Reading.int; return fun _ => .volume value]

def attributes : ContractMeasure → List (String × Datum)
  | .unspecified => []
  | .price value triggerMethod =>
    [("price", describe value), ("trigger_method", describe triggerMethod)]
  | .percentChange value => [("change_percent", describe value)]
  | .volume value => [("volume", describe value)]

def update? (name : String) (datum : Datum) : ContractMeasure → Option ContractMeasure
  | .price value triggerMethod =>
    if name = "price" then (recognise datum).map (.price · triggerMethod)
    else if name = "trigger_method" then (recognise datum).map (.price value ·)
    else none
  | .percentChange _ =>
    if name = "change_percent" then (recognise datum).map .percentChange else none
  | .volume _ => if name = "volume" then (recognise datum).map .volume else none
  | .unspecified => none

end ContractMeasure

/-! ## What is compared with a threshold -/

/-- What a condition compares with a threshold. -/
inductive Measure where
  | unspecified
  | margin (percent : Int)
  | time (value : Label)
  | contract (contractId : Int) (exchange : Label) (measure : ContractMeasure)

namespace Measure

def kind : Measure → String
  | .unspecified => "OperatorCondition"
  | .margin _ => "MarginCondition"
  | .time _ => "TimeCondition"
  | .contract _ _ measure => measure.kind

def number? : Measure → Option Int
  | .unspecified => none
  | .margin _ => some 4
  | .time _ => some 3
  | .contract _ _ measure => measure.number?

def fields : Measure → List Field
  | .unspecified => []
  | .margin percent => [.int percent]
  | .time value => [value.field]
  | .contract contractId exchange measure =>
    .int contractId :: exchange.field :: measure.fields

/-- The measure with another contract. -/
def withContractId (contractId : Int) : Measure → Measure
  | .contract _ exchange measure => .contract contractId exchange measure
  | other => other

/-- The measure with another exchange. -/
def withExchange (exchange : Label) : Measure → Measure
  | .contract contractId _ measure => .contract contractId exchange measure
  | other => other

/-- Changes what is compared on the contract. -/
def mapContract (change : ContractMeasure → ContractMeasure) : Measure → Measure
  | .contract contractId exchange measure => .contract contractId exchange (change measure)
  | other => other

def steps : Measure → List (Reading (Measure → Measure))
  | .unspecified => []
  | .margin _ => [do let percent ← Reading.int; return fun _ => .margin percent]
  | .time _ => [do let value ← Reading.text; return fun _ => .time value]
  | .contract _ _ measure =>
    (do return withContractId (← Reading.int)) :: (do return withExchange (← Reading.text)) ::
      measure.steps.map fun step => do return mapContract (← step)

def attributes : Measure → List (String × Datum)
  | .unspecified => []
  | .margin percent => [("percent", describe percent)]
  | .time value => [("time", describe value)]
  | .contract contractId exchange measure =>
    ("con_id", describe contractId) :: ("exchange", describe exchange) :: measure.attributes

def update? (name : String) (datum : Datum) : Measure → Option Measure
  | .unspecified => none
  | .margin _ => if name = "percent" then (recognise datum).map .margin else none
  | .time _ => if name = "time" then (recognise datum).map .time else none
  | .contract contractId exchange measure =>
    if name = "con_id" then (recognise datum).map (.contract · exchange measure)
    else if name = "exchange" then (recognise datum).map (.contract contractId · measure)
    else (measure.update? name datum).map (.contract contractId exchange ·)

end Measure

/-! ## What a condition waits for -/

/-- What a condition waits for. -/
inductive Trigger where
  | unspecified
  | execution (secType exchange symbol : Label)
  | threshold (isMore : Bool) (measure : Measure)

namespace Trigger

def blankExecution : Trigger := .execution Label.blank Label.blank Label.blank

/-- A threshold on a contract that is not named yet. -/
def onContract (measure : ContractMeasure) : Trigger :=
  .threshold false (.contract 0 Label.blank measure)

def kind : Trigger → String
  | .unspecified => "OrderCondition"
  | .execution .. => "ExecutionCondition"
  | .threshold _ measure => measure.kind

def number? : Trigger → Option Int
  | .unspecified => none
  | .execution .. => some 5
  | .threshold _ measure => measure.number?

def fields : Trigger → List Field
  | .unspecified => []
  | .execution secType exchange symbol => [secType.field, exchange.field, symbol.field]
  | .threshold isMore measure => .flag isMore :: measure.fields

/-- The trigger with another kind of security. -/
def withSecType (secType : Label) : Trigger → Trigger
  | .execution _ exchange symbol => .execution secType exchange symbol
  | other => other

/-- The trigger with another exchange. -/
def withExchange (exchange : Label) : Trigger → Trigger
  | .execution secType _ symbol => .execution secType exchange symbol
  | other => other

/-- The trigger with another symbol. -/
def withSymbol (symbol : Label) : Trigger → Trigger
  | .execution secType exchange _ => .execution secType exchange symbol
  | other => other

/-- The trigger with another direction. -/
def withIsMore (isMore : Bool) : Trigger → Trigger
  | .threshold _ measure => .threshold isMore measure
  | other => other

/-- Changes what is compared with the threshold. -/
def mapMeasure (change : Measure → Measure) : Trigger → Trigger
  | .threshold isMore measure => .threshold isMore (change measure)
  | other => other

def steps : Trigger → List (Reading (Trigger → Trigger))
  | .unspecified => []
  | .execution .. => [do return withSecType (← Reading.text),
      do return withExchange (← Reading.text), do return withSymbol (← Reading.text)]
  | .threshold _ measure =>
    (do return withIsMore (← Reading.flag)) ::
      measure.steps.map fun step => do return mapMeasure (← step)

def attributes : Trigger → List (String × Datum)
  | .unspecified => []
  | .execution secType exchange symbol =>
    [("sec_type", describe secType), ("exchange", describe exchange), ("symbol", describe symbol)]
  | .threshold isMore measure => ("is_more", describe isMore) :: measure.attributes

def update? (name : String) (datum : Datum) : Trigger → Option Trigger
  | .unspecified => none
  | .execution secType exchange symbol =>
    if name = "sec_type" then (recognise datum).map (.execution · exchange symbol)
    else if name = "exchange" then (recognise datum).map (.execution secType · symbol)
    else if name = "symbol" then (recognise datum).map (.execution secType exchange ·)
    else none
  | .threshold isMore measure =>
    if name = "is_more" then (recognise datum).map (.threshold · measure)
    else (measure.update? name datum).map (.threshold isMore ·)

end Trigger

/-! ## Conditions -/

/-- A condition, joined to the next one by "and" or by "or". -/
structure Condition where
  conjunction : Bool := true
  trigger : Trigger := .unspecified

namespace Condition

instance : Inhabited Condition := ⟨{}⟩

/-- The name of the kind. -/
def kind (c : Condition) : String := c.trigger.kind

/-- The number of the kind; a condition that is not specified far enough has none. -/
def number? (c : Condition) : Option Int := c.trigger.number?

/-- A new condition of the kind with a number. -/
def ofNumber? : Int → Option Condition
  | 1 => some { trigger := .onContract .blankPrice }
  | 3 => some { trigger := .threshold false (.time Label.blank) }
  | 4 => some { trigger := .threshold false (.margin 0) }
  | 5 => some { trigger := .blankExecution }
  | 6 => some { trigger := .onContract .blankVolume }
  | 7 => some { trigger := .onContract .blankPercentChange }
  | _ => none

/-- A new condition of every kind. -/
def blanks : List Condition := [
  {}, { trigger := .blankExecution }, { trigger := .threshold false .unspecified },
  { trigger := .threshold false (.margin 0) }, { trigger := .threshold false (.time Label.blank) },
  { trigger := .onContract .unspecified }, { trigger := .onContract .blankPrice },
  { trigger := .onContract .blankPercentChange }, { trigger := .onContract .blankVolume }]

/-- What is said of what stands for no kind. -/
def unknownMessage (shown : String) : String := "unknown order condition type: " ++ shown

/-- The condition joined to the next one by "and" or by "or". -/
def joinedBy (conjunction : Bool) (c : Condition) : Condition :=
  { c with conjunction := conjunction }

/-- Changes what the condition waits for. -/
def mapTrigger (change : Trigger → Trigger) (c : Condition) : Condition :=
  { c with trigger := change c.trigger }

/-- The fields after the kind number. -/
def fields (c : Condition) : List Field :=
  .text (if c.conjunction then "a" else "o") :: c.trigger.fields

/-- The kind number as a field. -/
def numberField (c : Condition) : Field :=
  match c.number? with
  | some number => .int number
  | none => .empty

/-- Reads the fields after the kind number, one by one. -/
def steps (c : Condition) : List (Reading (Condition → Condition)) :=
  (do let token ← Reading.next; return joinedBy (token == "a")) ::
    c.trigger.steps.map fun step => do return mapTrigger (← step)

/-- Reads a condition from its kind number on. -/
def read : Reading Condition := do
  let number ← Reading.int
  match ofNumber? number with
  | some blank => Reading.changed blank.steps blank
  | none => .unknownCondition number

/-- Replaces the named attributes one after another. -/
def update (c : Condition) : List (String × Datum) → Option Condition
  | [] => some c
  | (name, datum) :: rest =>
    if name = "is_conjunction_connection" then do
      update { c with conjunction := ← recognise datum } rest
    else do
      update { c with trigger := ← c.trigger.update? name datum } rest

instance : Described Condition where
  describe c :=
    .record c.kind (("is_conjunction_connection", describe c.conjunction) :: c.trigger.attributes)
  recognise
    | .record kind given => do
      let blank ← blanks.find? (·.kind == kind)
      update blank given
    | _ => none

end Condition

end TradeWire
