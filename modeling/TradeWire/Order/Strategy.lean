import TradeWire.Order.Attributes
import TradeWire.Record.Call

/-!
# Strategies

An algorithmic strategy has a name and a list of parameters, each sent under a tag. Filling a
strategy into an order sets the name and adds the parameters to those already there; flags become
1 or 0. The parameters of a scale order are attributes of the order instead.
-/

namespace TradeWire

/-- A strategy: its name, and the tag of every parameter. -/
structure Strategy where
  name : String
  /-- The parameters that must be given: what they are called, and their tags. -/
  parameters : List (String × String)
  /-- Whether a monetary value may be given in addition. -/
  takesValue : Bool := false

namespace Strategy

/-- The start and the end of the time in which the strategy works. -/
def window : List (String × String) := [("start_time", "StartTime"), ("end_time", "EndTime")]

def arrivalPrice : Strategy where
  name := "ArrivalPx"
  parameters := ("max_pct_vol", "MaxPctVol") :: ("risk_aversion", "RiskAversion") :: window ++
    [("force_completion", "ForceCompletion"), ("allow_past_time", "AllowPastEndTime")]
  takesValue := true

def darkIce : Strategy where
  name := "DarkIce"
  parameters := ("display_size", "DisplaySize") :: window ++
    [("allow_past_end_time", "AllowPastEndTime")]
  takesValue := true

def volumeShare : Strategy where
  name := "PctVol"
  parameters := ("pct_vol", "PctVol") :: window ++ [("no_take_liq", "NoTakeLiq")]
  takesValue := true

def timeAverage : Strategy where
  name := "Twap"
  parameters := ("strategy_type", "StrategyType") :: window ++
    [("allow_past_end_time", "AllowPastEndTime")]
  takesValue := true

def volumeAverage : Strategy where
  name := "Vwap"
  parameters := ("max_pct_vol", "MaxPctVol") :: window ++
    [("allow_past_end_time", "AllowPastEndTime"), ("no_take_liq", "NoTakeLiq")]
  takesValue := true

def accumulate : Strategy where
  name := "AD"
  parameters := [
    ("component_size", "componentSize"), ("time_between_orders", "timeBetweenOrders"),
    ("randomize_time_20", "randomizeTime20"), ("randomize_size_55", "randomizeSize55"),
    ("give_up", "giveUp"), ("catch_up", "catchUp"), ("wait_for_fill", "waitForFill"),
    ("start_time", "activeTimeStart"), ("end_time", "activeTimeEnd")]

def balanceImpactRisk : Strategy where
  name := "BalanceImpactRisk"
  parameters := [("max_pct_vol", "MaxPctVol"), ("risk_aversion", "RiskAversion"),
    ("force_completion", "ForceCompletion")]

def leastImpact : Strategy where
  name := "MinImpact"
  parameters := [("max_pct_vol", "MaxPctVol")]

def adaptive : Strategy where
  name := "Adaptive"
  parameters := [("priority", "adaptivePriority")]

def closePrice : Strategy where
  name := "ClosePx"
  parameters := [("max_pct_vol", "MaxPctVol"), ("risk_aversion", "RiskAversion"),
    ("start_time", "StartTime"), ("force_completion", "ForceCompletion")]
  takesValue := true

def priceVariantShare : Strategy where
  name := "PctVolPx"
  parameters := ("pct_vol", "pctVol") :: ("delta_pct_vol", "deltaPctVol") ::
    ("min_pct_vol_4px", "minPctVol4Px") :: ("max_pct_vol_4px", "maxPctVol4Px") :: window ++
    [("no_take_liq", "NoTakeLiq")]
  takesValue := true

/-- A share of the volume that changes between a start and an end. -/
def variantShare (name : String) : Strategy where
  name := name
  parameters := ("start_pct_vol", "startPctVol") :: ("end_pct_vol", "endPctVol") :: window ++
    [("no_take_liq", "NoTakeLiq")]
  takesValue := true

/-- The strategies by the name under which they are filled in. -/
def all : List (String × Strategy) := [
  ("fill_arrival_price_params", arrivalPrice),
  ("fill_dark_ice_params", darkIce),
  ("fill_pct_vol_params", volumeShare),
  ("fill_twap_params", timeAverage),
  ("fill_vwap_params", volumeAverage),
  ("fill_accumulate_distribute_params", accumulate),
  ("fill_balance_impact_risk_params", balanceImpactRisk),
  ("fill_min_impact_params", leastImpact),
  ("fill_adaptive_params", adaptive),
  ("fill_close_price_params", closePrice),
  ("fill_price_variant_pct_vol_params", priceVariantShare),
  ("fill_size_variant_pct_vol_params", variantShare "PctVolSz"),
  ("fill_time_variant_pct_vol_params", variantShare "PctVolTm")]

/-- A parameter under its tag; flags become 1 or 0. -/
def pair (tag : String) : Field → TagValue
  | .flag value => ⟨tag, if value then "1" else "0"⟩
  | value => ⟨tag, value.display⟩

/-- The pairs that a strategy adds, given its parameters in order. -/
def pairs (strategy : Strategy) (values : List Field) (monetaryValue : Field) : List TagValue :=
  List.zipWith (fun parameter value => pair parameter.2 value) strategy.parameters values ++
    if strategy.takesValue && monetaryValue ≠ .empty then [pair "monetaryValue" monetaryValue]
    else []

/-- Fills a strategy into an order. An order with no list of parameters cannot take any. -/
def fill? (strategy : Strategy) (values : List Field) (monetaryValue : Field) (order : Order) :
    Option Order :=
  order.algo.params.map fun params =>
    { order with algo := { order.algo with
        strategy := some strategy.name
        params := some (params ++ strategy.pairs values monetaryValue) } }

/-! ## Filling in by name -/

/-- The parameters of a scale order. -/
def scaleCall : Call (Order.Scale → Order.Scale) := do
  let initialLevelSize ← Call.need "init_level_size"
  let subsequentLevelSize ← Call.need "subs_level_size"
  let randomPercent ← Call.need "random_percent"
  let priceIncrement ← Call.need "price_increment"
  let priceAdjustValue ← Call.need "price_adjust_value"
  let priceAdjustInterval ← Call.need "price_adjust_interval"
  let profitOffset ← Call.need "profit_offset"
  let autoReset ← Call.need "auto_reset"
  let initialPosition ← Call.need "init_position"
  let initialFillQuantity ← Call.need "init_fill_qty"
  return fun scale => { scale with
    initialLevelSize, subsequentLevelSize, randomPercent, priceIncrement, priceAdjustValue,
    priceAdjustInterval, profitOffset, autoReset, initialPosition, initialFillQuantity }

/-- The parameters of a strategy, and the monetary value. -/
def call (strategy : Strategy) : Call (List Field × Field) := do
  let values ← strategy.parameters.mapM fun parameter => Call.need parameter.1
  let value ← if strategy.takesValue then Call.getD "monetary_value" Field.empty else pure .empty
  return (values, value)

/-- Why parameters are not filled in. -/
inductive FillError where
  | badCall
  | noList

def FillError.message : FillError → String
  | .badCall => "bad arguments"
  | .noList => "'NoneType' object has no attribute 'append'"

/-- Fills parameters into an order by the name of what they are for. -/
def fillByName (name : String) (arguments : Arguments) (order : Order) :
    Except FillError Order :=
  if name = "fill_scale_params" then
    match scaleCall.result? arguments with
    | some change => .ok { order with scale := change order.scale }
    | none => .error .badCall
  else
    match (all.lookup name).bind fun s => (s.call.result? arguments).map (s, ·) with
    | none => .error .badCall
    | some (strategy, values, monetaryValue) =>
      match strategy.fill? values monetaryValue order with
      | some filled => .ok filled
      | none => .error .noList

end Strategy

end TradeWire
