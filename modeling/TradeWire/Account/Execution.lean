import TradeWire.Record.Holder

/-!
# Executions

Fills, and the criteria by which they are asked for.
-/

namespace TradeWire

/-- One fill of an order. -/
structure Execution where
  executionId : Label := Label.blank
  time : Label := Label.blank
  account : Label := Label.blank
  exchange : Label := Label.blank
  side : Label := Label.blank
  shares : Number := Number.zero
  price : Number := Number.zero
  permanentId : Int := 0
  clientId : Int := 0
  orderId : Int := 0
  liquidation : Int := 0
  cumulativeQuantity : Number := Number.zero
  averagePrice : Number := Number.zero
  orderReference : Label := Label.blank
  evRule : Label := Label.blank
  evMultiplier : Number := Number.zero
  modelCode : Label := Label.blank
  lastLiquidity : Int := 0

instance : Inhabited Execution := ⟨{}⟩

instance : Holder Execution where
  kind := "Execution"
  attributes := [
    .of "exec_id" (·.executionId) fun s v => { s with executionId := v },
    .of "time" (·.time) fun s v => { s with time := v },
    .of "acct_number" (·.account) fun s v => { s with account := v },
    .of "exchange" (·.exchange) fun s v => { s with exchange := v },
    .of "side" (·.side) fun s v => { s with side := v },
    .of "shares" (·.shares) fun s v => { s with shares := v },
    .of "price" (·.price) fun s v => { s with price := v },
    .of "perm_id" (·.permanentId) fun s v => { s with permanentId := v },
    .of "client_id" (·.clientId) fun s v => { s with clientId := v },
    .of "order_id" (·.orderId) fun s v => { s with orderId := v },
    .of "liquidation" (·.liquidation) fun s v => { s with liquidation := v },
    .of "cum_qty" (·.cumulativeQuantity) fun s v => { s with cumulativeQuantity := v },
    .of "avg_price" (·.averagePrice) fun s v => { s with averagePrice := v },
    .of "order_ref" (·.orderReference) fun s v => { s with orderReference := v },
    .of "ev_rule" (·.evRule) fun s v => { s with evRule := v },
    .of "ev_multiplier" (·.evMultiplier) fun s v => { s with evMultiplier := v },
    .of "model_code" (·.modelCode) fun s v => { s with modelCode := v },
    .of "last_liquidity" (·.lastLiquidity) fun s v => { s with lastLiquidity := v }]

/-- Criteria for fills; empty and zero attributes match every fill. -/
structure ExecutionFilter where
  clientId : Int := 0
  account : Label := Label.blank
  time : Label := Label.blank
  symbol : Label := Label.blank
  secType : Label := Label.blank
  exchange : Label := Label.blank
  side : Label := Label.blank

instance : Inhabited ExecutionFilter := ⟨{}⟩

instance : Holder ExecutionFilter where
  kind := "ExecutionFilter"
  attributes := [
    .of "client_id" (·.clientId) fun s v => { s with clientId := v },
    .of "acct_code" (·.account) fun s v => { s with account := v },
    .of "time" (·.time) fun s v => { s with time := v },
    .of "symbol" (·.symbol) fun s v => { s with symbol := v },
    .of "sec_type" (·.secType) fun s v => { s with secType := v },
    .of "exchange" (·.exchange) fun s v => { s with exchange := v },
    .of "side" (·.side) fun s v => { s with side := v }]

end TradeWire
