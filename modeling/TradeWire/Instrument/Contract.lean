import TradeWire.Record.TagValue

/-!
# Contracts

The description of a tradeable instrument. An empty text or a zero means "not specified". A
combination lists its legs, and an instrument that is hedged by an underlying names it.
-/

namespace TradeWire

/-- One leg of a combination. -/
structure ComboLeg where
  contractId : Int := 0
  ratio : Int := 0
  action : Label := Label.blank
  exchange : Label := Label.blank
  openClose : Int := 0
  shortSaleSlot : Int := 0
  designatedLocation : Label := Label.blank
  exemptCode : Int := -1

instance : Inhabited ComboLeg := ⟨{}⟩

instance : Holder ComboLeg where
  kind := "ComboLeg"
  attributes := [
    .of "con_id" (·.contractId) fun s v => { s with contractId := v },
    .of "ratio" (·.ratio) fun s v => { s with ratio := v },
    .of "action" (·.action) fun s v => { s with action := v },
    .of "exchange" (·.exchange) fun s v => { s with exchange := v },
    .of "open_close" (·.openClose) fun s v => { s with openClose := v },
    .of "short_sale_slot" (·.shortSaleSlot) fun s v => { s with shortSaleSlot := v },
    .of "designated_location" (·.designatedLocation) fun s v => { s with designatedLocation := v },
    .of "exempt_code" (·.exemptCode) fun s v => { s with exemptCode := v }]

/-- The underlying that neutralises the delta of an instrument. -/
structure DeltaNeutralContract where
  contractId : Int := 0
  delta : Number := Number.zero
  price : Number := Number.zero

instance : Inhabited DeltaNeutralContract := ⟨{}⟩

instance : Holder DeltaNeutralContract where
  kind := "DeltaNeutralContract"
  attributes := [
    .of "con_id" (·.contractId) fun s v => { s with contractId := v },
    .of "delta" (·.delta) fun s v => { s with delta := v },
    .of "price" (·.price) fun s v => { s with price := v }]

/-- A tradeable instrument. -/
structure Contract where
  contractId : Int := 0
  symbol : Label := Label.blank
  secType : Label := Label.blank
  lastTradeDate : Label := Label.blank
  strike : Number := Number.zero
  right : Label := Label.blank
  multiplier : Label := Label.blank
  exchange : Label := Label.blank
  primaryExchange : Label := Label.blank
  currency : Label := Label.blank
  localSymbol : Label := Label.blank
  tradingClass : Label := Label.blank
  includeExpired : Bool := false
  secIdType : Label := Label.blank
  secId : Label := Label.blank
  comboDescription : Label := Label.blank
  comboLegs : Option (List ComboLeg) := some []
  deltaNeutral : Option DeltaNeutralContract := none

instance : Inhabited Contract := ⟨{}⟩

instance : Holder Contract where
  kind := "Contract"
  attributes := [
    .of "con_id" (·.contractId) fun s v => { s with contractId := v },
    .of "symbol" (·.symbol) fun s v => { s with symbol := v },
    .of "sec_type" (·.secType) fun s v => { s with secType := v },
    .of "last_trade_date_or_contract_month" (·.lastTradeDate)
      fun s v => { s with lastTradeDate := v },
    .of "strike" (·.strike) fun s v => { s with strike := v },
    .of "right" (·.right) fun s v => { s with right := v },
    .of "multiplier" (·.multiplier) fun s v => { s with multiplier := v },
    .of "exchange" (·.exchange) fun s v => { s with exchange := v },
    .of "primary_exchange" (·.primaryExchange) fun s v => { s with primaryExchange := v },
    .of "currency" (·.currency) fun s v => { s with currency := v },
    .of "local_symbol" (·.localSymbol) fun s v => { s with localSymbol := v },
    .of "trading_class" (·.tradingClass) fun s v => { s with tradingClass := v },
    .of "include_expired" (·.includeExpired) fun s v => { s with includeExpired := v },
    .of "sec_id_type" (·.secIdType) fun s v => { s with secIdType := v },
    .of "sec_id" (·.secId) fun s v => { s with secId := v },
    .of "combo_legs_descrip" (·.comboDescription) fun s v => { s with comboDescription := v },
    .of "combo_legs" (·.comboLegs) fun s v => { s with comboLegs := v },
    .of "delta_neutral_contract" (·.deltaNeutral) fun s v => { s with deltaNeutral := v }]

namespace Contract

/-- A combination of several instruments. -/
def isCombo (c : Contract) : Bool := c.secType == some "BAG"

/-- The legs of a combination. -/
def legs (c : Contract) : List ComboLeg := c.comboLegs.getD []

/-- The main attributes, separated by commas. -/
def summary (c : Contract) : String :=
  ",".intercalate <| List.map Field.display [
    .int c.contractId, c.symbol.field, c.secType.field, c.lastTradeDate.field, c.strike.field,
    c.right.field, c.multiplier.field, c.exchange.field, c.primaryExchange.field, c.currency.field,
    c.localSymbol.field, c.tradingClass.field]

end Contract

end TradeWire
