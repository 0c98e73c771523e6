import TradeWire.Instrument.Contract

/-!
# Contract details

What is known about an instrument beyond its description, and the answers to a symbol search.
-/

namespace TradeWire

/-- All that is known about an instrument; the attributes from `cusip` on belong to bonds. -/
structure ContractDetails where
  contract : Contract := {}
  marketName : Label := Label.blank
  minTick : Number := Number.zero
  orderTypes : Label := Label.blank
  validExchanges : Label := Label.blank
  priceMagnifier : Int := 0
  underlyingId : Int := 0
  longName : Label := Label.blank
  contractMonth : Label := Label.blank
  industry : Label := Label.blank
  category : Label := Label.blank
  subcategory : Label := Label.blank
  timeZone : Label := Label.blank
  tradingHours : Label := Label.blank
  liquidHours : Label := Label.blank
  evRule : Label := Label.blank
  evMultiplier : Number := Number.zero
  sizeMultiplier : Int := 0
  aggregateGroup : Int := 0
  underlyingSymbol : Label := Label.blank
  underlyingSecType : Label := Label.blank
  marketRuleIds : Label := Label.blank
  secIdList : Option (List TagValue) := some []
  realExpirationDate : Label := Label.blank
  lastTradeTime : Label := Label.blank
  cusip : Label := Label.blank
  ratings : Label := Label.blank
  description : Label := Label.blank
  bondType : Label := Label.blank
  couponType : Label := Label.blank
  callable : Bool := false
  putable : Bool := false
  coupon : Number := Number.zero
  convertible : Bool := false
  maturity : Label := Label.blank
  issueDate : Label := Label.blank
  nextOptionDate : Label := Label.blank
  nextOptionType : Label := Label.blank
  nextOptionPartial : Bool := false
  notes : Label := Label.blank

instance : Inhabited ContractDetails := ⟨{}⟩

instance : Holder ContractDetails where
  kind := "ContractDetails"
  attributes := [
    .of "contract" (·.contract) fun s v => { s with contract := v },
    .of "market_name" (·.marketName) fun s v => { s with marketName := v },
    .of "min_tick" (·.minTick) fun s v => { s with minTick := v },
    .of "order_types" (·.orderTypes) fun s v => { s with orderTypes := v },
    .of "valid_exchanges" (·.validExchanges) fun s v => { s with validExchanges := v },
    .of "price_magnifier" (·.priceMagnifier) fun s v => { s with priceMagnifier := v },
    .of "under_con_id" (·.underlyingId) fun s v => { s with underlyingId := v },
    .of "long_name" (·.longName) fun s v => { s with longName := v },
    .of "contract_month" (·.contractMonth) fun s v => { s with contractMonth := v },
    .of "industry" (·.industry) fun s v => { s with industry := v },
    .of "category" (·.category) fun s v => { s with category := v },
    .of "subcategory" (·.subcategory) fun s v => { s with subcategory := v },
    .of "time_zone_id" (·.timeZone) fun s v => { s with timeZone := v },
    .of "trading_hours" (·.tradingHours) fun s v => { s with tradingHours := v },
    .of "liquid_hours" (·.liquidHours) fun s v => { s with liquidHours := v },
    .of "ev_rule" (·.evRule) fun s v => { s with evRule := v },
    .of "ev_multiplier" (·.evMultiplier) fun s v => { s with evMultiplier := v },
    .of "md_size_multiplier" (·.sizeMultiplier) fun s v => { s with sizeMultiplier := v },
    .of "agg_group" (·.aggregateGroup) fun s v => { s with aggregateGroup := v },
    .of "under_symbol" (·.underlyingSymbol) fun s v => { s with underlyingSymbol := v },
    .of "under_sec_type" (·.underlyingSecType) fun s v => { s with underlyingSecType := v },
    .of "market_rule_ids" (·.marketRuleIds) fun s v => { s with marketRuleIds := v },
    .of "sec_id_list" (·.secIdList) fun s v => { s with secIdList := v },
    .of "real_expiration_date" (·.realExpirationDate) fun s v => { s with realExpirationDate := v },
    .of "last_trade_time" (·.lastTradeTime) fun s v => { s with lastTradeTime := v },
    .of "cusip" (·.cusip) fun s v => { s with cusip := v },
    .of "ratings" (·.ratings) fun s v => { s with ratings := v },
    .of "desc_append" (·.description) fun s v => { s with description := v },
    .of "bond_type" (·.bondType) fun s v => { s with bondType := v },
    .of "coupon_type" (·.couponType) fun s v => { s with couponType := v },
    .of "callable" (·.callable) fun s v => { s with callable := v },
    .of "putable" (·.putable) fun s v => { s with putable := v },
    .of "coupon" (·.coupon) fun s v => { s with coupon := v },
    .of "convertible" (·.convertible) fun s v => { s with convertible := v },
    .of "maturity" (·.maturity) fun s v => { s with maturity := v },
    .of "issue_date" (·.issueDate) fun s v => { s with issueDate := v },
    .of "next_option_date" (·.nextOptionDate) fun s v => { s with nextOptionDate := v },
    .of "next_option_type" (·.nextOptionType) fun s v => { s with nextOptionType := v },
    .of "next_option_partial" (·.nextOptionPartial) fun s v => { s with nextOptionPartial := v },
    .of "notes" (·.notes) fun s v => { s with notes := v }]

/-- An instrument found by a symbol search, with the kinds of its derivatives. -/
structure ContractDescription where
  contract : Contract := {}
  derivativeSecTypes : Option (List String) := some []

instance : Inhabited ContractDescription := ⟨{}⟩

instance : Holder ContractDescription where
  kind := "ContractDescription"
  attributes := [
    .of "contract" (·.contract) fun s v => { s with contract := v },
    .of "derivative_sec_types" (·.derivativeSecTypes) fun s v => { s with derivativeSecTypes := v }]

end TradeWire
